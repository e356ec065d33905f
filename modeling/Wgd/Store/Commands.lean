import Wgd.Interaction.Rules
import Wgd.Store.Record

/-! The daemon's calls for its connections, and the accessors of the store over them. -/

set_option autoImplicit false

namespace Wgd.Store

open Wgd.Interaction Wgd.Links Wgd.Config Wgd.Helper

/-- How long a connection's lock is waited for. -/
inductive LockWait where
  | bounded
  | patient
  deriving DecidableEq, Repr

/-- An atomic write: the new file is in place before its directory is synced. -/
inductive WriteOutcome where
  | written
  | failed (error : IoError)
  | unsynced (error : IoError)
  deriving DecidableEq, Repr

/-- One file of the listing; it has no id where its name is none. -/
structure ListedEntry where
  id : Option ConnectionId
  path : String
  contents : Except IoError RecordFile

/-- What a helper is started with. -/
structure HelperSpec where
  connectionId : ConnectionId
  interface : String
  configContent : String
  dnsDynamicStore : Bool
  bypassLinks : List BypassLink
  debug : Bool
  deriving DecidableEq

/-- How running a command ended: its exit status, and whether that is success. -/
structure ExitStatus where
  success : Bool
  text : String
  deriving DecidableEq, Repr

/-- A custody record as `wgd status` shows it. -/
structure DnsCustodyEntry where
  id : Option ConnectionId
  interface : String
  name : Option String
  services : List String
  deriving DecidableEq, Repr

structure DnsRestoreEvent where
  entry : DnsCustodyEntry
  time : Nat
  deriving DecidableEq, Repr

structure DnsCustodyStatus where
  pending : List DnsCustodyEntry
  deferred : List DnsCustodyEntry
  lastRestore : Option DnsRestoreEvent
  deriving DecidableEq, Repr

inductive StoreOp where
  -- Locks.
  | lockIndex
  | unlockIndex
  | lockConnection (id : ConnectionId) (wait : LockWait)
  | unlockConnection (id : ConnectionId)
  | lockNetwork
  | unlockNetwork
  -- Records and markers.
  | readRecord (id : ConnectionId)
  | listRecords
  | writeRecord (stored : StoredConnection)
  | removeRecord (id : ConnectionId)
  | readActive (id : ConnectionId)
  | writeActive (id : ConnectionId) (state : ActiveConnectionState)
  | removeActive (id : ConnectionId)
  -- The helpers' runtime files.
  | tryExists (path : String)
  | pathExists (path : String)
  | metadata (path : String)
  | readFile (path : String)
  | removeFile (path : String)
  | removeRegularFile (path : String)
  | waitForCleanupStatus (interface : String) (seconds : Nat)
  -- Helper processes.
  | selfExecutable
  | rotateHelperLog (interface : String)
  | spawnHelper (spec : HelperSpec)
  | pidIsAlive (pid : Nat)
  | processIdentity (pid : Nat)
  | terminate (pid : Nat)
  | interfaceExists (name : String)
  | helperIsLiveWithoutRecord (interface : String)
  -- DNS.
  | sweepInterface (interface : String)
  | custodyRecordExists (interface : String)
  | ensureDnsCustodyDir
  | createSentinel
  | settle
  | custodyStatus
  -- Everything else.
  | runShell (command : String)
  | verifyExternalForm (form : List UInt8)
  | resolver
  | nowUnix
  | newConnectionId
  | sudoUid
  | wgShow (interface : String)
  | networkOverview (interface : String)
  | leaseTokenIsLive (token : String)

@[reducible] def StoreOp.Reply : StoreOp → Type
  | .lockIndex | .lockConnection _ _ | .lockNetwork | .removeRecord _ | .removeActive _ | .removeFile _
  | .rotateHelperLog _ | .ensureDnsCustodyDir => Except IoError Unit
  | .unlockIndex | .unlockConnection _ | .unlockNetwork | .removeRegularFile _ | .sweepInterface _
  | .createSentinel | .settle => Unit
  | .readRecord _ => Except IoError RecordFile
  | .listRecords => Except IoError (List ListedEntry)
  | .writeRecord _ | .writeActive _ _ => WriteOutcome
  | .readActive _ => Except IoError ActiveFile
  | .tryExists _ => Except IoError Bool
  | .pathExists _ | .pidIsAlive _ | .interfaceExists _ | .helperIsLiveWithoutRecord _ | .custodyRecordExists _
  | .leaseTokenIsLive _ => Bool
  | .metadata _ => Except IoError SocketMetadata
  | .readFile _ => Except IoError String
  | .waitForCleanupStatus _ _ => Option String
  | .selfExecutable => Except String Unit
  | .spawnHelper _ | .runShell _ => Except String ExitStatus
  | .processIdentity _ | .terminate _ => Except String Unit
  | .custodyStatus => DnsCustodyStatus
  | .verifyExternalForm _ => Except AppError Unit
  | .resolver => Resolver
  | .nowUnix => Nat
  | .newConnectionId => ConnectionId
  | .sudoUid => Option Nat
  | .wgShow _ => Except AppError String
  | .networkOverview _ => Except AppError (Option String)

abbrev storeCommands : Commands := ⟨StoreOp, StoreOp.Reply⟩

abbrev StoreProgram (A : Type) := Program storeCommands A

def storeCall (op : StoreOp) : StoreProgram op.Reply := @Program.command storeCommands op

/-- A fallible file operation, with the program's error type. -/
def ioResult {A : Type} : Except IoError A → Except AppError A
  | .ok value => .ok value
  | .error error => .error (.io error)

def WriteOutcome.result : WriteOutcome → Except AppError Unit
  | .written => .ok ()
  | .failed error | .unsynced error => .error (.io error)

/-! ### Reading -/

/-- A file that is not there is no record. -/
def load (id : ConnectionId) : StoreProgram (Except AppError (Option StoredConnection)) := do
  match ← storeCall (.readRecord id) with
  | .ok file => return (file.read id).map some
  | .error error =>
    if error.kind = .notFound then return .ok none
    else return .error (.io error)

/-- A listed file as a record. -/
def ListedEntry.read (entry : ListedEntry) : Except AppError StoredConnection :=
  match entry.id with
  | none => .error (corrupt "filename" entry.path)
  | some id =>
    match entry.contents with
    | .error error => .error (.io error)
    | .ok file => file.read id

def readable (entry : ListedEntry) : Option StoredConnection := entry.read.toOption

/-- Best effort: an unreadable record is skipped. -/
def loadAll : StoreProgram (Except AppError (List StoredConnection)) := do
  match ← storeCall .listRecords with
  | .ok entries => return .ok (entries.filterMap readable)
  | .error error => return .error (.io error)

/-- A record that must be readable. -/
def strictEntry (entry : ListedEntry) : Except AppError StoredConnection :=
  match entry.read with
  | .ok stored => .ok stored
  | .error error =>
    .error (.other s!"cannot verify connection-store uniqueness: {entry.path} is unreadable: {error.toText}")

/-- The records of a listing, or the first that is not readable. -/
def strictEntries (entries : List ListedEntry) : Except AppError (List StoredConnection) := entries.mapM strictEntry

def loadAllStrict : StoreProgram (Except AppError (List StoredConnection)) := do
  match ← storeCall .listRecords with
  | .ok entries => return strictEntries entries
  | .error error => return .error (.io error)

/-! ### Searching, under the index lock -/

/-- The first record of the listing with a property; an unreadable one is an error. -/
def findStrict (wanted : StoredConnection → Bool) : StoreProgram (Except AppError (Option StoredConnection)) := do
  let records ← loadAllStrict
  return records.map (List.find? wanted)

def hasIdentity (fingerprint : String) (global : Bool) (ownerUid : Option Nat) (stored : StoredConnection) : Bool :=
  stored.fingerprint = fingerprint && stored.global = global && stored.ownerUid = ownerUid

def findByIdentity (fingerprint : String) (global : Bool) (ownerUid : Option Nat) :
    StoreProgram (Except AppError (Option StoredConnection)) :=
  findStrict (hasIdentity fingerprint global ownerUid)

def hasName (name : String) (global : Bool) (ownerUid : Option Nat) (stored : StoredConnection) : Bool :=
  stored.name = some name && stored.global = global && stored.ownerUid = ownerUid

def findByName (name : String) (global : Bool) (ownerUid : Option Nat) :
    StoreProgram (Except AppError (Option StoredConnection)) :=
  findStrict (hasName name global ownerUid)

/-- The listing here is the best-effort one. -/
def findByInterface (interface : String) : StoreProgram (Except AppError (Option StoredConnection)) := do
  let records ← loadAll
  return records.map (List.find? fun stored => stored.interface = interface)

def allocateAttempts : Nat := 8

def allocateFrom : Nat → StoreProgram (Except AppError (ConnectionId × String))
  | 0 => .done (.error (.other "failed to allocate a unique connection interface name"))
  | attempts + 1 => do
    let id ← storeCall .newConnectionId
    let interface := id.interfaceName
    let used ← findStrict fun stored => stored.interface = interface
    match used with
    | .error error => return .error error
    | .ok none => return .ok (id, interface)
    | .ok (some _) => allocateFrom attempts

def allocateUniqueInterface : StoreProgram (Except AppError (ConnectionId × String)) := allocateFrom allocateAttempts

/-! ### Writing -/

/-- `create` and `update` both save the whole record. -/
def save (stored : StoredConnection) : StoreProgram (Except AppError Unit) := do
  let outcome ← storeCall (.writeRecord stored)
  return outcome.result

def remove (id : ConnectionId) : StoreProgram (Except AppError Unit) := do
  let outcome ← storeCall (.removeRecord id)
  return ioResult outcome

/-! ### Markers -/

def loadActive (id : ConnectionId) : StoreProgram (Except AppError (Option ActiveConnectionState)) := do
  match ← storeCall (.readActive id) with
  | .ok (.marker state) => return .ok (some state)
  | .ok (.malformed message) => return .error (.json message)
  | .error error =>
    if error.kind = .notFound then return .ok none
    else return .error (.io error)

def saveActive (id : ConnectionId) (state : ActiveConnectionState) : StoreProgram (Except AppError Unit) := do
  let outcome ← storeCall (.writeActive id state)
  return outcome.result

def clearActive (id : ConnectionId) : StoreProgram (Except AppError Unit) := do
  let outcome ← storeCall (.removeActive id)
  return ioResult outcome

/-- The debug flag of the running helper, if the connection is really up: its
marker is there and the socket the marker names exists. -/
def activeDebug (id : ConnectionId) : StoreProgram (Except AppError (Option Bool)) := do
  match ← loadActive id with
  | .error error => return .error error
  | .ok none => return .ok none
  | .ok (some active) =>
    match ← storeCall (.tryExists active.socket) with
    | .ok true => return .ok (some active.debug)
    | .ok false | .error _ => return .ok none

def isActive (id : ConnectionId) : StoreProgram (Except AppError Bool) := do
  let debug ← activeDebug id
  return debug.map Option.isSome

end Wgd.Store
