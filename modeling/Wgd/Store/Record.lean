import Wgd.Config.Fingerprint
import Wgd.Helper.Inputs

/-! What the daemon keeps on disk for each connection (`privileged/connection_store.rs`):
its record, and a marker while it is up. -/

set_option autoImplicit false

namespace Wgd.Store

open Wgd.Net Wgd.Links Wgd.Config Wgd.Helper

inductive ConnectionStartMode where
  | manual
  | automatic
  deriving DecidableEq, Repr

/-- Why a connect was asked for. -/
inductive ConnectReason where
  | user
  | reconciliation
  deriving DecidableEq, Repr

/-- Why a disconnect was asked for. -/
inductive DisconnectReason where
  | user
  | sessionTeardown
  deriving DecidableEq, Repr

structure StoredConnection where
  id : ConnectionId
  fingerprint : String
  global : Bool
  ownerUid : Option Nat
  startMode : ConnectionStartMode
  name : Option String
  config : ConnectionConfig
  rawConf : String
  interface : String
  createdAt : Nat
  updatedAt : Nat
  /-- The user disconnected this connection and has not asked for it since. -/
  userDisconnected : Bool
  sourcePath : Option String
  mtuOverride : Option UInt16
  dnsDynamicStore : Bool
  bypassLinks : List BypassLink
  deriving DecidableEq

namespace StoredConnection

/-- AllowedIPs of all peers. -/
def allowedIps (stored : StoredConnection) : List IpNet := stored.config.peers.flatMap ConnectionPeer.allowedIps

def bypassLinkReport (stored : StoredConnection) : LinkReport := validateLinks stored.bypassLinks stored.allowedIps

end StoredConnection

/-- The control socket a helper listens on, as `stat` sees it. -/
structure SocketMetadata where
  device : Nat
  inode : Nat
  changedSec : Int
  changedNsec : Int
  deriving DecidableEq, Repr

/-- The marker of a connection that is up. -/
structure ActiveConnectionState where
  fingerprint : String
  interface : String
  socket : String
  device : Nat
  inode : Nat
  changedSec : Int
  changedNsec : Int
  connectedAt : Nat
  debug : Bool
  deriving DecidableEq, Repr

/-- The hyphenated form of an id. -/
def idText (id : ConnectionId) : String :=
  let digits := id.simple
  String.ofList (List.intercalate ['-']
    [digits.take 8, (digits.drop 8).take 4, (digits.drop 12).take 4, (digits.drop 16).take 4, digits.drop 20])

/-- Id and name, as shown to the user. -/
def label (id : ConnectionId) : Option String → String
  | some name => s!"{idText id}::{name}"
  | none => idText id

/-! ### Reading a file back -/

def corrupt (what value : String) : AppError :=
  .wireGuard s!"corrupt stored connection: invalid {what} {value.quote}"

/-- Why a file is no record. -/
inductive Malformed where
  | json (message : String)
  | field (what value : String)
  deriving DecidableEq, Repr

def Malformed.toError : Malformed → AppError
  | .json message => .json message
  | .field what value => corrupt what value

/-- What a record file holds. -/
inductive RecordFile where
  | record (stored : StoredConnection)
  | malformed (reason : Malformed)
  deriving DecidableEq

/-- What a marker file holds. -/
inductive ActiveFile where
  | marker (state : ActiveConnectionState)
  | malformed (message : String)
  deriving DecidableEq, Repr

/-- The id and the interface in the file have to be those of its name. -/
def fromDiskChecked (id : ConnectionId) (stored : StoredConnection) : Except AppError StoredConnection :=
  if stored.id ≠ id then .error (corrupt "id" s!"{idText stored.id} (expected {idText id})")
  else if stored.interface ≠ stored.id.interfaceName then .error (corrupt "interface" stored.interface)
  else .ok stored

def RecordFile.read (id : ConnectionId) : RecordFile → Except AppError StoredConnection
  | .record stored => fromDiskChecked id stored
  | .malformed reason => .error reason.toError

@[simp] theorem fromDiskChecked_ok_iff {id : ConnectionId} {stored read : StoredConnection} :
    fromDiskChecked id stored = .ok read ↔ read = stored ∧ stored.id = id ∧ stored.interface = id.interfaceName := by
  unfold fromDiskChecked
  split
  · simp_all
  · split
    · simp_all
    · simp_all [eq_comm]

theorem RecordFile.read_ok_iff {id : ConnectionId} {file : RecordFile} {stored : StoredConnection} :
    file.read id = .ok stored ↔ file = .record stored ∧ stored.id = id ∧ stored.interface = id.interfaceName := by
  cases file with
  | record disk =>
    simp only [read, fromDiskChecked_ok_iff, record.injEq]
    constructor
    · rintro ⟨rfl, named⟩
      exact ⟨rfl, named⟩
    · rintro ⟨rfl, named⟩
      exact ⟨rfl, named⟩
  | malformed reason => simp [read]

/-- An unreadable record is no authentication failure. -/
theorem RecordFile.read_ne_auth {id : ConnectionId} {file : RecordFile} {message : String} :
    file.read id ≠ .error (.auth message) := by
  cases file with
  | record disk =>
    simp only [read, fromDiskChecked, corrupt]
    split
    · simp
    · split <;> simp
  | malformed reason => cases reason <;> simp [read, Malformed.toError, corrupt]

end Wgd.Store
