import Wgd.Daemon.Serve
import Wgd.Store.Tunnel

/-! The request handlers (`privileged/dispatch.rs`). -/

set_option autoImplicit false

namespace Wgd.Store

open Wgd.Interaction Wgd.Net Wgd.Links Wgd.Config Wgd.Helper Wgd.Daemon

/-- Who the caller is. Reaching the stdio daemon is itself proof of being root. -/
inductive PeerOrigin where
  | socket (uid : Nat)
  | stdio
  deriving DecidableEq, Repr

namespace PeerOrigin

def uid : PeerOrigin → Nat
  | .socket uid => uid
  | .stdio => 0

def isRoot (origin : PeerOrigin) : Bool := origin.uid = 0

/-- In whose name a connection of this caller's own is kept. -/
def attributedOwnerUid : PeerOrigin → StoreProgram Nat
  | .socket uid => .done uid
  | .stdio => do
    let uid ← storeCall .sudoUid
    return uid.getD 0

end PeerOrigin

inductive ConnectionScope where
  | mine
  | global
  | all
  deriving DecidableEq, Repr

structure AddRequest where
  confText : String
  global : Bool
  startMode : ConnectionStartMode
  name : Option String
  mtuOverride : Option UInt16
  force : Bool
  sourcePath : Option String
  authExternalForm : Option (List UInt8)

inductive PrivilegedRequest where
  | leaseAcquire (token : String)
  | leaseRelease (token : String)
  | shutdownIfIdle
  | interfaceActive (interface : String)
  | wgShow (interface : String)
  | networkOverview (interface : String)
  | addConnection (request : AddRequest)
  | refreshConnection (id : ConnectionId) (confText : String) (sourcePath : Option String)
      (authExternalForm : Option (List UInt8))
  | removeConnection (id : ConnectionId) (authExternalForm : Option (List UInt8))
  | connectConnection (id : ConnectionId) (debug : Bool) (reason : ConnectReason)
  | disconnectConnection (id : ConnectionId) (reason : DisconnectReason)
  | reconnectConnection (id : ConnectionId)
  | setConnectionMode (id : ConnectionId) (startMode : ConnectionStartMode) (authExternalForm : Option (List UInt8))
  | setConnectionDnsDynamicStore (id : ConnectionId) (enabled : Bool)
  | setConnectionBypassLinks (id : ConnectionId) (links : List BypassLink)
  | listConnections (scope : ConnectionScope)
  | getConnection (id : ConnectionId)
  | listDnsCustody

/-- The authorization form that comes with a request. -/
def PrivilegedRequest.authExternalForm : PrivilegedRequest → Option (List UInt8)
  | .addConnection request => request.authExternalForm
  | .refreshConnection _ _ _ form | .removeConnection _ form | .setConnectionMode _ _ form => form
  | _ => none

inductive ErrorCode where
  | auth
  | authRequired
  | busy
  | control
  | duplicate
  | invalidLink
  | kernel
  | nameInUse
  | notFound
  | other
  | wireGuard
  deriving DecidableEq, Repr

structure PeerSummary where
  publicKey : String
  allowedIps : List String
  endpoint : Option String
  hasPresharedKey : Bool
  deriving DecidableEq, Repr

structure ConnectionSummary where
  id : ConnectionId
  global : Bool
  ownerUid : Option Nat
  startMode : ConnectionStartMode
  name : Option String
  interface : String
  connected : Bool
  userDisconnected : Bool
  addresses : List String
  dnsServers : List String
  mtu : Option UInt16
  peers : List PeerSummary
  fingerprint : Option String
  sourcePath : Option String
  dnsDynamicStore : Bool
  bypassLinks : List (BypassLink × Option String)
  createdAt : Nat
  updatedAt : Nat
  deriving DecidableEq

structure RefreshOutcome where
  changed : Bool
  reconnected : Bool
  linksRemoved : List String
  deriving DecidableEq, Repr

inductive PrivilegedResponse where
  | unit
  | bool (value : Bool)
  | wgDevice (device : String)
  | networkOverview (overview : Option String)
  | error (code : ErrorCode) (message : String)
  | connectionId (id : ConnectionId)
  | connection (summary : ConnectionSummary)
  | connectionList (summaries : List ConnectionSummary)
  | dnsCustody (status : DnsCustodyStatus)
  | refreshed (outcome : RefreshOutcome)
  deriving DecidableEq

/-- A slow request is worked off on a thread of its own. -/
inductive DispatchOutcome where
  | immediate (response : PrivilegedResponse)
  | pending (worker : StoreProgram PrivilegedResponse)

/-! ### Shared helpers -/

def notFound : PrivilegedResponse := .error .notFound "connection not found"

def authDenied (message : String) : PrivilegedResponse := .error .auth message

def authRequired (cause : String) : PrivilegedResponse :=
  .error .authRequired s!"admin authentication required: {cause}"

def busy (message : String) : PrivilegedResponse := .error .busy message

def errorResponse : AppError → PrivilegedResponse
  | .auth message => authDenied message
  | .wireGuard message => .error .wireGuard message
  | error => .error .other error.toText

def lockErrorResponse (error : IoError) : PrivilegedResponse :=
  if error.kind = .wouldBlock then
    busy "another operation on this connection is in progress; retry once it finishes"
  else errorResponse (.io error)

def categorizeError : AppError → ErrorCode
  | .wireGuard _ => .wireGuard
  | _ => .kernel

/-- A global record is root's; a record of a user's own is that user's and root's. -/
def authorizeAccess (record : StoredConnection) (origin : PeerOrigin) : Option PrivilegedResponse :=
  let authorized :=
    if record.global then origin.isRoot else origin.isRoot || some origin.uid = record.ownerUid
  if authorized then none else some (authDenied "not authorized for this connection")

/-- Nothing if the form was accepted, or the answer that refuses the request. -/
def requireAdminAuth (form : Option (List UInt8)) (cause : String) : StoreProgram (Except PrivilegedResponse Unit) :=
  match form with
  | none => .done (.error (authRequired cause))
  | some bytes => do
    match ← storeCall (.verifyExternalForm bytes) with
    | .ok () => return .ok ()
    | .error (.auth message) => return .error (authDenied message)
    | .error other => return .error (authDenied other.toText)

/-- Go on with the value, or answer with the error. -/
def orRespond {A : Type} (p : StoreProgram (Except AppError A)) (rest : A → StoreProgram PrivilegedResponse) :
    StoreProgram PrivilegedResponse := do
  match ← p with
  | .ok value => rest value
  | .error error => return errorResponse error

/-- Go on if there is nothing to refuse. -/
def orRefuse (p : StoreProgram (Except PrivilegedResponse Unit)) (rest : StoreProgram PrivilegedResponse) :
    StoreProgram PrivilegedResponse := do
  match ← p with
  | .ok () => rest
  | .error response => return response

def answer (response : PrivilegedResponse) (p : StoreProgram (Except AppError Unit)) : StoreProgram PrivilegedResponse :=
  orRespond p fun () => .done response

def withIndexLock (body : StoreProgram PrivilegedResponse) : StoreProgram PrivilegedResponse := do
  match ← storeCall .lockIndex with
  | .error error => return lockErrorResponse error
  | .ok () =>
    let response ← body
    storeCall .unlockIndex
    return response

def withConnectionLock (id : ConnectionId) (wait : LockWait) (body : StoreProgram PrivilegedResponse) :
    StoreProgram PrivilegedResponse := do
  match ← storeCall (.lockConnection id wait) with
  | .error error => return lockErrorResponse error
  | .ok () =>
    let response ← body
    storeCall (.unlockConnection id)
    return response

/-- The record of this id, if it is there. -/
def withRecord (id : ConnectionId) (body : StoredConnection → StoreProgram PrivilegedResponse) :
    StoreProgram PrivilegedResponse :=
  orRespond (load id) fun
    | some stored => body stored
    | none => .done notFound

/-- The record of this id, if the caller may act on it. -/
def withAuthorized (id : ConnectionId) (origin : PeerOrigin) (body : StoredConnection → StoreProgram PrivilegedResponse) :
    StoreProgram PrivilegedResponse :=
  withRecord id fun stored =>
    match authorizeAccess stored origin with
    | some response => .done response
    | none => body stored

/-! ### Adding -/

def storeCause : String :=
  "storing a new or changed connection configuration that may contain hooks executed as root"

def elevateCause : String :=
  "enabling automatic startup of a global connection and its hooks as root at every boot"

def refreshCause : String :=
  "replacing a stored connection configuration that may contain hooks executed as root"

def removeCause : String :=
  "removing a stored connection configuration from the privileged connection store"

def nameInUse (name : String) (other : ConnectionId) : PrivilegedResponse :=
  .error .nameInUse
    s!"a connection named {name.quote} already exists ({idText other}); remove it first, or resubmit allowing the name to be replaced"

/-- No other record of the same scope and owner has the name. -/
def checkNameFree (name : String) (global : Bool) (ownerUid : Option Nat) (own : Option ConnectionId) :
    StoreProgram (Except PrivilegedResponse Unit) := do
  match ← findByName name global ownerUid with
  | .error error => return .error (errorResponse error)
  | .ok none => return .ok ()
  | .ok (some existing) =>
    if own = some existing.id then return .ok () else return .error (nameInUse name existing.id)

/-- A name is checked unless the caller forces it. -/
def checkName (name : Option String) (force : Bool) (global : Bool) (ownerUid : Option Nat) (own : Option ConnectionId) :
    StoreProgram (Except PrivilegedResponse Unit) :=
  match name with
  | none => .done (.ok ())
  | some name => if force then .done (.ok ()) else checkNameFree name global ownerUid own

/-- A global connection that is to start by itself from now on. -/
def elevates (stored : StoredConnection) (startMode : ConnectionStartMode) : Bool :=
  stored.global && stored.startMode = .manual && startMode = .automatic

def requireElevation (stored : StoredConnection) (startMode : ConnectionStartMode) (form : Option (List UInt8)) :
    StoreProgram (Except PrivilegedResponse Unit) :=
  if elevates stored startMode then requireAdminAuth form elevateCause else .done (.ok ())

/-- The record in a start mode; one that starts by itself is wanted again. -/
def StoredConnection.inMode (stored : StoredConnection) (startMode : ConnectionStartMode) : StoredConnection :=
  { stored with
    startMode := startMode
    userDisconnected := if startMode = .automatic then false else stored.userDisconnected }

/-- What a resubmission changes of a record. -/
structure Resubmission where
  nameChanged : Bool
  modeChanged : Bool
  sourceChanged : Bool

def resubmission (existing : StoredConnection) (request : AddRequest) : Resubmission where
  nameChanged := request.name.isSome && request.name ≠ existing.name
  modeChanged := request.startMode ≠ existing.startMode
  sourceChanged := request.sourcePath.isSome && request.sourcePath ≠ existing.sourcePath

def Resubmission.apply (change : Resubmission) (existing : StoredConnection) (request : AddRequest) : StoredConnection :=
  let existing := if change.nameChanged then { existing with name := request.name } else existing
  let existing := if change.sourceChanged then { existing with sourcePath := request.sourcePath } else existing
  if change.modeChanged then existing.inMode request.startMode else existing

/-- The configuration is already stored; its name, start mode and source may change.
The record written back is the one found before its lock was taken. -/
def reconcileExistingAdd (existing : StoredConnection) (request : AddRequest) : StoreProgram PrivilegedResponse :=
  let change := resubmission existing request
  if !change.nameChanged && !change.modeChanged && !change.sourceChanged then
    .done (.connectionId existing.id)
  else
    let name := if change.nameChanged then request.name else none
    orRefuse (checkName name request.force existing.global existing.ownerUid (some existing.id)) <|
      orRefuse (requireElevation existing request.startMode request.authExternalForm) <|
        withConnectionLock existing.id .bounded do
          let now ← storeCall .nowUnix
          answer (.connectionId existing.id) (save { change.apply existing request with updatedAt := now })

def ownerOf (origin : PeerOrigin) (global : Bool) : StoreProgram (Option Nat) :=
  if global then .done none
  else do
    let uid ← origin.attributedOwnerUid
    return some uid

def overriddenText (confText : String) : Option UInt16 → String
  | some mtu => applyMtuOverrideToConfText confText mtu
  | none => confText

/-- A configuration that is stored under a fresh id. -/
def createConnection (request : AddRequest) (ownerUid : Option Nat) (confText : String) (parsed : ConnectionConfig)
    (fingerprint : String) : StoreProgram PrivilegedResponse :=
  orRefuse (checkName request.name request.force request.global ownerUid none) <|
    orRefuse (requireAdminAuth request.authExternalForm storeCause) <|
      orRespond allocateUniqueInterface fun (id, interface) => do
        let now ← storeCall .nowUnix
        answer (.connectionId id) (save {
          id := id, fingerprint := fingerprint, global := request.global, ownerUid := ownerUid,
          startMode := request.startMode, name := request.name, config := parsed, rawConf := confText,
          interface := interface, createdAt := now, updatedAt := now, userDisconnected := false,
          sourcePath := request.sourcePath, mtuOverride := request.mtuOverride, dnsDynamicStore := false,
          bypassLinks := [] })

/-- Under the index lock. -/
def addParsed (request : AddRequest) (ownerUid : Option Nat) (confText : String) (parsed : ConnectionConfig)
    (fingerprint : String) : StoreProgram PrivilegedResponse :=
  orRespond (findByIdentity fingerprint request.global ownerUid) fun
    | some existing => reconcileExistingAdd existing request
    | none => createConnection request ownerUid confText parsed fingerprint

def handleAddConnection (crates : Crates) (origin : PeerOrigin) (request : AddRequest) : StoreProgram PrivilegedResponse :=
  if request.global && !origin.isRoot then .done (authDenied "adding a global connection requires root")
  else do
    let ownerUid ← ownerOf origin request.global
    let confText := overriddenText request.confText request.mtuOverride
    let resolver ← storeCall .resolver
    match parseConnectionConfig crates resolver confText with
    | .error error => return errorResponse error
    | .ok parsed => withIndexLock (addParsed request ownerUid confText parsed (fingerprint crates parsed))

/-! ### Refreshing -/

def duplicate (other : StoredConnection) : PrivilegedResponse :=
  .error .duplicate
    s!"the refreshed configuration is identical to existing connection {label other.id other.name}; refusing to create a duplicate"

/-- No other record has this identity. -/
def checkIdentityFree (stored : StoredConnection) (fingerprint : String) : StoreProgram (Except PrivilegedResponse Unit) := do
  match ← findByIdentity fingerprint stored.global stored.ownerUid with
  | .error error => return .error (errorResponse error)
  | .ok none => return .ok ()
  | .ok (some other) => if other.id = stored.id then return .ok () else return .error (duplicate other)

def unchangedOutcome : RefreshOutcome := ⟨false, false, []⟩

/-- The configuration is the stored one; at most its source path is new. -/
def refreshUnchanged (stored : StoredConnection) (sourcePath : Option String) : StoreProgram PrivilegedResponse := do
  storeCall .unlockIndex
  if sourcePath.isSome && sourcePath ≠ stored.sourcePath then
    let now ← storeCall .nowUnix
    answer (.refreshed unchangedOutcome) (save { stored with sourcePath := sourcePath, updatedAt := now })
  else return .refreshed unchangedOutcome

/-- A helper that is up goes down before its configuration is replaced. -/
def disconnectForRefresh (crates : Crates) (id : ConnectionId) (active : Option Bool) :
    StoreProgram (Except PrivilegedResponse Unit) :=
  match active with
  | none => .done (.ok ())
  | some _ => do
    match ← disconnect crates id with
    | .ok () => return .ok ()
    | .error error =>
      return .error (.error .other
        s!"could not disconnect before refreshing; the stored configuration is unchanged: {error.toText}")

/-- The record with its configuration replaced, and the links it no longer supports. -/
def StoredConnection.refreshed (stored : StoredConnection) (fingerprint : String) (parsed : ConnectionConfig)
    (confText : String) (sourcePath : Option String) : StoredConnection × List String :=
  let stored := { stored with
    fingerprint := fingerprint
    config := parsed
    rawConf := confText
    sourcePath := sourcePath.or stored.sourcePath }
  let pruned := pruneLinks stored.bypassLinks stored.allowedIps
  ({ stored with bypassLinks := pruned.links }, pruned.removed.map Removed.toText)

def linksDropped (linksRemoved : List String) : String :=
  let dropped := "; ".intercalate linksRemoved
  if linksRemoved.isEmpty then "" else s!" (links dropped: {dropped})"

/-- With the index lock released, what was up comes back up. -/
def reconnectAfterRefresh (crates : Crates) (id : ConnectionId) (active : Option Bool) (linksRemoved : List String) :
    StoreProgram PrivilegedResponse :=
  match active with
  | none => .done (.refreshed ⟨true, false, linksRemoved⟩)
  | some debug => do
    match ← connect crates id debug with
    | .ok () => return .refreshed ⟨true, true, linksRemoved⟩
    | .error error =>
      return .error .other
        s!"the connection record was updated{linksDropped linksRemoved}, but reconnecting failed (the connection is down): {error.toText}"

/-- A new configuration replaces the stored one. -/
def replaceConfiguration (crates : Crates) (stored : StoredConnection) (fingerprint : String) (parsed : ConnectionConfig)
    (confText : String) (sourcePath : Option String) (form : Option (List UInt8)) : StoreProgram PrivilegedResponse :=
  orRefuse (checkIdentityFree stored fingerprint) <|
    orRefuse (requireAdminAuth form refreshCause) <|
      orRespond (activeDebug stored.id) fun active =>
        -- With the old record still on disk: its hooks run.
        orRefuse (disconnectForRefresh crates stored.id active) do
          let replaced := stored.refreshed fingerprint parsed confText sourcePath
          let now ← storeCall .nowUnix
          orRespond (save { replaced.1 with updatedAt := now }) fun () => do
            storeCall .unlockIndex
            reconnectAfterRefresh crates stored.id active replaced.2

/-- Under the index lock and the connection's lock. -/
def refreshLocked (crates : Crates) (id : ConnectionId) (confText : String) (sourcePath : Option String)
    (form : Option (List UInt8)) : StoreProgram PrivilegedResponse :=
  withRecord id fun stored => do
    let confText := overriddenText confText stored.mtuOverride
    let resolver ← storeCall .resolver
    match parseConnectionConfig crates resolver confText with
    | .error error => return errorResponse error
    | .ok parsed =>
      if fingerprint crates parsed = stored.fingerprint then refreshUnchanged stored sourcePath
      else replaceConfiguration crates stored (fingerprint crates parsed) parsed confText sourcePath form

/-- Releasing the index lock once more than it was taken has no effect. -/
def refreshConnection (crates : Crates) (id : ConnectionId) (confText : String) (sourcePath : Option String)
    (form : Option (List UInt8)) : StoreProgram PrivilegedResponse :=
  withIndexLock (withConnectionLock id .bounded (refreshLocked crates id confText sourcePath form))

/-! ### The other handlers -/

/-- Under the index lock and the connection's lock. -/
def removeLocked (id : ConnectionId) (form : Option (List UInt8)) : StoreProgram PrivilegedResponse :=
  orRespond (isActive id) fun active =>
    if active then .done (busy "connection is active; disconnect it before removing")
    else orRefuse (requireAdminAuth form removeCause) (answer .unit (remove id))

def handleRemoveConnection (origin : PeerOrigin) (id : ConnectionId) (form : Option (List UInt8)) :
    StoreProgram PrivilegedResponse :=
  withIndexLock <|
    withAuthorized id origin fun _ =>
      withConnectionLock id .bounded (removeLocked id form)

/-- Whether the connect may proceed, read afresh under the lock. -/
def resolveConnectIntent (id : ConnectionId) (reason : ConnectReason) : StoreProgram (Except AppError Bool) :=
  Program.attempt (load id) fun
    | none => .done (.ok true)
    | some stored =>
      match reason with
      | .user =>
        if stored.userDisconnected then
          Program.attempt (save { stored with userDisconnected := false }) fun () => .done (.ok true)
        else .done (.ok true)
      | .reconciliation => .done (.ok (!stored.userDisconnected))

/-- The worker of a connect, under the connection's lock. -/
def connectLocked (crates : Crates) (id : ConnectionId) (debug : Bool) (reason : ConnectReason) :
    StoreProgram PrivilegedResponse :=
  orRespond (resolveConnectIntent id reason) fun
    | true => answer .unit (connect crates id debug)
    | false => .done .unit

/-- The user's wish is recorded before the tunnel is torn down. -/
def markUserDisconnected (id : ConnectionId) (reason : DisconnectReason) : StoreProgram (Except AppError Unit) :=
  match reason with
  | .sessionTeardown => .done (.ok ())
  | .user =>
    Program.attempt (load id) fun
      | none => .done (.ok ())
      | some stored =>
        if stored.userDisconnected then .done (.ok ()) else save { stored with userDisconnected := true }

def disconnectLocked (crates : Crates) (id : ConnectionId) (reason : DisconnectReason) : StoreProgram PrivilegedResponse :=
  orRespond (markUserDisconnected id reason) fun () => answer .unit (disconnect crates id)

def disconnectForReconnect (crates : Crates) (id : ConnectionId) : StoreProgram (Except PrivilegedResponse Unit) := do
  match ← disconnect crates id with
  | .ok () => return .ok ()
  | .error error =>
    return .error (.error .other
      s!"could not disconnect before reconnecting; the connection may still be up: {error.toText}")

def connectAfterDisconnect (crates : Crates) (id : ConnectionId) (debug : Bool) : StoreProgram PrivilegedResponse := do
  match ← connect crates id debug with
  | .ok () => return .bool true
  | .error error =>
    return .error .other s!"disconnected, but connecting again failed (the connection is down): {error.toText}"

def reconnectConnection (crates : Crates) (id : ConnectionId) : StoreProgram PrivilegedResponse :=
  orRespond (activeDebug id) fun
    | none => .done (.bool false)
    | some debug => orRefuse (disconnectForReconnect crates id) (connectAfterDisconnect crates id debug)

/-- The caller is checked at once; the work is done on a worker thread. -/
def onWorker (id : ConnectionId) (origin : PeerOrigin) (worker : StoreProgram PrivilegedResponse) :
    StoreProgram DispatchOutcome := do
  match ← load id with
  | .error error => return .immediate (errorResponse error)
  | .ok none => return .immediate notFound
  | .ok (some stored) =>
    match authorizeAccess stored origin with
    | some response => return .immediate response
    | none => return .pending worker

def handleRefreshConnection (crates : Crates) (origin : PeerOrigin) (id : ConnectionId) (confText : String)
    (sourcePath : Option String) (form : Option (List UInt8)) : StoreProgram DispatchOutcome :=
  onWorker id origin (refreshConnection crates id confText sourcePath form)

def handleConnectConnection (crates : Crates) (origin : PeerOrigin) (id : ConnectionId) (debug : Bool)
    (reason : ConnectReason) : StoreProgram DispatchOutcome :=
  onWorker id origin (withConnectionLock id .patient (connectLocked crates id debug reason))

def handleDisconnectConnection (crates : Crates) (origin : PeerOrigin) (id : ConnectionId) (reason : DisconnectReason) :
    StoreProgram DispatchOutcome :=
  onWorker id origin (withConnectionLock id .patient (disconnectLocked crates id reason))

def handleReconnectConnection (crates : Crates) (origin : PeerOrigin) (id : ConnectionId) : StoreProgram DispatchOutcome :=
  onWorker id origin (withConnectionLock id .patient (reconnectConnection crates id))

/-- A setting of a record is replaced, under its lock. -/
def setStored (stored changed : StoredConnection) : StoreProgram PrivilegedResponse :=
  if changed = stored then .done .unit
  else do
    let now ← storeCall .nowUnix
    answer .unit (save { changed with updatedAt := now })

def setModeLocked (origin : PeerOrigin) (id : ConnectionId) (startMode : ConnectionStartMode)
    (form : Option (List UInt8)) : StoreProgram PrivilegedResponse :=
  withAuthorized id origin fun stored =>
    orRefuse (requireElevation stored startMode form) <|
      if stored.startMode = startMode then .done .unit
      else do
        let now ← storeCall .nowUnix
        answer .unit (save { stored.inMode startMode with updatedAt := now })

def handleSetConnectionMode (origin : PeerOrigin) (id : ConnectionId) (startMode : ConnectionStartMode)
    (form : Option (List UInt8)) : StoreProgram PrivilegedResponse :=
  withConnectionLock id .bounded (setModeLocked origin id startMode form)

def setDnsDynamicStoreLocked (origin : PeerOrigin) (id : ConnectionId) (enabled : Bool) :
    StoreProgram PrivilegedResponse :=
  withAuthorized id origin fun stored => setStored stored { stored with dnsDynamicStore := enabled }

def handleSetConnectionDnsDynamicStore (origin : PeerOrigin) (id : ConnectionId) (enabled : Bool) :
    StoreProgram PrivilegedResponse :=
  withConnectionLock id .bounded (setDnsDynamicStoreLocked origin id enabled)

def setBypassLinksLocked (origin : PeerOrigin) (id : ConnectionId) (links : List BypassLink) :
    StoreProgram PrivilegedResponse :=
  withAuthorized id origin fun stored =>
    match validateLinksStrict links stored.allowedIps with
    | .error error => .done (.error .invalidLink error.toText)
    | .ok links => setStored stored { stored with bypassLinks := links }

def handleSetConnectionBypassLinks (origin : PeerOrigin) (id : ConnectionId) (links : List BypassLink) :
    StoreProgram PrivilegedResponse :=
  withConnectionLock id .bounded (setBypassLinksLocked origin id links)

/-! ### Reading requests -/

def bypassLinkSummaries (stored : StoredConnection) : List (BypassLink × Option String) :=
  (checkLinks stored.bypassLinks stored.allowedIps).map fun (link, verdict) =>
    (link, match verdict with
      | .ok () => none
      | .error error => some error.toText)

/-- The fingerprint and the source path are for the owner's own view only. -/
def summarize (crates : Crates) (stored : StoredConnection) (connected includeFingerprint : Bool) : ConnectionSummary where
  id := stored.id
  global := stored.global
  ownerUid := stored.ownerUid
  startMode := stored.startMode
  name := stored.name
  interface := stored.interface
  connected := connected
  userDisconnected := stored.userDisconnected
  addresses := stored.config.addresses.map IpNet.toText
  dnsServers := stored.config.dnsServers.map IpAddr.toText
  mtu := stored.config.mtu
  peers := stored.config.peers.map fun peer =>
    ⟨crates.encodeBase64 peer.publicKey.toList, peer.allowedIps.map IpNet.toText, peer.endpointLiteral,
      peer.presharedKey.isSome⟩
  fingerprint := if includeFingerprint then some stored.fingerprint else none
  sourcePath := if includeFingerprint then stored.sourcePath else none
  dnsDynamicStore := stored.dnsDynamicStore
  bypassLinks := bypassLinkSummaries stored
  createdAt := stored.createdAt
  updatedAt := stored.updatedAt

def isConnected (id : ConnectionId) : StoreProgram Bool := do
  let active ← isActive id
  return active.toOption.getD false

def inScope (origin : PeerOrigin) : ConnectionScope → StoredConnection → Bool
  | .mine, stored => stored.ownerUid = some origin.uid
  | .global, stored => stored.global
  | .all, _ => true

def summarizeAll (crates : Crates) : List StoredConnection → StoreProgram (List ConnectionSummary)
  | [] => .done []
  | stored :: rest => do
    let connected ← isConnected stored.id
    let summaries ← summarizeAll crates rest
    return summarize crates stored connected false :: summaries

def handleListConnections (crates : Crates) (origin : PeerOrigin) (scope : ConnectionScope) :
    StoreProgram PrivilegedResponse :=
  if scope = .all && !origin.isRoot then .done (authDenied "listing all connections requires root")
  else
    orRespond loadAll fun all => do
      let summaries ← summarizeAll crates (all.filter (inScope origin scope))
      return .connectionList summaries

/-- An entry of a removed connection has no owner left: root only. -/
def custodyVisible (origin : PeerOrigin) (entry : DnsCustodyEntry) : StoreProgram Bool :=
  if origin.isRoot then .done true
  else
    match entry.id with
    | none => .done false
    | some id => do
      match ← load id with
      | .ok (some stored) => return stored.global || some origin.uid = stored.ownerUid
      | .ok none | .error _ => return false

def retainVisible (origin : PeerOrigin) : List DnsCustodyEntry → StoreProgram (List DnsCustodyEntry)
  | [] => .done []
  | entry :: rest => do
    let visible ← custodyVisible origin entry
    let kept ← retainVisible origin rest
    return if visible then entry :: kept else kept

def retainRestore (origin : PeerOrigin) : Option DnsRestoreEvent → StoreProgram (Option DnsRestoreEvent)
  | none => .done none
  | some event => do
    let visible ← custodyVisible origin event.entry
    return if visible then some event else none

def handleListDnsCustody (origin : PeerOrigin) : StoreProgram PrivilegedResponse := do
  let status ← storeCall .custodyStatus
  let pending ← retainVisible origin status.pending
  let deferred ← retainVisible origin status.deferred
  let lastRestore ← retainRestore origin status.lastRestore
  return .dnsCustody ⟨pending, deferred, lastRestore⟩

def handleGetConnection (crates : Crates) (origin : PeerOrigin) (id : ConnectionId) : StoreProgram PrivilegedResponse :=
  withAuthorized id origin fun stored => do
    let connected ← isConnected id
    return .connection (summarize crates stored connected true)

/-- The interface of a stored connection is its owner's; any other name is free. -/
def legacyInterfaceAccessDenied (interface : String) (origin : PeerOrigin) : StoreProgram (Option PrivilegedResponse) := do
  match ← findByInterface interface with
  | .ok (some record) => return authorizeAccess record origin
  | .ok none => return none
  | .error error => return some (errorResponse error)

/-- A request that names an interface instead of a connection. -/
def onInterface (interface : String) (origin : PeerOrigin) (body : StoreProgram PrivilegedResponse) :
    StoreProgram PrivilegedResponse := do
  match ← legacyInterfaceAccessDenied interface origin with
  | some response => return response
  | none => body

def handleWgShow (interface : String) (origin : PeerOrigin) : StoreProgram PrivilegedResponse :=
  onInterface interface origin do
    match ← storeCall (.wgShow interface) with
    | .ok device => return .wgDevice device
    | .error error => return .error (categorizeError error) error.toText

def handleNetworkOverview (interface : String) (origin : PeerOrigin) : StoreProgram PrivilegedResponse :=
  onInterface interface origin do
    match ← storeCall (.networkOverview interface) with
    | .ok overview => return .networkOverview overview
    | .error error => return .error (categorizeError error) error.toText

def handleInterfaceActive (interface : String) (origin : PeerOrigin) : StoreProgram PrivilegedResponse :=
  onInterface interface origin do
    let active ← storeCall (.pathExists (socketPath interface))
    return .bool active

/-! ### Dispatch -/

def pruneStoredLeases : List String → StoreProgram (List String)
  | [] => .done []
  | token :: rest => do
    let live ← storeCall (.leaseTokenIsLive token)
    let kept ← pruneStoredLeases rest
    return if live then token :: kept else kept

def leaseAcquire (token : String) (control : ControlState) : StoreProgram (DispatchOutcome × ControlState) := do
  let leases ← pruneStoredLeases control.leases
  return (.immediate .unit, { control with leases := leases.insert token })

def leaseRelease (token : String) (control : ControlState) : StoreProgram (DispatchOutcome × ControlState) := do
  let leases ← pruneStoredLeases (control.leases.erase token)
  return (.immediate .unit, { control with leases := leases })

def shutdownIfIdle (control : ControlState) : StoreProgram (DispatchOutcome × ControlState) :=
  if control.allowShutdown then do
    let leases ← pruneStoredLeases control.leases
    return (.immediate (.bool leases.isEmpty), { control with leases := leases, shutdownRequested := true })
  else .done (.immediate (.error .control "shutdown control is disabled for this daemon instance"), control)

def immediately (control : ControlState) (p : StoreProgram PrivilegedResponse) :
    StoreProgram (DispatchOutcome × ControlState) := do
  let response ← p
  return (.immediate response, control)

def onThread (control : ControlState) (p : StoreProgram DispatchOutcome) : StoreProgram (DispatchOutcome × ControlState) := do
  let outcome ← p
  return (outcome, control)

def dispatch (crates : Crates) (control : ControlState) (origin : PeerOrigin) :
    PrivilegedRequest → StoreProgram (DispatchOutcome × ControlState)
  | .leaseAcquire token => leaseAcquire token control
  | .leaseRelease token => leaseRelease token control
  | .shutdownIfIdle => shutdownIfIdle control
  | .wgShow interface => immediately control (handleWgShow interface origin)
  | .networkOverview interface => immediately control (handleNetworkOverview interface origin)
  | .interfaceActive interface => immediately control (handleInterfaceActive interface origin)
  | .addConnection request => immediately control (handleAddConnection crates origin request)
  | .refreshConnection id confText sourcePath form =>
    onThread control (handleRefreshConnection crates origin id confText sourcePath form)
  | .removeConnection id form => immediately control (handleRemoveConnection origin id form)
  | .connectConnection id debug reason => onThread control (handleConnectConnection crates origin id debug reason)
  | .disconnectConnection id reason => onThread control (handleDisconnectConnection crates origin id reason)
  | .reconnectConnection id => onThread control (handleReconnectConnection crates origin id)
  | .setConnectionMode id startMode form => immediately control (handleSetConnectionMode origin id startMode form)
  | .setConnectionDnsDynamicStore id enabled =>
    immediately control (handleSetConnectionDnsDynamicStore origin id enabled)
  | .setConnectionBypassLinks id links => immediately control (handleSetConnectionBypassLinks origin id links)
  | .listConnections scope => immediately control (handleListConnections crates origin scope)
  | .getConnection id => immediately control (handleGetConnection crates origin id)
  | .listDnsCustody => immediately control (handleListDnsCustody origin)

/-- A worker's answer, or the one given at once. -/
def DispatchOutcome.run : DispatchOutcome → StoreProgram PrivilegedResponse
  | .immediate response => .done response
  | .pending worker => worker

/-- A request from its arrival to its answer, nothing else being handled meanwhile. -/
def serveRequest (crates : Crates) (control : ControlState) (origin : PeerOrigin) (request : PrivilegedRequest) :
    StoreProgram (PrivilegedResponse × ControlState) := do
  let (outcome, control) ← dispatch crates control origin request
  let response ← outcome.run
  return (response, control)

end Wgd.Store
