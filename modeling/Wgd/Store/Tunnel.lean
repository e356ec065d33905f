import Wgd.Store.Commands

/-! Bringing one connection up and down: the helper process (`privileged/commands.rs`)
and the steps around it (`privileged/connection_ops.rs`). -/

set_option autoImplicit false

namespace Wgd.Store

open Wgd.Interaction Wgd.Net Wgd.Links Wgd.Config Wgd.Helper

def runtimeDir : String := "/var/run/wireguard/"

/-- The control socket of the helper's UAPI server. -/
def socketPath (interface : String) : String := runtimeDir ++ interface ++ ".sock"

def gotatunRuntimePath (interface suffix : String) : String := runtimeDir ++ interface ++ ".wgd." ++ suffix
def gotatunPidPath (interface : String) : String := gotatunRuntimePath interface "pid"
def gotatunNamePath (interface : String) : String := gotatunRuntimePath interface "name"
def gotatunCleanupStatusPath (interface : String) : String := gotatunRuntimePath interface "cleanup"
def gotatunQuerySocketPath (interface : String) : String := gotatunRuntimePath interface "query.sock"

/-- The files a dead helper leaves behind. -/
def staleRuntimePaths (interface : String) : List String :=
  [socketPath interface, gotatunPidPath interface, gotatunNamePath interface, gotatunQuerySocketPath interface]

/-! ### The helper process -/

/-- The message of a failed `str::parse::<u32>`. -/
def parseIntError (text : List Char) : String :=
  let digits := match text with
    | '+' :: rest => rest
    | _ => text
  if text.isEmpty then "cannot parse integer from empty string"
  else if !digits.isEmpty && digits.all fun c => (toDigit 10 c).isSome then "number too large to fit in target type"
  else "invalid digit found in string"

def parseGotatunPid (path raw : String) : Except AppError Nat :=
  let text := trim raw.toList
  match parseUnsigned 0x100000000 text with
  | none => .error (.other s!"invalid gotatun pid in {path}: {parseIntError text}")
  | some pid =>
    if pid = 0 ∨ 0x7fffffff < pid then .error (.other s!"invalid gotatun pid {pid} in {path}") else .ok pid

def readGotatunPid (path : String) : StoreProgram (Except AppError (Option Nat)) := do
  match ← storeCall (.readFile path) with
  | .ok raw => return (parseGotatunPid path raw).map some
  | .error error =>
    if error.kind = .notFound then return .ok none
    else return .error (.io error)

def selfExecutableForSpawn : StoreProgram (Except AppError Unit) := do
  let resolved ← storeCall .selfExecutable
  return resolved.mapError .other

/-- One previous session of the log is kept; no helper starts if that fails. -/
def rotateHelperLog (interface : String) : StoreProgram (Except AppError Unit) := do
  let rotated ← storeCall (.rotateHelperLog interface)
  return rotated.mapError fun error => .other s!"failed to rotate helper log for {interface}: {error.message}"

def ensureGotatunProcessIdentity (pid : Nat) : StoreProgram (Except AppError Unit) := do
  let identity ← storeCall (.processIdentity pid)
  return identity.mapError .other

/-- Whether a pid was read and its process is alive. -/
def trackedIsAlive : Option Nat → StoreProgram Bool
  | none => .done false
  | some pid => storeCall (.pidIsAlive pid)

/-- The files of an earlier helper go, if they can be removed. -/
def clearHelperFiles (interface : String) : StoreProgram Unit := do
  let _ ← storeCall (.removeFile (gotatunPidPath interface))
  let _ ← storeCall (.removeFile (gotatunNamePath interface))
  let _ ← storeCall (.removeFile (gotatunCleanupStatusPath interface))
  return ()

/-- The helper has reported itself ready: its pid file names this executable's process. -/
def confirmHelper (interface : String) : StoreProgram (Except AppError Unit) :=
  Program.attempt (readGotatunPid (gotatunPidPath interface)) fun
    | none =>
      .done (.error (.wireGuard s!"gotatun helper started without writing {gotatunPidPath interface}"))
    | some pid => do
      if ← storeCall (.pidIsAlive pid) then ensureGotatunProcessIdentity pid
      else return .error (.wireGuard s!"gotatun helper process {pid} exited during startup")

/-- Start the helper and wait until it has reported itself ready. -/
def startHelper (spec : HelperSpec) : StoreProgram (Except AppError Unit) := do
  match ← storeCall (.spawnHelper spec) with
  | .error error => return .error (.other s!"gotatun up failed to start: {error}")
  | .ok status =>
    if status.success then confirmHelper spec.interface
    else return .error (.wireGuard s!"gotatun up exited {status.text}")

def runGotatunUp (spec : HelperSpec) : StoreProgram (Except AppError Unit) :=
  -- A helper whose socket vanished may still be cleaning up.
  Program.attempt (readGotatunPid (gotatunPidPath spec.interface)) fun tracked => do
    if ← trackedIsAlive tracked then
      return .error (.wireGuard "existing helper is still running; disconnect it before reconnecting")
    else
      Program.attempt selfExecutableForSpawn fun () =>
        Program.attempt (rotateHelperLog spec.interface) fun () => do
          clearHelperFiles spec.interface
          startHelper spec

/-- The device name the helper wrote down, if it is one. -/
def readActualInterface (interface : String) : StoreProgram (Option (List Char)) := do
  let raw ← storeCall (.readFile (gotatunNamePath interface))
  return (raw.toOption.map fun text => trim text.toList).filter fun name => !name.isEmpty

/-- A live process named by the pid file has to run this executable. -/
def checkTracked : Option Nat → StoreProgram (Except AppError Unit)
  | none => .done (.ok ())
  | some pid => do
    if ← storeCall (.pidIsAlive pid) then ensureGotatunProcessIdentity pid
    else return .ok ()

/-- There is nothing of a helper to shut down. -/
def alreadyAbsent (interface : String) (tracked : Option Nat) (actualInterface : Option (List Char)) :
    StoreProgram Bool :=
  if tracked.isNone && actualInterface.isNone then do
    if ← storeCall (.pathExists (socketPath interface)) then return false
    else
      let status ← storeCall (.pathExists (gotatunCleanupStatusPath interface))
      return !status
  else return false

/-- The helper treats removal of its control socket as a request to shut down. -/
def removeControlSocket (interface : String) : StoreProgram (Except AppError Unit) := do
  if ← storeCall (.pathExists (socketPath interface)) then
    let removed ← storeCall (.removeFile (socketPath interface))
    return removed.mapError fun error =>
      .other s!"failed to remove gotatun control socket {socketPath interface}: {error.message}"
  else return .ok ()

/-- A helper that did not react is sent SIGTERM. -/
def terminateTracked (tracked : Option Nat) : StoreProgram (Except AppError Unit) :=
  match tracked with
  | none => .done (.ok ())
  | some pid => do
    if ← storeCall (.pidIsAlive pid) then
      let killed ← storeCall (.terminate pid)
      return killed.mapError fun error => .other s!"failed to signal gotatun helper {pid}: {error}"
    else return .ok ()

def awaitCleanupStatus (interface : String) (tracked : Option Nat) : StoreProgram (Except AppError String) := do
  match ← storeCall (.waitForCleanupStatus interface 15) with
  | some status => return .ok status
  | none =>
    Program.attempt (terminateTracked tracked) fun () => do
      match ← storeCall (.waitForCleanupStatus interface 5) with
      | some status => return .ok status
      | none =>
        return .error (.wireGuard s!"gotatun helper did not confirm cleanup; pid={tracked}, interface={interface}")

/-- The device is gone a few seconds after the clean-up. -/
def checkInterfaceGone : Option (List Char) → StoreProgram (Except AppError Unit)
  | none => .done (.ok ())
  | some name => do
    if ← storeCall (.interfaceExists (String.ofList name)) then
      return .error (.wireGuard
        s!"userspace tunnel interface {String.ofList name} still exists after confirmed network cleanup")
    else return .ok ()

def runGotatunDown (interface : String) : StoreProgram (Except AppError Unit) := do
  let actualInterface ← readActualInterface interface
  Program.attempt (readGotatunPid (gotatunPidPath interface)) fun tracked =>
    Program.attempt (checkTracked tracked) fun () => do
      if ← alreadyAbsent interface tracked actualInterface then return .ok ()
      else
        Program.attempt (removeControlSocket interface) fun () =>
          Program.attempt (awaitCleanupStatus interface tracked) fun status =>
            if status = "ok" then
              Program.attempt (checkInterfaceGone actualInterface) fun () => do
                clearHelperFiles interface
                return .ok ()
            else return .error (.wireGuard s!"gotatun helper cleanup failed: {status}")

/-! ### Hooks -/

/-- `str::replace` of `%i`. -/
def replaceInterface (interface : List Char) : List Char → List Char
  | '%' :: 'i' :: rest => interface ++ replaceInterface interface rest
  | c :: rest => c :: replaceInterface interface rest
  | [] => []

def substituteInterface (command interface : String) : String :=
  String.ofList (replaceInterface interface.toList command.toList)

def runHook (command interface label : String) : StoreProgram (Except AppError Unit) := do
  let substituted := substituteInterface command interface
  match ← storeCall (.runShell substituted) with
  | .error error => return .error (.other s!"{label} hook failed to start: {error}")
  | .ok status =>
    if status.success then return .ok ()
    else return .error (.wireGuard s!"{label} hook exited {status.text}: {substituted}")

def runHooks (commands : List String) (interface label : String) : StoreProgram (Except AppError Unit) :=
  Program.forEach (fun command => runHook command interface label) commands

def runHooksBestEffort : List String → String → String → StoreProgram Unit
  | [], _, _ => .done ()
  | command :: rest, interface, label => do
    let _ ← runHook command interface label
    runHooksBestEffort rest interface label

/-! ### Connecting -/

/-- Hold the system network mutation lock around a program. -/
def withNetworkLock {A : Type} (body : StoreProgram (Except AppError A)) : StoreProgram (Except AppError A) := do
  match ← storeCall .lockNetwork with
  | .error error => return .error (.io error)
  | .ok () =>
    let result ← body
    storeCall .unlockNetwork
    return result

def removeRegularFiles : List String → StoreProgram Unit
  | [] => .done ()
  | path :: rest => do
    storeCall (.removeRegularFile path)
    removeRegularFiles rest

/-- What a dead helper left behind a lingering socket goes away. -/
def clearDeadHelperLeftovers (interface : String) : StoreProgram (Except AppError Unit) :=
  withNetworkLock do
    storeCall (.sweepInterface interface)
    if ← storeCall (.custodyRecordExists interface) then return .ok ()
    else if ← storeCall (.helperIsLiveWithoutRecord interface) then return .ok ()
    else
      removeRegularFiles (staleRuntimePaths interface)
      return .ok ()

def conflict : AppError :=
  .wireGuard "this connection's interface is already in an unverified state; disconnect it before reconnecting"

def staleError : AppError :=
  .wireGuard "stored connection is stale (its raw configuration no longer matches its recorded identity); remove and re-add it"

def notFoundError : AppError := .other "connection not found"

/-- The stored text still parses to what was stored. -/
def reparseAndVerify (crates : Crates) (stored : StoredConnection) : StoreProgram (Except AppError ConnectionConfig) := do
  let resolver ← storeCall .resolver
  match parseConnectionConfig crates resolver stored.rawConf with
  | .error error => return .error error
  | .ok reparsed =>
    if fingerprint crates reparsed = stored.fingerprint then return .ok reparsed
    else return .error staleError

def loadRequired (id : ConnectionId) : StoreProgram (Except AppError StoredConnection) :=
  Program.attempt (load id) fun
    | some stored => .done (.ok stored)
    | none => .done (.error notFoundError)

/-- The socket is the one the marker recorded. -/
def ActiveConnectionState.recorded (active : ActiveConnectionState) (metadata : SocketMetadata) : Bool :=
  metadata.device = active.device && metadata.inode = active.inode && metadata.changedSec = active.changedSec &&
    metadata.changedNsec = active.changedNsec

/-- The metadata of a file that may be missing. -/
def socketMetadata (path : String) : StoreProgram (Except AppError (Option SocketMetadata)) := do
  match ← storeCall (.metadata path) with
  | .ok metadata => return .ok (some metadata)
  | .error error =>
    if error.kind = .notFound then return .ok none
    else return .error (.io error)

/-- Whether the connection is already up, with the very socket its marker recorded. -/
def alreadyUp (stored : StoredConnection) : StoreProgram (Except AppError Bool) :=
  Program.attempt (loadActive stored.id) fun
    | none => .done (.ok false)
    | some active =>
      Program.attempt (socketMetadata active.socket) fun
        -- The recorded socket is gone: a stale marker.
        | none => .done (.ok false)
        | some metadata =>
          if active.recorded metadata then
            if active.fingerprint = stored.fingerprint then .done (.ok true) else .done (.error conflict)
          else .done (.error conflict)

def clearLeftovers (interface : String) : StoreProgram (Except AppError Unit) := do
  let lingering ← storeCall (.tryExists (socketPath interface))
  match lingering with
  | .error error => return .error (.io error)
  | .ok true => clearDeadHelperLeftovers interface
  | .ok false => return .ok ()

/-- No socket is left at the helper's path. -/
def checkNoSocket (interface : String) : StoreProgram (Except AppError Unit) := do
  match ← storeCall (.tryExists (socketPath interface)) with
  | .error error => return .error (.io error)
  | .ok true => return .error conflict
  | .ok false => return .ok ()

def createSentinelFor (reparsed : ConnectionConfig) : StoreProgram Unit :=
  if reparsed.dnsServers.isEmpty then return () else storeCall .createSentinel

/-- The bring-up itself, under the network lock. -/
def bringUp (spec : HelperSpec) (reparsed : ConnectionConfig) : StoreProgram (Except AppError Unit) :=
  withNetworkLock do
    match ← storeCall .ensureDnsCustodyDir with
    | .error error => return .error (.io error)
    | .ok () =>
      storeCall (.sweepInterface spec.interface)
      createSentinelFor reparsed
      let up ← runGotatunUp spec
      storeCall .settle
      return up

/-- A failed PostUp takes the helper down again. -/
def postUp (reparsed : ConnectionConfig) (interface : String) : StoreProgram (Except AppError Unit) := do
  match ← runHooks reparsed.postUp interface "PostUp" with
  | .ok () => return .ok ()
  | .error error =>
    match ← withNetworkLock (runGotatunDown interface) with
    | .ok () => return .error error
    | .error rollbackError =>
      return .error (.wireGuard s!"PostUp failed: {error.toText}; rollback also failed: {rollbackError.toText}")

/-- The marker of the helper that is now up. -/
def recordActive (stored : StoredConnection) (debug : Bool) : StoreProgram (Except AppError Unit) := do
  match ← storeCall (.metadata (socketPath stored.interface)) with
  | .error error => return .error (.io error)
  | .ok metadata =>
    let now ← storeCall .nowUnix
    saveActive stored.id ⟨stored.fingerprint, stored.interface, socketPath stored.interface, metadata.device,
      metadata.inode, metadata.changedSec, metadata.changedNsec, now, debug⟩

def helperSpec (stored : StoredConnection) (debug : Bool) : HelperSpec :=
  ⟨stored.id, stored.interface, stored.rawConf, stored.dnsDynamicStore, stored.bypassLinkReport.valid, debug⟩

/-- From nothing on the interface to a recorded helper. -/
def startConnection (stored : StoredConnection) (reparsed : ConnectionConfig) (debug : Bool) :
    StoreProgram (Except AppError Unit) :=
  Program.attempt (checkNoSocket stored.interface) fun () =>
    Program.attempt (runHooks reparsed.preUp stored.interface "PreUp") fun () =>
      Program.attempt (bringUp (helperSpec stored debug) reparsed) fun () =>
        Program.attempt (postUp reparsed stored.interface) fun () =>
          recordActive stored debug

def connectStored (crates : Crates) (stored : StoredConnection) (debug : Bool) : StoreProgram (Except AppError Unit) :=
  Program.attempt (reparseAndVerify crates stored) fun reparsed =>
    if reparsed.peers.length ≠ 1 then
      .done (.error (.wireGuard s!"connect requires exactly one [Peer] section, found {reparsed.peers.length}"))
    else
      Program.attempt (clearLeftovers stored.interface) fun () =>
        Program.attempt (alreadyUp stored) fun up =>
          if up then .done (.ok ()) else startConnection stored reparsed debug

/-- Bring up one stored connection; the caller holds its lock. -/
def connect (crates : Crates) (id : ConnectionId) (debug : Bool) : StoreProgram (Except AppError Unit) :=
  Program.attempt (loadRequired id) fun stored => connectStored crates stored debug

/-! ### Disconnecting -/

/-- Hooks are best effort on the way down, and skipped where the text no longer parses. -/
def takeDown (crates : Crates) (stored : StoredConnection) : StoreProgram (Except AppError Unit) := do
  let resolver ← storeCall .resolver
  match parseConnectionConfig crates resolver stored.rawConf with
  | .error _ => withNetworkLock (runGotatunDown stored.interface)
  | .ok reparsed =>
    runHooksBestEffort reparsed.preDown stored.interface "PreDown"
    Program.attempt (withNetworkLock (runGotatunDown stored.interface)) fun () => do
      runHooksBestEffort reparsed.postDown stored.interface "PostDown"
      return .ok ()

/-- Tear down one stored connection; the caller holds its lock. -/
def disconnect (crates : Crates) (id : ConnectionId) : StoreProgram (Except AppError Unit) :=
  Program.attempt (loadRequired id) fun stored =>
    Program.attempt (takeDown crates stored) fun () => clearActive id

end Wgd.Store
