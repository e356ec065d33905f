import Wgd.Helper.Lifecycle

/-! The startup of a userspace helper (`userspace_helper/mod.rs`): one fallible step
after another, with the network configured in the middle and a cleanup written by
hand on each error path after it. -/

set_option autoImplicit false

namespace Wgd.Helper.Startup

open Wgd.Net Wgd.Links Wgd.Interaction Wgd.Routes Wgd.Dns

def sockDir : String := "/var/run/wireguard"
def connectionIdEnv : String := "WGD_CONNECTION_ID"
def activeEnv : String := "WGD_DNS_DYNAMIC_STORE"
def tunNameFileEnv : String := "WG_TUN_NAME_FILE"

def gotatunPidPath (interface : String) : String := sockDir ++ "/" ++ interface ++ ".wgd.pid"
def gotatunNamePath (interface : String) : String := sockDir ++ "/" ++ interface ++ ".wgd.name"
def gotatunLogPath (interface : String) : String := "/var/log/wgd/" ++ interface ++ ".log"
def controlSocketPath (interface : String) : String := sockDir ++ "/" ++ interface ++ ".sock"

/-- The commands of startup apart from those that set the network up. -/
inductive StartupOp where
  -- the process
  | statusSocket
  | openOutput (path : String)
  | daemonize
  | signalParent (ok : Bool)
  | processId
  | processStartTicks (pid : Nat)
  | initFileSync (logPath : String)
  | buildRuntime
  -- the environment variables
  | var (name : String)
  | parseConnectionId (raw : String)
  | parseConfigFromEnv
  | bypassLinksFromEnv
  -- files
  | createDirAll (path : String)
  | ensureRootLogDir
  | writeFile (path contents : String)
  | writeRuntimeFile (path contents : String)
  | removeFile (path : String)
  -- the device
  | tunDevice (name : String)
  | tunName
  | uapiServer (interface : String)
  | buildDevice
  | applyWireguardConfig (config : ParsedUserspaceConfig)
  | stopDevice
  deriving DecidableEq, Repr

@[reducible] def StartupOp.Reply : StartupOp → Type
  | .processId => Nat
  | .processStartTicks _ => Option ProcessStart
  | .var _ => Option String
  | .parseConnectionId _ => Option ConnectionId
  | .parseConfigFromEnv => Except String (Option ParsedUserspaceConfig)
  | .bypassLinksFromEnv => Except String (List BypassLink)
  | .createDirAll _ | .removeFile _ | .stopDevice => Unit
  | .tunName => Except String String
  | .statusSocket | .openOutput _ | .daemonize | .signalParent _ | .initFileSync _ | .buildRuntime | .ensureRootLogDir
  | .writeFile _ _ | .writeRuntimeFile _ _ | .tunDevice _ | .uapiServer _ | .buildDevice
  | .applyWireguardConfig _ => Except String Unit

abbrev startupOnly : Commands := ⟨StartupOp, StartupOp.Reply⟩

abbrev startupCommands : Commands := helperCommands.sum startupOnly

abbrev StartupProgram (A : Type) := Program startupCommands A

variable {A : Type}

def network (p : HelperProgram A) : StartupProgram A := p.inl

def issue (op : StartupOp) : StartupProgram op.Reply := @Program.command startupCommands (.inr op)

/-- A command that may fail, with what is made of the error. -/
def failing (message : String → String) (p : StartupProgram (Except String A)) : StartupProgram (Except String A) := do
  return (← p).mapError message

/-- `Context::context`: only the outermost message is shown. -/
def withContext (context : String) (p : StartupProgram (Except String A)) : StartupProgram (Except String A) :=
  failing (fun _ => context) p

structure RunningDevice where
  interfaceName : String
  controlInterfaceName : String
  controlSocketPath : String
  /-- What is there to clean up; nothing for a helper without a configuration. -/
  cleanup : Option (MacosCleanupState × MacosRoutingState)
  deriving DecidableEq, Repr

/-! ### The device -/

def helperTunName (interface : String) : String :=
  if interface = "utun" ∨ "utun".toList.isPrefixOf interface.toList then interface else "utun"

def connectionIdFromEnv : StartupProgram (Option ConnectionId) := do
  match ← issue (.var connectionIdEnv) with
  | none => return none
  | some raw => issue (.parseConnectionId raw)

/-- The key is derived from the connection id, so without one the mode stays `shadow`. -/
def dnsStoreKeyMode (hasConnectionId : Bool) : StartupProgram StoreKeyMode := do
  if (← issue (.var activeEnv)) ≠ some "1" then return .shadow
  else if !hasConnectionId then return .shadow
  else return .active

/-- Who this helper is; `none` when its own start time is unreadable. -/
def custodyIdentity (interface : String) (connectionId : ConnectionId) :
    StartupProgram (Option DnsCustodyIdentity) := do
  let helperPid ← issue .processId
  match ← issue (.processStartTicks helperPid) with
  | none => return none
  | some helperStart => return some ⟨connectionId, interface, helperPid, helperStart⟩

/-- Active mode never touches `networksetup`, so there is nothing to keep in custody. -/
def custodyFor (interface : String) (connectionId : Option ConnectionId) (dnsMode : StoreKeyMode) :
    StartupProgram (Option DnsCustodyIdentity) :=
  match connectionId, dnsMode with
  | some id, .shadow => custodyIdentity interface id
  | _, _ => return none

/-- Stop the device and remove its control socket. -/
def abandonDevice (interface : String) : StartupProgram Unit := do
  issue .stopDevice
  issue (.removeFile (controlSocketPath interface))

/-- The network of the configuration, if there is one. -/
def configureDevice (interface interfaceName : String) (bypassLinks : List BypassLink) :
    Option ParsedUserspaceConfig → StartupProgram (Except String (Option (MacosCleanupState × MacosRoutingState)))
  | none => return .ok none
  | some config => do
    let connectionId ← connectionIdFromEnv
    let dnsMode ← dnsStoreKeyMode connectionId.isSome
    let custody ← custodyFor interface connectionId dnsMode
    match ← network (configureNetworkMacos ⟨interfaceName, config, connectionId, custody, dnsMode, bypassLinks⟩) with
    | .ok cleanup => return .ok (some cleanup)
    | .error error =>
      abandonDevice interface
      return .error error

/-- Drive the device with the configuration, if there is one. -/
def applyConfig (interface : String) : Option ParsedUserspaceConfig → StartupProgram (Except String Unit)
  | none => return .ok ()
  | some config => do
    match ← issue (.applyWireguardConfig config) with
    | .ok () => return .ok ()
    | .error error =>
      abandonDevice interface
      return .error error

/-- Tell whoever asked for it which device it became. -/
def publishTunName (interfaceName : String) : StartupProgram (Except String Unit) := do
  match ← issue (.var tunNameFileEnv) with
  | none => return .ok ()
  | some nameFile => withContext s!"failed writing WG_TUN_NAME_FILE at {nameFile}" (issue (.writeFile nameFile interfaceName))

/-- The steps before the network: what the environment asks for, and a device. -/
def openDevice (interface : String) :
    StartupProgram (Except String (Option ParsedUserspaceConfig × List BypassLink × String)) :=
  (issue .parseConfigFromEnv).attempt fun parsedConfig =>
  (issue .bypassLinksFromEnv).attempt fun bypassLinks =>
  (failing (fun e => s!"failed to create TUN device {interface}: {e}")
    (issue (.tunDevice (helperTunName interface)))).attempt fun () =>
  (failing (fun e => s!"failed to resolve TUN interface name: {e}") (issue .tunName)).attempt fun interfaceName =>
  (publishTunName interfaceName).attempt fun () =>
  (failing (fun e => s!"failed to create UAPI socket for {interface}: {e}") (issue (.uapiServer interface))).attempt fun () =>
  (failing (fun e => s!"failed to start gotatun device {interfaceName}: {e}") (issue .buildDevice)).attempt fun () =>
  (applyConfig interface parsedConfig).attempt fun () => return .ok (parsedConfig, bypassLinks, interfaceName)

/-- `write_runtime_file` of the device's name: the last step of `start_device`, and one
that nothing follows when it fails. -/
def writeName (interface interfaceName : String) : StartupProgram (Except String Unit) :=
  withContext "failed to write userspace helper interface name"
    (issue (.writeRuntimeFile (gotatunNamePath interface) interfaceName))

def startDevice (interface : String) : StartupProgram (Except String RunningDevice) :=
  (openDevice interface).attempt fun (parsedConfig, bypassLinks, interfaceName) =>
  (configureDevice interface interfaceName bypassLinks parsedConfig).attempt fun cleanup =>
  (writeName interface interfaceName).attempt fun () =>
  return .ok ⟨interfaceName, interface, controlSocketPath interface, cleanup⟩

/-! ### The process -/

def cleanupNetwork (running : RunningDevice) : StartupProgram (List String) :=
  match running.cleanup with
  | none => return []
  | some (state, routing) => network (cleanupNetworkMacos state routing)

/-- What `daemonize_and_run` does before it gives a started device up. -/
def giveUp (running : RunningDevice) (runtimeFiles : List String) : StartupProgram Unit := do
  let _errors ← cleanupNetwork running
  issue .stopDevice
  (running.controlSocketPath :: runtimeFiles).forM fun path => issue (.removeFile path)

/-- The pid file, then the word to the parent that the helper is ready. -/
def announce (interface : String) (running : RunningDevice) : StartupProgram (Except String RunningDevice) := do
  let pid ← issue .processId
  match ← issue (.writeRuntimeFile (gotatunPidPath interface) (toString pid)) with
  | .error _ =>
    giveUp running [gotatunNamePath interface]
    let _ ← issue (.signalParent false)
    return .error "failed to write userspace helper pid file"
  | .ok () =>
    match ← issue (.signalParent true) with
    | .error _ =>
      giveUp running [gotatunPidPath interface, gotatunNamePath interface]
      return .error "failed to notify parent about helper startup"
    | .ok () => return .ok running

/-- What the child of the fork needs before its device. -/
def prepareChild (interface : String) : StartupProgram (Except String Unit) := do
  issue (.createDirAll sockDir)
  (issue .ensureRootLogDir).attempt fun () =>
    (issue (.initFileSync (gotatunLogPath interface))).attempt fun () =>
    withContext "failed to create tokio runtime for userspace helper" (issue .buildRuntime)

/-- `daemonize_and_run` in the process that becomes the helper, up to the moment its
parent has been told that it is ready. -/
def daemonizeAndRun (interface : String) : StartupProgram (Except String RunningDevice) :=
  (withContext "failed to create status socket" (issue .statusSocket)).attempt fun () =>
  (withContext "failed to open /dev/stdout for helper logging" (issue (.openOutput "/dev/stdout"))).attempt fun () =>
  (withContext "failed to open /dev/stderr for helper logging" (issue (.openOutput "/dev/stderr"))).attempt fun () => do
    match ← issue .daemonize with
    | .error error =>
      let _ ← issue (.signalParent false)
      return .error s!"failed to initialize userspace helper child: {error}"
    | .ok () => (prepareChild interface).attempt fun () => do
      match ← startDevice interface with
      | .error error =>
        let _ ← issue (.signalParent false)
        return .error error
      | .ok running => announce interface running

end Wgd.Helper.Startup
