import Wgd.Dns.Helper
import Wgd.Routes.Reconcile

/-! The life of one userspace helper (`userspace_helper/macos/mod.rs`): setup with
its rollback, the reconcile ticks, and teardown. -/

set_option autoImplicit false

namespace Wgd.Helper

open Wgd.Net Wgd.Links Wgd.Interaction Wgd.Routes Wgd.Dns

/-- The part of the parsed configuration that network setup reads. -/
structure ParsedUserspaceConfig where
  addresses : List String
  dnsServers : List String
  mtu : Option Nat
  allowedIps : List String
  endpoint : IpAddr
  deriving DecidableEq, Repr

/-- The arguments of `configure_network_macos`. -/
structure HelperArgs where
  interface : String
  config : ParsedUserspaceConfig
  connectionId : Option ConnectionId
  custody : Option DnsCustodyIdentity
  dnsMode : StoreKeyMode
  bypassLinks : List BypassLink
  deriving DecidableEq, Repr

/-- The immutable inputs of the reconciler. The endpoint is pinned only when
AllowedIPs would otherwise capture it. -/
def HelperArgs.inputs (args : HelperArgs) : MacosReconcileInputs :=
  let config := args.config
  let hasIpv6Address := config.addresses.any fun address => address.toList.contains ':'
  let endpointIsIpv6 := config.endpoint.isIpv6
  { interface := args.interface
    endpoint := config.endpoint
    endpointIsIpv6
    endpointNeedsPin := (!endpointIsIpv6 || hasIpv6Address) &&
      macosAllowedIpsCoverEndpoint config.allowedIps config.endpoint
    allowedIps := config.allowedIps
    dnsServers := config.dnsServers
    hasIpv4Address := config.addresses.any fun address => !address.toList.contains ':'
    hasIpv6Address
    custody := args.custody
    dnsMode := args.dnsMode
    bypassLinks := args.bypassLinks }

abbrev helperCommands : Commands := routeCommands.sum dnsCommands

abbrev HelperProgram (A : Type) := Program helperCommands A

def routes {A : Type} (p : RouteProgram A) : HelperProgram A := p.inl

def dns {A : Type} (p : DnsProgram A) : HelperProgram A := p.inr

/-! ### Setup -/

def addressArgs (interface address : String) (subnet : Subnet) : List String :=
  match subnet.1 with
  | .v4 _ => [interface, "inet", address, subnet.1.toText, "alias"]
  | .v6 _ => [interface, "inet6", subnet.1.toText, "prefixlen", toString subnet.2, "alias"]

def configureAddress (interface address : String) : RouteProgram (Except String Unit) :=
  match parseCidr address with
  | none => .done (.error s!"invalid cidr {address}")
  | some subnet => Routes.issue (.ifconfig (addressArgs interface address subnet))

def configureInterface (interface : String) (config : ParsedUserspaceConfig) : RouteProgram (Except String Unit) :=
  let mtu : RouteProgram (Except String Unit) := match config.mtu with
    | none => .done (.ok ())
    | some mtu => Routes.issue (.ifconfig [interface, "mtu", toString mtu])
  mtu.attempt fun () =>
  (Program.forEach (configureAddress interface) config.addresses).attempt fun () =>
  (Routes.issue (.ifconfig [interface, "up"])).attempt fun () => do
    let _ ← Routes.issue (.ifconfig [interface, "-rxcsum", "-txcsum"])
    return .ok ()

/-- Install the desired routes up to the first error, with the routes owned by then. -/
def addDesiredRoutes (added : List MacosRoute) : List MacosRoute → RouteProgram (List MacosRoute × Except String Unit)
  | [] => .done (added, .ok ())
  | route :: rest => do
    match ← addMacosRoute route with
    | .ok .owned => addDesiredRoutes (added ++ [route]) rest
    | .ok .foreign => addDesiredRoutes added rest
    | .error error => return (added, .error error)

/-- What setup has installed when it stops, and whether it stopped early. -/
def setupRoutes (args : HelperArgs) : RouteProgram (MacosRoutingState × Except String Unit) := do
  let nothing : MacosRoutingState := ⟨[], ⟨[], none⟩, []⟩
  match ← configureInterface args.interface args.config with
  | .error error => return (nothing, .error error)
  | .ok () =>
    match ← macosCurrentFingerprint args.inputs .require with
    | .error error => return (nothing, .error error)
    | .ok fingerprint =>
      let (routesAdded, outcome) ← addDesiredRoutes [] (macosDesiredRoutes args.inputs fingerprint)
      return (⟨routesAdded, fingerprint, []⟩, outcome)

/-- Delete one owned route and repair the LAN it shadowed; a failure joins the errors. -/
def deleteRoute (localSubnets : List Subnet) (interface : String) (errors : List String) (route : MacosRoute) :
    RouteProgram (List String) := do
  match ← delMacosRoute route with
  | .ok () =>
    macosRestoreShadowedLanRoute route localSubnets interface
    return errors
  | .error error => return errors ++ [error]

def deleteRoutes (routesAdded : List MacosRoute) (localSubnets : List Subnet) (interface : String) :
    RouteProgram (List String) :=
  routesAdded.reverse.foldlM (deleteRoute localSubnets interface) []

def restoreMessage (failure : MacosDnsServiceState × String) : String :=
  s!"restore DNS for {failure.1.service.quote} failed: {failure.2}"

/-- Undo a setup that failed, and the error to report. -/
def rollback (args : HelperArgs) (routing : MacosRoutingState) (setupError : String) : HelperProgram String := do
  let errors ← routes (deleteRoutes routing.routesAdded routing.fingerprint.localSubnets args.interface)
  let owned ← dns (Dns.issue .dnsState)
  let failed ← dns (restoreMacosDnsServices owned.services args.inputs)
  let errors := errors ++ failed.map restoreMessage
  let joined := "; ".intercalate errors
  return if errors.isEmpty then setupError else s!"setup failed: {setupError}; rollback failed: {joined}"

/-- The DNS step of setup, once the routes are in; in active mode the dynamic store
key is the tunnel's DNS. -/
def setupDns (args : HelperArgs) (routing : MacosRoutingState) (installed : Except String Unit) :
    DnsProgram (Except String MacosDnsFingerprint) :=
  match installed, args.dnsMode with
  | .error error, _ => .done (.error error)
  | .ok (), .shadow => configureMacosDns args.inputs routing.fingerprint.localSubnets
  | .ok (), .active => .done (.ok .default)

/-- `DnsStoreKey::start`, only with a connection id and tunnel DNS. -/
def startStoreKey (args : HelperArgs) (routing : MacosRoutingState) : DnsProgram Bool :=
  if args.connectionId.isSome && !args.config.dnsServers.isEmpty then
    Dns.issue (.keyStart (macosDnsServerInLocalSubnet args.config.dnsServers routing.fingerprint.localSubnets).isNone)
  else .done false

def configureNetworkMacos (args : HelperArgs) : HelperProgram (Except String (MacosCleanupState × MacosRoutingState)) := do
  let (routing, installed) ← routes (setupRoutes args)
  match ← dns (setupDns args routing installed) with
  | .error setupError => return .error (← rollback args routing setupError)
  | .ok fingerprint => do
    let dnsStoreKey ← dns (startStoreKey args routing)
    dns (Dns.issue (.storeFingerprint fingerprint))
    return .ok (⟨dnsStoreKey, args.inputs⟩, routing)

/-! ### Teardown -/

/-- Restore DNS, then delete the owned routes. Returns the errors. -/
def cleanupNetworkMacos (state : MacosCleanupState) (routing : MacosRoutingState) : HelperProgram (List String) := do
  if state.dnsStoreKey then dns (Dns.issue .keyRemove)
  let owned ← dns (Dns.issue .dnsState)
  let failed ← dns (restoreMacosDnsServices owned.services state.reconcile)
  let connected ← routes (Routes.issue (.macosConnectedSubnetsByDevice state.reconcile.interface))
  let errors ← routes (deleteRoutes routing.routesAdded (macosLocalConnectedSubnets connected) state.reconcile.interface)
  return failed.map restoreMessage ++ errors

/-! ### The whole life -/

inductive HelperPhase where
  | ready
  | up (state : MacosCleanupState) (routing : MacosRoutingState)
  | down
  deriving DecidableEq, Repr

def connectProgram (args : HelperArgs) : HelperProgram HelperPhase := do
  match ← configureNetworkMacos args with
  | .ok (state, routing) => return .up state routing
  | .error _ => return .down

def routeTick (state : MacosCleanupState) (routing : MacosRoutingState) : HelperProgram HelperPhase := do
  let (routing, _changed) ← routes (macosReconcileRoutes state.reconcile routing)
  return .up state routing

def dnsTick (state : MacosCleanupState) (routing : MacosRoutingState) : HelperProgram HelperPhase := do
  let _changed ← dns (macosReconcileDns state)
  return .up state routing

def teardownProgram (state : MacosCleanupState) (routing : MacosRoutingState) : HelperProgram HelperPhase := do
  let _errors ← cleanupNetworkMacos state routing
  return .down

/-- What a helper may do next: its maintenance jobs never overlap, so one program
runs after another. -/
inductive HelperStart (args : HelperArgs) : HelperPhase → HelperProgram HelperPhase → Prop where
  | connect : HelperStart args .ready (connectProgram args)
  | routeTick {state : MacosCleanupState} {routing : MacosRoutingState} :
      HelperStart args (.up state routing) (routeTick state routing)
  | dnsTick {state : MacosCleanupState} {routing : MacosRoutingState} :
      HelperStart args (.up state routing) (dnsTick state routing)
  | teardown {state : MacosCleanupState} {routing : MacosRoutingState} :
      HelperStart args (.up state routing) (teardownProgram state routing)

end Wgd.Helper
