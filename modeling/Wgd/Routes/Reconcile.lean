import Wgd.Helper.Inputs
import Wgd.Routes.Table

/-! The routes a tunnel wants and the pass that installs them
(`userspace_helper/macos/routes.rs`). -/

set_option autoImplicit false

namespace Wgd.Routes

open Wgd.Net Wgd.Links Wgd.Helper Wgd.Interaction

/-- A snapshot of the host network environment relevant to tunnel routing. -/
structure MacosNetworkFingerprint where
  localSubnets : List Subnet
  endpointGateway : Option String
  deriving DecidableEq, Repr

inductive MacosRouteOperation where
  | add
  | delete
  deriving DecidableEq, Repr

/-- A route operation the reconciler failed at and will try again. -/
structure MacosRouteFailure where
  route : MacosRoute
  operation : MacosRouteOperation
  error : String
  deriving DecidableEq, Repr

/-- Routing state the reconciler keeps in sync with the live network. -/
structure MacosRoutingState where
  /-- Routes this tunnel currently owns; the source of truth for teardown. -/
  routesAdded : List MacosRoute
  fingerprint : MacosNetworkFingerprint
  failing : List MacosRouteFailure
  deriving DecidableEq, Repr

/-! ### Desired routes -/

/-- A dev-bound route into the tunnel. -/
def tunnelRoute (isIpv6 : Bool) (interface destination : String) : MacosRoute :=
  ⟨isIpv6, destination, some interface, none⟩

/-- The routes of one AllowedIPs entry; a default route is split into its halves. -/
def macosAllowedRoute (interface : String) (hasIpv4Address hasIpv6Address : Bool) (allowed : String) :
    List MacosRoute :=
  if allowed = "0.0.0.0/0" then
    if hasIpv4Address then [tunnelRoute false interface "0.0.0.0/1", tunnelRoute false interface "128.0.0.0/1"]
    else []
  else if allowed = "::/0" then
    if hasIpv6Address then [tunnelRoute true interface "::/1", tunnelRoute true interface "8000::/1"] else []
  else
    let isIpv6 := allowed.toList.contains ':'
    if isIpv6 && !hasIpv6Address then []
    else if !isIpv6 && !hasIpv4Address then []
    else [tunnelRoute isIpv6 interface allowed]

def macosAllowedRoutes (allowedIps : List String) (interface : String) (hasIpv4Address hasIpv6Address : Bool) :
    List MacosRoute :=
  allowedIps.flatMap (macosAllowedRoute interface hasIpv4Address hasIpv6Address)

/-- The link that keeps a tunnel route off the tunnel, with the subnet that makes it active. -/
structure MacosLinkExclusion where
  anchor : IpNet
  subnet : Subnet
  deriving DecidableEq, Repr

def macosRouteExcludedByLink (route : MacosRoute) (localSubnets : List Subnet) (links : List BypassLink) :
    Option MacosLinkExclusion :=
  match route.interface, route.gateway with
  | some _, none => do
    let (ip, length) ← parseCidr route.destination
    let destination ← IpNet.new (macosNetworkBase ip length) length
    links.findSome? fun link =>
      if link.bypass.matches destination then do
        let subnet ← localSubnets.find? fun connected =>
          macosSubnetContains connected (link.anchor.network, link.anchor.prefixLen)
        some ⟨link.anchor, subnet⟩
      else none
  | _, _ => none

/-- The endpoint pin through the physical gateway, when one is needed and known. -/
def endpointPin (inputs : MacosReconcileInputs) (fingerprint : MacosNetworkFingerprint) : Option MacosRoute :=
  if inputs.endpointNeedsPin then
    fingerprint.endpointGateway.map fun gateway =>
      ⟨inputs.endpointIsIpv6, inputs.endpoint.toText, none, some gateway⟩
  else none

/-- The endpoint pin and the AllowedIPs routes, minus those of a connected subnet
and those an active bypass link takes off the tunnel. -/
def macosDesiredRoutes (inputs : MacosReconcileInputs) (fingerprint : MacosNetworkFingerprint) : List MacosRoute :=
  (endpointPin inputs fingerprint).toList ++
    (macosAllowedRoutes inputs.allowedIps inputs.interface inputs.hasIpv4Address inputs.hasIpv6Address).filter
      fun route => (macosRouteExcludedByLocalSubnet route fingerprint.localSubnets).isNone &&
        (macosRouteExcludedByLink route fingerprint.localSubnets inputs.bypassLinks).isNone

/-- True when any AllowedIPs entry would route the endpoint into the tunnel. -/
def macosAllowedIpsCoverEndpoint (allowedIps : List String) (endpoint : IpAddr) : Bool :=
  allowedIps.any fun allowed => match parseCidr allowed with
    | none => false
    | some (net, length) => net.isIpv6 == endpoint.isIpv6 &&
        macosNetworkBase endpoint length = macosNetworkBase net length

/-! ### The network environment -/

/-- What to do when the default gateway cannot be looked up. -/
inductive GatewayFallback where
  | require
  | keep (previous : Option String)
  deriving DecidableEq, Repr

def macosCurrentFingerprint (inputs : MacosReconcileInputs) (gatewayFallback : GatewayFallback) :
    RouteProgram (Except String MacosNetworkFingerprint) := do
  let localSubnets := macosLocalConnectedSubnets (← issue (.macosConnectedSubnetsByDevice inputs.interface))
  if inputs.endpointNeedsPin then
    match ← issue (.getMacosDefaultGateway inputs.endpointIsIpv6), gatewayFallback with
    | .ok (some gateway), _ => return .ok ⟨localSubnets, some gateway⟩
    | .ok none, .require =>
      return .error s!"no default gateway available to pin endpoint {inputs.endpoint.toText} out of the tunnel"
    | .error _, .require =>
      return .error s!"failed to resolve default gateway to pin endpoint {inputs.endpoint.toText} out of the tunnel"
    | .ok none, .keep previous | .error _, .keep previous => return .ok ⟨localSubnets, previous⟩
  else return .ok ⟨localSubnets, none⟩

/-! ### One pass over the routes -/

/-- The kernel key of a route, independent of its gateway or interface. -/
def sameRouteDestination (left right : MacosRoute) : Bool :=
  match macosRouteDestination left, macosRouteDestination right with
  | some left, some right => left = right
  | _, _ => left.isIpv6 = right.isIpv6 ∧ left.destination = right.destination

variable {C : Commands}

/-- The system calls of a pass, injected. -/
structure RouteActions (C : Commands) where
  delete : MacosRoute → Program C (Except String Unit)
  add : MacosRoute → Program C (Except String MacosRouteInstall)
  restore : MacosRoute → Program C Unit

/-- What a pass has collected so far. -/
structure RoutePass where
  installed : List MacosRoute
  failing : List MacosRouteFailure
  added : Nat
  removed : Nat
  errors : Nat
  deriving DecidableEq, Repr

def RoutePass.start : RoutePass := ⟨[], [], 0, 0, 0⟩

/-- Keep a route that is still desired, delete it otherwise. -/
def releaseRoute (actions : RouteActions C) (desired : List MacosRoute) (pass : RoutePass) (route : MacosRoute) :
    Program C RoutePass := do
  if desired.contains route then return { pass with installed := pass.installed ++ [route] }
  else match ← actions.delete route with
    | .ok () =>
      actions.restore route
      return { pass with removed := pass.removed + 1 }
    | .error error =>
      -- Still in the kernel, so still ours.
      return { pass with
        installed := pass.installed ++ [route]
        failing := pass.failing ++ [⟨route, .delete, error⟩]
        errors := pass.errors + 1 }

/-- Whether a delete of the route's destination is among the failures. -/
def deleteFailedFor (failures : List MacosRouteFailure) (route : MacosRoute) : Bool :=
  failures.any fun failure => failure.operation == .delete && sameRouteDestination failure.route route

/-- Whether this pass leaves the desired route alone. -/
def skipsRoute (previous : List MacosRouteFailure) (current : List MacosRoute) (retryOnly : Bool)
    (pass : RoutePass) (route : MacosRoute) : Bool :=
  current.contains route || deleteFailedFor pass.failing route ||
    (retryOnly && !(previous.any fun failure => failure.route == route && failure.operation == .add) &&
      !deleteFailedFor previous route)

def installRoute (actions : RouteActions C) (previous : List MacosRouteFailure) (current : List MacosRoute)
    (retryOnly : Bool) (pass : RoutePass) (route : MacosRoute) : Program C RoutePass := do
  if skipsRoute previous current retryOnly pass route then return pass
  else match ← actions.add route with
    | .ok .owned => return { pass with installed := pass.installed ++ [route], added := pass.added + 1 }
    | .ok .foreign => return pass
    | .error error =>
      return { pass with failing := pass.failing ++ [⟨route, .add, error⟩], errors := pass.errors + 1 }

/-- Bring the owned routes in line with `desired` and record the operations that failed. -/
def macosApplyRoutePlan (routing : MacosRoutingState) (desired : List MacosRoute) (retryOnly : Bool)
    (actions : RouteActions C) : Program C (MacosRoutingState × RoutePass) := do
  let released ← routing.routesAdded.foldlM (releaseRoute actions desired) .start
  let pass ← desired.foldlM (installRoute actions routing.failing routing.routesAdded retryOnly) released
  return ({ routing with routesAdded := pass.installed, failing := pass.failing }, pass)

/-- The pass's own system calls. -/
def routeActions (inputs : MacosReconcileInputs) (localSubnets : List Subnet) : RouteActions routeCommands where
  delete := delMacosRoute
  add := addMacosRoute
  restore := fun route => macosRestoreShadowedLanRoute route localSubnets inputs.interface

/-- Re-apply routing when the host network changed or an operation failed before. -/
def macosReconcileRoutes (inputs : MacosReconcileInputs) (routing : MacosRoutingState) :
    RouteProgram (MacosRoutingState × Bool) := do
  match ← macosCurrentFingerprint inputs (.keep routing.fingerprint.endpointGateway) with
  | .error _ => return (routing, false)
  | .ok fingerprint =>
    let retry := fingerprint = routing.fingerprint
    if retry ∧ routing.failing.isEmpty then return (routing, false)
    else
      let (routing, pass) ← macosApplyRoutePlan routing (macosDesiredRoutes inputs fingerprint) retry
        (routeActions inputs fingerprint.localSubnets)
      return ({ routing with fingerprint }, !(decide retry && pass.added + pass.removed == 0))

end Wgd.Routes
