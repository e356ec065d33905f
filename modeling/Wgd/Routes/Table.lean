import Mathlib.Logic.Function.Basic
import Wgd.Interaction.Session
import Wgd.Net.Address

/-! One route at a time (`userspace_helper/macos/route_table.rs`): the commands
that read and write the kernel routing table, and what the helper makes of them. -/

set_option autoImplicit false

namespace Wgd.Routes

open Wgd.Net Wgd.Interaction

structure MacosRoute where
  isIpv6 : Bool
  destination : String
  interface : Option String
  gateway : Option String
  deriving DecidableEq, Repr

/-- One entry of the kernel routing table, as `route -n get` reports it. -/
structure MacosRouteEntry where
  destination : Subnet
  interface : Option String
  gateway : Option String
  deriving DecidableEq, Repr

/-- Whether the tunnel ends up owning a route it tried to install. -/
inductive MacosRouteInstall where
  | owned
  | foreign
  deriving DecidableEq, Repr

inductive TargetKind where
  | host
  | net
  deriving DecidableEq, Repr

inductive RouteOp where
  | routeAdd (route : MacosRoute) (kind : Option TargetKind) (ifscope : Option String)
  | routeDelete (route : MacosRoute) (kind : TargetKind) (ifscope : Option String)
  | routeGet (destination : Subnet)
  | getMacosDefaultGateway (isIpv6 : Bool)
  | macosConnectedSubnetsByDevice (tunnelInterface : String)
  | ifconfig (args : List String)
  deriving DecidableEq, Repr

/-- `routeAdd` says whether the route was created or existed before, `routeDelete`
whether it was removed or not in the table. -/
@[reducible] def RouteOp.Reply : RouteOp → Type
  | .routeAdd _ _ _ | .routeDelete _ _ _ => Except String Bool
  | .routeGet _ => Option MacosRouteEntry
  | .getMacosDefaultGateway _ => Except String (Option String)
  | .macosConnectedSubnetsByDevice _ => Option (List (String × Subnet))
  | .ifconfig _ => Except String Unit

abbrev routeCommands : Commands := ⟨RouteOp, RouteOp.Reply⟩

abbrev RouteProgram (A : Type) := Program routeCommands A

def issue (op : RouteOp) : RouteProgram op.Reply := @Program.command routeCommands op

namespace MacosRouteEntry

def hasGateway (entry : MacosRouteEntry) : Bool := entry.gateway.isSome

/-- True when a tunnel device holds this prefix directly. -/
def isTunnelOwned (entry : MacosRouteEntry) : Bool :=
  !entry.hasGateway && entry.interface.any fun device => "utun".toList.isPrefixOf device.toList

end MacosRouteEntry

/-- The destination of a route as a network base and prefix length. -/
def macosRouteDestination (route : MacosRoute) : Option Subnet := do
  let (ip, length) ←
    if route.destination.toList.contains '/' then parseCidr route.destination
    else (parseIpAddr route.destination.toList).map fun ip => (ip, ip.hostPrefix)
  some (macosNetworkBase ip length, length)

/-- Whether a routing-table entry reflects the current network state. -/
def macosRouteEntryIsLive (entry : MacosRouteEntry) (connected : List (String × Subnet)) : Bool :=
  if entry.hasGateway then true
  else match entry.interface with
    | none => true
    | some holder => connected.any fun (device, attached) => device == holder &&
        (macosSubnetContains attached entry.destination || macosSubnetContains entry.destination attached)

def macosRouteTargetKind (route : MacosRoute) : TargetKind :=
  let hostPrefix := if route.isIpv6 then "/128" else "/32"
  if route.gateway.isSome || hostPrefix.toList.isSuffixOf route.destination.toList ||
      !route.destination.toList.contains '/' then .host
  else .net

/-- The table entry for exactly this prefix, not a broader route that covers it. -/
def macosRouteTableEntry (destination : Subnet) : RouteProgram (Option MacosRouteEntry) := do
  let answer ← issue (.routeGet destination)
  return answer.filter fun entry => entry.destination = destination

/-- The exact entry for a route, if its destination can be read. -/
def macosRouteEntryOf (route : MacosRoute) : RouteProgram (Option MacosRouteEntry) :=
  match macosRouteDestination route with
  | none => return none
  | some destination => macosRouteTableEntry destination

/-- Best-effort delete of the entry for a route's prefix. Returns the entry that
still occupies it, if that is not a tunnel's. -/
def macosClearRouteEntry (route : MacosRoute) (ifscope : Option String) : RouteProgram (Option MacosRouteEntry) := do
  let kind := macosRouteTargetKind route
  let _ ← issue (.routeDelete route kind none)
  match ifscope with
  | none => pure ()
  | some device => let _ ← issue (.routeDelete route kind (some device))
  let remaining ← macosRouteEntryOf route
  return remaining.filter fun entry => !entry.isTunnelOwned

/-- The clearing of the prefix before a dev-bound add: whether the prefix has to be left alone. -/
def macosPrefixIsForeign (route : MacosRoute) (tunnel : String) : RouteProgram Bool := do
  match ← macosRouteEntryOf route with
  | none => return false
  | some entry =>
    if entry.isTunnelOwned then
      return (← macosClearRouteEntry route none).isSome
    else
      let isLive ← match ← issue (.macosConnectedSubnetsByDevice tunnel) with
        | some connected => pure (macosRouteEntryIsLive entry connected)
        -- A failed read cannot tell a live route from a stale one.
        | none => pure true
      if isLive then return true
      else return (← macosClearRouteEntry route entry.interface).isSome

def addMacosRoute (route : MacosRoute) : RouteProgram (Except String MacosRouteInstall) := do
  let isForeign ← match route.interface, route.gateway with
    | some tunnel, none => macosPrefixIsForeign route tunnel
    | _, _ => pure false
  if isForeign then return .ok .foreign
  else (issue (.routeAdd route none none)).attempt fun _created => return .ok .owned

def delMacosRoute (route : MacosRoute) : RouteProgram (Except String Unit) :=
  (issue (.routeDelete route (macosRouteTargetKind route) none)).attempt fun _removed => return .ok ()

/-- The connected subnet that makes a tunnel route local. -/
def macosRouteExcludedByLocalSubnet (route : MacosRoute) (localSubnets : List Subnet) : Option Subnet :=
  match route.interface, route.gateway with
  | some _, none => do
    let (ip, length) ← parseCidr route.destination
    localSubnets.find? fun connected => macosSubnetContains connected (macosNetworkBase ip length, length)
  | _, _ => none

/-- Put back the connected route of a LAN whose prefix a tunnel route held. -/
def macosRestoreShadowedLanRoute (route : MacosRoute) (localSubnets : List Subnet) (tunnelInterface : String) :
    RouteProgram Unit := do
  match macosRouteExcludedByLocalSubnet route localSubnets with
  | none => return ()
  | some subnet =>
    if (← macosRouteTableEntry subnet).isSome then return ()
    else
      let connected ← issue (.macosConnectedSubnetsByDevice tunnelInterface)
      match (connected.getD []).find? fun entry => entry.2 = subnet with
      | none => return ()
      | some (device, _) =>
        let destination := subnet.1.toText ++ "/" ++ toString subnet.2
        let _ ← issue (.routeAdd ⟨subnet.1.isIpv6, destination, some device, none⟩ (some .net) (some device))
        return ()

end Wgd.Routes
