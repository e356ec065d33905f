import Wgd.Dns.Plan
import Wgd.Dns.Helper
import Wgd.Interaction.Footprint
import Wgd.Routes.Bypassing
import Wgd.Routes.Survival

/-! The network overview of a tunnel (`userspace_helper/macos/overview.rs`). It says of
every route and every network service what the reconciler makes of it. -/

set_option autoImplicit false

namespace Wgd.Helper

open Wgd.Net Wgd.Links Wgd.Routes Wgd.Interaction
open Wgd.Dns (Setting MacosDnsFingerprint MacosDnsServiceState DnsDecision dnsDecision dnsPolicy
  macosDnsServerInLocalSubnet planDnsActions showsTunnel mem_capture mem_restore mem_drop mem_apply mem_targets)

/-! ### The rows -/

inductive IpFamily where
  | ipv4
  | ipv6
  deriving DecidableEq, Repr

inductive RouteVia where
  | none
  | interface (name : String)
  | gateway (address : String)
  | direct (device : Option String)
  | system
  deriving DecidableEq, Repr

/-- What the kernel routing table holds for the destination. -/
inductive LiveRoute where
  | notProbed
  | absent
  | present (interface gateway : Option String)
  deriving DecidableEq, Repr

inductive RouteOutcome where
  | endpointPinned
  | endpointPinMissing
  | excludedLocalSubnet (subnet : String)
  | excludedLinked (anchor : String) (device egress : Option String)
  | linkedStillTunneled (anchor : String)
  | owned
  | ownedAbsentFromKernel
  | ownedKernelDisagrees
  | blocked (holder : Option String)
  | reconcilePending
  | noAddressForFamily
  | noLongerDesired
  deriving DecidableEq, Repr

structure RouteRow where
  destination : String
  via : RouteVia
  family : IpFamily
  live : LiveRoute
  outcome : RouteOutcome
  deriving DecidableEq, Repr

inductive DnsServiceStatus where
  | tunnelDnsActive
  | ownedPendingReapply
  | alreadyTunnelDns
  | targetNotOwned
  | ownedHeldNoPrimary
  | ownedPendingRestore
  | staleTunnelDnsOnLan
  | notTargeted
  deriving DecidableEq, Repr

structure DnsServiceRow where
  service : String
  primary : Bool
  liveDns : Setting
  owned : Bool
  originalDns : Setting
  status : DnsServiceStatus
  deriving DecidableEq, Repr

structure DnsCollision where
  server : String
  localSubnet : String
  deriving DecidableEq, Repr

structure DnsOverview where
  tunnelServers : List String
  primaryService : Option String
  unreachable : Option DnsCollision
  dormant : Bool
  services : List DnsServiceRow
  deriving DecidableEq, Repr

structure NetworkOverview where
  interface : String
  endpoint : String
  endpointPin : Bool
  gateway : Option String
  localSubnets : List String
  routes : List RouteRow
  dns : DnsOverview
  deriving DecidableEq, Repr

/-! ### Routes -/

def subnetText (subnet : Subnet) : String := s!"{subnet.1.toText}/{subnet.2}"

/-- The destination normalized to its network base. -/
def macosRouteDisplayDestination (route : MacosRoute) : String :=
  match macosRouteDestination route with
  | some destination => subnetText destination
  | none => route.destination

def macosLiveRoute : Option MacosRouteEntry → LiveRoute
  | none => .absent
  | some entry => .present entry.interface entry.gateway

def macosIpFamily (isIpv6 : Bool) : IpFamily := if isIpv6 then .ipv6 else .ipv4

/-- The device that carries a connected subnet. -/
def macosConnectedSubnetDevice (subnet : Subnet) (tunnelInterface : String) : RouteProgram (Option String) := do
  let connected ← Routes.issue (.macosConnectedSubnetsByDevice tunnelInterface)
  return ((connected.getD []).find? fun entry => entry.2 = subnet).map Prod.fst

/-- Where the kernel sends a prefix that an active link should have taken off the tunnel. -/
inductive LinkEgress where
  | stillTunneled
  | elsewhere (interface : String)
  | expected
  deriving DecidableEq, Repr

/-- The lookup wins over the bookkeeping; without an answer a route still held counts as tunneled. -/
def macosLinkEgress (device : Option String) (tunnelInterface : String) (stillOwned : Bool) (actual : Option String) :
    LinkEgress :=
  match actual with
  | some actual =>
    if actual = tunnelInterface then .stillTunneled
    else if device.any fun device => device != actual then .elsewhere actual
    else .expected
  | none => if stillOwned then .stillTunneled else .expected

/-- The lookups of the rows, injected: the table entry for a route's destination, and the
interface the kernel would send it through. -/
structure RouteLookups where
  probe : MacosRoute → RouteProgram (Option MacosRouteEntry)
  egress : MacosRoute → RouteProgram (Option String)

def RouteLookups.probePin (lookups : RouteLookups) : Option MacosRoute → RouteProgram (Option MacosRouteEntry)
  | some pin => lookups.probe pin
  | none => .done none

def endpointRows (inputs : MacosReconcileInputs) (owned : List MacosRoute) (lookups : RouteLookups) :
    RouteProgram (List RouteRow) := do
  if inputs.endpointNeedsPin then
    let endpoint := inputs.endpoint.toText
    let pin := owned.find? fun route => route.gateway.isSome && route.destination == endpoint
    let entry ← lookups.probePin pin
    let via := match pin.bind MacosRoute.gateway with
      | some gateway => RouteVia.gateway gateway
      | none => .none
    let outcome := if pin.isSome then RouteOutcome.endpointPinned else .endpointPinMissing
    return [⟨endpoint, via, macosIpFamily inputs.endpointIsIpv6, macosLiveRoute entry, outcome⟩]
  else return []

/-- How the row of an AllowedIPs route reads, given what the kernel holds. -/
def candidateOutcome (inputs : MacosReconcileInputs) (fingerprint : MacosNetworkFingerprint) (owned : List MacosRoute)
    (lookups : RouteLookups) (route : MacosRoute) (entry : Option MacosRouteEntry) :
    RouteProgram (RouteVia × RouteOutcome) := do
  match macosRouteExcludedByLocalSubnet route fingerprint.localSubnets with
  | some subnet =>
    let device ← macosConnectedSubnetDevice subnet inputs.interface
    return (.direct device, .excludedLocalSubnet (subnetText subnet))
  | none =>
    match macosRouteExcludedByLink route fingerprint.localSubnets inputs.bypassLinks with
    | some exclusion =>
      let device ← macosConnectedSubnetDevice exclusion.subnet inputs.interface
      let actual ← lookups.egress route
      let anchor := exclusion.anchor.toText
      match macosLinkEgress device inputs.interface (owned.contains route) actual with
      | .stillTunneled => return (.interface inputs.interface, .linkedStillTunneled anchor)
      | .elsewhere interface => return (.direct device, .excludedLinked anchor device (some interface))
      | .expected => return (.direct device, .excludedLinked anchor device none)
    | none =>
      if owned.contains route then
        let kernelAgrees := entry.any fun entry => entry.interface == route.interface && !entry.hasGateway
        let outcome := if kernelAgrees then RouteOutcome.owned
          else if entry.isNone then .ownedAbsentFromKernel
          else .ownedKernelDisagrees
        return (.interface inputs.interface, outcome)
      else match entry with
        | some entry =>
          if entry.isTunnelOwned then return (.none, .reconcilePending)
          else return (.none, .blocked entry.interface)
        | none => return (.none, .reconcilePending)

def candidateRow (inputs : MacosReconcileInputs) (fingerprint : MacosNetworkFingerprint) (owned : List MacosRoute)
    (lookups : RouteLookups) (route : MacosRoute) : RouteProgram RouteRow := do
  let entry ← lookups.probe route
  let (via, outcome) ← candidateOutcome inputs fingerprint owned lookups route entry
  return ⟨macosRouteDisplayDestination route, via, macosIpFamily route.isIpv6, macosLiveRoute entry, outcome⟩

/-- The AllowedIPs of a family the tunnel has no address for. -/
def familyRows (inputs : MacosReconcileInputs) : List RouteRow :=
  inputs.allowedIps.filterMap fun allowed =>
    let isIpv6 := allowed.toList.contains ':'
    if (isIpv6 && !inputs.hasIpv6Address) || (!isIpv6 && !inputs.hasIpv4Address) then
      some ⟨allowed, .none, macosIpFamily isIpv6, .notProbed, .noAddressForFamily⟩
    else none

/-- The row of an owned route that no longer comes from the AllowedIPs. -/
def leftoverRow (lookups : RouteLookups) (route : MacosRoute) : RouteProgram RouteRow := do
  let entry ← lookups.probe route
  let via := match route.gateway, route.interface with
    | some gateway, _ => RouteVia.gateway gateway
    | none, some interface => .interface interface
    | none, none => .system
  return ⟨macosRouteDisplayDestination route, via, macosIpFamily route.isIpv6, macosLiveRoute entry, .noLongerDesired⟩

def macosRouteOverviewRows (inputs : MacosReconcileInputs) (fingerprint : MacosNetworkFingerprint)
    (owned : List MacosRoute) (lookups : RouteLookups) : RouteProgram (List RouteRow) := do
  let endpoint ← endpointRows inputs owned lookups
  let candidates := macosAllowedRoutes inputs.allowedIps inputs.interface inputs.hasIpv4Address inputs.hasIpv6Address
  let allowed ← candidates.mapM (candidateRow inputs fingerprint owned lookups)
  let leftovers := owned.filter fun route =>
    !(candidates.contains route || (inputs.endpointNeedsPin && route.gateway.isSome))
  let undesired ← leftovers.mapM (leftoverRow lookups)
  return endpoint ++ allowed ++ familyRows inputs ++ undesired

/-! ### DNS -/

/-- The status of a service, in shadow mode from the reconciler's own decision. -/
def dnsServiceStatus (targeted owned liveMatchesTunnel held unreachable : Bool) : DnsServiceStatus :=
  match targeted, owned, liveMatchesTunnel with
  | true, true, true => .tunnelDnsActive
  | true, true, false => .ownedPendingReapply
  | true, false, true => .alreadyTunnelDns
  | true, false, false => .targetNotOwned
  | false, true, _ => if held then .ownedHeldNoPrimary else .ownedPendingRestore
  | false, false, live => if live && unreachable then .staleTunnelDnsOnLan else .notTargeted

def dnsServiceRow (inputs : MacosReconcileInputs) (ownedDns : List MacosDnsServiceState)
    (dnsFingerprint : MacosDnsFingerprint) (targets : List String) (held unreachable : Bool) (service : String) :
    DnsServiceRow :=
  let liveDns := (dnsFingerprint.observed.find? fun entry => entry.1 == service).bind Prod.snd
  let owned := ownedDns.find? fun state => state.service == service
  { service
    primary := dnsFingerprint.primaryService == some service
    liveDns
    owned := owned.isSome
    originalDns := owned.bind MacosDnsServiceState.dnsServers
    status := dnsServiceStatus (targets.contains service) owned.isSome (liveDns == some inputs.dnsServers) held unreachable }

def macosDnsOverview (inputs : MacosReconcileInputs) (ownedDns : List MacosDnsServiceState)
    (dnsFingerprint : MacosDnsFingerprint) (unreachable : Option DnsCollision) : DnsOverview :=
  let decision := dnsDecision dnsPolicy dnsFingerprint unreachable.isSome
  let networksetup := inputs.dnsMode == .shadow
  let targets := if networksetup then decision.targets else []
  let held := networksetup && decision == .hold
  { tunnelServers := inputs.dnsServers
    primaryService := dnsFingerprint.primaryService
    unreachable
    dormant := unreachable.isSome || held
    services := dnsFingerprint.services.map
      (dnsServiceRow inputs ownedDns dnsFingerprint targets held unreachable.isSome) }

def dnsCollision (inputs : MacosReconcileInputs) (localSubnets : List Subnet) : Option DnsCollision :=
  (macosDnsServerInLocalSubnet inputs.dnsServers localSubnets).map fun (server, subnet) =>
    ⟨server.toText, subnetText subnet⟩

/-- The overview, without the host's foreign tunnels and its own resolver. -/
def assembleMacosNetworkOverview (inputs : MacosReconcileInputs) (routes : List MacosRoute)
    (routeFingerprint : MacosNetworkFingerprint) (ownedDns : List MacosDnsServiceState)
    (dnsFingerprint : MacosDnsFingerprint) (lookups : RouteLookups) : RouteProgram NetworkOverview := do
  let rows ← macosRouteOverviewRows inputs routeFingerprint routes lookups
  return {
    interface := inputs.interface
    endpoint := inputs.endpoint.toText
    endpointPin := inputs.endpointNeedsPin
    gateway := routeFingerprint.endpointGateway
    localSubnets := routeFingerprint.localSubnets.map subnetText
    routes := rows
    dns := macosDnsOverview inputs ownedDns dnsFingerprint (dnsCollision inputs routeFingerprint.localSubnets) }

/-! ### The overview and the reconciler -/

/-- The row says that the route is kept off the tunnel, or should be. -/
def RouteOutcome.isExclusion : RouteOutcome → Bool
  | .excludedLocalSubnet _ | .excludedLinked _ _ _ | .linkedStillTunneled _ => true
  | _ => false

theorem candidateOutcome_excluded (inputs : MacosReconcileInputs) (fingerprint : MacosNetworkFingerprint)
    (owned : List MacosRoute) (lookups : RouteLookups) (route : MacosRoute) (entry : Option MacosRouteEntry) :
    @Issues routeCommands _ (fun _ => True) (candidateOutcome inputs fingerprint owned lookups route entry) fun answer =>
      (answer.2.isExclusion = true ↔ (macosRouteExcludedByLocalSubnet route fingerprint.localSubnets).isSome = true ∨
        (macosRouteExcludedByLink route fingerprint.localSubnets inputs.bypassLinks).isSome = true) := by
  unfold candidateOutcome
  cases attached : macosRouteExcludedByLocalSubnet route fingerprint.localSubnets with
  | some subnet =>
    apply Issues.bind (.any _)
    intro device _
    simp [RouteOutcome.isExclusion]
  | none =>
    cases linked : macosRouteExcludedByLink route fingerprint.localSubnets inputs.bypassLinks with
    | some exclusion =>
      apply Issues.bind (.any _)
      intro device _
      apply Issues.bind (.any _)
      intro actual _
      dsimp only
      cases macosLinkEgress device inputs.interface (owned.contains route) actual with
      | stillTunneled => simp [RouteOutcome.isExclusion]
      | elsewhere interface => simp [RouteOutcome.isExclusion]
      | expected => simp [RouteOutcome.isExclusion]
    | none =>
      dsimp only
      split
      · simp only [Issues.pure_iff]
        split
        · simp [RouteOutcome.isExclusion]
        · split
          · simp [RouteOutcome.isExclusion]
          · simp [RouteOutcome.isExclusion]
      · cases entry with
        | none => simp [RouteOutcome.isExclusion]
        | some entry =>
          dsimp only
          split
          · simp [RouteOutcome.isExclusion]
          · simp [RouteOutcome.isExclusion]

/-- The row belongs to the route, and says that it is excluded if the reconciler leaves it out. -/
structure Reports (inputs : MacosReconcileInputs) (fingerprint : MacosNetworkFingerprint) (route : MacosRoute)
    (row : RouteRow) : Prop where
  destination : row.destination = macosRouteDisplayDestination route
  family : row.family = macosIpFamily route.isIpv6
  excluded : row.outcome.isExclusion = true ↔ route ∉ macosDesiredRoutes inputs fingerprint

theorem candidateRow_reports {inputs : MacosReconcileInputs} {fingerprint : MacosNetworkFingerprint} {route : MacosRoute}
    (owned : List MacosRoute) (lookups : RouteLookups)
    (candidate : route ∈ macosAllowedRoutes inputs.allowedIps inputs.interface inputs.hasIpv4Address inputs.hasIpv6Address) :
    @Issues routeCommands _ (fun _ => True) (candidateRow inputs fingerprint owned lookups route)
      (Reports inputs fingerprint route) := by
  obtain ⟨device, direct⟩ := mem_macosAllowedRoutes candidate
  have tunnel : route.IsTunnelRoute := ⟨by rw [device]; rfl, direct⟩
  apply Issues.bind (.any _)
  intro entry _
  apply Issues.bind (candidateOutcome_excluded inputs fingerprint owned lookups route entry)
  intro answer excluded
  refine ⟨rfl, rfl, ?_⟩
  rw [mem_desired_tunnel_iff tunnel, excluded]
  simp only [candidate, true_and]
  tauto

/-- What is said of routes other than those of the AllowedIPs is no exclusion. -/
theorem endpointRows_other (inputs : MacosReconcileInputs) (owned : List MacosRoute) (lookups : RouteLookups) :
    @Issues routeCommands _ (fun _ => True) (endpointRows inputs owned lookups)
      fun rows => ∀ row ∈ rows, row.outcome.isExclusion = false := by
  unfold endpointRows
  split
  · apply Issues.bind (.any _)
    intro entry _ row member
    rw [List.mem_singleton] at member
    rw [member]
    dsimp only
    split
    · rfl
    · rfl
  · intro row member
    cases member

theorem leftoverRow_other (lookups : RouteLookups) (route : MacosRoute) :
    @Issues routeCommands _ (fun _ => True) (leftoverRow lookups route) fun row => row.outcome.isExclusion = false := by
  apply Issues.bind (.any _)
  intro entry _
  rfl

theorem familyRows_other {inputs : MacosReconcileInputs} {row : RouteRow} (member : row ∈ familyRows inputs) :
    row.outcome.isExclusion = false := by
  obtain ⟨allowed, -, made⟩ := List.mem_filterMap.mp member
  dsimp only at made
  split at made
  · cases made
    rfl
  · cases made

/-- One row for each route of the AllowedIPs, in their order, among rows that exclude nothing. -/
def RoutesAgree (inputs : MacosReconcileInputs) (fingerprint : MacosNetworkFingerprint) (rows : List RouteRow) : Prop :=
  ∃ before allowed after, rows = before ++ allowed ++ after ∧
    List.Forall₂ (Reports inputs fingerprint)
      (macosAllowedRoutes inputs.allowedIps inputs.interface inputs.hasIpv4Address inputs.hasIpv6Address) allowed ∧
    ∀ row ∈ before ++ after, row.outcome.isExclusion = false

theorem routeRows_agree (inputs : MacosReconcileInputs) (fingerprint : MacosNetworkFingerprint) (owned : List MacosRoute)
    (lookups : RouteLookups) :
    @Issues routeCommands _ (fun _ => True) (macosRouteOverviewRows inputs fingerprint owned lookups)
      (RoutesAgree inputs fingerprint) := by
  unfold macosRouteOverviewRows
  apply Issues.bind (endpointRows_other inputs owned lookups)
  intro endpoint first
  apply Issues.bind (Issues.mapM fun route candidate => candidateRow_reports owned lookups candidate)
  intro allowed reported
  apply Issues.bind (Issues.mapM_each fun route _ => leftoverRow_other lookups route)
  intro undesired last
  refine ⟨endpoint, allowed, familyRows inputs ++ undesired, by simp, reported, ?_⟩
  intro row member
  rw [List.mem_append, List.mem_append] at member
  rcases member with member | member | member
  · exact first row member
  · exact familyRows_other member
  · exact last row member

/-- The plan of a DNS reconcile on the same fingerprints. -/
def dnsPlan (inputs : MacosReconcileInputs) (localSubnets : List Subnet) (ownedDns : List MacosDnsServiceState)
    (dnsFingerprint : MacosDnsFingerprint) : Dns.DnsActions :=
  let collision := macosDnsServerInLocalSubnet inputs.dnsServers localSubnets
  let decision := dnsDecision dnsPolicy dnsFingerprint collision.isSome
  planDnsActions inputs.dnsServers dnsFingerprint (ownedDns.map MacosDnsServiceState.service) decision.targets

/-- The statuses of the listed services are what the plan does about them. -/
structure DnsAgrees (plan : Dns.DnsActions) (dnsFingerprint : MacosDnsFingerprint) (owned : List String)
    (rows : List DnsServiceRow) : Prop where
  listed : rows.map DnsServiceRow.service = dnsFingerprint.services
  apply : ∀ row ∈ rows, row.service ∈ plan.apply ↔ row.status = .ownedPendingReapply ∨ row.status = .targetNotOwned
  capture : ∀ row ∈ rows, row.service ∈ plan.capture ↔ row.status = .alreadyTunnelDns ∨ row.status = .targetNotOwned
  restore : ∀ row ∈ rows, row.service ∈ plan.restore ↔ row.status = .ownedPendingRestore
  drop : ∀ service ∈ owned, (∀ row ∈ rows, row.service ≠ service) ↔ service ∈ plan.drop

section Statuses

variable {targeted owned live unreachable : Bool}

theorem status_apply : dnsServiceStatus targeted owned live false unreachable = .ownedPendingReapply ∨
    dnsServiceStatus targeted owned live false unreachable = .targetNotOwned ↔ targeted = true ∧ live = false := by
  cases targeted <;> cases owned <;> cases live <;> cases unreachable <;> decide

theorem status_capture : dnsServiceStatus targeted owned live false unreachable = .alreadyTunnelDns ∨
    dnsServiceStatus targeted owned live false unreachable = .targetNotOwned ↔ targeted = true ∧ owned = false := by
  cases targeted <;> cases owned <;> cases live <;> cases unreachable <;> decide

theorem status_restore : dnsServiceStatus targeted owned live false unreachable = .ownedPendingRestore ↔
    targeted = false ∧ owned = true := by
  cases targeted <;> cases owned <;> cases live <;> cases unreachable <;> decide

end Statuses

theorem find?_service_isSome {ownedDns : List MacosDnsServiceState} {service : String} :
    (ownedDns.find? fun state => state.service == service).isSome = true ↔
      service ∈ ownedDns.map MacosDnsServiceState.service := by
  simp

theorem dnsRows_agree {inputs : MacosReconcileInputs} {ownedDns : List MacosDnsServiceState}
    {dnsFingerprint : MacosDnsFingerprint} {targets : List String} (unreachable : Bool)
    (present : ∀ target ∈ targets, target ∈ dnsFingerprint.services) :
    DnsAgrees (planDnsActions inputs.dnsServers dnsFingerprint (ownedDns.map MacosDnsServiceState.service) targets)
      dnsFingerprint (ownedDns.map MacosDnsServiceState.service)
      (dnsFingerprint.services.map (dnsServiceRow inputs ownedDns dnsFingerprint targets false unreachable)) := by
  constructor
  · rw [List.map_map]
    exact List.map_id _
  · intro row member
    obtain ⟨service, listed, rfl⟩ := List.mem_map.mp member
    rw [dnsServiceRow, status_apply, mem_apply, showsTunnel, List.contains_iff_mem]
  · intro row member
    obtain ⟨service, listed, rfl⟩ := List.mem_map.mp member
    rw [dnsServiceRow, status_capture, mem_capture, ← find?_service_isSome, List.contains_iff_mem, Bool.not_eq_true]
  · intro row member
    obtain ⟨service, listed, rfl⟩ := List.mem_map.mp member
    rw [dnsServiceRow, status_restore, mem_restore, find?_service_isSome, ← Bool.not_eq_true, List.contains_iff_mem]
    constructor
    · intro restored
      exact ⟨restored.2.1, restored.1⟩
    · intro pending
      exact ⟨pending.2, pending.1, listed⟩
  · intro service owned
    have missing : (∀ row ∈ dnsFingerprint.services.map
        (dnsServiceRow inputs ownedDns dnsFingerprint targets false unreachable), row.service ≠ service) ↔
          service ∉ dnsFingerprint.services := by
      rw [List.forall_mem_map]
      constructor
      · intro apart listed
        exact apart service listed rfl
      · intro absent other listed same
        exact absent (same ▸ listed)
    rw [missing, mem_drop]
    constructor
    · intro absent
      exact ⟨owned, fun target => absent (present service target), absent⟩
    · intro dropped
      exact dropped.2.2

theorem dnsOverview_agrees {inputs : MacosReconcileInputs} {localSubnets : List Subnet}
    {ownedDns : List MacosDnsServiceState} {dnsFingerprint : MacosDnsFingerprint} (shadow : inputs.dnsMode = .shadow)
    (settled : dnsDecision dnsPolicy dnsFingerprint (macosDnsServerInLocalSubnet inputs.dnsServers localSubnets).isSome ≠ .hold) :
    DnsAgrees (dnsPlan inputs localSubnets ownedDns dnsFingerprint) dnsFingerprint
      (ownedDns.map MacosDnsServiceState.service)
      (macosDnsOverview inputs ownedDns dnsFingerprint (dnsCollision inputs localSubnets)).services := by
  have collision : (dnsCollision inputs localSubnets).isSome =
      (macosDnsServerInLocalSubnet inputs.dnsServers localSubnets).isSome := by
    simp [dnsCollision]
  have free : (dnsDecision dnsPolicy dnsFingerprint
      (macosDnsServerInLocalSubnet inputs.dnsServers localSubnets).isSome == .hold) = false := by
    simpa using settled
  simp only [macosDnsOverview, dnsPlan, collision, shadow, beq_self_eq_true, Bool.true_and, if_true, free]
  exact dnsRows_agree _ fun target member => (mem_targets member).2.1

/-- The overview says what the reconciler does: in shadow mode, unless the decision is to hold,
the status of every service is what the plan does about it, and of the AllowedIPs routes those
are reported as excluded or linked that the reconciler leaves out. -/
theorem overview_agrees {inputs : MacosReconcileInputs} {routes : List MacosRoute}
    {routeFingerprint : MacosNetworkFingerprint} {ownedDns : List MacosDnsServiceState}
    {dnsFingerprint : MacosDnsFingerprint} {lookups : RouteLookups} {overview : NetworkOverview}
    (shown : MayReturn (assembleMacosNetworkOverview inputs routes routeFingerprint ownedDns dnsFingerprint lookups) overview)
    (shadow : inputs.dnsMode = .shadow)
    (settled : dnsDecision dnsPolicy dnsFingerprint
      (macosDnsServerInLocalSubnet inputs.dnsServers routeFingerprint.localSubnets).isSome ≠ .hold) :
    DnsAgrees (dnsPlan inputs routeFingerprint.localSubnets ownedDns dnsFingerprint) dnsFingerprint
        (ownedDns.map MacosDnsServiceState.service) overview.dns.services ∧
      RoutesAgree inputs routeFingerprint overview.routes := by
  have agrees : @Issues routeCommands _ (fun _ => True)
      (assembleMacosNetworkOverview inputs routes routeFingerprint ownedDns dnsFingerprint lookups) fun overview =>
        overview.dns = macosDnsOverview inputs ownedDns dnsFingerprint (dnsCollision inputs routeFingerprint.localSubnets) ∧
          RoutesAgree inputs routeFingerprint overview.routes := by
    apply Issues.bind (routeRows_agree inputs routeFingerprint routes lookups)
    intro rows agree
    exact ⟨rfl, agree⟩
  obtain ⟨same, agree⟩ := agrees.mayReturn shown
  rw [same]
  exact ⟨dnsOverview_agrees shadow settled, agree⟩

/-- At home: the LAN is one of the AllowedIPs, and Ethernet was the primary service before. -/
def homeInputs : MacosReconcileInputs where
  interface := "utun5"
  endpoint := .v4 0xc6336401
  endpointIsIpv6 := false
  endpointNeedsPin := false
  allowedIps := ["192.168.1.0/24", "10.20.0.0/16"]
  dnsServers := ["10.20.0.1"]
  hasIpv4Address := true
  hasIpv6Address := false
  custody := none
  dnsMode := .shadow
  bypassLinks := []

def homeRoutes : MacosNetworkFingerprint := ⟨[(.v4 0xc0a80100, 24)], none⟩

def homeServices : MacosDnsFingerprint :=
  ⟨some "Wi-Fi", ["Ethernet", "Wi-Fi"], [("Ethernet", some ["10.20.0.1"]), ("Wi-Fi", none)]⟩

def noLookups : RouteLookups := ⟨fun _ => .done none, fun _ => .done none⟩

def quietHost : (op : RouteOp) → op.Reply
  | .routeAdd _ _ _ | .routeDelete _ _ _ => .ok true
  | .routeGet _ => none
  | .getMacosDefaultGateway _ => .ok none
  | .macosConnectedSubnetsByDevice _ => some [("en0", (.v4 0xc0a80100, 24))]
  | .ifconfig _ => .ok ()

def homeOverview : NetworkOverview :=
  (interpret (Handler.fixed quietHost : Handler routeCommands Unit)
    (assembleMacosNetworkOverview homeInputs [] homeRoutes [⟨"Ethernet", none, none⟩] homeServices noLookups) ()).1

theorem overview_agrees_home :
    (homeOverview.routes.map RouteRow.outcome = [.excludedLocalSubnet "192.168.1.0/24", .reconcilePending] ∧
      homeOverview.dns.services.map DnsServiceRow.status = [.ownedPendingRestore, .targetNotOwned]) ∧
    DnsAgrees (dnsPlan homeInputs homeRoutes.localSubnets [⟨"Ethernet", none, none⟩] homeServices) homeServices ["Ethernet"]
      homeOverview.dns.services ∧ RoutesAgree homeInputs homeRoutes homeOverview.routes := by
  constructor
  · decide +kernel
  · exact overview_agrees (mayReturn_interpret _ _ ()) rfl (by decide +kernel)

end Wgd.Helper
