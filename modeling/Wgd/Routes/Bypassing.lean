import Wgd.Links.Validation
import Wgd.Net.Containment
import Wgd.Net.Display
import Wgd.Routes.Reconcile

/-! Validated bypass links and the routes they take off the tunnel. The links are
checked against the AllowedIPs as networks, the routes come from their texts. -/

set_option autoImplicit false

namespace Wgd.Routes

open Wgd.Net Wgd.Links Wgd.Helper

/-! ### The networks of the tunnel routes -/

/-- Only an interface, and no gateway. -/
def MacosRoute.IsTunnelRoute (route : MacosRoute) : Prop := route.interface.isSome = true ∧ route.gateway = none

/-- A tunnel route whose destination is the text of this network. -/
structure Carries (route : MacosRoute) (net : IpNet) : Prop where
  tunnel : route.IsTunnelRoute
  parses : parseCidr route.destination = some (net.addr, net.prefixLen)
  slash : route.destination.toList.contains '/' = true

theorem Carries.destination {route : MacosRoute} {net : IpNet} (carries : Carries route net) :
    macosRouteDestination route = some (net.network, net.prefixLen) := by
  unfold macosRouteDestination
  rw [if_pos carries.slash, carries.parses]
  rfl

theorem Carries.localSubnet {route : MacosRoute} {net : IpNet} (carries : Carries route net) (localSubnets : List Subnet) :
    macosRouteExcludedByLocalSubnet route localSubnets =
      localSubnets.find? fun connected => macosSubnetContains connected (net.network, net.prefixLen) := by
  obtain ⟨⟨device, direct⟩, parses, -⟩ := carries
  obtain ⟨device, named⟩ := Option.isSome_iff_exists.mp device
  unfold macosRouteExcludedByLocalSubnet
  rw [named, direct, parses]
  rfl

theorem Carries.link {route : MacosRoute} {net : IpNet} (carries : Carries route net) (localSubnets : List Subnet)
    (links : List BypassLink) :
    macosRouteExcludedByLink route localSubnets links = links.findSome? fun link =>
      if link.bypass.matches net.trunc then
        (localSubnets.find? fun connected =>
          macosSubnetContains connected (link.anchor.network, link.anchor.prefixLen)).bind fun subnet =>
            some ⟨link.anchor, subnet⟩
      else none := by
  obtain ⟨⟨device, direct⟩, parses, -⟩ := carries
  obtain ⟨device, named⟩ := Option.isSome_iff_exists.mp device
  have valid : net.prefixLen ≤ (macosNetworkBase net.addr net.prefixLen).hostPrefix := net.trunc.valid
  unfold macosRouteExcludedByLink
  rw [named, direct, parses]
  simp only [IpNet.new, valid, dif_pos, Option.bind_eq_bind, Option.bind_some]
  rfl

theorem carries_tunnelRoute {isIpv6 : Bool} {interface destination : String} {net : IpNet} (text : net.toText = destination) :
    Carries (tunnelRoute isIpv6 interface destination) net := by
  subst text
  refine ⟨⟨rfl, rfl⟩, parseCidr_toText net, ?_⟩
  show net.toText.toList.contains '/' = true
  rw [net.toText_toList]
  simp

/-- The half of a default route that starts at this address. -/
def halfOf (start : IpAddr) : IpNet := ⟨start, 1, by cases start <;> simp [IpAddr.hostPrefix]⟩

/-- A route of the AllowedIPs carries an entry, or one half of a default route. -/
theorem carries_of_allowed {nets : List IpNet} {interface : String} {hasIpv4Address hasIpv6Address : Bool}
    {route : MacosRoute}
    (member : route ∈ macosAllowedRoutes (nets.map IpNet.toText) interface hasIpv4Address hasIpv6Address) :
    ∃ net ∈ nets, ∃ carried, Carries route carried ∧ (net.addr.isIpv6 = true → hasIpv6Address = true) ∧
      (carried = net ∨ net.prefixLen = 0 ∧ carried.addr.isIpv6 = net.addr.isIpv6) := by
  obtain ⟨text, listed, member⟩ := List.mem_flatMap.mp member
  obtain ⟨net, among, rfl⟩ := List.mem_map.mp listed
  have reads := parseCidr_toText net
  have half : ∀ start, net.prefixLen = 0 ∧ net.addr.isIpv6 = start.isIpv6 →
      (start.isIpv6 = true → hasIpv6Address = true) → Carries route (halfOf start) →
      ∃ net ∈ nets, ∃ carried, Carries route carried ∧ (net.addr.isIpv6 = true → hasIpv6Address = true) ∧
        (carried = net ∨ net.prefixLen = 0 ∧ carried.addr.isIpv6 = net.addr.isIpv6) := by
    intro start zero family carries
    exact ⟨net, among, halfOf start, carries, fun v6 => family (zero.2 ▸ v6), .inr ⟨zero.1, zero.2.symm⟩⟩
  unfold macosAllowedRoute at member
  split at member
  next default =>
    rw [default] at reads
    have zero : some (net.addr, net.prefixLen) = some (IpAddr.v4 0, 0) := reads.symm.trans (by decide +kernel)
    simp only [Option.some.injEq, Prod.mk.injEq] at zero
    split at member
    · simp only [List.mem_cons, List.not_mem_nil, or_false] at member
      cases member with
      | inl first =>
        rw [first] at half ⊢
        apply half (.v4 0) ⟨zero.2, by simp [zero.1, IpAddr.isIpv6]⟩ (by simp [IpAddr.isIpv6])
        exact carries_tunnelRoute (by decide +kernel)
      | inr second =>
        rw [second] at half ⊢
        apply half (.v4 (1 <<< 31)) ⟨zero.2, by simp [zero.1, IpAddr.isIpv6]⟩ (by simp [IpAddr.isIpv6])
        exact carries_tunnelRoute (by decide +kernel)
    · cases member
  next =>
    split at member
    next default =>
      rw [default] at reads
      have zero : some (net.addr, net.prefixLen) = some (IpAddr.v6 0, 0) := reads.symm.trans (by decide +kernel)
      simp only [Option.some.injEq, Prod.mk.injEq] at zero
      split at member
      next addressed =>
        simp only [List.mem_cons, List.not_mem_nil, or_false] at member
        cases member with
        | inl first =>
          rw [first] at half ⊢
          apply half (.v6 0) ⟨zero.2, by simp [zero.1, IpAddr.isIpv6]⟩ (fun _ => addressed)
          exact carries_tunnelRoute (by decide +kernel)
        | inr second =>
          rw [second] at half ⊢
          apply half (.v6 (1 <<< 127)) ⟨zero.2, by simp [zero.1, IpAddr.isIpv6]⟩ (fun _ => addressed)
          exact carries_tunnelRoute (by decide +kernel)
      · cases member
    next =>
      dsimp only at member
      split at member
      · cases member
      next addressed =>
        split at member
        · cases member
        rw [List.mem_singleton] at member
        subst member
        refine ⟨net, among, net, carries_tunnelRoute rfl, ?_, .inl rfl⟩
        intro v6
        have colon := (colon_mem_toText net).mpr v6
        simpa [colon] using addressed

/-! ### Active links -/

theorem mem_desired_tunnel_iff {inputs : MacosReconcileInputs} {fingerprint : MacosNetworkFingerprint} {route : MacosRoute}
    (tunnel : route.IsTunnelRoute) : route ∈ macosDesiredRoutes inputs fingerprint ↔
      route ∈ macosAllowedRoutes inputs.allowedIps inputs.interface inputs.hasIpv4Address inputs.hasIpv6Address ∧
        ¬(macosRouteExcludedByLocalSubnet route fingerprint.localSubnets).isSome = true ∧
        ¬(macosRouteExcludedByLink route fingerprint.localSubnets inputs.bypassLinks).isSome = true := by
  have notPin : route ∉ (endpointPin inputs fingerprint).toList := by
    intro pin
    rw [Option.mem_toList, endpointPin] at pin
    split at pin
    · obtain ⟨gateway, -, same⟩ := Option.map_eq_some_iff.mp pin
      rw [← same] at tunnel
      cases tunnel.1
    · cases pin
  simp [macosDesiredRoutes, notPin]

/-! ### Validation against exclusion -/

theorem isIpv6_eq_of_networkBase {x y : IpAddr} {length : Nat}
    (same : macosNetworkBase x length = macosNetworkBase y length) : x.isIpv6 = y.isIpv6 := by
  have kept : ∀ ip : IpAddr, (macosNetworkBase ip length).isIpv6 = ip.isIpv6 := by
    intro ip
    cases ip <;> rfl
  rw [← kept x, same, kept]

/-- 192.168.`third`.0/24 -/
def lan (third : BitVec 32) : IpNet := ⟨.v4 (0xc0a80000 ||| third <<< 8), 24, by simp [IpAddr.hostPrefix]⟩

end Wgd.Routes
