import Mathlib.Data.Set.Lattice
import Wgd.Config.Parse
import Wgd.Helper.Lifecycle
import Wgd.Routes.Bypassing

/-! From the AllowedIPs of a configuration to the routes into the tunnel
(`userspace_helper/config.rs`, `userspace_helper/macos/routes.rs`): what the routes
cover together. -/

set_option autoImplicit false

namespace Wgd.Routes

open Wgd.Net Wgd.Config Wgd.Helper

/-- The only peer of the configuration is the one the helper's device can drive. -/
def parseWgQuickConfig (crates : Crates) (resolver : Resolver) (config : String) : Except String ParsedUserspaceConfig :=
  match parseConnectionConfig crates resolver config with
  | .error error => .error error.toText
  | .ok parsed =>
    match parsed.peers with
    | [peer] =>
      match peer.endpoint with
      | none => .error "missing Peer.Endpoint"
      | some endpoint => .ok {
          addresses := parsed.addresses.map IpNet.toText
          dnsServers := parsed.dnsServers.map IpAddr.toText
          mtu := parsed.mtu.map UInt16.toNat
          allowedIps := peer.allowedIps.map IpNet.toText
          endpoint := endpoint.ip }
    | peers => .error s!"gotatun userspace backend supports exactly one [Peer] section, found {peers.length}"

/-- The helper sees the AllowedIPs as texts of networks. -/
theorem parseWgQuickConfig_allowedIps {crates : Crates} {resolver : Resolver} {text : String} {config : ParsedUserspaceConfig}
    (accepted : parseWgQuickConfig crates resolver text = .ok config) :
    ∃ nets : List IpNet, config.allowedIps = nets.map IpNet.toText := by
  unfold parseWgQuickConfig at accepted
  split at accepted
  · cases accepted
  · split at accepted
    · split at accepted
      · cases accepted
      · cases accepted
        exact ⟨_, rfl⟩
    · cases accepted

/-! ### What the routes cover -/

/-- The addresses a route takes. -/
def MacosRoute.takes (route : MacosRoute) : Set IpAddr :=
  {ip | ∃ destination, macosRouteDestination route = some destination ∧ ip ∈ addresses destination}

/-- A route for every address of its family, like the system's default route. -/
def MacosRoute.IsDefault (route : MacosRoute) : Prop := ∃ base, macosRouteDestination route = some (base, 0)

/-- The tunnel has an address of the network's family. -/
def Enabled (hasIpv4Address hasIpv6Address : Bool) (net : IpNet) : Prop :=
  (if net.addr.isIpv6 then hasIpv6Address else hasIpv4Address) = true

instance (hasIpv4Address hasIpv6Address : Bool) (net : IpNet) : Decidable (Enabled hasIpv4Address hasIpv6Address net) := by
  unfold Enabled
  infer_instance

/-- Together the routes take what the networks of the enabled families contain, and none of
them replaces the default route of the system. -/
structure PreservesCoverage (nets : List IpNet) (interface : String) (hasIpv4Address hasIpv6Address : Bool) : Prop where
  covers : ⋃ route ∈ macosAllowedRoutes (nets.map IpNet.toText) interface hasIpv4Address hasIpv6Address, route.takes =
    ⋃ net ∈ {net ∈ nets | Enabled hasIpv4Address hasIpv6Address net}, net.addresses
  spares : ∀ route ∈ macosAllowedRoutes (nets.map IpNet.toText) interface hasIpv4Address hasIpv6Address, ¬route.IsDefault

theorem Carries.takes {route : MacosRoute} {net : IpNet} (carries : Carries route net) : route.takes = net.addresses := by
  ext ip
  unfold MacosRoute.takes
  rw [carries.destination]
  simp only [Set.mem_ofPred_eq, Option.some.injEq, exists_eq_left']
  rw [IpNet.network, addresses_networkBase]
  exact Iff.rfl

theorem Carries.isDefault_iff {route : MacosRoute} {net : IpNet} (carries : Carries route net) :
    route.IsDefault ↔ net.prefixLen = 0 := by
  unfold MacosRoute.IsDefault
  rw [carries.destination]
  simp

/-! ### The entries one by one -/

/-- Different networks print differently. -/
theorem toText_inj {a b : IpNet} (same : a.toText = b.toText) : a = b := by
  have parsed := parseCidr_toText a
  rw [same, parseCidr_toText b] at parsed
  obtain ⟨addr, length, valid⟩ := a
  obtain ⟨addr', length', valid'⟩ := b
  cases parsed
  rfl

/-- The default network of a family, without host bits. -/
def defaultOf : IpAddr → IpNet
  | .v4 _ => ⟨.v4 0, 0, by simp⟩
  | .v6 _ => ⟨.v6 0, 0, by simp⟩

/-- The second half of a family begins with its highest bit. -/
def upperHalf : IpAddr → IpAddr
  | .v4 _ => .v4 (1 <<< 31)
  | .v6 _ => .v6 (1 <<< 127)

theorem trunc_of_default {net : IpNet} (default : net.prefixLen = 0) : net.trunc = defaultOf net.addr := by
  obtain ⟨addr, length, valid⟩ := net
  cases default
  cases addr <;> rfl

/-- A plain default network is split into its halves. -/
theorem macosAllowedRoute_default {interface : String} {hasIpv4Address hasIpv6Address : Bool} (ip : IpAddr)
    (enabled : Enabled hasIpv4Address hasIpv6Address (defaultOf ip)) :
    ∃ lower upper, macosAllowedRoute interface hasIpv4Address hasIpv6Address (defaultOf ip).toText = [lower, upper] ∧
      Carries lower (halfOf (defaultOf ip).addr) ∧ Carries upper (halfOf (upperHalf ip)) := by
  cases ip with
  | v4 bits =>
    have text : (defaultOf (.v4 bits)).toText = "0.0.0.0/0" := (by decide +kernel : (defaultOf (.v4 0)).toText = "0.0.0.0/0")
    have four : hasIpv4Address = true := enabled
    rw [text, macosAllowedRoute, if_pos rfl, if_pos four]
    exact ⟨_, _, rfl, carries_tunnelRoute (by decide +kernel : (halfOf (.v4 0)).toText = "0.0.0.0/1"),
      carries_tunnelRoute (by decide +kernel : (halfOf (.v4 (1 <<< 31))).toText = "128.0.0.0/1")⟩
  | v6 bits =>
    have text : (defaultOf (.v6 bits)).toText = "::/0" := (by decide +kernel : (defaultOf (.v6 0)).toText = "::/0")
    have six : hasIpv6Address = true := enabled
    rw [text, macosAllowedRoute, if_neg (by decide), if_pos rfl, if_pos six]
    exact ⟨_, _, rfl, carries_tunnelRoute (by decide +kernel : (halfOf (.v6 0)).toText = "::/1"),
      carries_tunnelRoute (by decide +kernel : (halfOf (.v6 (1 <<< 127))).toText = "8000::/1")⟩

/-- Any other text is the destination as it stands. -/
theorem macosAllowedRoute_other {interface : String} {hasIpv4Address hasIpv6Address : Bool} {net : IpNet}
    (enabled : Enabled hasIpv4Address hasIpv6Address net) (other : ∀ ip, net ≠ defaultOf ip) :
    macosAllowedRoute interface hasIpv4Address hasIpv6Address net.toText =
      [tunnelRoute net.addr.isIpv6 interface net.toText] := by
  have four : net.toText ≠ "0.0.0.0/0" := by
    intro same
    exact other (.v4 0) (toText_inj (same.trans (by decide +kernel)))
  have six : net.toText ≠ "::/0" := by
    intro same
    exact other (.v6 0) (toText_inj (same.trans (by decide +kernel)))
  have colon : net.toText.toList.contains ':' = net.addr.isIpv6 := by
    rw [Bool.eq_iff_iff, List.contains_iff_mem]
    exact colon_mem_toText net
  unfold macosAllowedRoute
  rw [if_neg four, if_neg six]
  dsimp only
  rw [colon]
  unfold Enabled at enabled
  cases family : net.addr.isIpv6 with
  | false =>
    rw [family] at enabled
    simp only [Bool.false_eq_true, if_false] at enabled
    simp [enabled]
  | true =>
    rw [family] at enabled
    simp only [if_true] at enabled
    simp [enabled]

theorem macosAllowedRoute_disabled {interface : String} {hasIpv4Address hasIpv6Address : Bool} {net : IpNet}
    (disabled : ¬Enabled hasIpv4Address hasIpv6Address net) :
    macosAllowedRoute interface hasIpv4Address hasIpv6Address net.toText = [] := by
  have colon : net.toText.toList.contains ':' = net.addr.isIpv6 := by
    rw [Bool.eq_iff_iff, List.contains_iff_mem]
    exact colon_mem_toText net
  unfold Enabled at disabled
  unfold macosAllowedRoute
  cases family : net.addr.isIpv6 with
  | false =>
    have six : net.toText ≠ "::/0" := by
      intro same
      rw [same, family] at colon
      exact absurd colon (by decide)
    rw [family] at disabled colon
    simp only [Bool.false_eq_true, if_false, Bool.not_eq_true] at disabled
    rw [if_neg six, colon]
    simp [disabled]
  | true =>
    have four : net.toText ≠ "0.0.0.0/0" := by
      intro same
      rw [same, family] at colon
      exact absurd colon (by decide)
    rw [family] at disabled colon
    simp only [if_true, Bool.not_eq_true] at disabled
    rw [if_neg four, colon]
    simp [disabled]

/-- Every address of a family lies in one of its halves. -/
theorem halves_addresses (ip : IpAddr) :
    (halfOf (defaultOf ip).addr).addresses ∪ (halfOf (upperHalf ip)).addresses = (defaultOf ip).addresses := by
  have split : ∀ {width : Nat} (bits : BitVec width), 0 < width →
      SamePrefix 1 bits 0 ∨ SamePrefix 1 bits (BitVec.twoPow width (width - 1)) := by
    intro width bits positive
    cases top : bits.getLsbD (width - 1) with
    | false =>
      left
      intro i high
      by_cases last : i = width - 1
      · simp [last, top]
      · simp [BitVec.getLsbD_of_ge bits i (by omega)]
    | true =>
      right
      intro i high
      by_cases last : i = width - 1
      · rw [last, top, BitVec.getLsbD_twoPow]
        simp [positive]
      · rw [BitVec.getLsbD_of_ge bits i (by omega), BitVec.getLsbD_of_ge _ i (by omega)]
  ext other
  unfold IpNet.addresses
  rw [Set.mem_union, mem_addresses, mem_addresses, mem_addresses]
  simp only [macosNetworkBase_eq_iff]
  cases ip with
  | v4 bits =>
    cases other with
    | v4 other =>
      have whole : SamePrefix 0 other 0 := by
        intro i high
        simp [BitVec.getLsbD_of_ge other i (by omega)]
      exact iff_of_true (split other (by decide)) whole
    | v6 other => exact iff_of_false (by rintro (inside | inside) <;> exact inside) (fun inside => inside)
  | v6 bits =>
    cases other with
    | v4 other => exact iff_of_false (by rintro (inside | inside) <;> exact inside) (fun inside => inside)
    | v6 other =>
      have whole : SamePrefix 0 other 0 := by
        intro i high
        simp [BitVec.getLsbD_of_ge other i (by omega)]
      exact iff_of_true (split other (by decide)) whole

/-! ### The whole list -/

/-- The routes of one entry take its addresses, no more and no less. -/
theorem macosAllowedRoute_takes {interface : String} {hasIpv4Address hasIpv6Address : Bool} {net : IpNet}
    (enabled : Enabled hasIpv4Address hasIpv6Address net) {ip : IpAddr} :
    (∃ route ∈ macosAllowedRoute interface hasIpv4Address hasIpv6Address net.toText, ip ∈ route.takes) ↔
      ip ∈ net.addresses := by
  by_cases plain : ∃ family, net = defaultOf family
  · obtain ⟨family, rfl⟩ := plain
    obtain ⟨lower, upper, routes, first, second⟩ := @macosAllowedRoute_default interface _ _ family enabled
    rw [routes, ← halves_addresses family, Set.mem_union, ← first.takes, ← second.takes]
    simp
  · rw [macosAllowedRoute_other enabled (fun family same => plain ⟨family, same⟩)]
    have carries : Carries (tunnelRoute net.addr.isIpv6 interface net.toText) net := carries_tunnelRoute rfl
    rw [← carries.takes]
    simp

/-- An entry of length zero keeps the default route of the system only in its plain form. -/
theorem macosAllowedRoute_spares {interface : String} {hasIpv4Address hasIpv6Address : Bool} {net : IpNet}
    (enabled : Enabled hasIpv4Address hasIpv6Address net) :
    (∀ route ∈ macosAllowedRoute interface hasIpv4Address hasIpv6Address net.toText, ¬route.IsDefault) ↔
      (net.prefixLen = 0 → net.trunc = net) := by
  by_cases plain : ∃ family, net = defaultOf family
  · obtain ⟨family, rfl⟩ := plain
    obtain ⟨lower, upper, routes, first, second⟩ := @macosAllowedRoute_default interface _ _ family enabled
    rw [routes]
    apply iff_of_true
    · intro route member
      rw [List.mem_pair] at member
      cases member with
      | inl lower =>
        rw [lower, first.isDefault_iff]
        exact Nat.one_ne_zero
      | inr upper =>
        rw [upper, second.isDefault_iff]
        exact Nat.one_ne_zero
    · intro _
      cases family <;> rfl
  · rw [macosAllowedRoute_other enabled (fun family same => plain ⟨family, same⟩)]
    have carries : Carries (tunnelRoute net.addr.isIpv6 interface net.toText) net := carries_tunnelRoute rfl
    rw [List.forall_mem_singleton, carries.isDefault_iff]
    apply imp_congr_right
    intro zero
    apply iff_of_false id
    intro same
    exact plain ⟨net.addr, same.symm.trans (trunc_of_default zero)⟩

theorem mem_routes_iff {nets : List IpNet} {interface : String} {hasIpv4Address hasIpv6Address : Bool} {route : MacosRoute} :
    route ∈ macosAllowedRoutes (nets.map IpNet.toText) interface hasIpv4Address hasIpv6Address ↔
      ∃ net ∈ nets, Enabled hasIpv4Address hasIpv6Address net ∧
        route ∈ macosAllowedRoute interface hasIpv4Address hasIpv6Address net.toText := by
  rw [macosAllowedRoutes, List.flatMap_map, List.mem_flatMap]
  apply exists_congr
  intro net
  apply and_congr_right
  intro _
  by_cases enabled : Enabled hasIpv4Address hasIpv6Address net
  · simp [enabled]
  · simp [enabled, macosAllowedRoute_disabled enabled]

theorem allowedRoutes_cover (nets : List IpNet) (interface : String) (hasIpv4Address hasIpv6Address : Bool) :
    ⋃ route ∈ macosAllowedRoutes (nets.map IpNet.toText) interface hasIpv4Address hasIpv6Address, route.takes =
      ⋃ net ∈ {net ∈ nets | Enabled hasIpv4Address hasIpv6Address net}, net.addresses := by
  ext ip
  simp only [Set.mem_iUnion, mem_routes_iff, exists_prop, Set.mem_ofPred_eq]
  constructor
  · rintro ⟨route, ⟨net, listed, enabled, member⟩, taken⟩
    exact ⟨net, ⟨listed, enabled⟩, (macosAllowedRoute_takes enabled).mp ⟨route, member, taken⟩⟩
  · rintro ⟨net, ⟨listed, enabled⟩, inside⟩
    obtain ⟨route, member, taken⟩ := (macosAllowedRoute_takes enabled).mpr inside
    exact ⟨route, ⟨net, listed, enabled, member⟩, taken⟩

/-- The expansion keeps the coverage and spares the system's default route as long as no
enabled entry of length zero is written with host bits. -/
theorem preservesCoverage_iff (nets : List IpNet) (interface : String) (hasIpv4Address hasIpv6Address : Bool) :
    PreservesCoverage nets interface hasIpv4Address hasIpv6Address ↔
      ∀ net ∈ nets, Enabled hasIpv4Address hasIpv6Address net → net.prefixLen = 0 → net.trunc = net := by
  constructor
  · intro preserves net listed enabled
    rw [← macosAllowedRoute_spares enabled]
    intro route member
    exact preserves.spares route (mem_routes_iff.mpr ⟨net, listed, enabled, member⟩)
  · intro plain
    refine ⟨allowedRoutes_cover nets interface hasIpv4Address hasIpv6Address, ?_⟩
    intro route member
    obtain ⟨net, listed, enabled, member⟩ := mem_routes_iff.mp member
    exact (macosAllowedRoute_spares enabled).mpr (plain net listed enabled) route member

/-- Networks are read as the addresses and lengths they print. -/
def cidrCrates (crates : Crates) : Crates :=
  { crates with parseIpNet := fun text => (parseCidr (String.ofList text)).bind fun subnet => IpNet.new subnet.1 subnet.2 }

def hostBitsText : String :=
  "[Interface]\nPrivateKey = k\nAddress = 10.0.0.2/32\n[Peer]\nPublicKey = k\nAllowedIPs = 1.2.3.4/0\nEndpoint = 9.9.9.9:51820\n"

/-- All keys are the same here. -/
def plainCrates : Crates :=
  cidrCrates ⟨fun _ => .ok (List.replicate 32 0), fun _ => "k", fun _ => none, fun _ => []⟩

/-- Such an entry is accepted, and becomes a route of length zero. -/
theorem host_bits_replace_default :
    ¬ ∀ (crates : Crates) (resolver : Resolver) (text : String) (config : ParsedUserspaceConfig) (nets : List IpNet)
      (interface : String) (hasIpv4Address hasIpv6Address : Bool),
      parseWgQuickConfig crates resolver text = .ok config → config.allowedIps = nets.map IpNet.toText →
        PreservesCoverage nets interface hasIpv4Address hasIpv6Address := by
  intro preserves
  have accepted : parseWgQuickConfig plainCrates (fun _ _ _ => .error "no address") hostBitsText =
      .ok ⟨["10.0.0.2/32"], [], none, ["1.2.3.4/0"], .v4 0x09090909⟩ := by decide +kernel
  have listed : ["1.2.3.4/0"] = [(⟨.v4 0x01020304, 0, by decide⟩ : IpNet)].map IpNet.toText := by decide +kernel
  have holds := preserves _ _ _ _ _ "utun5" true false accepted listed
  exact absurd (holds.spares (tunnelRoute false "utun5" "1.2.3.4/0") (by decide +kernel)) (by
    intro spared
    exact spared ⟨.v4 0, by decide +kernel⟩)

end Wgd.Routes
