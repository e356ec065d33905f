import Wgd.Interaction.Footprint
import Wgd.Routes.Bypassing
import Wgd.Routes.Script

/-! The peer endpoint and the tunnel: whenever the routes a helper wants would carry
the endpoint, the endpoint is pinned to a gateway as well. -/

set_option autoImplicit false

namespace Wgd.Routes

open Wgd.Net Wgd.Links Wgd.Helper Wgd.Interaction
open Wgd.Dns (MacosCleanupState DnsProgram)

/-! ### The desired routes of one fingerprint -/

/-- A dev-bound route whose destination contains the address. -/
def MacosRoute.Covers (route : MacosRoute) (ip : IpAddr) : Prop :=
  route.IsTunnelRoute ∧ ∃ destination, macosRouteDestination route = some destination ∧ ip ∈ addresses destination

/-- A route for this one address, through a gateway. -/
def MacosRoute.Pins (route : MacosRoute) (ip : IpAddr) : Prop :=
  route.interface = none ∧ route.gateway.isSome = true ∧ macosRouteTargetKind route = .host ∧
    macosRouteDestination route = some (ip, ip.hostPrefix)

/-- A gateway is known if the endpoint needs one. -/
def Gatewayed (inputs : MacosReconcileInputs) (fingerprint : MacosNetworkFingerprint) : Prop :=
  inputs.endpointNeedsPin = true → fingerprint.endpointGateway.isSome = true

theorem macosNetworkBase_hostPrefix (ip : IpAddr) : macosNetworkBase ip ip.hostPrefix = ip := by
  cases ip with
  | v4 bits => simp [macosNetworkBase, IpAddr.hostPrefix]
  | v6 bits => simp [macosNetworkBase, IpAddr.hostPrefix]

theorem macosRouteDestination_host (isIpv6 : Bool) (interface gateway : Option String) (ip : IpAddr) :
    macosRouteDestination ⟨isIpv6, ip.toText, interface, gateway⟩ = some (ip, ip.hostPrefix) := by
  have slash : '/' ∉ ip.toText.toList := not_mem_toText (by decide) (by decide) (by decide)
  simp [macosRouteDestination, slash, parseIpAddr_toText, macosNetworkBase_hostPrefix]

/-- A tunnel route that covers the endpoint comes from an entry that covers it. -/
theorem covered_by_allowed {nets : List IpNet} {interface : String} {hasIpv4Address hasIpv6Address : Bool}
    {route : MacosRoute} {endpoint : IpAddr}
    (member : route ∈ macosAllowedRoutes (nets.map IpNet.toText) interface hasIpv4Address hasIpv6Address)
    (covers : route.Covers endpoint) :
    macosAllowedIpsCoverEndpoint (nets.map IpNet.toText) endpoint = true ∧
      (endpoint.isIpv6 = true → hasIpv6Address = true) := by
  obtain ⟨net, among, carried, carries, addressed, entry⟩ := carries_of_allowed member
  obtain ⟨-, destination, parses, inside⟩ := covers
  rw [carries.destination, Option.some.injEq] at parses
  subst parses
  have inside : macosNetworkBase endpoint carried.prefixLen = macosNetworkBase carried.addr carried.prefixLen := by
    rw [← macosNetworkBase_idem carried.addr]
    exact inside
  have family : net.addr.isIpv6 = endpoint.isIpv6 := by
    rw [isIpv6_eq_of_networkBase inside]
    cases entry with
    | inl same => rw [same]
    | inr default => exact default.2.symm
  have covered : macosNetworkBase endpoint net.prefixLen = macosNetworkBase net.addr net.prefixLen := by
    cases entry with
    | inl same =>
      rw [← same]
      exact inside
    | inr default =>
      -- A default route covers its whole family, not only the half at hand.
      rw [default.1]
      revert family
      cases net.addr <;> cases endpoint <;> simp [macosNetworkBase, IpAddr.isIpv6]
  constructor
  · rw [macosAllowedIpsCoverEndpoint, List.any_map, List.any_eq_true]
    refine ⟨net, among, ?_⟩
    simp [parseCidr_toText, family, covered]
  · rw [← family]
    exact addressed

theorem desired_pinned {args : HelperArgs} {nets : List IpNet} {fingerprint : MacosNetworkFingerprint}
    (configured : args.config.allowedIps = nets.map IpNet.toText) (gatewayed : Gatewayed args.inputs fingerprint)
    {route : MacosRoute} (member : route ∈ macosDesiredRoutes args.inputs fingerprint)
    (covers : route.Covers args.config.endpoint) :
    ∃ pin ∈ macosDesiredRoutes args.inputs fingerprint, pin.Pins args.config.endpoint := by
  obtain ⟨allowed, -⟩ := (mem_desired_tunnel_iff covers.1).mp member
  simp only [HelperArgs.inputs, configured] at allowed
  obtain ⟨covered, addressed⟩ := covered_by_allowed allowed covers
  have needed : args.inputs.endpointNeedsPin = true := by
    simp only [HelperArgs.inputs, configured, covered, Bool.and_true, Bool.or_eq_true, Bool.not_eq_true']
    cases family : args.config.endpoint.isIpv6 with
    | false => exact .inl rfl
    | true => exact .inr (addressed family)
  obtain ⟨gateway, known⟩ := Option.isSome_iff_exists.mp (gatewayed needed)
  refine ⟨⟨args.config.endpoint.isIpv6, args.config.endpoint.toText, none, some gateway⟩, ?_, rfl, rfl, ?_, ?_⟩
  · rw [macosDesiredRoutes, List.mem_append]
    left
    rw [Option.mem_toList, endpointPin, if_pos needed, known]
    rfl
  · simp [macosRouteTargetKind]
  · exact macosRouteDestination_host _ _ _ _

/-! ### The fingerprints of a run -/

/-- A gateway that is required is there, and one that is kept is not lost. -/
theorem fingerprint_gatewayed {inputs : MacosReconcileInputs} {fallback : GatewayFallback}
    (known : ∀ previous, fallback = .keep previous → inputs.endpointNeedsPin = true → previous.isSome = true) :
    @Issues routeCommands _ (fun _ => True) (macosCurrentFingerprint inputs fallback)
      (Outcome (fun _ => True) (Gatewayed inputs)) := by
  unfold macosCurrentFingerprint
  apply Issues.bind (.any _)
  intro connected _
  dsimp only
  split
  next needed =>
    apply Issues.bind (.any _)
    intro looked _
    cases looked with
    | error error =>
      cases fallback with
      | require => trivial
      | keep previous => exact known previous rfl
    | ok gateway =>
      cases gateway with
      | some gateway =>
        intro _
        rfl
      | none =>
        cases fallback with
        | require => trivial
        | keep previous => exact known previous rfl
  next free =>
    intro needed
    exact absurd needed free

theorem require_gatewayed (inputs : MacosReconcileInputs) :
    @Issues routeCommands _ (fun _ => True) (macosCurrentFingerprint inputs .require)
      (Outcome (fun _ => True) (Gatewayed inputs)) := by
  apply fingerprint_gatewayed
  intro gateway same
  cases same

theorem keep_gatewayed {inputs : MacosReconcileInputs} {previous : MacosNetworkFingerprint}
    (gatewayed : Gatewayed inputs previous) :
    @Issues routeCommands _ (fun _ => True) (macosCurrentFingerprint inputs (.keep previous.endpointGateway))
      (Outcome (fun _ => True) (Gatewayed inputs)) := by
  apply fingerprint_gatewayed
  intro gateway same
  cases same
  exact gatewayed

/-- The reconciler of a helper that is up works on the inputs of setup, and has the gateway they need. -/
def Pinned (args : HelperArgs) : HelperPhase → Prop
  | .up cleanup routing => cleanup.reconcile = args.inputs ∧ Gatewayed args.inputs routing.fingerprint
  | .ready | .down => True

theorem setupRoutes_gatewayed (args : HelperArgs) :
    @Issues routeCommands _ (fun _ => True) (setupRoutes args)
      fun result => result.2 = .ok () → Gatewayed args.inputs result.1.fingerprint := by
  unfold setupRoutes
  dsimp only
  apply Issues.bind (.any _)
  intro configured _
  cases configured with
  | error error =>
    intro same
    cases same
  | ok value =>
    apply Issues.bind (require_gatewayed args.inputs)
    intro looked gatewayed
    cases looked with
    | error error =>
      intro same
      cases same
    | ok fingerprint =>
      apply Issues.bind (.any _)
      intro result _ _
      exact gatewayed

theorem setupDns_requires (args : HelperArgs) (routing : MacosRoutingState) (installed : Except String Unit) :
    Issues (fun _ => True) (setupDns args routing installed) (Outcome (fun _ => True) fun _ => installed = .ok ()) := by
  cases installed with
  | error error => trivial
  | ok value =>
    apply (Issues.any _).mono
    intro outcome _
    cases outcome with
    | error error => trivial
    | ok fingerprint => rfl

theorem configure_pinned (args : HelperArgs) :
    @Issues helperCommands _ (fun _ => True) (configureNetworkMacos args) (Outcome (fun _ => True) fun up =>
      up.1.reconcile = args.inputs ∧ Gatewayed args.inputs up.2.fingerprint) := by
  unfold configureNetworkMacos
  apply Issues.bind (Issues.inl (setupRoutes_gatewayed args))
  intro result gatewayed
  obtain ⟨routing, installed⟩ := result
  apply Issues.bind (Issues.inr (setupDns_requires args routing installed))
  intro configured succeeded
  cases configured with
  | error error =>
    apply Issues.bind (.any _)
    intro message _
    trivial
  | ok fingerprint =>
    apply Issues.bind (.any _)
    intro dnsStoreKey _
    apply Issues.bind (.any _)
    intro _ _
    exact ⟨rfl, gatewayed succeeded⟩

theorem connect_pinned (args : HelperArgs) : @Issues helperCommands _ (fun _ => True) (connectProgram args) (Pinned args) := by
  apply Issues.bind (configure_pinned args)
  intro outcome holds
  cases outcome with
  | error error => trivial
  | ok up => exact holds

theorem reconcileRoutes_gatewayed {inputs : MacosReconcileInputs} {routing : MacosRoutingState}
    (gatewayed : Gatewayed inputs routing.fingerprint) :
    @Issues routeCommands _ (fun _ => True) (macosReconcileRoutes inputs routing)
      fun result => Gatewayed inputs result.1.fingerprint := by
  unfold macosReconcileRoutes
  apply Issues.bind (keep_gatewayed gatewayed)
  intro looked found
  cases looked with
  | error error => exact gatewayed
  | ok fingerprint =>
    dsimp only
    split
    · exact gatewayed
    · apply Issues.bind (.any _)
      intro applied _
      exact found

/-- What one program of a helper preserves. -/
theorem program_pinned {args : HelperArgs} {phase : HelperPhase} {p : HelperProgram HelperPhase}
    (pinned : Pinned args phase) (started : HelperStart args phase p) :
    @Issues helperCommands _ (fun _ => True) p (Pinned args) := by
  cases started with
  | connect => exact connect_pinned args
  | routeTick =>
    obtain ⟨same, gatewayed⟩ := pinned
    rw [← same] at gatewayed
    apply Issues.bind (Issues.inl (reconcileRoutes_gatewayed gatewayed))
    intro result kept
    exact ⟨same, same ▸ kept⟩
  | dnsTick =>
    apply Issues.bind (.any _)
    intro changed _
    exact pinned
  | teardown =>
    apply Issues.bind (.any _)
    intro errors _
    trivial

/-! ### Whole runs -/

/-- One helper on a host that answers as the environment says and changes as it likes. -/
def hostSession (args : HelperArgs) {S : Type} (env : Environment helperCommands S) (outside : S → S → Prop) :
    Session helperCommands S HelperPhase where
  env := env
  outside := outside
  start := fun phase state after p => after = state ∧ HelperStart args phase p
  abandon := fun _ _ _ => False

/-- The desired routes that setup, or a tick in this phase, may act on, whatever the host answers. -/
def ActsOn (args : HelperArgs) (desired : List MacosRoute) : HelperPhase → Prop
  | .ready => ∃ fingerprint, desired = macosDesiredRoutes args.inputs fingerprint ∧
      MayReturn (macosCurrentFingerprint args.inputs .require) (.ok fingerprint)
  | .up cleanup routing => ∃ fingerprint, desired = macosDesiredRoutes cleanup.reconcile fingerprint ∧
      MayReturn (macosCurrentFingerprint cleanup.reconcile (.keep routing.fingerprint.endpointGateway)) (.ok fingerprint)
  | .down => False

theorem acts_gatewayed {args : HelperArgs} {phase : HelperPhase} {desired : List MacosRoute} (pinned : Pinned args phase)
    (acts : ActsOn args desired phase) :
    ∃ fingerprint, desired = macosDesiredRoutes args.inputs fingerprint ∧ Gatewayed args.inputs fingerprint := by
  cases phase with
  | ready =>
    obtain ⟨fingerprint, same, possible⟩ := acts
    exact ⟨fingerprint, same, (require_gatewayed args.inputs).mayReturn possible⟩
  | up cleanup routing =>
    obtain ⟨fingerprint, same, possible⟩ := acts
    obtain ⟨inputs, gatewayed⟩ := pinned
    rw [inputs] at same possible
    exact ⟨fingerprint, same, (keep_gatewayed gatewayed).mayReturn possible⟩
  | down => cases acts

theorem pinned_reachable {args : HelperArgs} {S : Type} {env : Environment helperCommands S} {outside : S → S → Prop}
    {first state : S} {phase : HelperPhase}
    (reached : (hostSession args env outside).Reachable (fun phase state => phase = .ready ∧ state = first) (state, .done phase)) :
    Pinned args phase := by
  have kept : (hostSession args env outside).Kept (fun _ => True) (fun phase _ => Pinned args phase) := by
    constructor
    · intro phase state after p pinned started
      have keeps := @Issues.keeps helperCommands S _ (fun _ => True) p (Pinned args) (env.after outside) (fun _ => True)
        after (program_pinned pinned started.2) (fun _ _ _ _ _ _ _ => trivial) trivial
      apply (keeps.mono fun result _ holds => holds.2).relax
      intro _ _ _
      trivial
    · intro _ _ _
      trivial
    · intro _ _ _ _
      trivial
    · intro phase state after pinned _
      exact pinned
    · intro _ _ _ _ died
      cases died
  apply kept.reachable_between _ reached
  intro phase state begins
  rw [begins.1]
  trivial

/-- The endpoint is never left to its own tunnel: in every run of a helper, a set of desired routes
that it acts on has a pin for the endpoint if it has a tunnel route that covers it. -/
theorem endpoint_never_in_tunnel {args : HelperArgs} {nets : List IpNet} {S : Type} {env : Environment helperCommands S}
    {outside : S → S → Prop} {first state : S} {phase : HelperPhase} {desired : List MacosRoute} {route : MacosRoute}
    (configured : args.config.allowedIps = nets.map IpNet.toText)
    (reached : (hostSession args env outside).Reachable (fun phase state => phase = .ready ∧ state = first) (state, .done phase))
    (acts : ActsOn args desired phase) (member : route ∈ desired) (covers : route.Covers args.config.endpoint) :
    ∃ pin ∈ desired, pin.Pins args.config.endpoint := by
  obtain ⟨fingerprint, rfl, gatewayed⟩ := acts_gatewayed (pinned_reachable reached) acts
  exact desired_pinned configured gatewayed member covers

/-- Every command of this host succeeds, and its gateway is 192.168.1.1. -/
def homeHost : (op : helperCommands.Op) → helperCommands.Reply op
  | .inl (.routeAdd _ _ _) | .inl (.routeDelete _ _ _) => .ok true
  | .inl (.routeGet _) => none
  | .inl (.getMacosDefaultGateway _) => .ok (some "192.168.1.1")
  | .inl (.macosConnectedSubnetsByDevice _) => some []
  | .inl (.ifconfig _) => .ok ()
  | .inr op => dnsWorks op

def everything : IpNet := ⟨.v4 0, 0, by decide⟩

def fullArgs : HelperArgs := pinnedArgs ([everything].map IpNet.toText)

/-- What this helper is after its setup. -/
def fullUp : HelperPhase := .up ⟨false, fullArgs.inputs⟩
  ⟨macosDesiredRoutes fullArgs.inputs ⟨[], some "192.168.1.1"⟩, ⟨[], some "192.168.1.1"⟩, []⟩

theorem endpoint_never_in_tunnel_full :
    ∃ desired, ActsOn fullArgs desired fullUp ∧ tunnelRoute false "utun7" "128.0.0.0/1" ∈ desired ∧
      ∃ pin ∈ desired, pin.Pins fullArgs.config.endpoint := by
  have faithful := @Handler.fixed_faithful helperCommands Unit Unit id homeHost
  have ends : (interpret (Handler.fixed homeHost) (connectProgram fullArgs) ()).1 = fullUp := by decide +kernel
  have reached := (@Session.Reachable.begin helperCommands Unit HelperPhase (hostSession fullArgs _ fun _ _ => False)
    (fun phase state => phase = .ready ∧ state = ()) () .ready ⟨rfl, rfl⟩).completed faithful () ⟨rfl, .connect⟩ ends
  have configured : fullArgs.config.allowedIps = [everything].map IpNet.toText := rfl
  -- Later the gateway cannot be looked up.
  have acts : ActsOn fullArgs (macosDesiredRoutes fullArgs.inputs ⟨[], some "192.168.1.1"⟩) fullUp :=
    ⟨_, rfl, some [], .error "timeout", rfl⟩
  have member : tunnelRoute false "utun7" "128.0.0.0/1" ∈ macosDesiredRoutes fullArgs.inputs ⟨[], some "192.168.1.1"⟩ := by
    decide +kernel
  have covers : (tunnelRoute false "utun7" "128.0.0.0/1").Covers fullArgs.config.endpoint := by
    refine ⟨⟨rfl, rfl⟩, (.v4 0x80000000, 1), by decide +kernel, ?_⟩
    rw [mem_addresses]
    decide +kernel
  exact ⟨_, acts, member, endpoint_never_in_tunnel configured reached acts member covers⟩

end Wgd.Routes
