import Wgd.Routes.Survival

/-! A protected entry in the place of the endpoint pin does not survive the helper. -/

set_option autoImplicit false

namespace Wgd.Routes

open Wgd.Net Wgd.Helper Wgd.Interaction
open Wgd.Dns (MacosCleanupState dnsCommands)

variable {attached : List (String × Subnet)} {first kernel : Kernel} {destination : Subnet} {pin : MacosRoute}
  {owned : List MacosRoute} {args : HelperArgs}

def workingCue : RouteCue := ⟨false, some "192.0.2.1"⟩

/-- A kernel on which every command works. -/
def obliging (attached : List (String × Subnet)) : Environment routeCommands Kernel :=
  fun kernel op reply after => (reply, after) = answer attached workingCue kernel op

theorem obliging_allowed {after : Kernel} {op : RouteOp} {reply : op.Reply}
    (answered : obliging attached kernel op reply after) : kernelEnvironment false attached kernel op reply after := by
  have faithful := answer_faithful false attached workingCue kernel op
  rwa [← answered] at faithful

/-- The helper's commands on such a kernel. -/
def obligingHelper (attached : List (String × Subnet)) : Environment helperCommands Kernel :=
  (obliging attached).both (Environment.idle dnsCommands Kernel)

theorem obligingHelper_total (attached : List (String × Subnet)) : (obligingHelper attached).Total := by
  have works : Handler.Faithful (fun kernel op => answer attached workingCue kernel op) id (obliging attached) :=
    fun _ _ => rfl
  have fixed : (Handler.fixed dnsWorks : Handler dnsCommands Kernel).Faithful id (.idle dnsCommands Kernel) :=
    Handler.fixed_faithful _
  exact (works.both fixed).total

theorem obliging_configures (addressable : Addressable args) :
    Ensures (obliging attached) (fun _ _ => True) (configureInterface args.interface args.config)
      (fun outcome after => outcome = .ok () ∧ after = kernel) kernel := by
  have ifconfig : ∀ arguments, Ensures (obliging attached) (fun _ _ => True) (issue (.ifconfig arguments))
      (fun outcome after => outcome = .ok () ∧ after = kernel) kernel := by
    intro arguments
    rw [issue_iff]
    refine ⟨trivial, ?_⟩
    intro reply after answered
    cases answered
    exact ⟨rfl, rfl⟩
  rw [configureInterface, Ensures.attempt_iff]
  refine Ensures.mono (fun outcome sized (worked : outcome = .ok () ∧ sized = kernel) => ?_) ?_
  rotate_left
  · dsimp only
    split
    · exact ⟨rfl, rfl⟩
    · exact ifconfig _
  obtain ⟨rfl, rfl⟩ := worked
  dsimp only
  rw [Ensures.attempt_iff]
  apply Ensures.forEach (fun rest after => after = sized ∧ rest ⊆ args.config.addresses)
  · intro address rest before kept
    obtain ⟨rfl, within⟩ := kept
    have within' : rest ⊆ args.config.addresses := fun other member => within (List.mem_cons_of_mem _ member)
    rw [configureAddress]
    split
    · rename_i unknown
      have known := addressable address (within List.mem_cons_self)
      simp [unknown] at known
    · apply (ifconfig _).mono
      intro outcome after worked
      obtain ⟨rfl, rfl⟩ := worked
      exact ⟨rfl, within'⟩
  · intro addressed kept
    obtain ⟨rfl, -⟩ := kept
    dsimp only
    rw [Ensures.attempt_iff]
    apply (ifconfig _).mono
    intro outcome up worked
    obtain ⟨rfl, rfl⟩ := worked
    dsimp only
    rw [Ensures.bind_iff]
    apply (ifconfig _).mono
    intro outcome after worked
    obtain ⟨-, rfl⟩ := worked
    exact ⟨rfl, rfl⟩
  · exact ⟨rfl, List.Subset.refl _⟩

theorem obliging_fingerprint {inputs : MacosReconcileInputs} (needed : inputs.endpointNeedsPin = true) :
    Ensures (obliging attached) (fun _ _ => True) (macosCurrentFingerprint inputs .require) (fun outcome _ =>
      ∃ localSubnets, outcome = .ok ⟨localSubnets, some "192.0.2.1"⟩) kernel := by
  rw [macosCurrentFingerprint, Ensures.bind_iff, issue_iff]
  refine ⟨trivial, ?_⟩
  intro connected read answered
  cases answered
  rw [if_pos needed, Ensures.bind_iff, issue_iff]
  refine ⟨trivial, ?_⟩
  intro gateway after answered
  cases answered
  exact ⟨_, rfl⟩

/-- What has been added stays owned. -/
theorem addDesiredRoutes_grows {S : Type} {env : Environment routeCommands S} {added desired : List MacosRoute} {state : S} :
    Ensures env (fun _ _ => True) (addDesiredRoutes added desired) (fun result _ => added ⊆ result.1) state := by
  induction desired generalizing added state with
  | nil => exact List.Subset.refl _
  | cons route rest ih =>
    rw [addDesiredRoutes, Ensures.bind_iff]
    apply (Ensures.any _ _).mono
    intro outcome after _
    cases outcome with
    | error error => exact List.Subset.refl _
    | ok install =>
      cases install with
      | foreign => exact ih
      | owned => exact ih.mono fun result final grown => fun route member => grown (List.mem_append_left _ member)

/-- A route through a gateway is added without a look at its destination. -/
theorem addMacosRoute_gateway {route : MacosRoute} (free : route.interface = none) :
    addMacosRoute route = (issue (.routeAdd route none none)).attempt fun _ => .done (.ok .owned) := by
  rw [addMacosRoute, free]
  rfl

/-- The pin is owned after setup, whatever was in its place. -/
theorem obliging_pins (addressable : Addressable args) (needed : args.inputs.endpointNeedsPin = true)
    (place : pinDestination args.inputs = some destination) :
    Ensures (obliging attached) (fun _ _ => True) (setupRoutes args) (fun result _ =>
      ∃ pin ∈ result.1.routesAdded, macosRouteDestination pin = some destination) kernel := by
  rw [setupRoutes]
  dsimp only
  rw [Ensures.bind_iff]
  apply (obliging_configures addressable).mono
  intro outcome configured worked
  obtain ⟨rfl, rfl⟩ := worked
  dsimp only
  rw [Ensures.bind_iff]
  apply (obliging_fingerprint needed).mono
  intro outcome seen worked
  obtain ⟨localSubnets, rfl⟩ := worked
  dsimp only
  have first : endpointPin args.inputs ⟨localSubnets, some "192.0.2.1"⟩ =
      some ⟨args.inputs.endpointIsIpv6, args.inputs.endpoint.toText, none, some "192.0.2.1"⟩ := by
    rw [endpointPin, if_pos needed]
    rfl
  rw [Ensures.bind_iff, macosDesiredRoutes, first, Option.toList_some, List.singleton_append, addDesiredRoutes,
    addMacosRoute_gateway rfl, Ensures.bind_iff, Ensures.attempt_iff, issue_iff]
  refine ⟨trivial, ?_⟩
  intro reply after answered
  have named : macosRouteDestination ⟨args.inputs.endpointIsIpv6, args.inputs.endpoint.toText, none, some "192.0.2.1"⟩ =
      some destination := place
  have worked : ∃ created, reply = .ok created := by
    have added := congrArg Prod.fst answered
    simp only [answer, workingCue, named, MacosRoute.target] at added
    split at added <;> exact ⟨_, added⟩
  obtain ⟨created, rfl⟩ := worked
  apply addDesiredRoutes_grows.mono
  intro result final grown
  exact ⟨_, grown (by simp), named⟩

/-- The deletes of a rollback or a teardown remove the entry in the place of an owned route. -/
theorem obliging_deletes {localSubnets : List Subnet} {interface : String} (owns : pin ∈ owned)
    (named : macosRouteDestination pin = some destination) :
    Ensures (obliging attached) (fun _ _ => True) (deleteRoutes owned localSubnets interface)
      (fun _ after => after.table destination = none) kernel := by
  rw [deleteRoutes]
  apply Ensures.mono (fun _ (after : Kernel) (gone : pin ∈ [] ∨ after.table destination = none) =>
    gone.resolve_left List.not_mem_nil)
  apply Ensures.foldlM (fun rest _ (after : Kernel) => pin ∈ rest ∨ after.table destination = none)
  · intro route rest errors before gone
    have restored : ∀ after : Kernel, (pin ∈ rest ∨ after.table destination = none) →
        Ensures (obliging attached) (fun _ _ => True) (do
          macosRestoreShadowedLanRoute route localSubnets interface
          return errors) (fun _ after => pin ∈ rest ∨ after.table destination = none) after := by
      intro after gone
      have kept : ∀ state op reply after, (pin ∈ rest ∨ state.table destination = none) →
          obliging attached state op reply after → op.writesTable = false → pin ∈ rest ∨ after.table destination = none := by
        intro state op reply after gone answered silent
        rwa [kernelEnvironment_quiet (obliging_allowed answered) silent]
      rw [Ensures.bind_iff]
      exact restore_keeps kept gone
    rw [deleteRoute, delMacosRoute, Ensures.bind_iff, Ensures.attempt_iff, issue_iff]
    refine ⟨trivial, ?_⟩
    intro reply after answered
    have done := congrArg Prod.fst answered
    have effect := congrArg Prod.snd answered
    simp only [answer, workingCue] at done effect
    cases place : macosRouteDestination route with
    | none =>
      simp only [place] at done effect
      rw [done]
      have kept : pin ∈ rest ∨ after.table destination = none := by
        rw [effect]
        rcases gone with waiting | gone
        · rcases List.mem_cons.mp waiting with rfl | waiting
          · cases place.symm.trans named
          · exact .inl waiting
        · exact .inr gone
      exact kept
    | some elsewhere =>
      simp only [place] at done effect
      rw [done]
      apply restored
      rw [effect]
      by_cases here : destination = elsewhere
      · rw [here]
        exact .inr (before.table_put _ _)
      · rcases gone with waiting | gone
        · rcases List.mem_cons.mp waiting with rfl | waiting
          · exact absurd (Option.some.inj (named.symm.trans place)) here
          · exact .inl waiting
        · exact .inr ((before.table_put_of_ne none here).trans gone)
  · exact .inl (List.mem_reverse.mpr owns)

/-! ### The helper's life -/

/-- The helper has ended without the entry, or is up and believes that it owns it. -/
def Doomed (destination : Subnet) : HelperPhase → Kernel → Prop
  | .ready, _ => False
  | .up _ routing, _ => ∃ pin ∈ routing.routesAdded, macosRouteDestination pin = some destination
  | .down, kernel => kernel.table destination = none

theorem obliging_connects (addressable : Addressable args) (needed : args.inputs.endpointNeedsPin = true)
    (place : pinDestination args.inputs = some destination) :
    Ensures (obligingHelper attached) (fun _ _ => True) (connectProgram args) (Doomed destination) kernel := by
  rw [connectProgram, Ensures.bind_iff, configureNetworkMacos, Ensures.bind_iff, obligingHelper, routes_iff]
  apply (obliging_pins addressable needed place).mono
  intro result installed pinned
  obtain ⟨pin, owns, named⟩ := pinned
  rw [Ensures.bind_iff]
  apply (dns_idles _).mono
  intro outcome configured same
  rw [same]
  cases outcome with
  | error setupError =>
    dsimp only
    rw [Ensures.bind_iff, rollback, Ensures.bind_iff, routes_iff]
    apply (obliging_deletes owns named).mono
    intro errors deleted gone
    rw [Ensures.bind_iff]
    apply (dns_idles _).mono
    intro memory _ same
    rw [same, Ensures.bind_iff]
    apply (dns_idles _).mono
    intro failed _ same
    rw [same]
    exact gone
  | ok fingerprint =>
    dsimp only
    rw [Ensures.bind_iff]
    apply (dns_idles _).mono
    intro key _ same
    rw [same, Ensures.bind_iff]
    apply (dns_idles _).mono
    intro _ _ same
    rw [same]
    exact ⟨pin, owns, named⟩

theorem obliging_tearsDown {cleanup : MacosCleanupState} {routing : MacosRoutingState} (owns : pin ∈ routing.routesAdded)
    (named : macosRouteDestination pin = some destination) :
    Ensures (obligingHelper attached) (fun _ _ => True) (teardownProgram cleanup routing)
      (fun phase after => phase = .down ∧ after.table destination = none) kernel := by
  have rest : Ensures (obligingHelper attached) (fun _ _ => True) (do
      let owned ← dns (Dns.issue .dnsState)
      let failed ← dns (Dns.restoreMacosDnsServices owned.services cleanup.reconcile)
      let connected ← routes (Routes.issue (.macosConnectedSubnetsByDevice cleanup.reconcile.interface))
      let errors ← routes (deleteRoutes routing.routesAdded (macosLocalConnectedSubnets connected)
        cleanup.reconcile.interface)
      return failed.map restoreMessage ++ errors) (fun _ after => after.table destination = none) kernel := by
    rw [Ensures.bind_iff, obligingHelper]
    apply (dns_idles _).mono
    intro memory _ same
    rw [same, Ensures.bind_iff]
    apply (dns_idles _).mono
    intro failed _ same
    rw [same, Ensures.bind_iff, routes_iff]
    apply (Ensures.any _ _).mono
    intro connected read _
    rw [Ensures.bind_iff, routes_iff]
    exact obliging_deletes owns named
  have ends := rest.mono fun _ after gone => (⟨rfl, gone⟩ : HelperPhase.down = .down ∧ after.table destination = none)
  rw [teardownProgram, Ensures.bind_iff, cleanupNetworkMacos]
  by_cases key : cleanup.dnsStoreKey
  · rw [if_pos key, Ensures.bind_iff, obligingHelper]
    apply (dns_idles _).mono
    intro _ _ same
    rw [same]
    exact ends
  · rw [if_neg key]
    exact ends

/-- What begins in this kernel, with the helper not yet connected. -/
def Begins (first : Kernel) (phase : HelperPhase) (kernel : Kernel) : Prop := phase = .ready ∧ kernel = first

/-- A helper whose pin takes over a protected entry may end, and the entry with it. -/
theorem taken_over_lost (taken : PinTakesOver attached args first) :
    ∃ kernel, (routeSession args (kernelEnvironment false attached)).Reachable (Begins first) (kernel, .done .down) ∧
      ¬Untouched attached first kernel := by
  obtain ⟨addressable, needed, destination, place, guarded⟩ := taken
  simp only [Free, not_forall, Bool.not_eq_false] at guarded
  obtain ⟨target, was, guarded⟩ := guarded
  have lost : ∀ kernel : Kernel, kernel.table destination = none → ¬Untouched attached first kernel := by
    intro kernel gone untouched
    cases gone.symm.trans (untouched.table destination target was guarded)
  have allowed : ∀ {phase : HelperPhase} {p : HelperProgram HelperPhase} {kernel final : Kernel},
      Completes (obligingHelper attached) p kernel phase final →
        Completes (routeSession args (kernelEnvironment false attached)).env p kernel phase final := by
    intro phase p kernel final run
    apply run.mono
    intro state op reply after answered
    cases op with
    | inl op => exact obliging_allowed answered
    | inr op => exact answered
  have start : (routeSession args (kernelEnvironment false attached)).Reachable (Begins first) (first, .done .ready) :=
    .begin ⟨rfl, rfl⟩
  obtain ⟨phase, connected, run⟩ := (obligingHelper_total attached).completes (connectProgram args) first
  have doomed := (obliging_connects addressable needed place).completes run
  have reached := start.program ⟨rfl, .connect⟩ (allowed run)
  cases phase with
  | ready => exact doomed.elim
  | down => exact ⟨connected, reached, lost connected doomed⟩
  | up cleanup routing =>
    obtain ⟨pin, owns, named⟩ := doomed
    obtain ⟨phase, ended, run⟩ := (obligingHelper_total attached).completes (teardownProgram cleanup routing) connected
    obtain ⟨rfl, gone⟩ := (obliging_tearsDown owns named).completes run
    exact ⟨ended, reached.program ⟨rfl, .teardown⟩ (allowed run), lost ended gone⟩

/-- However a helper ends, every route that is gatewayed or held by an attached network
is as it found it, exactly if its endpoint pin does not go where such a route is. -/
theorem routes_survive_iff (attached : List (String × Subnet)) (args : HelperArgs) (first : Kernel) :
    (∀ kernel, (routeSession args (kernelEnvironment false attached)).Reachable (Begins first) (kernel, .done .down) →
      Untouched attached first kernel) ↔ ¬PinTakesOver attached args first := by
  constructor
  · intro survive taken
    obtain ⟨kernel, reached, lost⟩ := taken_over_lost taken
    exact lost (survive kernel reached)
  · intro spares kernel reached
    have keeps := sparing_keeps spares
    apply (keeps.kept (sparing_ends keeps)).reachable_between _ reached
    intro phase kernel begins
    obtain ⟨rfl, rfl⟩ := begins
    exact ⟨⟨fun _ _ was _ => was, fun _ _ was _ => was⟩, nofun⟩

/-! ### A host route to the endpoint -/

/-- The user has a route of their own to the endpoint. -/
def routedKernel : Kernel := noRoutes.put pinnedEndpoint (some (.gateway "10.0.0.1"))

def routedArgs : HelperArgs := pinnedArgs ["0.0.0.0/0"]

/-- The pin is taken for installed, and the user's route is gone with the tunnel. -/
theorem host_route_lost :
    ∃ kernel, (routeSession routedArgs (kernelEnvironment false [])).Reachable (Begins routedKernel) (kernel, .done .down) ∧
      ¬Untouched [] routedKernel kernel := by
  have addressable : Addressable routedArgs := by
    show ∀ address ∈ ["10.8.0.2/32"], (parseCidr address).isSome = true
    decide +kernel
  have needed : routedArgs.inputs.endpointNeedsPin = true := by decide +kernel
  have place : pinDestination routedArgs.inputs = some pinnedEndpoint := by decide +kernel
  apply taken_over_lost
  refine ⟨addressable, needed, pinnedEndpoint, place, ?_⟩
  intro free
  exact Bool.noConfusion (free (.gateway "10.0.0.1") (noRoutes.table_put _ _))

end Wgd.Routes
