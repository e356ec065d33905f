import Wgd.Routes.Kernel

/-! What a step with one route keeps, setup and every reconcile pass keep. -/

set_option autoImplicit false

namespace Wgd.Routes

open Wgd.Net Wgd.Helper Wgd.Interaction
open Wgd.Dns (MacosCleanupState)

variable {S : Type} {env : Environment routeCommands S} {args : HelperArgs} {owns : List MacosRoute → S → Prop} {state : S}

/-- The addresses of the tunnel are networks, so that setup can get past them. -/
def Addressable (args : HelperArgs) : Prop := ∀ address ∈ args.config.addresses, (parseCidr address).isSome = true

/-- A route is installed only where no other owned route is desired in its place, and
none of its destination has failed to be deleted. -/
def Apart (desired owned : List MacosRoute) (route : MacosRoute) : Prop :=
  ∃ done rest, desired = done ++ route :: rest ∧
    ∀ other ∈ owned, other ∈ done ++ rest ∨ sameRouteDestination other route = false

/-- A relation between the owned routes and the state that each step with one route keeps. -/
structure Keeps (env : Environment routeCommands S) (args : HelperArgs)
    (owns : List MacosRoute → S → Prop) : Prop where
  quiet : ∀ owned state op reply after, owns owned state → env state op reply after →
    op.writesTable = false → owns owned after
  add : ∀ fingerprint owned route state, Addressable args → owns owned state →
    Apart (macosDesiredRoutes args.inputs fingerprint) owned route →
    Ensures env (fun _ _ => True) (addMacosRoute route) (fun outcome after => match outcome with
      | .ok .owned => owns (owned ++ [route]) after
      | .ok .foreign | .error _ => owns owned after) state
  delete : ∀ before route rest state, owns (before ++ route :: rest) state →
    Ensures env (fun _ _ => True) (delMacosRoute route) (fun outcome after => match outcome with
      | .ok () => owns (before ++ rest) after
      | .error _ => owns (before ++ route :: rest) after) state

/-- Looking at the entry of a route and clearing it does nothing but read, and delete there. -/
theorem prefixIsForeign_keeps {kept : S → Prop} {route : MacosRoute} (tunnel : String)
    (reads : ∀ state op reply after, kept state → env state op reply after → op.writesTable = false → kept after)
    (deletes : ∀ state kind ifscope reply after, kept state → env state (.routeDelete route kind ifscope) reply after →
      kept after) (start : kept state) :
    Ensures env (fun _ _ => True) (macosPrefixIsForeign route tunnel) (fun _ after => kept after) state := by
  have entry : ∀ state, kept state →
      Ensures env (fun _ _ => True) (macosRouteEntryOf route) (fun _ after => kept after) state := by
    intro state start
    rw [macosRouteEntryOf]
    split
    · exact start
    · rw [macosRouteTableEntry, Ensures.bind_iff, issue_iff]
      exact ⟨trivial, fun reply after answered => reads state _ reply after start answered rfl⟩
  have clear : ∀ ifscope state, kept state →
      Ensures env (fun _ _ => True) (macosClearRouteEntry route ifscope) (fun _ after => kept after) state := by
    intro ifscope state start
    rw [macosClearRouteEntry]
    dsimp only
    rw [Ensures.bind_iff, issue_iff]
    refine ⟨trivial, ?_⟩
    intro reply after answered
    have kept' := deletes state _ none reply after start answered
    cases ifscope with
    | none =>
      dsimp only
      rw [Ensures.bind_iff]
      exact entry after kept'
    | some device =>
      dsimp only
      rw [Ensures.bind_iff, issue_iff]
      refine ⟨trivial, ?_⟩
      intro reply final answered
      rw [Ensures.bind_iff]
      exact entry final (deletes after _ (some device) reply final kept' answered)
  rw [macosPrefixIsForeign, Ensures.bind_iff]
  apply (entry state start).mono
  intro found after kept'
  cases found with
  | none => exact kept'
  | some entry =>
    dsimp only
    split
    · rw [Ensures.bind_iff]
      exact clear none after kept'
    · rw [Ensures.bind_iff, issue_iff]
      refine ⟨trivial, ?_⟩
      intro connected read answered
      have kept'' := reads after _ connected read kept' answered rfl
      have rest : ∀ isLive : Bool, Ensures env (fun _ _ => True) (if isLive = true then Program.done true
          else do
            let remaining ← macosClearRouteEntry route entry.interface
            return remaining.isSome) (fun _ after => kept after) read := by
        intro isLive
        cases isLive with
        | true => exact kept''
        | false =>
          rw [if_neg Bool.false_ne_true, Ensures.bind_iff]
          exact clear entry.interface read kept''
      cases connected with
      | none => exact rest true
      | some connected => exact rest _

/-- Repairing a LAN does not write to the table itself. -/
theorem restore_keeps {kept : S → Prop} {route : MacosRoute} {localSubnets : List Subnet} {tunnelInterface : String}
    (reads : ∀ state op reply after, kept state → env state op reply after → op.writesTable = false → kept after)
    (start : kept state) :
    Ensures env (fun _ _ => True) (macosRestoreShadowedLanRoute route localSubnets tunnelInterface)
      (fun _ after => kept after) state := by
  rw [macosRestoreShadowedLanRoute]
  split
  · exact start
  rw [macosRouteTableEntry, Ensures.bind_iff, Ensures.bind_iff, issue_iff]
  refine ⟨trivial, ?_⟩
  intro answer looked answered
  have kept' := reads state _ answer looked start answered rfl
  rw [Program.pure_eq, Ensures.done_iff]
  split
  · exact kept'
  rw [Ensures.bind_iff, issue_iff]
  refine ⟨trivial, ?_⟩
  intro connected read answered
  have kept'' := reads looked _ connected read kept' answered rfl
  split
  · exact kept''
  rw [Ensures.bind_iff, issue_iff]
  refine ⟨trivial, ?_⟩
  intro reply after answered
  exact reads read _ reply after kept'' answered rfl

namespace Keeps

theorem fingerprint (keeps : Keeps env args owns) {owned : List MacosRoute} (fallback : GatewayFallback)
    (start : owns owned state) :
    Ensures env (fun _ _ => True) (macosCurrentFingerprint args.inputs fallback) (fun _ after => owns owned after) state := by
  rw [macosCurrentFingerprint, Ensures.bind_iff, issue_iff]
  refine ⟨trivial, ?_⟩
  intro connected after answered
  have kept := keeps.quiet owned state _ connected after start answered rfl
  dsimp only
  split
  · rw [Ensures.bind_iff, issue_iff]
    refine ⟨trivial, ?_⟩
    intro gateway final answered
    have kept' := keeps.quiet owned after _ gateway final kept answered rfl
    split <;> exact kept'
  · exact kept

theorem restore (keeps : Keeps env args owns) {owned : List MacosRoute} (route : MacosRoute) (localSubnets : List Subnet)
    (tunnelInterface : String) (start : owns owned state) :
    Ensures env (fun _ _ => True) (macosRestoreShadowedLanRoute route localSubnets tunnelInterface)
      (fun _ after => owns owned after) state :=
  restore_keeps (fun state op reply after kept answered silent =>
    keeps.quiet owned state op reply after kept answered silent) start

/-- How far the releases of a pass have come: what is installed was owned before, and is
still desired unless its delete has failed. -/
structure Released (owns : List MacosRoute → S → Prop) (desired current rest : List MacosRoute) (pass : RoutePass)
    (state : S) : Prop where
  owns : owns (pass.installed ++ rest) state
  installed : ∀ route ∈ pass.installed, route ∈ desired ∧ route ∈ current ∨
    ∃ failure ∈ pass.failing, failure.route = route ∧ failure.operation = .delete
  rest : rest ⊆ current

theorem release (keeps : Keeps env args owns) {current desired : List MacosRoute} (localSubnets : List Subnet)
    (start : owns current state) :
    Ensures env (fun _ _ => True) (current.foldlM (releaseRoute (routeActions args.inputs localSubnets) desired) .start)
      (fun pass after => Released owns desired current [] pass after) state := by
  apply Ensures.foldlM (fun rest pass after => Released owns desired current rest pass after)
  · intro route rest pass before released
    have rest' : rest ⊆ current := fun other member => released.rest (List.mem_cons_of_mem _ member)
    rw [releaseRoute]
    split
    · rename_i wanted
      have wanted : route ∈ desired := by simpa using wanted
      refine ⟨?_, ?_, rest'⟩
      · have kept := released.owns
        rwa [List.append_cons] at kept
      · intro other member
        rcases List.mem_append.mp member with earlier | now
        · exact released.installed other earlier
        · rw [List.mem_singleton.mp now]
          exact .inl ⟨wanted, released.rest List.mem_cons_self⟩
    · rw [Ensures.bind_iff]
      apply (keeps.delete _ route _ _ released.owns).mono
      intro outcome after kept
      cases outcome with
      | error error =>
        refine ⟨?_, ?_, rest'⟩
        · rwa [List.append_cons] at kept
        · intro other member
          rcases List.mem_append.mp member with earlier | now
          · rcases released.installed other earlier with desired | ⟨failure, failed, same⟩
            · exact .inl desired
            · exact .inr ⟨failure, List.mem_append_left _ failed, same⟩
          · refine .inr ⟨⟨route, .delete, error⟩, ?_, (List.mem_singleton.mp now).symm, rfl⟩
            exact List.mem_append_right _ (List.mem_singleton_self _)
      | ok value =>
        dsimp only
        rw [Ensures.bind_iff]
        apply (keeps.restore route localSubnets args.inputs.interface kept).mono
        intro _ final kept'
        exact ⟨kept', released.installed, rest'⟩
  · exact ⟨start, nofun, List.Subset.refl _⟩

/-- How far the installs of a pass have come. -/
structure Installing (owns : List MacosRoute → S → Prop) (desired current rest : List MacosRoute) (pass : RoutePass)
    (state : S) : Prop where
  owns : owns pass.installed state
  installed : ∀ route ∈ pass.installed, (∃ done, desired = done ++ rest ∧ route ∈ done) ∨
    route ∈ desired ∧ route ∈ current ∨ ∃ failure ∈ pass.failing, failure.route = route ∧ failure.operation = .delete
  suffix : rest <:+ desired

theorem install (keeps : Keeps env args owns) (addressable : Addressable args) {fingerprint : MacosNetworkFingerprint} {localSubnets : List Subnet}
    {previous : List MacosRouteFailure} {current : List MacosRoute} {retryOnly : Bool} {pass : RoutePass}
    (released : Released owns (macosDesiredRoutes args.inputs fingerprint) current [] pass state) :
    Ensures env (fun _ _ => True)
      ((macosDesiredRoutes args.inputs fingerprint).foldlM
        (installRoute (routeActions args.inputs localSubnets) previous current retryOnly) pass)
      (fun pass after => owns pass.installed after) state := by
  apply Ensures.mono (fun _ _ (installing : Installing owns (macosDesiredRoutes args.inputs fingerprint) current [] _ _) =>
    installing.owns)
  apply Ensures.foldlM (fun rest pass after => Installing owns (macosDesiredRoutes args.inputs fingerprint) current rest pass after)
  · intro route rest pass before installing
    obtain ⟨done, whole⟩ := installing.suffix
    have suffix : rest <:+ macosDesiredRoutes args.inputs fingerprint := ⟨done ++ [route], by simp [← whole]⟩
    have later : ∀ other, (∃ done, macosDesiredRoutes args.inputs fingerprint = done ++ route :: rest ∧ other ∈ done) →
        ∃ done, macosDesiredRoutes args.inputs fingerprint = done ++ rest ∧ other ∈ done := by
      intro other earlier
      obtain ⟨done, whole, member⟩ := earlier
      exact ⟨done ++ [route], by simp [whole], List.mem_append_left _ member⟩
    have kept : ∀ other ∈ pass.installed, (∃ done, macosDesiredRoutes args.inputs fingerprint = done ++ rest ∧ other ∈ done) ∨
        other ∈ macosDesiredRoutes args.inputs fingerprint ∧ other ∈ current ∨
          ∃ failure ∈ pass.failing, failure.route = other ∧ failure.operation = .delete :=
      fun other member => (installing.installed other member).imp_left (later other)
    rw [installRoute]
    split
    · exact ⟨installing.owns, kept, suffix⟩
    rename_i attempted
    simp only [skipsRoute, Bool.or_eq_true, not_or] at attempted
    obtain ⟨⟨fresh, apart⟩, -⟩ := attempted
    have fresh : route ∉ current := by simpa using fresh
    have separate : Apart (macosDesiredRoutes args.inputs fingerprint) pass.installed route := by
      refine ⟨done, rest, whole.symm, ?_⟩
      intro other member
      rcases installing.installed other member with ⟨done', whole', member'⟩ | ⟨wanted, owned⟩ | ⟨failure, failed, rfl, deleting⟩
      · have same : done' = done := List.append_cancel_right (whole'.symm.trans whole.symm)
        exact .inl (List.mem_append_left _ (same ▸ member'))
      · have different : other ≠ route := fun same => fresh (same ▸ owned)
        rw [← whole] at wanted
        rcases List.mem_append.mp wanted with earlier | later
        · exact .inl (List.mem_append_left _ earlier)
        · exact .inl (List.mem_append_right _ ((List.mem_cons.mp later).resolve_left different))
      · right
        by_contra same
        apply apart
        rw [deleteFailedFor, List.any_eq_true]
        exact ⟨failure, failed, by simp [deleting, Bool.of_not_eq_false same]⟩
    rw [Ensures.bind_iff]
    apply (keeps.add fingerprint pass.installed route before addressable installing.owns separate).mono
    intro outcome after owned
    cases outcome with
    | error error =>
      refine ⟨owned, ?_, suffix⟩
      intro other member
      rcases kept other member with earlier | wanted | ⟨failure, failed, same⟩
      · exact .inl earlier
      · exact .inr (.inl wanted)
      · exact .inr (.inr ⟨failure, List.mem_append_left _ failed, same⟩)
    | ok install =>
      cases install with
      | foreign => exact ⟨owned, kept, suffix⟩
      | owned =>
        refine ⟨owned, ?_, suffix⟩
        intro other member
        rcases List.mem_append.mp member with earlier | now
        · exact kept other earlier
        · rw [List.mem_singleton.mp now]
          exact .inl ⟨done ++ [route], by simp [← whole], by simp⟩
  · refine ⟨by simpa using released.owns, ?_, List.suffix_refl _⟩
    exact fun route member => .inr (released.installed route member)

/-- A whole reconcile of the routes. -/
theorem reconcile (keeps : Keeps env args owns) (addressable : Addressable args) {routing : MacosRoutingState} (start : owns routing.routesAdded state) :
    Ensures env (fun _ _ => True) (macosReconcileRoutes args.inputs routing)
      (fun result after => owns result.1.routesAdded after) state := by
  rw [macosReconcileRoutes, Ensures.bind_iff]
  apply (keeps.fingerprint _ start).mono
  intro outcome seen kept
  cases outcome with
  | error error => exact kept
  | ok fingerprint =>
    dsimp only
    split
    · exact kept
    rw [macosApplyRoutePlan, Ensures.bind_iff, Ensures.bind_iff]
    apply (keeps.release fingerprint.localSubnets kept).mono
    intro pass released kept'
    rw [Ensures.bind_iff]
    exact keeps.install addressable kept'

theorem addDesired (keeps : Keeps env args owns) (addressable : Addressable args) {fingerprint : MacosNetworkFingerprint} {added done desired : List MacosRoute}
    (whole : macosDesiredRoutes args.inputs fingerprint = done ++ desired) (before : added ⊆ done) (start : owns added state) :
    Ensures env (fun _ _ => True) (addDesiredRoutes added desired) (fun result after => owns result.1 after) state := by
  induction desired generalizing added done state with
  | nil => exact start
  | cons route rest ih =>
    have separate : Apart (macosDesiredRoutes args.inputs fingerprint) added route :=
      ⟨done, rest, whole, fun other member => .inl (List.mem_append_left _ (before member))⟩
    have whole' : macosDesiredRoutes args.inputs fingerprint = (done ++ [route]) ++ rest := by simp [whole]
    have before' : added ⊆ done ++ [route] := fun other member => List.mem_append_left _ (before member)
    rw [addDesiredRoutes, Ensures.bind_iff]
    apply (keeps.add fingerprint added route state addressable start separate).mono
    intro outcome after owned
    cases outcome with
    | error error => exact owned
    | ok install =>
      cases install with
      | foreign => exact ih whole' before' owned
      | owned =>
        apply ih whole' _ owned
        intro other member
        rcases List.mem_append.mp member with earlier | now
        · exact before' earlier
        · exact List.mem_append_right _ now

theorem ifconfig (keeps : Keeps env args owns) {owned : List MacosRoute} (arguments : List String)
    (start : owns owned state) :
    Ensures env (fun _ _ => True) (issue (.ifconfig arguments)) (fun _ after => owns owned after) state := by
  rw [issue_iff]
  exact ⟨trivial, fun reply after answered => keeps.quiet owned state _ reply after start answered rfl⟩

theorem configure (keeps : Keeps env args owns) {owned : List MacosRoute} (start : owns owned state) :
    Ensures env (fun _ _ => True) (configureInterface args.interface args.config) (fun outcome after =>
      owns owned after ∧ (outcome = .ok () → Addressable args)) state := by
  rw [configureInterface, Ensures.attempt_iff]
  refine Ensures.mono (fun outcome sized (kept : owns owned sized) => ?_) ?_
  rotate_left
  · dsimp only
    split
    · exact start
    · exact keeps.ifconfig _ start
  cases outcome with
  | error error => exact ⟨kept, by simp⟩
  | ok value =>
    dsimp only
    rw [Ensures.attempt_iff]
    apply Ensures.forEach (fun rest after => owns owned after ∧
      ∀ address ∈ args.config.addresses, address ∈ rest ∨ (parseCidr address).isSome = true)
    · intro address rest before kept
      obtain ⟨kept, parsed⟩ := kept
      rw [configureAddress]
      split
      · exact ⟨kept, by simp⟩
      · rename_i subnet found
        apply (keeps.ifconfig _ kept).mono
        intro outcome after kept
        cases outcome with
        | error error => exact ⟨kept, by simp⟩
        | ok value =>
          refine ⟨kept, ?_⟩
          intro other member
          rcases parsed other member with waiting | done
          · rcases List.mem_cons.mp waiting with rfl | waiting
            · exact .inr (by simp [found])
            · exact .inl waiting
          · exact .inr done
    · intro addressed kept
      obtain ⟨kept, parsed⟩ := kept
      dsimp only
      rw [Ensures.attempt_iff]
      apply (keeps.ifconfig _ kept).mono
      intro outcome up kept
      cases outcome with
      | error error => exact ⟨kept, by simp⟩
      | ok value =>
        dsimp only
        rw [Ensures.bind_iff]
        apply (keeps.ifconfig _ kept).mono
        intro _ after kept
        exact ⟨kept, fun _ address member => (parsed address member).resolve_left List.not_mem_nil⟩
    · exact ⟨kept, fun _ member => .inl member⟩

end Keeps

/-! ### The helper's life -/

theorem Keeps.setup (keeps : Keeps env args owns) (start : owns [] state) :
    Ensures env (fun _ _ => True) (setupRoutes args) (fun result after =>
      owns result.1.routesAdded after ∧ (result.2 = .ok () → Addressable args)) state := by
  rw [setupRoutes]
  dsimp only
  rw [Ensures.bind_iff]
  apply (keeps.configure start).mono
  intro outcome configured kept
  obtain ⟨kept, parsed⟩ := kept
  cases outcome with
  | error error => exact ⟨kept, nofun⟩
  | ok value =>
    have addressable := parsed rfl
    dsimp only
    rw [Ensures.bind_iff]
    apply (keeps.fingerprint _ kept).mono
    intro outcome seen kept
    cases outcome with
    | error error => exact ⟨kept, nofun⟩
    | ok fingerprint =>
      dsimp only
      rw [Ensures.bind_iff]
      have whole : macosDesiredRoutes args.inputs fingerprint = [] ++ macosDesiredRoutes args.inputs fingerprint := rfl
      apply (keeps.addDesired addressable whole (List.Subset.refl []) kept).mono
      intro result after kept
      exact ⟨kept, fun _ => addressable⟩

/-- What holds between two programs of a helper, and `finished` when it has ended. -/
def RoutesAtRest (args : HelperArgs) (owns : List MacosRoute → S → Prop) (finished : S → Prop) : HelperPhase → S → Prop
  | .ready, state => owns [] state
  | .up cleanup routing, state => cleanup.reconcile = args.inputs ∧ Addressable args ∧ owns routing.routesAdded state
  | .down, state => finished state

/-- The deletes of a rollback or a teardown end the helper well. -/
def EndsWell (env : Environment routeCommands S) (owns : List MacosRoute → S → Prop) (finished : S → Prop) : Prop :=
  ∀ owned localSubnets interface state, owns owned state →
    Ensures env (fun _ _ => True) (deleteRoutes owned localSubnets interface) (fun _ after => finished after) state

section Life

variable {finished : S → Prop} {A : Type}

/-- Commands about DNS leave the routes alone. -/
theorem dns_idles (p : Dns.DnsProgram A) :
    Ensures (env.both (Environment.idle Dns.dnsCommands S)) (fun _ _ => True) (dns p) (fun _ after => after = state) state :=
  Ensures.inr_iff.mpr (Ensures.idle (fun _ => trivial) p)

theorem routes_iff {p : RouteProgram A} {post : A → S → Prop} :
    Ensures (env.both (Environment.idle Dns.dnsCommands S)) (fun _ _ => True) (routes p) post state ↔
      Ensures env (fun _ _ => True) p post state :=
  Ensures.inl_iff

/-- DNS is set up only where the routes are. -/
theorem setupDns_idles {routing : MacosRoutingState} {installed : Except String Unit} :
    Ensures (env.both (Environment.idle Dns.dnsCommands S)) (fun _ _ => True) (dns (setupDns args routing installed))
      (fun outcome after => after = state ∧ ∀ fingerprint, outcome = .ok fingerprint → installed = .ok ()) state := by
  cases installed with
  | error error => exact ⟨rfl, nofun⟩
  | ok value => exact (dns_idles _).mono fun _ _ same => ⟨same, fun _ _ => rfl⟩

theorem Keeps.connect (keeps : Keeps env args owns) (ends : EndsWell env owns finished) (start : owns [] state) :
    Ensures (env.both (Environment.idle Dns.dnsCommands S)) (fun _ _ => True) (connectProgram args)
      (RoutesAtRest args owns finished) state := by
  rw [connectProgram, Ensures.bind_iff, configureNetworkMacos, Ensures.bind_iff, routes_iff]
  apply (keeps.setup start).mono
  intro result installed kept
  obtain ⟨kept, parsed⟩ := kept
  rw [Ensures.bind_iff]
  apply setupDns_idles.mono
  intro outcome configured same
  obtain ⟨rfl, worked⟩ := same
  cases outcome with
  | error setupError =>
    dsimp only
    rw [Ensures.bind_iff, rollback, Ensures.bind_iff, routes_iff]
    apply (ends _ _ _ _ kept).mono
    intro errors deleted done
    rw [Ensures.bind_iff]
    apply (dns_idles _).mono
    intro owned _ same
    rw [same, Ensures.bind_iff]
    apply (dns_idles _).mono
    intro failed _ same
    rw [same]
    exact done
  | ok fingerprint =>
    dsimp only
    rw [Ensures.bind_iff]
    apply (dns_idles _).mono
    intro key _ same
    rw [same, Ensures.bind_iff]
    apply (dns_idles _).mono
    intro _ _ same
    rw [same]
    exact ⟨rfl, parsed (worked fingerprint rfl), kept⟩

theorem Keeps.teardown (keeps : Keeps env args owns) (ends : EndsWell env owns finished) {cleanup : MacosCleanupState}
    {routing : MacosRoutingState} (start : owns routing.routesAdded state) :
    Ensures (env.both (Environment.idle Dns.dnsCommands S)) (fun _ _ => True) (teardownProgram cleanup routing)
      (RoutesAtRest args owns finished) state := by
  have rest : Ensures (env.both (Environment.idle Dns.dnsCommands S)) (fun _ _ => True) (do
      let owned ← dns (Dns.issue .dnsState)
      let failed ← dns (Dns.restoreMacosDnsServices owned.services cleanup.reconcile)
      let connected ← routes (Routes.issue (.macosConnectedSubnetsByDevice cleanup.reconcile.interface))
      let errors ← routes (deleteRoutes routing.routesAdded (macosLocalConnectedSubnets connected)
        cleanup.reconcile.interface)
      return failed.map restoreMessage ++ errors) (fun _ after => finished after) state := by
    rw [Ensures.bind_iff]
    apply (dns_idles _).mono
    intro owned _ same
    rw [same, Ensures.bind_iff]
    apply (dns_idles _).mono
    intro failed _ same
    rw [same, Ensures.bind_iff, routes_iff, issue_iff]
    refine ⟨trivial, ?_⟩
    intro connected read answered
    rw [Ensures.bind_iff, routes_iff]
    exact ends _ _ _ _ (keeps.quiet _ _ _ connected read start answered rfl)
  rw [teardownProgram, Ensures.bind_iff, cleanupNetworkMacos]
  by_cases key : cleanup.dnsStoreKey
  · rw [if_pos key, Ensures.bind_iff]
    apply (dns_idles _).mono
    intro _ _ same
    rw [same]
    exact rest
  · rw [if_neg key]
    exact rest

/-- What each step keeps holds at every moment of rest, over the helper's whole life. -/
theorem Keeps.kept (keeps : Keeps env args owns) (ends : EndsWell env owns finished) :
    (routeSession args env).Kept (fun _ => True) (RoutesAtRest args owns finished) where
  program := by
    intro phase _ state p rest started
    obtain ⟨rfl, started⟩ := started
    have whole : Ensures (env.both (Environment.idle Dns.dnsCommands S)) (fun _ _ => True) p
        (RoutesAtRest args owns finished) state := by
      cases started with
      | connect => exact keeps.connect ends rest
      | routeTick =>
        obtain ⟨same, addressable, owned⟩ := rest
        rw [routeTick, Ensures.bind_iff, routes_iff, same]
        apply (keeps.reconcile addressable owned).mono
        intro result after owned
        exact ⟨same, addressable, owned⟩
      | dnsTick =>
        rw [dnsTick, Ensures.bind_iff]
        apply (dns_idles _).mono
        intro changed _ same
        rw [same]
        exact rest
      | teardown => exact keeps.teardown ends rest.2.2
    apply (whole.relax fun _ _ _ => trivial).narrower
    intro before op reply after answered
    obtain ⟨changed, changes, answered⟩ := answered
    cases changes with
    | refl => exact answered
    | tail _ change => exact change.elim
  moment := fun _ _ _ => trivial
  others := fun _ _ _ _ => trivial
  stable := fun _ _ _ _ changed => changed.elim
  death := fun _ _ _ _ died => died.elim

end Life

end Wgd.Routes
