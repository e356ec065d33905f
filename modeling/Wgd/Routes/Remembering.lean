import Wgd.Routes.Reconcile

/-! What a pass leaves undone, the routing state remembers: over any run of passes,
whatever each add and each delete answers. -/

set_option autoImplicit false

namespace Wgd.Routes

open Wgd.Interaction

/-- The system calls of a pass as commands, so that whoever answers decides how each ends. -/
inductive RouteCall where
  | delete (route : MacosRoute)
  | add (route : MacosRoute)
  | restore (route : MacosRoute)
  deriving DecidableEq, Repr

@[reducible] def RouteCall.Reply : RouteCall → Type
  | .delete _ => Except String Unit
  | .add _ => Except String MacosRouteInstall
  | .restore _ => Unit

abbrev routeCalls : Commands := ⟨RouteCall, RouteCall.Reply⟩

def injected : RouteActions routeCalls where
  delete := fun route => @Program.command routeCalls (.delete route)
  add := fun route => @Program.command routeCalls (.add route)
  restore := fun route => @Program.command routeCalls (.restore route)

/-- What an observer of the calls has noted. -/
structure RouteJournal where
  /-- The outcome of the last add of each route. -/
  lastAdd : MacosRoute → Option (Except String MacosRouteInstall)
  /-- A call of this pass has failed. -/
  failed : Bool

def RouteJournal.observe (journal : RouteJournal) : (call : RouteCall) → call.Reply → RouteJournal
  | .delete _, .ok () => journal
  | .delete _, .error _ => { journal with failed := true }
  | .add route, .ok install =>
    { journal with lastAdd := Function.update journal.lastAdd route (some (.ok install)) }
  | .add route, .error error => ⟨Function.update journal.lastAdd route (some (.error error)), true⟩
  | .restore _, () => journal

/-- Any outcome for any call. -/
def anyOutcome : Environment routeCalls RouteJournal :=
  fun journal call reply after => after = journal.observe call reply

/-- The routing state between two passes, with the set the last pass was given. -/
structure Reconciling where
  routing : MacosRoutingState
  desired : Option (List MacosRoute)
  journal : RouteJournal

/-- One pass. The network did not change before a retry, so it is given the last set again. -/
inductive Reconciling.Pass : Reconciling → Reconciling → Prop where
  | pass {before : Reconciling} {desired : List MacosRoute} {retryOnly : Bool} {routing : MacosRoutingState}
      {pass : RoutePass} {journal : RouteJournal} (reused : retryOnly = true → before.desired = some desired)
      (applied : Completes anyOutcome (macosApplyRoutePlan before.routing desired retryOnly injected)
        { before.journal with failed := false } (routing, pass) journal) :
      Pass before ⟨routing, some desired, journal⟩

/-- An add of the route waits among the failures, or a delete at its destination. -/
def AwaitsRetry (failing : List MacosRouteFailure) (route : MacosRoute) : Prop :=
  ∃ failure ∈ failing, failure.operation = .add ∧ failure.route = route ∨
    failure.operation = .delete ∧ sameRouteDestination failure.route route = true

/-- A desired route that is not forgotten. -/
def Remembered (owned : List MacosRoute) (failing : List MacosRouteFailure) (journal : RouteJournal)
    (route : MacosRoute) : Prop :=
  route ∈ owned ∨ journal.lastAdd route = some (.ok .foreign) ∨ AwaitsRetry failing route

/-- What holds of the owned routes and the failures against the set of a pass. -/
structure Accounts (desired owned : List MacosRoute) (failing : List MacosRouteFailure) (journal : RouteJournal) :
    Prop where
  undesired : ∀ route ∈ owned, route ∉ desired → ∃ failure ∈ failing, failure.operation = .delete ∧ failure.route = route
  clean : journal.failed = false → failing = [] ∧ owned ⊆ desired

theorem AwaitsRetry.mono {failing more : List MacosRouteFailure} {route : MacosRoute}
    (awaits : AwaitsRetry failing route) (subset : failing ⊆ more) : AwaitsRetry more route := by
  obtain ⟨failure, member, waits⟩ := awaits
  exact ⟨failure, subset member, waits⟩

theorem deleteFailedFor_awaits {failing : List MacosRouteFailure} {route : MacosRoute}
    (failed : deleteFailedFor failing route = true) : AwaitsRetry failing route := by
  simp only [deleteFailedFor, List.any_eq_true, Bool.and_eq_true, beq_iff_eq] at failed
  obtain ⟨failure, member, waits⟩ := failed
  exact ⟨failure, member, .inr waits⟩

theorem awaitsRetry_iff {failing : List MacosRouteFailure} {route : MacosRoute} :
    AwaitsRetry failing route ↔
      (failing.any fun failure => failure.route == route && failure.operation == .add) = true ∨
        deleteFailedFor failing route = true := by
  simp only [AwaitsRetry, deleteFailedFor, List.any_eq_true, Bool.and_eq_true, beq_iff_eq]
  constructor
  · intro awaits
    obtain ⟨failure, member, ⟨operation, same⟩ | waits⟩ := awaits
    · exact .inl ⟨failure, member, same, operation⟩
    · exact .inr ⟨failure, member, waits⟩
  · intro found
    cases found with
    | inl added =>
      obtain ⟨failure, member, same, operation⟩ := added
      exact ⟨failure, member, .inl ⟨operation, same⟩⟩
    | inr deleted =>
      obtain ⟨failure, member, waits⟩ := deleted
      exact ⟨failure, member, .inr waits⟩

namespace Accounts

variable {desired owned : List MacosRoute} {failing : List MacosRouteFailure} {journal after : RouteJournal}
  {route : MacosRoute}

theorem start : Accounts desired [] [] journal where
  undesired := by simp
  clean := by simp

/-- Of the journal only the failures of this pass matter. -/
theorem congr (accounts : Accounts desired owned failing journal) (same : after.failed = journal.failed) :
    Accounts desired owned failing after where
  undesired := accounts.undesired
  clean := by
    rw [same]
    exact accounts.clean

theorem own (accounts : Accounts desired owned failing journal) (wanted : route ∈ desired) :
    Accounts desired (owned ++ [route]) failing journal where
  undesired := by
    intro other member unwanted
    rw [List.mem_append, List.mem_singleton] at member
    cases member with
    | inl earlier => exact accounts.undesired other earlier unwanted
    | inr same => exact absurd (same ▸ wanted) unwanted
  clean := by
    intro quiet
    obtain ⟨nothing, within⟩ := accounts.clean quiet
    refine ⟨nothing, ?_⟩
    simp [within, wanted]

theorem failAdd (accounts : Accounts desired owned failing journal) (error : String) (failed : after.failed = true) :
    Accounts desired owned (failing ++ [⟨route, .add, error⟩]) after where
  undesired := by
    intro other member unwanted
    obtain ⟨failure, held, waits⟩ := accounts.undesired other member unwanted
    exact ⟨failure, List.mem_append_left _ held, waits⟩
  clean := by simp [failed]

theorem failDelete (accounts : Accounts desired owned failing journal) (error : String) (failed : after.failed = true) :
    Accounts desired (owned ++ [route]) (failing ++ [⟨route, .delete, error⟩]) after where
  undesired := by
    intro other member unwanted
    rw [List.mem_append, List.mem_singleton] at member
    cases member with
    | inl earlier =>
      obtain ⟨failure, held, waits⟩ := accounts.undesired other earlier unwanted
      exact ⟨failure, List.mem_append_left _ held, waits⟩
    | inr same => exact ⟨⟨route, .delete, error⟩, by simp, rfl, same.symm⟩
  clean := by simp [failed]

end Accounts

/-! ### The deletes of a pass -/

/-- The owned routes seen so far that are still desired are kept. -/
structure Released (desired current rest : List MacosRoute) (before : RouteJournal) (pass : RoutePass)
    (journal : RouteJournal) : Prop where
  kept : ∀ route ∈ current, route ∈ desired → route ∈ rest ∨ route ∈ pass.installed
  accounts : Accounts desired pass.installed pass.failing journal
  lastAdd : journal.lastAdd = before.lastAdd

theorem releaseRoute_released {desired current rest : List MacosRoute} {route : MacosRoute} {before journal : RouteJournal}
    {pass : RoutePass} (released : Released desired current (route :: rest) before pass journal) :
    Ensures anyOutcome (fun _ _ => True) (releaseRoute injected desired pass route)
      (fun pass' journal' => Released desired current rest before pass' journal') journal := by
  have kept : ∀ other ∈ current, other ∈ desired → other = route ∨ other ∈ rest ∨ other ∈ pass.installed := by
    intro other member wanted
    have := released.kept other member wanted
    simpa [or_assoc] using this
  unfold releaseRoute
  split
  next wanted =>
    simp only [List.contains_eq_mem, decide_eq_true_eq] at wanted
    refine ⟨?_, released.accounts.own wanted, released.lastAdd⟩
    intro other member desired
    have := kept other member desired
    simp only [List.mem_append, List.mem_singleton]
    tauto
  next unwanted =>
    simp only [List.contains_eq_mem, decide_eq_true_eq] at unwanted
    have left : ∀ other ∈ current, other ∈ desired → other ∈ rest ∨ other ∈ pass.installed := by
      intro other member wanted
      cases kept other member wanted with
      | inl same => exact absurd (same ▸ wanted) unwanted
      | inr there => exact there
    rw [Ensures.bind_iff]
    refine ⟨trivial, ?_⟩
    intro outcome noted answered
    cases answered
    cases outcome with
    | error error =>
      refine ⟨?_, released.accounts.failDelete error rfl, released.lastAdd⟩
      intro other member wanted
      have := left other member wanted
      simp only [List.mem_append]
      tauto
    | ok done =>
      refine ⟨trivial, ?_⟩
      intro reply repaired answered
      cases answered
      exact ⟨left, released.accounts, released.lastAdd⟩

/-! ### The adds of a pass -/

/-- A retry leaves the route alone, since nothing failed about it. -/
def restsOn (previous : List MacosRouteFailure) (retryOnly : Bool) (route : MacosRoute) : Prop :=
  retryOnly = true ∧ ¬AwaitsRetry previous route

theorem skipsRoute_iff {previous : List MacosRouteFailure} {current : List MacosRoute} {retryOnly : Bool}
    {pass : RoutePass} {route : MacosRoute} :
    skipsRoute previous current retryOnly pass route = true ↔
      route ∈ current ∨ deleteFailedFor pass.failing route = true ∨ restsOn previous retryOnly route := by
  simp only [skipsRoute, restsOn, awaitsRetry_iff, Bool.or_eq_true, Bool.and_eq_true, List.contains_eq_mem,
    decide_eq_true_eq, Bool.not_eq_true', Bool.not_eq_true, not_or]
  tauto

/-- The desired routes seen so far are remembered. -/
structure Installed (desired current rest : List MacosRoute) (previous : List MacosRouteFailure) (retryOnly : Bool)
    (before : RouteJournal) (pass : RoutePass) (journal : RouteJournal) : Prop where
  kept : ∀ route ∈ current, route ∈ desired → route ∈ pass.installed
  accounts : Accounts desired pass.installed pass.failing journal
  rested : ∀ route, restsOn previous retryOnly route → journal.lastAdd route = before.lastAdd route
  seen : ∀ route ∈ desired, route ∈ rest ∨ Remembered pass.installed pass.failing journal route

section Adds

variable {desired current rest : List MacosRoute} {previous : List MacosRouteFailure} {retryOnly : Bool}
  {before journal after : RouteJournal} {pass pass' : RoutePass} {route : MacosRoute}

/-- What is remembered of a route outlasts the handling of any other, and that of itself is new. -/
theorem Remembered.mono {owned owned' : List MacosRoute} {failing failing' : List MacosRouteFailure} {other : MacosRoute}
    (remembered : Remembered owned failing journal other) (more : owned ⊆ owned') (waiting : failing ⊆ failing')
    (same : after.lastAdd other = journal.lastAdd other) : Remembered owned' failing' after other := by
  rw [Remembered, same]
  cases remembered with
  | inl held => exact .inl (more held)
  | inr rest =>
    cases rest with
    | inl foreign => exact .inr (.inl foreign)
    | inr awaits => exact .inr (.inr (awaits.mono waiting))

/-- One step of the adds, from what it did to the route at hand. -/
theorem Installed.step (installed : Installed desired current (route :: rest) previous retryOnly before pass journal)
    (accounts : Accounts desired pass'.installed pass'.failing after) (more : pass.installed ⊆ pass'.installed)
    (waiting : pass.failing ⊆ pass'.failing) (others : ∀ other, other ≠ route → after.lastAdd other = journal.lastAdd other)
    (rested : restsOn previous retryOnly route → after.lastAdd route = journal.lastAdd route)
    (handled : Remembered pass'.installed pass'.failing after route) :
    Installed desired current rest previous retryOnly before pass' after where
  kept := by
    intro other member wanted
    exact more (installed.kept other member wanted)
  accounts := accounts
  rested := by
    intro other rests
    by_cases same : other = route
    · subst same
      exact (rested rests).trans (installed.rested other rests)
    · exact (others other same).trans (installed.rested other rests)
  seen := by
    intro other wanted
    by_cases same : other = route
    · subst same
      exact .inr handled
    · cases installed.seen other wanted with
      | inl left =>
        rw [List.mem_cons] at left
        exact .inl (left.resolve_left same)
      | inr remembered => exact .inr (remembered.mono more waiting (others other same))

theorem installRoute_installed (wanted : route ∈ desired)
    (recalled : restsOn previous retryOnly route → route ∈ current ∨ before.lastAdd route = some (.ok .foreign))
    (installed : Installed desired current (route :: rest) previous retryOnly before pass journal) :
    Ensures anyOutcome (fun _ _ => True) (installRoute injected previous current retryOnly pass route)
      (fun pass' after => Installed desired current rest previous retryOnly before pass' after) journal := by
  unfold installRoute
  split
  next skips =>
    apply installed.step installed.accounts (List.Subset.refl _) (List.Subset.refl _) (fun _ _ => rfl) (fun _ => rfl)
    rw [skipsRoute_iff] at skips
    have heldHere : route ∈ current → route ∈ pass.installed := fun held => installed.kept route held wanted
    cases skips with
    | inl held => exact .inl (heldHere held)
    | inr rest =>
      cases rest with
      | inl blocked => exact .inr (.inr (deleteFailedFor_awaits blocked))
      | inr rests =>
        cases recalled rests with
        | inl held => exact .inl (heldHere held)
        | inr foreign => exact .inr (.inl ((installed.rested route rests).trans foreign))
  next tries =>
    -- Only a route that does not rest is tried, so the routes at rest keep their last outcome.
    have tried : ¬restsOn previous retryOnly route := by
      intro rests
      exact tries (skipsRoute_iff.mpr (.inr (.inr rests)))
    rw [Ensures.bind_iff]
    refine ⟨trivial, ?_⟩
    intro outcome noted answered
    cases answered
    cases outcome with
    | error error =>
      simp only [Program.pure_eq, Ensures.done_iff]
      apply installed.step
      · exact installed.accounts.failAdd error rfl
      · exact List.Subset.refl _
      · exact List.subset_append_left _ _
      · intro other different
        exact Function.update_of_ne different _ _
      · intro rests
        exact absurd rests tried
      · exact .inr (.inr ⟨⟨route, .add, error⟩, by simp, .inl ⟨rfl, rfl⟩⟩)
    | ok install =>
      have others : ∀ other, other ≠ route →
          (journal.observe (.add route) (.ok install)).lastAdd other = journal.lastAdd other := by
        intro other different
        exact Function.update_of_ne different _ _
      have noted : (journal.observe (.add route) (.ok install)).lastAdd route = some (.ok install) :=
        Function.update_self _ _ _
      have accounts : Accounts desired pass.installed pass.failing (journal.observe (.add route) (.ok install)) :=
        installed.accounts.congr rfl
      cases install with
      | owned =>
        simp only [Program.pure_eq, Ensures.done_iff]
        apply installed.step
        · exact accounts.own wanted
        · exact List.subset_append_left _ _
        · exact List.Subset.refl _
        · exact others
        · intro rests
          exact absurd rests tried
        · exact .inl (by simp)
      | foreign =>
        simp only [Program.pure_eq, Ensures.done_iff]
        apply installed.step accounts (List.Subset.refl _) (List.Subset.refl _) others
        · intro rests
          exact absurd rests tried
        · exact .inr (.inl noted)

end Adds

/-! ### Runs of passes -/

/-- What holds of the routing state after a pass with this set. -/
structure Remembering (desired : List MacosRoute) (routing : MacosRoutingState) (journal : RouteJournal) : Prop where
  remembered : ∀ route ∈ desired, Remembered routing.routesAdded routing.failing journal route
  accounts : Accounts desired routing.routesAdded routing.failing journal

theorem applyRoutePlan_remembering {desired : List MacosRoute} {routing : MacosRoutingState} {retryOnly : Bool}
    {journal : RouteJournal}
    (recalled : retryOnly = true → ∀ route ∈ desired, Remembered routing.routesAdded routing.failing journal route) :
    Ensures anyOutcome (fun _ _ => True) (macosApplyRoutePlan routing desired retryOnly injected)
      (fun result after => Remembering desired result.1 after) { journal with failed := false } := by
  unfold macosApplyRoutePlan
  rw [Ensures.bind_iff]
  have start : Released desired routing.routesAdded routing.routesAdded journal .start { journal with failed := false } :=
    ⟨fun route member _ => .inl member, .start, rfl⟩
  apply (Ensures.foldlM (fun rest pass after => Released desired routing.routesAdded rest journal pass after)
    (fun route rest pass after released => releaseRoute_released released) start).mono
  intro released between done
  rw [Ensures.bind_iff]
  have resting : ∀ route ∈ desired, restsOn routing.failing retryOnly route →
      route ∈ routing.routesAdded ∨ between.lastAdd route = some (.ok .foreign) := by
    intro route wanted rests
    rw [done.lastAdd]
    cases recalled rests.1 route wanted with
    | inl held => exact .inl held
    | inr rest => exact .inr (rest.resolve_right rests.2)
  have opened : Installed desired routing.routesAdded desired routing.failing retryOnly between released between := by
    constructor
    · intro route member wanted
      simpa using done.kept route member wanted
    · exact done.accounts
    · intro route rests
      rfl
    · intro route wanted
      exact .inl wanted
  -- The routes left to handle are all desired.
  apply (Ensures.foldlM (fun rest pass after => rest ⊆ desired ∧
    Installed desired routing.routesAdded rest routing.failing retryOnly between pass after) ?_
    ⟨List.Subset.refl desired, opened⟩).mono
  · intro pass after finished
    obtain ⟨-, installed⟩ := finished
    refine ⟨?_, installed.accounts⟩
    intro route wanted
    simpa using installed.seen route wanted
  · intro route rest pass after left
    obtain ⟨subset, installed⟩ := left
    rw [List.cons_subset] at subset
    apply (installRoute_installed subset.1 (resting route subset.1) installed).mono
    intro pass' after' installed'
    exact ⟨subset.2, installed'⟩

theorem pass_remembering {before after : Reconciling} (pass : Reconciling.Pass before after)
    (held : ∀ desired, before.desired = some desired → Remembering desired before.routing before.journal) :
    ∀ desired, after.desired = some desired → Remembering desired after.routing after.journal := by
  intro desired last
  cases pass with
  | pass reused applied =>
    cases last
    have recalled := fun retried => (held desired (reused retried)).remembered
    exact (applyRoutePlan_remembering recalled).completes applied

theorem passes_remembering {routing : MacosRoutingState} {journal : RouteJournal} {state : Reconciling}
    (run : Relation.ReflTransGen Reconciling.Pass ⟨routing, none, journal⟩ state) :
    ∀ desired, state.desired = some desired → Remembering desired state.routing state.journal := by
  induction run with
  | refl =>
    intro desired last
    cases last
  | tail _ pass ih => exact pass_remembering pass ih

/-- Whatever the adds and deletes of all passes answered: every route of the last set is
owned, or was refused because another holds its prefix, or is waited for; an owned route
that is no longer desired waits for its delete; and after a pass in which no call failed
nothing is waited for and only desired routes are owned. -/
theorem desired_routes_not_forgotten {routing : MacosRoutingState} {journal : RouteJournal} {state : Reconciling}
    {desired : List MacosRoute} (run : Relation.ReflTransGen Reconciling.Pass ⟨routing, none, journal⟩ state)
    (last : state.desired = some desired) :
    (∀ route ∈ desired, route ∈ state.routing.routesAdded ∨ state.journal.lastAdd route = some (.ok .foreign) ∨
      ∃ failure ∈ state.routing.failing, failure.operation = .add ∧ failure.route = route ∨
        failure.operation = .delete ∧ sameRouteDestination failure.route route = true) ∧
    (∀ route ∈ state.routing.routesAdded, route ∉ desired →
      ∃ failure ∈ state.routing.failing, failure.operation = .delete ∧ failure.route = route) ∧
    (state.journal.failed = false → state.routing.failing = [] ∧ state.routing.routesAdded ⊆ desired) := by
  have holds := passes_remembering run desired last
  exact ⟨holds.remembered, holds.accounts.undesired, holds.accounts.clean⟩

/-- Refuses the routes at one destination; the first add of any other route fails. -/
def moody (physical : String) : Handler routeCalls RouteJournal := fun journal call =>
  match call with
  | .add route =>
    let reply := if route.destination = physical then .ok .foreign
      else if journal.lastAdd route = none then .error "Network is unreachable" else .ok .owned
    (reply, journal.observe (.add route) reply)
  | .delete _ => (.ok (), journal)
  | .restore _ => ((), journal)

def moodyPass (physical : String) (desired : List MacosRoute) (before : Reconciling) (retryOnly : Bool) : Reconciling :=
  let (result, journal) := interpret (moody physical) (macosApplyRoutePlan before.routing desired retryOnly injected)
    { before.journal with failed := false }
  ⟨result.1, some desired, journal⟩

theorem moodyPass_is_pass (physical : String) (desired : List MacosRoute) (before : Reconciling) (retryOnly : Bool)
    (reused : retryOnly = true → before.desired = some desired) :
    Reconciling.Pass before (moodyPass physical desired before retryOnly) := by
  have faithful : (moody physical).Faithful id anyOutcome := by
    intro journal call
    cases call <;> rfl
  exact .pass reused (interpret_completes faithful _ _)

/-- A route that is wanted and one whose prefix a physical interface holds. -/
def wantedPair : List MacosRoute :=
  [tunnelRoute false "utun7" "10.66.77.0/24", tunnelRoute false "utun7" "10.66.78.0/24"]

def noPassYet : Reconciling := ⟨⟨[], ⟨[], none⟩, []⟩, none, ⟨fun _ => none, false⟩⟩

theorem desired_routes_not_forgotten_retry :
    ∃ state : Reconciling, Relation.ReflTransGen Reconciling.Pass noPassYet state ∧
      (∀ route ∈ wantedPair, route ∈ state.routing.routesAdded ∨ state.journal.lastAdd route = some (.ok .foreign) ∨
        AwaitsRetry state.routing.failing route) ∧
      state.routing.routesAdded = [tunnelRoute false "utun7" "10.66.77.0/24"] ∧ state.routing.failing = [] := by
  have first : Reconciling.Pass noPassYet (moodyPass "10.66.78.0/24" wantedPair noPassYet false) :=
    moodyPass_is_pass _ _ _ _ (by decide)
  have second := moodyPass_is_pass "10.66.78.0/24" wantedPair
    (moodyPass "10.66.78.0/24" wantedPair noPassYet false) true (fun _ => rfl)
  have run := (Relation.ReflTransGen.refl.tail first).tail second
  have holds := desired_routes_not_forgotten run rfl
  exact ⟨_, run, holds.1, by decide +kernel, (holds.2.2 (by decide +kernel)).1⟩

end Wgd.Routes
