import Wgd.Routes.Keeping
import Wgd.Routes.Script

/-! The routes a helper believes it owns are the entries it put in the kernel. -/

set_option autoImplicit false

namespace Wgd.Routes

open Wgd.Net Wgd.Helper Wgd.Interaction

/-- Which entries of the table the helper has put there and not removed. -/
abbrev Ours := Subnet → Bool

def Ours.observe (ours : Ours) : (op : RouteOp) → op.Reply → Ours
  | .routeAdd route _ none, .ok true => match macosRouteDestination route with
    | some destination => Function.update ours destination true
    | none => ours
  | .routeDelete route _ none, .ok _ => match macosRouteDestination route with
    | some destination => Function.update ours destination false
    | none => ours
  | _, _ => ours

/-- A kernel on which any command may fail, under observation. -/
def tableHost : Environment routeCommands (Kernel × Ours) := (kernelEnvironment true []).observe Ours.observe

/-- The kernel holds nothing in the place of a route that is added, or just this route. -/
def unoccupied (state : Kernel × Ours) : RouteOp → Bool
  | .routeAdd route _ none => (macosRouteDestination route).all fun destination =>
      state.1.table destination == none || state.1.table destination == route.target
  | _ => true

def clearHost : Environment routeCommands (Kernel × Ours) := tableHost.meeting fun state op _ => unoccupied state op = true

def Colliding (left right : MacosRoute) : Prop :=
  ∃ destination, macosRouteDestination left = some destination ∧ macosRouteDestination right = some destination

theorem Colliding.symm {left right : MacosRoute} (colliding : Colliding left right) : Colliding right left := by
  obtain ⟨destination, one, other⟩ := colliding
  exact ⟨destination, other, one⟩

theorem Colliding.same {left right : MacosRoute} (colliding : Colliding left right) :
    sameRouteDestination left right = true := by
  obtain ⟨destination, one, other⟩ := colliding
  simp [sameRouteDestination, one, other]

/-- No two routes that are ever desired together have one destination. -/
def DistinctDestinations (inputs : MacosReconcileInputs) : Prop :=
  ∀ fingerprint, (macosDesiredRoutes inputs fingerprint).Pairwise fun left right => ¬Colliding left right

/-- Every owned route is the entry at its destination, and every entry the helper put in
the table and has not removed is an owned route. -/
def OwnsExactly (owned : List MacosRoute) (state : Kernel × Ours) : Prop :=
  (∀ route ∈ owned, ∃ destination target, macosRouteDestination route = some destination ∧
    route.target = some target ∧ state.1.table destination = some target) ∧
  ∀ destination, state.2 destination = true → ∃ route ∈ owned, macosRouteDestination route = some destination ∧
    state.1.table destination = route.target

structure Owning (owned : List MacosRoute) (state : Kernel × Ours) : Prop where
  distinct : owned.Pairwise fun left right => ¬Colliding left right
  held : ∀ route ∈ owned, ∃ destination target, macosRouteDestination route = some destination ∧
    route.target = some target ∧ state.1.table destination = some target
  ours : ∀ destination, state.2 destination = true → ∃ route ∈ owned, macosRouteDestination route = some destination

namespace Owning

variable {owned before rest : List MacosRoute} {route : MacosRoute} {state after : Kernel × Ours}

theorem exactly (owning : Owning owned state) : OwnsExactly owned state := by
  refine ⟨owning.held, ?_⟩
  intro destination ours
  obtain ⟨route, member, named⟩ := owning.ours destination ours
  obtain ⟨destination', target, named', shows, held⟩ := owning.held route member
  cases named.symm.trans named'
  exact ⟨route, member, named, held.trans shows.symm⟩

/-- Only the table and the helper's own entries matter. -/
theorem congr (owning : Owning owned state) (table : after.1.table = state.1.table) (ours : after.2 = state.2) :
    Owning owned after where
  distinct := owning.distinct
  held := by
    rw [table]
    exact owning.held
  ours := by
    rw [ours]
    exact owning.ours

theorem quiet {op : RouteOp} {reply : op.Reply} (owning : Owning owned state) (answered : clearHost state op reply after)
    (silent : op.writesTable = false) : Owning owned after := by
  obtain ⟨-, done, watched⟩ := answered
  apply owning.congr (kernelEnvironment_quiet done silent)
  rw [watched]
  cases op with
  | routeDelete => exact nomatch silent
  | routeAdd route kind ifscope =>
    cases ifscope with
    | none => exact nomatch silent
    | some device => rfl
  | _ => rfl

/-- What is removed at a destination concerns only the routes of that destination. -/
theorem remove {destination : Subnet} (owning : Owning owned state) (part : before.Sublist owned)
    (elsewhere : ∀ other ∈ before, macosRouteDestination other ≠ some destination)
    (others : ∀ other ∈ owned, other ∈ before ∨ macosRouteDestination other = some destination) :
    Owning before (state.1.put destination none, Function.update state.2 destination false) where
  distinct := owning.distinct.sublist part
  held := by
    intro other member
    obtain ⟨place, target, named, shows, held⟩ := owning.held other (part.subset member)
    have different : place ≠ destination := fun same => elsewhere other member (same ▸ named)
    exact ⟨place, target, named, shows, (state.1.table_put_of_ne none different).trans held⟩
  ours := by
    intro place ours
    dsimp only at ours
    by_cases here : place = destination
    · rw [here, Function.update_self] at ours
      exact nomatch ours
    · rw [Function.update_of_ne here] at ours
      obtain ⟨other, member, named⟩ := owning.ours place ours
      rcases others other member with kept | gone
      · exact ⟨other, kept, named⟩
      · exact absurd (Option.some.inj (named.symm.trans gone)) here

/-- What is put at a destination of no owned route is a new owned route. -/
theorem put {destination : Subnet} {target : Target} {ours : Ours} (owning : Owning owned state)
    (named : macosRouteDestination route = some destination) (shows : route.target = some target)
    (free : ∀ other ∈ owned, ¬Colliding other route)
    (mine : ∀ place, ours place = true → state.2 place = true ∨ place = destination) :
    Owning (owned ++ [route]) (state.1.put destination (some target), ours) where
  distinct := by
    rw [List.pairwise_append]
    refine ⟨owning.distinct, List.pairwise_singleton _ _, ?_⟩
    intro other member last here
    rw [List.mem_singleton.mp here]
    exact free other member
  held := by
    intro other member
    rcases List.mem_append.mp member with earlier | now
    · obtain ⟨place, target', named', shows', held⟩ := owning.held other earlier
      have different : place ≠ destination := fun same => free other earlier ⟨destination, same ▸ named', named⟩
      exact ⟨place, target', named', shows', (state.1.table_put_of_ne _ different).trans held⟩
    · rw [List.mem_singleton.mp now]
      exact ⟨destination, target, named, shows, state.1.table_put _ _⟩
  ours := by
    intro place ours
    rcases mine place ours with earlier | here
    · obtain ⟨other, member, named'⟩ := owning.ours place earlier
      exact ⟨other, List.mem_append_left _ member, named'⟩
    · exact ⟨route, by simp, here ▸ named⟩

/-- A delete without an effect on the owned routes. -/
theorem clear {kind : TargetKind} {ifscope : Option String} {reply : (RouteOp.routeDelete route kind ifscope).Reply}
    (owning : Owning owned state) (free : ∀ other ∈ owned, ¬Colliding other route)
    (answered : clearHost state (.routeDelete route kind ifscope) reply after) : Owning owned after := by
  obtain ⟨kernel, ours⟩ := state
  obtain ⟨kernel', ours'⟩ := after
  obtain ⟨-, done, watched⟩ := answered
  dsimp only at done watched
  subst watched
  cases reply with
  | error error =>
    cases ifscope <;> cases done <;> exact owning.congr rfl rfl
  | ok removed =>
    cases ifscope with
    | some device =>
      obtain ⟨destination, -, rfl⟩ := done
      exact owning.congr rfl rfl
    | none =>
      obtain ⟨destination, named, -, rfl⟩ := done
      simp only [Ours.observe, named]
      apply owning.remove (List.Sublist.refl owned)
      · exact fun other member place => free other member ⟨destination, place, named⟩
      · exact fun other member => .inl member

end Owning

/-- Routes that are apart do not collide where destinations are distinct. -/
theorem Apart.free {inputs : MacosReconcileInputs} (distinct : DistinctDestinations inputs)
    {fingerprint : MacosNetworkFingerprint} {owned : List MacosRoute} {route : MacosRoute}
    (apart : Apart (macosDesiredRoutes inputs fingerprint) owned route) : ∀ other ∈ owned, ¬Colliding other route := by
  obtain ⟨done, rest, whole, apart⟩ := apart
  have pairwise := distinct fingerprint
  rw [whole, List.pairwise_append, List.pairwise_cons] at pairwise
  obtain ⟨-, ⟨after, -⟩, before⟩ := pairwise
  intro other member colliding
  rcases apart other member with desired | different
  · rcases List.mem_append.mp desired with earlier | later
    · exact before other earlier route List.mem_cons_self colliding
    · exact after other later colliding.symm
  · exact Bool.noConfusion (colliding.same.symm.trans different)

/-- An add in a clear place makes the route an owned one, a new entry or one that was there. -/
theorem Owning.routeAdd {owned : List MacosRoute} {route : MacosRoute} {state : Kernel × Ours} (owning : Owning owned state)
    (free : ∀ other ∈ owned, ¬Colliding other route) :
    Ensures clearHost (fun _ _ => True)
      ((issue (.routeAdd route none none)).attempt fun _ => Program.done (.ok MacosRouteInstall.owned))
      (fun outcome after => match outcome with
        | .ok .owned => Owning (owned ++ [route]) after
        | .ok .foreign | .error _ => Owning owned after) state := by
  rw [Ensures.attempt_iff, issue_iff]
  refine ⟨trivial, ?_⟩
  intro reply after answered
  obtain ⟨kernel, ours⟩ := state
  obtain ⟨kernel', ours'⟩ := after
  obtain ⟨vacant, done, watched⟩ := answered
  dsimp only at done watched
  subst watched
  cases reply with
  | error error =>
    cases done
    exact owning.congr rfl rfl
  | ok created =>
    obtain ⟨destination, target, named, shows, fresh, rfl⟩ := done
    have whole : kernel.table destination = none ∨ kernel.table destination = some target := by
      simpa [unoccupied, named, shows] using vacant
    cases held : kernel.table destination with
    | none =>
      rw [held, Option.isNone_none] at fresh
      subst fresh
      simp only [Ours.observe, named, if_true]
      apply owning.put named shows free
      intro place ours
      by_cases here : place = destination
      · exact .inr here
      · rw [Function.update_of_ne here] at ours
        exact .inl ours
    | some holder =>
      rw [held, Option.isNone_some] at fresh
      subst fresh
      have same : holder = target := by
        rcases whole with absent | same
        · cases held.symm.trans absent
        · exact Option.some.inj (held.symm.trans same)
      have unchanged : kernel.put destination (some target) = kernel := by
        rw [Kernel.put, ← same, ← held, Function.update_eq_self]
      have kept : Owning (owned ++ [route]) (kernel.put destination (some target), ours) :=
        owning.put named shows free fun place ours => .inl ours
      rw [unchanged] at kept
      exact kept

theorem clearHost_keeps {args : HelperArgs} (distinct : DistinctDestinations args.inputs) :
    Keeps clearHost args Owning where
  quiet := fun _ _ _ _ _ owning answered silent => owning.quiet answered silent
  add := by
    intro fingerprint owned route state _ owning apart
    have free := apart.free distinct
    rw [addMacosRoute]
    split
    · rename_i tunnel _ _
      rw [Ensures.bind_iff]
      apply (prefixIsForeign_keeps tunnel (fun _ _ _ _ owning answered silent => owning.quiet answered silent)
        (fun _ _ _ _ _ owning answered => owning.clear free answered) owning).mono
      intro isForeign after owning
      cases isForeign with
      | true => exact owning
      | false => exact owning.routeAdd free
    · exact owning.routeAdd free
  delete := by
    intro before route rest state owning
    rw [delMacosRoute, Ensures.attempt_iff, issue_iff]
    refine ⟨trivial, ?_⟩
    intro reply after answered
    obtain ⟨kernel, ours⟩ := state
    obtain ⟨kernel', ours'⟩ := after
    obtain ⟨-, done, watched⟩ := answered
    dsimp only at done watched
    subst watched
    cases reply with
    | error error =>
      cases done
      exact owning.congr rfl rfl
    | ok removed =>
      obtain ⟨destination, named, -, rfl⟩ := done
      have distinct := owning.distinct
      rw [List.pairwise_append, List.pairwise_cons] at distinct
      obtain ⟨-, ⟨later, -⟩, earlier⟩ := distinct
      simp only [Ours.observe, named]
      apply owning.remove (List.Sublist.append_left (List.sublist_cons_self route rest) before)
      · intro other member place
        rcases List.mem_append.mp member with member | member
        · exact earlier other member route List.mem_cons_self ⟨destination, place, named⟩
        · exact later other member ⟨destination, named, place⟩
      · intro other member
        rcases List.mem_append.mp member with member | member
        · exact .inl (List.mem_append_left _ member)
        · rcases List.mem_cons.mp member with same | member
          · exact .inr (same ▸ named)
          · exact .inl (List.mem_append_right _ member)

/-- After setup and any number of passes, as long as desired routes have distinct
destinations and no route is added over another entry, a helper owns exactly the
entries it has put in the kernel. -/
theorem routes_owned_exactly {args : HelperArgs} (distinct : DistinctDestinations args.inputs) {state : Kernel × Ours}
    {cleanup : Dns.MacosCleanupState} {routing : MacosRoutingState}
    (reached : (routeSession args clearHost).Reachable (fun phase first => phase = .ready ∧ ∀ destination, first.2 destination = false)
      (state, .done (.up cleanup routing))) : OwnsExactly routing.routesAdded state := by
  have ends : EndsWell clearHost Owning (fun _ => True) := fun _ _ _ _ _ => (Ensures.any _ _).mono fun _ _ _ => trivial
  have starts : ∀ phase (first : Kernel × Ours), (phase = .ready ∧ ∀ destination, first.2 destination = false) →
      RoutesAtRest args Owning (fun _ => True) phase first := by
    intro phase first start
    obtain ⟨rfl, nothing⟩ := start
    refine ⟨.nil, nofun, ?_⟩
    intro destination ours
    exact Bool.noConfusion ((nothing destination).symm.trans ours)
  obtain ⟨-, -, owning⟩ := ((clearHost_keeps distinct).kept ends).reachable_between starts reached
  exact owning.exactly

/-- Where AllowedIPs have distinct destinations and none is the endpoint's, so have
all desired routes. -/
theorem distinctDestinations {inputs : MacosReconcileInputs}
    (allowed : (macosAllowedRoutes inputs.allowedIps inputs.interface inputs.hasIpv4Address inputs.hasIpv6Address).Pairwise
      fun left right => ¬Colliding left right)
    (pin : ∀ fingerprint, ∀ route ∈ endpointPin inputs fingerprint, ∀ other ∈ macosAllowedRoutes inputs.allowedIps
      inputs.interface inputs.hasIpv4Address inputs.hasIpv6Address, ¬Colliding route other) :
    DistinctDestinations inputs := by
  intro fingerprint
  rw [macosDesiredRoutes, List.pairwise_append]
  refine ⟨?_, allowed.filter _, ?_⟩
  · cases endpointPin inputs fingerprint with
    | none => exact .nil
    | some route => exact List.pairwise_singleton _ _
  · intro route pinned other wanted
    exact pin fingerprint route (Option.mem_toList.mp pinned) other (List.mem_of_mem_filter wanted)

/-! ### The endpoint of a tunnel for the network around it -/

/-- The tunnel's commands behind this gateway, one of which may fail. -/
def behind (gateway : String) (failing : Option Nat) : Handler helperCommands ((Kernel × Nat) × Ours) :=
  routeScript [] (fun step => ⟨some step == failing, some gateway⟩) Ours.observe

theorem behind_faithful (gateway : String) (failing : Option Nat) :
    (behind gateway failing).Faithful (fun script => (script.1.1, script.2))
      (tableHost.both (Environment.idle Dns.dnsCommands _)) :=
  routeScript_faithful true [] _ _

def atStart : (Kernel × Nat) × Ours := ((noRoutes, 0), fun _ => false)

def pinVia (gateway : String) : MacosRoute := ⟨false, "203.0.113.7", none, some gateway⟩

def upWith (args : HelperArgs) (owned : List MacosRoute) (gateway : String) (failing : List MacosRouteFailure) :
    HelperPhase :=
  .up ⟨false, args.inputs⟩ ⟨owned, ⟨[], some gateway⟩, failing⟩

def tickWith (args : HelperArgs) (owned : List MacosRoute) (gateway : String) (failing : List MacosRouteFailure) :
    HelperProgram HelperPhase :=
  routeTick ⟨false, args.inputs⟩ ⟨owned, ⟨[], some gateway⟩, failing⟩

def netArgs : HelperArgs := pinnedArgs ["203.0.113.0/24"]

def netRoute : MacosRoute := ⟨false, "203.0.113.0/24", some "utun7", none⟩

theorem netArgs_distinct : DistinctDestinations netArgs.inputs := by
  have allowed : macosAllowedRoutes netArgs.inputs.allowedIps netArgs.inputs.interface netArgs.inputs.hasIpv4Address
      netArgs.inputs.hasIpv6Address = [netRoute] := by decide +kernel
  apply distinctDestinations
  · rw [allowed]
    exact List.pairwise_singleton _ _
  · intro fingerprint route pinned other wanted colliding
    rw [allowed] at wanted
    rw [List.mem_singleton.mp wanted] at colliding
    obtain ⟨destination, named, named'⟩ := colliding
    have net : macosRouteDestination netRoute = some (.v4 0xcb007100#32, 24) := by decide +kernel
    have host : macosRouteDestination route = some pinnedEndpoint := by
      rw [endpointPin] at pinned
      split at pinned
      · obtain ⟨gateway, -, rfl⟩ := Option.map_eq_some_iff.mp pinned
        have text : macosRouteDestination (pinVia "192.168.1.1") = some pinnedEndpoint := by decide +kernel
        exact text
      · exact nomatch pinned
    cases named.symm.trans host
    exact absurd (net.symm.trans named') (by decide)

/-- After setup the pin and the route into the tunnel are owned, and in the kernel. -/
theorem routes_owned_exactly_net :
    let connected := interpret (behind "192.168.1.1" none) (connectProgram netArgs) atStart
    OwnsExactly [pinVia "192.168.1.1", netRoute] (connected.2.1.1, connected.2.2) := by
  have start : (routeSession netArgs clearHost).Reachable
      (fun phase first => phase = .ready ∧ ∀ destination, first.2 destination = false) ((noRoutes, fun _ => false), .done .ready) :=
    .begin ⟨rfl, fun _ => rfl⟩
  have run := interpret_meets (fun (state : Kernel × Ours) (op : helperCommands.Op) _ =>
      op.elim (fun op => unoccupied state op = true) (fun _ => True))
    (fun script op _ => op.elim (unoccupied (script.1.1, script.2)) (fun _ => true)) (behind_faithful "192.168.1.1" none)
    (fun script op _ sound => by
      cases op with
      | inl op => exact sound
      | inr op => trivial)
    (show meets _ _ (connectProgram netArgs) atStart = true by decide +kernel)
  have up : (interpret (behind "192.168.1.1" none) (connectProgram netArgs) atStart).1 =
      upWith netArgs [pinVia "192.168.1.1", netRoute] "192.168.1.1" [] := by decide +kernel
  rw [up] at run
  have clear : Completes (routeSession netArgs clearHost).env _ _ _ _ := run.mono fun state op reply after answered => by
    cases op with
    | inl op => exact ⟨answered.1, answered.2⟩
    | inr op => exact answered.2
  exact routes_owned_exactly netArgs_distinct (start.program ⟨rfl, .connect⟩ clear)

/-! ### An endpoint that AllowedIPs name as well -/

def hostArgs : HelperArgs := pinnedArgs ["203.0.113.7/32"]

def hostRoute : MacosRoute := ⟨false, "203.0.113.7/32", some "utun7", none⟩

/-- The endpoint is pinned, so its AllowedIPs route is not installed. -/
def atFirst : (Kernel × Nat) × Ours := (interpret (behind "192.168.1.1" none) (connectProgram hostArgs) atStart).2

/-- Behind another gateway the pin cannot be added, and the AllowedIPs route takes its place. -/
def unpinned : (Kernel × Nat) × Ours :=
  (interpret (behind "192.168.2.1" (some 3)) (tickWith hostArgs [pinVia "192.168.1.1"] "192.168.1.1" [])
    ((atFirst.1.1, 0), atFirst.2)).2

def pinFailure : MacosRouteFailure := ⟨pinVia "192.168.2.1", .add, "scripted"⟩

/-- The next pass adds the pin again. -/
def retried : (Kernel × Nat) × Ours :=
  (interpret (behind "192.168.2.1" none) (tickWith hostArgs [hostRoute] "192.168.2.1" [pinFailure])
    ((unpinned.1.1, 0), unpinned.2)).2

/-- A pin that is added again finds the tunnel's own route in its place, and is taken
for installed. -/
theorem retried_pin_not_owned :
    ∃ state cleanup routing, (routeSession hostArgs tableHost).Reachable
      (fun phase first => phase = .ready ∧ ∀ destination, first.2 destination = false) (state, .done (.up cleanup routing)) ∧
        ¬OwnsExactly routing.routesAdded state := by
  have start : (routeSession hostArgs tableHost).Reachable
      (fun phase first => phase = .ready ∧ ∀ destination, first.2 destination = false) ((noRoutes, fun _ => false), .done .ready) :=
    .begin ⟨rfl, fun _ => rfl⟩
  have connected := start.completed (behind_faithful "192.168.1.1" none) atStart ⟨rfl, .connect⟩
    (show _ = upWith hostArgs [pinVia "192.168.1.1"] "192.168.1.1" [] by decide +kernel)
  have moved := connected.completed (behind_faithful "192.168.2.1" (some 3)) ((atFirst.1.1, 0), atFirst.2) ⟨rfl, .routeTick⟩
    (show _ = upWith hostArgs [hostRoute] "192.168.2.1" [pinFailure] by decide +kernel)
  have again := moved.completed (behind_faithful "192.168.2.1" none) ((unpinned.1.1, 0), unpinned.2) ⟨rfl, .routeTick⟩
    (show _ = upWith hostArgs [hostRoute, pinVia "192.168.2.1"] "192.168.2.1" [] by decide +kernel)
  refine ⟨_, _, _, again, ?_⟩
  intro exactly
  obtain ⟨destination, target, named, shows, held⟩ := exactly.1 (pinVia "192.168.2.1") (by simp)
  have place : macosRouteDestination (pinVia "192.168.2.1") = some pinnedEndpoint := by decide +kernel
  cases place.symm.trans named
  cases shows
  have tunnel : retried.1.1.table pinnedEndpoint = some (.device "utun7") := by decide +kernel
  exact nomatch tunnel.symm.trans held

end Wgd.Routes
