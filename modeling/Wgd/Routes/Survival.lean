import Wgd.Routes.Keeping
import Wgd.Routes.Script

/-! The routes a helper found in the kernel, and which of them outlive it. -/

set_option autoImplicit false

namespace Wgd.Routes

open Wgd.Net Wgd.Helper Wgd.Interaction
open Wgd.Dns (MacosCleanupState dnsCommands)

/-- An entry the tunnel has to leave alone: gatewayed, or held by a physical interface
that has an address in it on the attached networks. -/
def isProtected (attached : List (String × Subnet)) (destination : Subnet) : Target → Bool
  | .gateway _ => true
  | .device name => !"utun".toList.isPrefixOf name.toList &&
      macosRouteEntryIsLive ⟨destination, some name, none⟩ attached

/-- Every protected entry is there as it was at first. -/
structure Untouched (attached : List (String × Subnet)) (first kernel : Kernel) : Prop where
  table : ∀ destination target, first.table destination = some target → isProtected attached destination target = true →
    kernel.table destination = some target
  ifscoped : ∀ destination device, first.ifscoped destination device = true →
    isProtected attached destination (.device device) = true → kernel.ifscoped destination device = true

/-- No protected entry was in the table at a destination. -/
def Free (attached : List (String × Subnet)) (first : Kernel) (destination : Subnet) : Prop :=
  ∀ target, first.table destination = some target → isProtected attached destination target = false

/-- What may be deleted is not a protected entry. -/
structure Sparing (attached : List (String × Subnet)) (first : Kernel) (owned : List MacosRoute) (kernel : Kernel) :
    Prop where
  untouched : Untouched attached first kernel
  free : ∀ route ∈ owned, ∀ destination, macosRouteDestination route = some destination → Free attached first destination

variable {attached : List (String × Subnet)} {first kernel after : Kernel} {destination : Subnet} {route : MacosRoute}
  {owned : List MacosRoute} {inputs : MacosReconcileInputs}

namespace Untouched

theorem put (untouched : Untouched attached first kernel) (free : Free attached first destination) (target : Option Target) :
    Untouched attached first (kernel.put destination target) where
  table := by
    intro place held was guarded
    by_cases here : place = destination
    · rw [here] at was guarded
      exact Bool.noConfusion (guarded.symm.trans (free held was))
    · rw [Kernel.table_put_of_ne kernel target here]
      exact untouched.table place held was guarded
  ifscoped := untouched.ifscoped

theorem attach (untouched : Untouched attached first kernel) (device : String) :
    Untouched attached first (kernel.setScoped destination device true) where
  table := untouched.table
  ifscoped := by
    intro place name was guarded
    have kept := untouched.ifscoped place name was guarded
    simp only [Kernel.setScoped, Function.update_apply]
    split
    · rename_i here
      rw [Function.update_apply, ← here]
      split
      · rfl
      · exact kept
    · exact kept

theorem detach (untouched : Untouched attached first kernel) {device : String}
    (free : isProtected attached destination (.device device) = false) :
    Untouched attached first (kernel.setScoped destination device false) where
  table := untouched.table
  ifscoped := by
    intro place name was guarded
    have kept := untouched.ifscoped place name was guarded
    simp only [Kernel.setScoped, Function.update_apply]
    split
    · rename_i here
      rw [Function.update_apply, ← here]
      split
      · rename_i same
        rw [here, same] at guarded
        exact Bool.noConfusion (guarded.symm.trans free)
      · exact kept
    · exact kept

theorem quiet {op : RouteOp} {reply : op.Reply} (untouched : Untouched attached first kernel)
    (answered : kernelEnvironment false attached kernel op reply after) (silent : op.writesTable = false) :
    Untouched attached first after := by
  cases op with
  | routeDelete => exact nomatch silent
  | routeAdd route kind ifscope =>
    cases ifscope with
    | none => exact nomatch silent
    | some device =>
      cases reply with
      | error error =>
        cases answered
        exact untouched
      | ok created =>
        obtain ⟨destination, -, rfl⟩ := answered
        exact untouched.attach device
  | routeGet destination =>
    obtain ⟨-, rfl⟩ := answered
    exact untouched
  | macosConnectedSubnetsByDevice interface =>
    cases reply with
    | none =>
      cases answered
      exact untouched
    | some connected =>
      obtain ⟨-, rfl⟩ := answered
      exact untouched
  | getMacosDefaultGateway isIpv6 | ifconfig arguments =>
    cases answered
    exact untouched

/-- A delete where nothing is protected. -/
theorem delete {kind : TargetKind} {ifscope : Option String} {reply : (RouteOp.routeDelete route kind ifscope).Reply}
    (untouched : Untouched attached first kernel)
    (free : ∀ destination, macosRouteDestination route = some destination → Free attached first destination)
    (spared : ∀ device ∈ ifscope, ∀ destination, macosRouteDestination route = some destination →
      isProtected attached destination (.device device) = false)
    (answered : kernelEnvironment false attached kernel (.routeDelete route kind ifscope) reply after) :
    Untouched attached first after := by
  cases reply with
  | error error =>
    cases ifscope <;> cases answered <;> exact untouched
  | ok removed =>
    cases ifscope with
    | none =>
      obtain ⟨destination, named, -, rfl⟩ := answered
      exact untouched.put (free destination named) none
    | some device =>
      obtain ⟨destination, named, rfl⟩ := answered
      exact untouched.detach (spared device rfl destination named)

end Untouched

/-- More connected networks keep an entry live. -/
theorem macosRouteEntryIsLive_mono {entry : MacosRouteEntry} {connected : List (String × Subnet)}
    (more : attached ⊆ connected) (live : macosRouteEntryIsLive entry attached = true) :
    macosRouteEntryIsLive entry connected = true := by
  rw [macosRouteEntryIsLive] at live ⊢
  split
  · rfl
  · rename_i direct
    rw [if_neg direct] at live
    cases holder : entry.interface with
    | none => rfl
    | some device =>
      simp only [holder, List.any_eq_true] at live ⊢
      obtain ⟨network, member, overlaps⟩ := live
      exact ⟨network, more member, overlaps⟩

/-- The entry of a protected target is neither a tunnel's nor stale. -/
theorem protected_entry {entry : MacosRouteEntry} {target : Target} (shown : target.ShownBy entry)
    (named : entry.destination = destination) (guarded : isProtected attached destination target = true) :
    entry.isTunnelOwned = false ∧ macosRouteEntryIsLive entry attached = true := by
  cases target with
  | gateway address =>
    have gatewayed : entry.hasGateway = true := by
      simp only [Target.ShownBy] at shown
      simp [MacosRouteEntry.hasGateway, shown]
    simp [MacosRouteEntry.isTunnelOwned, macosRouteEntryIsLive, gatewayed]
  | device name =>
    obtain ⟨direct, holder⟩ := shown
    simp only [isProtected, Bool.and_eq_true, Bool.not_eq_true'] at guarded
    obtain ⟨physical, live⟩ := guarded
    have same : entry = ⟨destination, some name, none⟩ := by
      cases entry
      simp_all
    rw [same]
    refine ⟨?_, live⟩
    simp only [MacosRouteEntry.isTunnelOwned, MacosRouteEntry.hasGateway, Option.any_some, physical, Bool.and_false]

/-- An entry that is stale on more networks is not a protected one. -/
theorem stale_free {entry : MacosRouteEntry} {connected : List (String × Subnet)} {device : String}
    (more : attached ⊆ connected) (stale : macosRouteEntryIsLive entry connected = false)
    (holder : entry.interface = some device) : isProtected attached entry.destination (.device device) = false := by
  have direct : entry.gateway = none := by
    cases gateway : entry.gateway with
    | none => rfl
    | some address => simp [macosRouteEntryIsLive, MacosRouteEntry.hasGateway, gateway] at stale
  have same : entry = ⟨entry.destination, some device, none⟩ := by
    cases entry
    simp_all
  by_contra guarded
  simp only [isProtected, Bool.not_eq_false, Bool.and_eq_true] at guarded
  have live := macosRouteEntryIsLive_mono more guarded.2
  rw [← same] at live
  exact Bool.noConfusion (live.symm.trans stale)

/-- A lookup that can be relied on finds what is protected. -/
theorem entryOf_finds (untouched : Untouched attached first kernel) :
    Ensures (kernelEnvironment false attached) (fun _ _ => True) (macosRouteEntryOf route) (fun found after => after = kernel ∧
      (∀ entry, found = some entry → macosRouteDestination route = some entry.destination) ∧
      ∀ destination target, macosRouteDestination route = some destination → first.table destination = some target →
        isProtected attached destination target = true → ∃ entry, found = some entry ∧ target.ShownBy entry) kernel := by
  rw [macosRouteEntryOf]
  split
  · rename_i unknown
    refine ⟨rfl, by simp, ?_⟩
    intro destination target named
    cases unknown.symm.trans named
  · rename_i place named
    rw [macosRouteTableEntry, Ensures.bind_iff, issue_iff]
    refine ⟨trivial, ?_⟩
    intro answer after answered
    obtain ⟨answers, rfl⟩ := answered
    refine ⟨rfl, ?_, ?_⟩
    · intro entry found
      obtain ⟨-, exact'⟩ := Option.filter_eq_some_iff.mp found
      rw [named, of_decide_eq_true exact']
    · intro destination target named' was guarded
      obtain rfl := Option.some.inj (named.symm.trans named')
      have held := untouched.table place target was guarded
      rcases answers with ⟨fails, -⟩ | answers
      · cases fails
      · rw [Kernel.Answers, held] at answers
        obtain ⟨entry, rfl, here, shown⟩ := answers
        exact ⟨entry, by simp [here], shown⟩

/-- Clearing an entry that is not protected. -/
theorem clear_spares {ifscope : Option String} (untouched : Untouched attached first kernel)
    (free : ∀ destination, macosRouteDestination route = some destination → Free attached first destination)
    (spared : ∀ device ∈ ifscope, ∀ destination, macosRouteDestination route = some destination →
      isProtected attached destination (.device device) = false) :
    Ensures (kernelEnvironment false attached) (fun _ _ => True) (macosClearRouteEntry route ifscope)
      (fun _ after => Untouched attached first after) kernel := by
  have look : ∀ kernel, Untouched attached first kernel →
      Ensures (kernelEnvironment false attached) (fun _ _ => True) (do
        let remaining ← macosRouteEntryOf route
        return remaining.filter fun entry => !entry.isTunnelOwned) (fun _ after => Untouched attached first after) kernel := by
    intro kernel untouched
    rw [Ensures.bind_iff]
    apply (entryOf_finds untouched).mono
    intro found after looked
    obtain ⟨rfl, -⟩ := looked
    exact untouched
  rw [macosClearRouteEntry]
  dsimp only
  rw [Ensures.bind_iff, issue_iff]
  refine ⟨trivial, ?_⟩
  intro reply after answered
  have kept := untouched.delete free (fun device absurd => (Option.not_mem_none device absurd).elim) answered
  cases ifscope with
  | none => exact look after kept
  | some device =>
    dsimp only
    rw [Ensures.bind_iff, issue_iff]
    refine ⟨trivial, ?_⟩
    intro reply final answered
    exact look final (kept.delete free spared answered)

/-- Before a dev-bound add, a protected entry is left alone, and seen as foreign. -/
theorem prefixIsForeign_spares (tunnel : String) (untouched : Untouched attached first kernel) :
    Ensures (kernelEnvironment false attached) (fun _ _ => True) (macosPrefixIsForeign route tunnel)
      (fun isForeign after => Untouched attached first after ∧ (isForeign = false →
        ∀ destination, macosRouteDestination route = some destination → Free attached first destination)) kernel := by
  rw [macosPrefixIsForeign, Ensures.bind_iff]
  apply (entryOf_finds untouched).mono
  intro found after looked
  obtain ⟨rfl, exact', guards⟩ := looked
  by_cases free : ∀ destination, macosRouteDestination route = some destination → Free attached first destination
  · -- Nothing is protected there, so whatever is cleared is not.
    have clear : ∀ ifscope, (∀ device ∈ ifscope, ∀ destination, macosRouteDestination route = some destination →
        isProtected attached destination (.device device) = false) →
        Ensures (kernelEnvironment false attached) (fun _ _ => True) (do
          let remaining ← macosClearRouteEntry route ifscope
          return remaining.isSome) (fun isForeign after => Untouched attached first after ∧ (isForeign = false →
            ∀ destination, macosRouteDestination route = some destination → Free attached first destination)) after := by
      intro ifscope spared
      rw [Ensures.bind_iff]
      apply (clear_spares untouched free spared).mono
      intro remaining cleared untouched
      exact ⟨untouched, fun _ => free⟩
    cases found with
    | none => exact ⟨untouched, fun _ => free⟩
    | some entry =>
      dsimp only
      split
      · exact clear none fun device absurd => (Option.not_mem_none device absurd).elim
      · rw [Ensures.bind_iff, issue_iff]
        refine ⟨trivial, ?_⟩
        intro connected read answered
        cases connected with
        | none =>
          cases answered
          exact ⟨untouched, by simp⟩
        | some connected =>
          obtain ⟨more, rfl⟩ := answered
          cases live : macosRouteEntryIsLive entry connected with
          | true =>
            simp only [live]
            exact ⟨untouched, by simp⟩
          | false =>
            simp only [live]
            apply clear
            intro device holder destination named
            cases named.symm.trans (exact' entry rfl)
            exact stale_free more live holder
  · -- A protected entry answers the lookup, and it is live.
    simp only [not_forall] at free
    obtain ⟨destination, named, guarded⟩ := free
    simp only [Free, not_forall, Bool.not_eq_false] at guarded
    obtain ⟨target, was, guarded⟩ := guarded
    obtain ⟨entry, rfl, shown⟩ := guards destination target named was guarded
    cases named.symm.trans (exact' entry rfl)
    obtain ⟨physical, live⟩ := protected_entry shown rfl guarded
    dsimp only
    rw [if_neg (Bool.eq_false_iff.mp physical), Ensures.bind_iff, issue_iff]
    refine ⟨trivial, ?_⟩
    intro connected read answered
    cases connected with
    | none =>
      cases answered
      exact ⟨untouched, by simp⟩
    | some connected =>
      obtain ⟨more, rfl⟩ := answered
      simp only [macosRouteEntryIsLive_mono more live]
      exact ⟨untouched, by simp⟩

/-! ### Runs that spare what they found -/

/-- The destination of the endpoint pin, whatever its gateway. -/
def pinDestination (inputs : MacosReconcileInputs) : Option Subnet :=
  macosRouteDestination ⟨inputs.endpointIsIpv6, inputs.endpoint.toText, none, none⟩

/-- Setup gets as far as pinning the endpoint, and a protected entry is where the pin goes. -/
def PinTakesOver (attached : List (String × Subnet)) (args : HelperArgs) (first : Kernel) : Prop :=
  Addressable args ∧ args.inputs.endpointNeedsPin = true ∧
    ∃ destination, pinDestination args.inputs = some destination ∧ ¬Free attached first destination

theorem mem_endpointPin {fingerprint : MacosNetworkFingerprint} (member : route ∈ endpointPin inputs fingerprint) :
    inputs.endpointNeedsPin = true ∧ macosRouteDestination route = pinDestination inputs ∧ route.interface = none := by
  rw [endpointPin] at member
  split at member
  · rename_i needed
    obtain ⟨gateway, -, rfl⟩ := Option.map_eq_some_iff.mp member
    exact ⟨needed, rfl, rfl⟩
  · exact nomatch member

theorem mem_macosAllowedRoutes {allowedIps : List String} {interface : String} {hasIpv4Address hasIpv6Address : Bool}
    (member : route ∈ macosAllowedRoutes allowedIps interface hasIpv4Address hasIpv6Address) :
    route.interface = some interface ∧ route.gateway = none := by
  obtain ⟨allowed, -, member⟩ := List.mem_flatMap.mp member
  unfold macosAllowedRoute at member
  split at member
  · split at member
    · rcases List.mem_pair.mp member with rfl | rfl <;> exact ⟨rfl, rfl⟩
    · exact absurd member List.not_mem_nil
  split at member
  · split at member
    · rcases List.mem_pair.mp member with rfl | rfl <;> exact ⟨rfl, rfl⟩
    · exact absurd member List.not_mem_nil
  dsimp only at member
  split at member
  · exact absurd member List.not_mem_nil
  split at member
  · exact absurd member List.not_mem_nil
  · rw [List.mem_singleton.mp member]
    exact ⟨rfl, rfl⟩

/-- A desired route is the endpoint pin or bound to the tunnel. -/
theorem mem_macosDesiredRoutes {fingerprint : MacosNetworkFingerprint}
    (member : route ∈ macosDesiredRoutes inputs fingerprint) :
    route ∈ endpointPin inputs fingerprint ∨ route.interface = some inputs.interface ∧ route.gateway = none := by
  rcases List.mem_append.mp member with pinned | allowed
  · exact .inl (Option.mem_toList.mp pinned)
  · exact .inr (mem_macosAllowedRoutes (List.mem_of_mem_filter allowed))

/-- An add leaves every entry it finds. -/
theorem routeAdd_spares (untouched : Untouched attached first kernel) :
    Ensures (kernelEnvironment false attached) (fun _ _ => True)
      ((issue (.routeAdd route none none)).attempt fun _ => Program.done (.ok MacosRouteInstall.owned))
      (fun outcome after => outcome ≠ .ok .foreign ∧ Untouched attached first after) kernel := by
  rw [Ensures.attempt_iff, issue_iff]
  refine ⟨trivial, ?_⟩
  intro reply after answered
  cases reply with
  | error error =>
    cases answered
    exact ⟨nofun, untouched⟩
  | ok created =>
    obtain ⟨destination, target, -, -, fresh, rfl⟩ := answered
    refine ⟨nofun, ?_⟩
    cases held : kernel.table destination with
    | some holder =>
      rw [held, Option.isNone_some] at fresh
      rw [fresh]
      exact untouched
    | none =>
      rw [held, Option.isNone_none] at fresh
      rw [fresh]
      apply untouched.put
      intro holder was
      by_contra guarded
      have there := untouched.table destination holder was (by simpa using guarded)
      exact nomatch held.symm.trans there

theorem addMacosRoute_spares (sparing : Sparing attached first owned kernel)
    (pinned : route.gateway.isSome ∨ route.interface = none → ∀ destination, macosRouteDestination route = some destination →
      Free attached first destination) :
    Ensures (kernelEnvironment false attached) (fun _ _ => True) (addMacosRoute route) (fun outcome after => match outcome with
      | .ok .owned => Sparing attached first (owned ++ [route]) after
      | .ok .foreign | .error _ => Sparing attached first owned after) kernel := by
  have add : ∀ kernel, Untouched attached first kernel →
      (∀ destination, macosRouteDestination route = some destination → Free attached first destination) →
      Ensures (kernelEnvironment false attached) (fun _ _ => True)
        ((issue (.routeAdd route none none)).attempt fun _ => Program.done (.ok MacosRouteInstall.owned))
        (fun outcome after => match outcome with
          | .ok .owned => Sparing attached first (owned ++ [route]) after
          | .ok .foreign | .error _ => Sparing attached first owned after) kernel := by
    intro kernel untouched free
    apply (routeAdd_spares untouched).mono
    intro outcome after added
    obtain ⟨mine, untouched⟩ := added
    cases outcome with
    | error error => exact ⟨untouched, sparing.free⟩
    | ok install =>
      cases install with
      | foreign => exact absurd rfl mine
      | owned =>
        refine ⟨untouched, ?_⟩
        intro other member
        rcases List.mem_append.mp member with earlier | now
        · exact sparing.free other earlier
        · rw [List.mem_singleton.mp now]
          exact free
  rw [addMacosRoute]
  split
  · rename_i tunnel _ _
    rw [Ensures.bind_iff]
    apply (prefixIsForeign_spares tunnel sparing.untouched).mono
    intro isForeign after spared
    obtain ⟨untouched, free⟩ := spared
    cases isForeign with
    | true => exact ⟨untouched, sparing.free⟩
    | false => exact add after untouched (free rfl)
  · rename_i other
    apply add kernel sparing.untouched
    apply pinned
    cases interface : route.interface with
    | none => exact .inr rfl
    | some device =>
      cases gateway : route.gateway with
      | none => exact (other device interface gateway).elim
      | some address => exact .inl rfl

theorem delMacosRoute_spares (untouched : Untouched attached first kernel)
    (free : ∀ destination, macosRouteDestination route = some destination → Free attached first destination) :
    Ensures (kernelEnvironment false attached) (fun _ _ => True) (delMacosRoute route)
      (fun _ after => Untouched attached first after) kernel := by
  rw [delMacosRoute, Ensures.attempt_iff, issue_iff]
  refine ⟨trivial, ?_⟩
  intro reply after answered
  have kept := untouched.delete free (fun device absurd => (Option.not_mem_none device absurd).elim) answered
  cases reply <;> exact kept

variable {args : HelperArgs}

/-- Where no protected entry is in the place of the pin, no step deletes one. -/
theorem sparing_keeps (spares : ¬PinTakesOver attached args first) :
    Keeps (kernelEnvironment false attached) args (Sparing attached first) where
  quiet := fun _ _ _ _ _ sparing answered silent => ⟨sparing.untouched.quiet answered silent, sparing.free⟩
  add := by
    intro fingerprint owned route kernel addressable sparing apart
    apply addMacosRoute_spares sparing
    intro pin destination named
    obtain ⟨done, rest, whole, -⟩ := apart
    have member : route ∈ macosDesiredRoutes args.inputs fingerprint := by simp [whole]
    rcases mem_macosDesiredRoutes member with pinned | ⟨bound, direct⟩
    · obtain ⟨needed, place, -⟩ := mem_endpointPin pinned
      by_contra taken
      exact spares ⟨addressable, needed, destination, place.symm.trans named, taken⟩
    · simp [bound, direct] at pin
  delete := by
    intro before route rest kernel sparing
    have free := sparing.free route (by simp)
    apply (delMacosRoute_spares sparing.untouched free).mono
    intro outcome after untouched
    cases outcome with
    | error error => exact ⟨untouched, sparing.free⟩
    | ok value =>
      refine ⟨untouched, ?_⟩
      intro other member
      apply sparing.free other
      rcases List.mem_append.mp member with earlier | later
      · exact List.mem_append_left _ earlier
      · exact List.mem_append_right _ (List.mem_cons_of_mem _ later)

theorem sparing_ends (keeps : Keeps (kernelEnvironment false attached) args (Sparing attached first)) :
    EndsWell (kernelEnvironment false attached) (Sparing attached first) (Untouched attached first) := by
  intro owned localSubnets interface kernel sparing
  rw [deleteRoutes]
  apply Ensures.mono (fun _ _ (spared : Sparing attached first owned _ ∧ [] ⊆ owned) => spared.1.untouched)
  apply Ensures.foldlM (fun rest _ after => Sparing attached first owned after ∧ rest ⊆ owned)
  · intro route rest errors before spared
    obtain ⟨sparing, within⟩ := spared
    have within' : rest ⊆ owned := fun other member => within (List.mem_cons_of_mem _ member)
    rw [deleteRoute, Ensures.bind_iff]
    apply (delMacosRoute_spares sparing.untouched (sparing.free route (within List.mem_cons_self))).mono
    intro outcome after untouched
    cases outcome with
    | error error => exact ⟨⟨untouched, sparing.free⟩, within'⟩
    | ok value =>
      dsimp only
      rw [Ensures.bind_iff]
      apply (keeps.restore route localSubnets interface (show Sparing attached first owned after from ⟨untouched, sparing.free⟩)).mono
      intro _ final sparing
      exact ⟨sparing, within'⟩
  · exact ⟨sparing, fun route member => List.mem_reverse.mp member⟩

end Wgd.Routes
