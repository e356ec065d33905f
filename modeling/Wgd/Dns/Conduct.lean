import Wgd.Dns.Discipline
import Wgd.Helper.Lifecycle

/-! The helper's programs keep to the custodian protocol: setup with its rollback,
every reconcile tick, and teardown. -/

set_option autoImplicit false

namespace Wgd.Dns

open Wgd.Net Wgd.Helper Wgd.Interaction
open Wgd.Routes (RouteProgram routeCommands MacosRoutingState)

variable {inputs : MacosReconcileInputs} {custodian : Custodian}

/-! ### Restore -/

theorem restoreOne_follows {failed : List (MacosDnsServiceState × String)} {state : MacosDnsServiceState}
    {rest : List MacosDnsServiceState} (start : AtRest inputs custodian) (member : state ∈ custodian.owned)
    (settled : ∀ other ∈ custodian.owned,
      other ∈ state :: rest ∨ other ∈ failed.map Prod.fst ∨ other.service ∈ custodian.back) :
    Ensures (discipline inputs) (allows inputs) (restoreOne failed state) (fun failed' after =>
      AtRest inputs after ∧ after.owned = custodian.owned ∧ failed'.map Prod.fst ⊆ state :: failed.map Prod.fst ∧
        ∀ other ∈ custodian.owned,
          other ∈ rest ∨ other ∈ failed'.map Prod.fst ∨ other.service ∈ after.back) custodian := by
  rw [restoreOne, Ensures.bind_iff]
  refine (restore_follows member (fun recording => start.recorded.lists recording member)
    (start.proper.original state member)).mono ?_
  rintro outcome after ⟨owned, filed, -, others, restored⟩
  have rest' : AtRest inputs after := start.of_eq owned filed
  -- Every other entry stays where it was.
  have unaffected : ∀ other ∈ custodian.owned, other ≠ state →
      other ∈ rest ∨ other ∈ failed.map Prod.fst ∨ other.service ∈ after.back := by
    intro other otherMember different
    have apart : other.service ≠ state.service := fun same =>
      different (start.proper.distinct other otherMember state member same)
    rcases settled other otherMember with pending | done | back
    · exact .inl ((List.mem_cons.mp pending).resolve_left different)
    · exact .inr (.inl done)
    · exact .inr (.inr (others _ apart back))
  cases outcome with
  | ok value =>
    refine ⟨rest', owned, List.subset_cons_self _ _, fun other otherMember => ?_⟩
    by_cases same : other = state
    · exact .inr (.inr (same ▸ restored rfl))
    · exact unaffected other otherMember same
  | error error =>
    refine ⟨rest', owned, ?_, fun other otherMember => ?_⟩
    · intro entry member
      simp only [List.map_append, List.map_cons, List.map_nil, List.mem_append, List.mem_singleton] at member
      rcases member with earlier | rfl
      · exact List.mem_cons_of_mem _ earlier
      · exact List.mem_cons_self
    · by_cases same : other = state
      · exact .inr (.inl (by simp [same]))
      · rcases unaffected other otherMember same with pending | done | back
        · exact .inl pending
        · exact .inr (.inl (by rw [List.map_append]; exact List.mem_append_left _ done))
        · exact .inr (.inr back)

/-- A restore of everything owned puts each service back or reports it. -/
theorem restoreAll_follows (start : AtRest inputs custodian) :
    Ensures (discipline inputs) (allows inputs) (restoreMacosDnsServices custodian.owned inputs) (fun failed after =>
      after.owned = custodian.owned ∧
        ∀ state ∈ custodian.owned, state ∈ failed.map Prod.fst ∨ state.service ∈ after.back) custodian := by
  rw [restoreMacosDnsServices, Ensures.bind_iff]
  refine Ensures.mono ?_ (Ensures.foldlM (fun rest failed after => AtRest inputs after ∧
    after.owned = custodian.owned ∧ rest ⊆ custodian.owned ∧ failed.map Prod.fst ⊆ custodian.owned ∧
    ∀ other ∈ custodian.owned, other ∈ rest ∨ other ∈ failed.map Prod.fst ∨ other.service ∈ after.back) ?_
    ⟨start, rfl, fun _ member => List.mem_reverse.mp member, fun _ member => absurd member List.not_mem_nil, fun _ member => .inl (List.mem_reverse.mpr member)⟩)
  · rintro failed after ⟨-, owned, -, within, settled⟩
    have accounted : after.Accounted (failed.map Prod.fst) := by
      rw [Custodian.Accounted, owned]
      exact ⟨within, fun state member => (settled state member).resolve_left List.not_mem_nil⟩
    rw [Ensures.bind_iff]
    refine (persist_follows accounted).mono ?_
    rintro written after' ⟨owned', -, back, -⟩
    have done : after'.owned = custodian.owned ∧
        ∀ state ∈ custodian.owned, state ∈ failed.map Prod.fst ∨ state.service ∈ after'.back := by
      rw [owned', back]
      exact ⟨owned, fun state member => (settled state member).resolve_left List.not_mem_nil⟩
    by_cases flush : failed.length < custodian.owned.length
    · simp only [if_pos flush, Ensures.bind_iff]
      refine ⟨trivial, ?_⟩
      rintro reply final stepped
      cases stepped
      exact done
    · simp only [if_neg flush]
      exact done
  · rintro state rest failed after ⟨kept, owned, pending, within, settled⟩
    rw [← owned] at pending within settled ⊢
    refine (restoreOne_follows kept (pending List.mem_cons_self) settled).mono ?_
    rintro failed' after' ⟨kept', owned', within', settled'⟩
    refine ⟨kept', owned', fun _ member => pending (List.mem_cons_of_mem _ member), fun entry member => ?_, settled'⟩
    rcases List.mem_cons.mp (within' member) with rfl | earlier
    · exact pending List.mem_cons_self
    · exact within earlier

/-! ### Connect -/

/-- The services that may still be taken: listed, neither owned nor recorded, and each one once. -/
structure Takeable (custodian : Custodian) (services : List String) : Prop where
  listed : ∀ service ∈ services, service ∈ custodian.listing
  unowned : ∀ service ∈ services, ∀ state ∈ custodian.owned, state.service ≠ service
  unfiled : ∀ service ∈ services, ∀ entry ∈ custodian.filed, entry.service ≠ service
  nodup : services.Nodup

/-- After one service is pushed the others can still be taken. -/
theorem Takeable.push {service : String} {rest : List String} {state : MacosDnsServiceState} {after : Custodian}
    (takeable : Takeable custodian (service :: rest)) (named : state.service = service)
    (owned : after.owned = custodian.owned ++ [state]) (listing : after.listing = custodian.listing)
    (filed : ∀ entry ∈ after.filed, entry ∈ custodian.filed ∨ ∃ owner ∈ after.owned, owner.service = entry.service) :
    Takeable after rest := by
  have apart := List.nodup_cons.mp takeable.nodup
  have unowned : ∀ other ∈ rest, ∀ entry ∈ after.owned, entry.service ≠ other := by
    intro other member entry owns
    rw [owned, List.mem_append, List.mem_singleton] at owns
    rcases owns with owns | rfl
    · exact takeable.unowned other (List.mem_cons_of_mem _ member) entry owns
    · rw [named]
      rintro rfl
      exact apart.1 member
  refine ⟨fun other member => listing ▸ takeable.listed other (List.mem_cons_of_mem _ member), unowned,
    fun other member entry recorded => ?_, apart.2⟩
  rcases filed entry recorded with earlier | ⟨owner, owns, same⟩
  · exact takeable.unfiled other (List.mem_cons_of_mem _ member) entry earlier
  · rw [← same]
    exact unowned other member owner owns

theorem Takeable.tail {service : String} {rest : List String} {after : Custodian}
    (takeable : Takeable custodian (service :: rest)) (same : SameHoldings custodian after)
    (listing : after.listing = custodian.listing) : Takeable after rest :=
  ⟨fun other member => listing ▸ takeable.listed other (List.mem_cons_of_mem _ member),
    fun other member => same.owned ▸ takeable.unowned other (List.mem_cons_of_mem _ member),
    fun other member => same.filed ▸ takeable.unfiled other (List.mem_cons_of_mem _ member),
    (List.nodup_cons.mp takeable.nodup).2⟩

theorem take_follows {service : String} {rest : List String} (promoting : inputs.dnsServers ≠ [])
    (start : AtRest inputs custodian) (takeable : Takeable custodian (service :: rest)) :
    Ensures (discipline inputs) (allows inputs) (takeService inputs service)
      (fun _ after => AtRest inputs after ∧ Takeable after rest) custodian := by
  rw [takeService, Ensures.attempt_iff]
  refine capture_follows.mono ?_
  rintro (error | state) after ⟨same, listing, captured⟩
  · exact ⟨start.same same, takeable.tail same listing⟩
  obtain ⟨named, fresh, original⟩ := captured state rfl
  dsimp only
  rw [Ensures.bind_iff, issue_iff]
  have new : ∀ other ∈ after.owned, other.service ≠ state.service := by
    rw [same.owned, named]
    exact takeable.unowned service List.mem_cons_self
  have unfiled : ∀ entry ∈ after.filed, entry.service ≠ state.service := by
    rw [same.filed, named]
    exact takeable.unfiled service List.mem_cons_self
  refine ⟨⟨promoting, fresh, listing ▸ named ▸ takeable.listed service List.mem_cons_self, new, unfiled⟩, ?_⟩
  rintro reply pushed stepped
  cases stepped
  rw [Ensures.bind_iff, issue_iff]
  refine ⟨trivial, ?_⟩
  rintro dns read ⟨services, stepped⟩
  cases stepped
  rw [services, Ensures.bind_iff]
  refine (persist_follows ⟨List.Subset.refl _, fun _ member => .inl member⟩).mono ?_
  rintro written recorded ⟨owned, listing', -, filed, unrecorded⟩
  have covered : recorded.Covers inputs service := by
    refine ⟨state, owned ▸ List.mem_append_right _ List.mem_cons_self, named, fun recording => ?_⟩
    rw [filed recording]
    exact List.mem_map_of_mem (List.mem_append_right _ List.mem_cons_self)
  refine (assert_follows covered).mono ?_
  rintro outcome final ⟨owned', filed', listing''⟩
  have owns : final.owned = custodian.owned ++ [state] := by rw [owned', owned, ← same.owned]
  have settled : AtRest inputs final := by
    refine ⟨owns ▸ start.proper.push (same.owned ▸ new) original, fun recording => ?_, fun silent => ?_⟩
    · rw [filed', filed recording, owned', owned]
    · rw [filed', unrecorded silent]
      exact same.filed.trans (start.recorded.none silent)
  exact ⟨settled, takeable.push named owns (by rw [listing'', listing', ← listing]) fun entry member =>
    .inr (settled.recorded.named member)⟩

theorem configure_follows {localSubnets : List Subnet} (start : AtRest inputs custodian)
    (nothing : custodian.owned = []) :
    Ensures (discipline inputs) (allows inputs) (configureMacosDns inputs localSubnets)
      (fun _ after => AtRest inputs after) custodian := by
  rw [configureMacosDns]
  by_cases silent : inputs.dnsServers.isEmpty
  · rw [if_pos silent]
    exact start
  rw [if_neg silent, Ensures.attempt_iff]
  refine fingerprint_follows.mono ?_
  rintro (error | fingerprint) after ⟨same, listed⟩
  · exact start.same same
  dsimp only
  have promoting : inputs.dnsServers ≠ [] := fun empty => silent (List.isEmpty_iff.mpr empty)
  rw [Ensures.attempt_iff]
  refine Ensures.forEach (fun rest after => AtRest inputs after ∧ Takeable after rest) ?_ ?_ ⟨start.same same, ?_⟩
  · rintro service rest s ⟨kept, takeable⟩
    refine (take_follows promoting kept takeable).mono ?_
    rintro (error | ⟨⟩) taken ⟨kept', takeable'⟩
    · exact kept'
    · exact ⟨kept', takeable'⟩
  · rintro s ⟨kept, -⟩
    dsimp only
    rw [Ensures.bind_iff]
    refine fingerprint_follows.mono ?_
    rintro (error | observed) final ⟨same', -⟩ <;> exact kept.same same'
  · refine ⟨fun service member => ?_, fun service member state owns => ?_, fun service member entry recorded => ?_,
      targets_nodup⟩
    · exact (listed fingerprint rfl service).mp (mem_targets member).2.1
    · rw [same.owned, nothing] at owns
      exact nomatch owns
    · obtain ⟨state, owns, -⟩ := (start.same same).recorded.named recorded
      rw [same.owned, nothing] at owns
      exact nomatch owns

/-! ### Reconcile -/

theorem captureTarget_follows {progress : Nat × List String} {service : String} {rest : List String}
    (promoting : inputs.dnsServers ≠ []) (proper : Proper inputs custodian.owned) (takeable : Takeable custodian (service :: rest)) :
    Ensures (discipline inputs) (allows inputs) (captureTarget inputs progress service) (fun progress' after =>
      Proper inputs after.owned ∧ Takeable after rest ∧ custodian.owned ⊆ after.owned ∧
        after.filed = custodian.filed ∧ after.listing = custodian.listing ∧ progress.2 ⊆ progress'.2 ∧
        (progress'.1 = 0 → progress.1 = 0 ∧ after.owned = custodian.owned) ∧
        (service ∈ progress'.2 ∨ ∃ state ∈ after.owned, state.service = service)) custodian := by
  rw [captureTarget, Ensures.bind_iff]
  refine capture_follows.mono ?_
  rintro (error | state) after ⟨same, listing, captured⟩
  · exact ⟨same.owned ▸ proper, takeable.tail same listing, same.owned ▸ List.Subset.refl _, same.filed, listing,
      List.subset_append_left _ _, fun none => ⟨none, same.owned⟩, .inl (by simp)⟩
  obtain ⟨named, fresh, original⟩ := captured state rfl
  dsimp only
  rw [Ensures.bind_iff, issue_iff]
  have new : ∀ other ∈ after.owned, other.service ≠ state.service := by
    rw [same.owned, named]
    exact takeable.unowned service List.mem_cons_self
  have unfiled : ∀ entry ∈ after.filed, entry.service ≠ state.service := by
    rw [same.filed, named]
    exact takeable.unfiled service List.mem_cons_self
  refine ⟨⟨promoting, fresh, listing ▸ named ▸ takeable.listed service List.mem_cons_self, new, unfiled⟩, ?_⟩
  rintro reply pushed stepped
  cases stepped
  refine ⟨(same.owned ▸ proper).push new original, takeable.push named (by rw [same.owned]) listing
    (fun entry member => .inl (same.filed ▸ member)), ?_, same.filed,
    listing, List.Subset.refl _, nofun, .inr ⟨state, List.mem_append_right _ List.mem_cons_self, named⟩⟩
  rw [← same.owned]
  exact List.subset_append_left _ _

/-- What releasing or dropping services leaves, with the number that left. -/
structure Shrinks (before after : Custodian) (released : List String) (count : Nat) : Prop where
  subset : after.owned ⊆ before.owned
  kept : ∀ state ∈ before.owned, state.service ∉ released → state ∈ after.owned
  filed : after.filed = before.filed
  listing : after.listing = before.listing
  none : count = 0 → after.owned = before.owned

theorem Shrinks.refl (custodian : Custodian) (released : List String) : Shrinks custodian custodian released 0 :=
  ⟨List.Subset.refl _, fun _ member _ => member, rfl, rfl, fun _ => rfl⟩

/-- One more service of the list leaves. -/
theorem Shrinks.retain {before after final : Custodian} {released : List String} {count : Nat} {service : String}
    (shrinks : Shrinks before after released count) (member : service ∈ released)
    (owned : final.owned = retained service after.owned) (filed : final.filed = after.filed)
    (listing : final.listing = after.listing) : Shrinks before final released (count + 1) := by
  refine ⟨?_, fun state owns spared => ?_, filed.trans shrinks.filed, listing.trans shrinks.listing, nofun⟩
  · rw [owned]
    exact fun state owns => shrinks.subset (retained_subset service _ owns)
  · rw [owned, mem_retained]
    exact ⟨shrinks.kept state owns spared, fun same => spared (same ▸ member)⟩

theorem Shrinks.same {before after final : Custodian} {released : List String} {count : Nat}
    (shrinks : Shrinks before after released count) (owned : final.owned = after.owned)
    (filed : final.filed = after.filed) (listing : final.listing = after.listing) :
    Shrinks before final released count :=
  ⟨owned ▸ shrinks.subset, owned ▸ shrinks.kept, filed.trans shrinks.filed, listing.trans shrinks.listing,
    fun zero => owned.trans (shrinks.none zero)⟩

theorem releaseService_follows {before : Custodian} {released : List String} {count : Nat} {service : String}
    (proper : Proper inputs before.owned) (member : service ∈ released)
    (filed : ∀ state ∈ before.owned, state.service ∈ released → Recording inputs → state.toCustody ∈ before.filed)
    (shrinks : Shrinks before custodian released count) :
    Ensures (discipline inputs) (allows inputs) (releaseService count service)
      (fun count' after => Shrinks before after released count') custodian := by
  rw [releaseService, Ensures.bind_iff, issue_iff]
  refine ⟨trivial, ?_⟩
  rintro dns read ⟨services, stepped⟩
  cases stepped
  rw [services]
  cases found : custodian.owned.find? fun state => state.service == service with
  | none =>
    have absent : ∀ state ∈ custodian.owned, state.service ≠ service := by
      simpa using List.find?_eq_none.mp found
    dsimp only
    rw [Ensures.bind_iff, issue_iff]
    refine ⟨.inr (.inr absent), ?_⟩
    rintro reply after stepped
    cases stepped
    exact shrinks.same (List.filter_eq_self.mpr (by simpa using absent)) rfl rfl
  | some state =>
    have owns := List.mem_of_find?_eq_some found
    have named : state.service = service := by simpa using List.find?_some found
    dsimp only
    rw [Ensures.bind_iff]
    have owned := shrinks.subset owns
    refine (restore_follows owns (shrinks.filed ▸ filed state owned (named ▸ member)) (proper.original state owned)).mono ?_
    rintro (error | ⟨⟩) after ⟨owned, filed, listing, -, restored⟩
    · exact shrinks.same owned filed listing
    · dsimp only
      rw [Ensures.bind_iff, issue_iff]
      refine ⟨.inl (named ▸ restored rfl), ?_⟩
      rintro reply final stepped
      cases stepped
      exact shrinks.retain member (by rw [owned]) filed listing

theorem dropService_follows {before : Custodian} {released : List String} {count : Nat} {service : String}
    (member : service ∈ released) (vanished : service ∉ before.listing)
    (shrinks : Shrinks before custodian released count) :
    Ensures (discipline inputs) (allows inputs) (dropService count service)
      (fun count' after => Shrinks before after released count') custodian := by
  rw [dropService, Ensures.bind_iff, issue_iff]
  refine ⟨.inr (.inl (shrinks.listing ▸ vanished)), ?_⟩
  rintro reply after stepped
  cases stepped
  exact shrinks.retain member rfl rfl rfl

theorem reassert_follows {captureFailed : List String} {applied : Nat} {service : String}
    (covered : service ∉ captureFailed → custodian.Covers inputs service) :
    Ensures (discipline inputs) (allows inputs) (reassertService inputs captureFailed applied service)
      (fun _ after => after.owned = custodian.owned ∧ after.filed = custodian.filed) custodian := by
  rw [reassertService]
  by_cases failed : captureFailed.contains service
  · simp only [if_pos failed]
    exact ⟨rfl, rfl⟩
  simp only [if_neg failed, Ensures.bind_iff]
  refine (assert_follows (covered (by simpa using failed))).mono ?_
  rintro (error | ⟨⟩) after ⟨owned, filed, -⟩ <;> exact ⟨owned, filed⟩

/-- What the capture step of a plan leaves. -/
structure Captured (inputs : MacosReconcileInputs) (before after : Custodian) (targets : List String)
    (progress : Nat × List String) : Prop where
  proper : Proper inputs after.owned
  subset : before.owned ⊆ after.owned
  filed : after.filed = before.filed
  listing : after.listing = before.listing
  none : progress.1 = 0 → after.owned = before.owned
  done : ∀ service ∈ targets, service ∈ progress.2 ∨ ∃ state ∈ after.owned, state.service = service

theorem captureAll_follows {targets : List String} (promoting : inputs.dnsServers ≠ []) (proper : Proper inputs custodian.owned)
    (takeable : Takeable custodian targets) :
    Ensures (discipline inputs) (allows inputs) (targets.foldlM (captureTarget inputs) (0, []))
      (fun progress after => Captured inputs custodian after targets progress) custodian := by
  refine Ensures.mono ?_ (Ensures.foldlM (fun rest progress after => Takeable after rest ∧
    Captured inputs custodian after (targets.filter fun service => !rest.contains service) progress) ?_
    ⟨takeable, proper, List.Subset.refl _, rfl, rfl, fun _ => rfl, fun service member => ?_⟩)
  · rintro progress after ⟨-, captured⟩
    exact ⟨captured.proper, captured.subset, captured.filed, captured.listing, captured.none,
      fun service member => captured.done service (by simpa using member)⟩
  · rintro service rest progress after ⟨takeable, captured⟩
    refine (captureTarget_follows promoting captured.proper takeable).mono ?_
    rintro progress' after' ⟨proper', takeable', more, filed, listing, failures, none, done⟩
    refine ⟨takeable', proper', fun _ owns => more (captured.subset owns), filed.trans captured.filed,
      listing.trans captured.listing, fun zero => ?_, fun other member => ?_⟩
    · obtain ⟨zero', owned⟩ := none zero
      exact owned.trans (captured.none zero')
    · by_cases same : other = service
      · exact same ▸ done
      · have earlier := captured.done other (by
          simp only [List.mem_filter, Bool.not_eq_true', List.contains_eq_mem, decide_eq_false_iff_not,
            List.mem_cons, not_or] at member ⊢
          exact ⟨member.1, same, member.2⟩)
        rcases earlier with failed | ⟨state, owns, named⟩
        · exact .inl (failures failed)
        · exact .inr ⟨state, more owns, named⟩
  · simp at member

theorem recordOwned_follows {changes : Nat} :
    Ensures (discipline inputs) (allows inputs) (recordOwned inputs changes) (fun _ after =>
      after.owned = custodian.owned ∧ (changes = 0 → after.filed = custodian.filed) ∧
        (0 < changes → Recording inputs → after.filed = custodian.owned.map MacosDnsServiceState.toCustody) ∧
        (¬Recording inputs → after.filed = custodian.filed)) custodian := by
  rw [recordOwned]
  by_cases changed : 0 < changes
  · rw [if_pos changed, Ensures.bind_iff, issue_iff]
    refine ⟨trivial, ?_⟩
    rintro dns read ⟨services, stepped⟩
    cases stepped
    rw [services]
    refine (persist_follows ⟨List.Subset.refl _, fun _ member => .inl member⟩).mono ?_
    rintro written after ⟨owned, -, -, filed, unrecorded⟩
    exact ⟨owned, fun zero => absurd changed (by omega), fun _ => filed, unrecorded⟩
  · simp only [if_neg changed]
    exact ⟨rfl, fun _ => rfl, fun more => absurd more changed, fun _ => rfl⟩

/-- A plan made from the owned services and a fresh listing is carried out within the protocol. -/
theorem applyActions_follows {fingerprint : MacosDnsFingerprint} {collision : Bool} (promoting : inputs.dnsServers ≠ [])
    (start : AtRest inputs custodian)
    (listed : ∀ service, service ∈ fingerprint.services ↔ service ∈ custodian.listing) :
    Ensures (discipline inputs) (allows inputs)
      (applyDnsActions inputs (planDnsActions inputs.dnsServers fingerprint
        (custodian.owned.map MacosDnsServiceState.service) (dnsDecision dnsPolicy fingerprint collision).targets))
      (fun _ after => AtRest inputs after) custodian := by
  generalize decided : (dnsDecision dnsPolicy fingerprint collision).targets = targets
  have present : ∀ service ∈ targets, service ∈ custodian.listing := fun service member =>
    (listed service).mp (mem_targets (decided ▸ member)).2.1
  have nodup : targets.Nodup := decided ▸ targets_nodup
  generalize plan : planDnsActions inputs.dnsServers fingerprint
    (custodian.owned.map MacosDnsServiceState.service) targets = actions
  have takeable : Takeable custodian actions.capture := by
    subst plan
    have unowned : ∀ service ∈ (planDnsActions inputs.dnsServers fingerprint
        (custodian.owned.map MacosDnsServiceState.service) targets).capture,
        ∀ state ∈ custodian.owned, state.service ≠ service := fun service member state owns named =>
      (mem_capture.mp member).2 (named ▸ List.mem_map_of_mem owns)
    refine ⟨fun service member => present service (mem_capture.mp member).1, unowned,
      fun service member entry recorded => ?_, nodup.filter _⟩
    obtain ⟨state, owns, same⟩ := start.recorded.named recorded
    exact same ▸ unowned service member state owns
  rw [applyDnsActions, Ensures.bind_iff]
  refine (captureAll_follows promoting start.proper takeable).mono ?_
  rintro ⟨captured, captureFailed⟩ first capturing
  dsimp only at capturing ⊢
  -- What is restored was owned before this tick, so the record lists it already.
  have earlier : ∀ state ∈ first.owned, state.service ∈ actions.restore → Recording inputs →
      state.toCustody ∈ first.filed := by
    intro state owns leaving recording
    subst plan
    obtain ⟨before, owned, named⟩ := List.mem_map.mp (mem_restore.mp leaving).1
    rw [capturing.proper.distinct state owns before (capturing.subset owned) named.symm, capturing.filed]
    exact start.recorded.lists recording owned
  rw [Ensures.bind_iff]
  refine Ensures.mono ?_ (Ensures.foldlM
    (fun rest count after => rest ⊆ actions.restore ∧ Shrinks first after actions.restore count) ?_
    ⟨List.Subset.refl _, .refl first _⟩)
  case refine_2 =>
    rintro service rest count after ⟨pending, shrinks⟩
    refine (releaseService_follows capturing.proper (pending List.mem_cons_self) earlier shrinks).mono ?_
    exact fun count' final shrinks' => ⟨fun _ member => pending (List.mem_cons_of_mem _ member), shrinks'⟩
  rintro restored second ⟨-, releasing⟩
  rw [Ensures.bind_iff]
  refine Ensures.mono ?_ (Ensures.foldlM
    (fun rest count after => rest ⊆ actions.drop ∧ Shrinks second after actions.drop count) ?_
    ⟨List.Subset.refl _, .refl second _⟩)
  case refine_2 =>
    rintro service rest count after ⟨pending, shrinks⟩
    have member := pending List.mem_cons_self
    have vanished : service ∉ second.listing := by
      rw [releasing.listing, capturing.listing]
      subst plan
      exact fun here => (mem_drop.mp member).2.2 ((listed service).mpr here)
    refine (dropService_follows member vanished shrinks).mono ?_
    exact fun count' final shrinks' => ⟨fun _ member => pending (List.mem_cons_of_mem _ member), shrinks'⟩
  rintro dropped third ⟨-, dropping⟩
  rw [Ensures.bind_iff]
  refine recordOwned_follows.mono ?_
  rintro written fourth ⟨owned, unchanged, filed, unrecorded⟩
  -- The record lists what is owned now, whether or not it had to be rewritten.
  have settled : AtRest inputs fourth := by
    refine ⟨owned ▸ capturing.proper.subset fun _ owns => releasing.subset (dropping.subset owns), fun recording => ?_,
      fun silent => ?_⟩
    · rcases Nat.eq_zero_or_pos (captured + restored + dropped) with zero | positive
      · rw [owned, unchanged zero, dropping.filed, releasing.filed, capturing.filed, dropping.none (by omega),
          releasing.none (by omega), capturing.none (by omega)]
        exact start.recorded.kept recording
      · rw [owned, filed positive recording]
    · rw [unrecorded silent, dropping.filed, releasing.filed, capturing.filed]
      exact start.recorded.none silent
  have covered : ∀ service ∈ actions.apply, service ∉ captureFailed → fourth.Covers inputs service := by
    intro service member worked
    subst plan
    have targeted := (mem_apply.mp member).1
    have held : ∃ state ∈ first.owned, state.service = service := by
      by_cases before : service ∈ custodian.owned.map MacosDnsServiceState.service
      · obtain ⟨state, owns, named⟩ := List.mem_map.mp before
        exact ⟨state, capturing.subset owns, named⟩
      · exact (capturing.done service (mem_capture.mpr ⟨targeted, before⟩)).resolve_left worked
    obtain ⟨state, owns, named⟩ := held
    have stays : state ∈ fourth.owned := by
      rw [owned]
      refine dropping.kept state (releasing.kept state owns fun left => ?_) fun left => ?_
      · exact (mem_restore.mp left).2.1 (named ▸ targeted)
      · exact (mem_drop.mp left).2.1 (named ▸ targeted)
    exact ⟨state, stays, named, fun recording => settled.recorded.lists recording stays⟩
  rw [Ensures.bind_iff]
  refine Ensures.mono ?_ (Ensures.foldlM (fun rest _ after => rest ⊆ actions.apply ∧
    after.owned = fourth.owned ∧ after.filed = fourth.filed) ?_ ⟨List.Subset.refl _, rfl, rfl⟩)
  · rintro applied final ⟨-, owned', filed'⟩
    exact settled.of_eq owned' filed'
  · rintro service rest applied after ⟨pending, owned', filed'⟩
    refine (reassert_follows fun worked => ?_).mono ?_
    · have before := covered service (pending List.mem_cons_self) worked
      rw [Custodian.Covers, owned', filed']
      exact before
    · rintro applied' final ⟨owned'', filed''⟩
      exact ⟨fun _ member => pending (List.mem_cons_of_mem _ member), owned''.trans owned', filed''.trans filed'⟩

theorem remember_follows {fingerprint : MacosDnsFingerprint} {changed : Nat} :
    Ensures (discipline inputs) (allows inputs) (rememberFingerprint fingerprint changed)
      (fun _ after => SameHoldings custodian after) custodian := by
  have store : ∀ observed before, SameHoldings custodian before →
      Ensures (discipline inputs) (allows inputs) (issue (.storeFingerprint observed))
        (fun _ after => SameHoldings custodian after) before := by
    intro observed before same
    rw [issue_iff]
    refine ⟨trivial, ?_⟩
    rintro reply after stepped
    cases stepped
    exact same
  rw [rememberFingerprint]
  by_cases acted : 0 < changed
  · simp only [if_pos acted, Ensures.bind_iff]
    refine fingerprint_follows.mono ?_
    rintro (error | observed) after ⟨same, -⟩ <;> exact store _ _ same
  · simp only [if_neg acted]
    exact store _ _ (.refl _)

theorem reconcileServices_follows {state : MacosCleanupState} {fingerprint : MacosDnsFingerprint} {collision : Bool}
    (promoting : state.reconcile.dnsServers ≠ []) (start : AtRest state.reconcile custodian)
    (listed : ∀ service, service ∈ fingerprint.services ↔ service ∈ custodian.listing) :
    Ensures (discipline state.reconcile) (allows state.reconcile) (reconcileServices state fingerprint collision)
      (fun _ after => AtRest state.reconcile after) custodian := by
  rw [reconcileServices, Ensures.bind_iff, issue_iff]
  refine ⟨trivial, ?_⟩
  rintro dns read ⟨services, stepped⟩
  cases stepped
  dsimp only
  by_cases holds : dnsDecision dnsPolicy fingerprint collision = .hold
  · rw [if_pos holds]
    exact start
  rw [if_neg holds]
  split
  · exact start
  · rw [services, Ensures.bind_iff]
    refine (applyActions_follows promoting start listed).mono ?_
    rintro changed after rest
    rw [Ensures.bind_iff]
    refine remember_follows.mono ?_
    rintro stored final same
    by_cases key : state.dnsStoreKey
    · rw [if_pos key, Ensures.bind_iff, issue_iff]
      refine ⟨trivial, ?_⟩
      rintro intact done stepped
      cases stepped
      exact rest.same same
    · rw [if_neg key]
      exact rest.same same

/-- Every tick keeps to the protocol. -/
theorem tick_follows {state : MacosCleanupState} (start : AtRest state.reconcile custodian) :
    Ensures (discipline state.reconcile) (allows state.reconcile) (macosReconcileDns state)
      (fun _ after => AtRest state.reconcile after) custodian := by
  rw [macosReconcileDns]
  by_cases silent : state.reconcile.dnsServers.isEmpty
  · rw [if_pos silent]
    exact start
  rw [if_neg silent]
  have promoting : state.reconcile.dnsServers ≠ [] := fun empty => silent (List.isEmpty_iff.mpr empty)
  by_cases active : state.reconcile.dnsMode = .active
  · rw [if_pos active, reconcileDnsStoreKey]
    by_cases key : state.dnsStoreKey
    · rw [if_pos key, Ensures.bind_iff, issue_iff]
      refine ⟨trivial, ?_⟩
      rintro connected read stepped
      cases stepped
      rw [issue_iff]
      refine ⟨trivial, ?_⟩
      rintro changed after stepped
      cases stepped
      exact start
    · rw [if_neg key]
      exact start
  rw [if_neg active, Ensures.bind_iff]
  refine fingerprint_follows.mono ?_
  rintro (error | fingerprint) after ⟨same, listed⟩
  · exact start.same same
  rw [Ensures.bind_iff, issue_iff]
  refine ⟨trivial, ?_⟩
  rintro connected read stepped
  cases stepped
  dsimp only
  by_cases key : state.dnsStoreKey
  · rw [if_pos key, Ensures.bind_iff, issue_iff]
    refine ⟨trivial, ?_⟩
    rintro wanted final stepped
    cases stepped
    exact reconcileServices_follows promoting (start.same same) (listed fingerprint rfl)
  · rw [if_neg key]
    exact reconcileServices_follows promoting (start.same same) (listed fingerprint rfl)

/-! ### The helper's life -/

/-- The protocol next to the route commands, which it does not concern. -/
def helperDiscipline (inputs : MacosReconcileInputs) : Environment helperCommands Custodian :=
  (Environment.idle routeCommands Custodian).both (discipline inputs)

def helperAllows (inputs : MacosReconcileInputs) (custodian : Custodian) (op : helperCommands.Op) : Prop :=
  op.elim (fun _ => True) (allows inputs custodian)

/-- What holds between two programs of a helper. -/
def PhaseAtRest (args : HelperArgs) : HelperPhase → Custodian → Prop
  | .ready, custodian => AtRest args.inputs custodian ∧ custodian.owned = []
  | .up state _, custodian => state.reconcile = args.inputs ∧ AtRest args.inputs custodian
  | .down, _ => True

theorem phaseAtRest_start (args : HelperArgs) : PhaseAtRest args .ready .start :=
  ⟨⟨.nil, fun _ => rfl, fun _ => rfl⟩, rfl⟩

section Life

variable {A : Type} {args : HelperArgs}

theorem routes_follow (p : RouteProgram A) :
    Ensures (helperDiscipline inputs) (helperAllows inputs) (routes p) (fun _ after => after = custodian) custodian :=
  Ensures.inl_iff.mpr (Ensures.idle (fun _ => trivial) p)

theorem dns_follow {p : DnsProgram A} {post : A → Custodian → Prop} :
    Ensures (helperDiscipline inputs) (helperAllows inputs) (dns p) post custodian ↔
      Ensures (discipline inputs) (allows inputs) p post custodian :=
  Ensures.inr_iff

/-- A restore of what the helper's memory lists. -/
theorem restoreOwned_follows (start : AtRest inputs custodian) :
    Ensures (discipline inputs) (allows inputs) (do
      let owned ← issue .dnsState
      restoreMacosDnsServices owned.services inputs) (fun failed after => after.owned = custodian.owned ∧
        ∀ state ∈ custodian.owned, state ∈ failed.map Prod.fst ∨ state.service ∈ after.back) custodian := by
  rw [Ensures.bind_iff, issue_iff]
  refine ⟨trivial, ?_⟩
  rintro dns read ⟨services, stepped⟩
  cases stepped
  rw [services]
  exact restoreAll_follows start

theorem rollback_follows {routing : MacosRoutingState} {setupError : String} (start : AtRest args.inputs custodian) :
    Ensures (helperDiscipline args.inputs) (helperAllows args.inputs) (rollback args routing setupError)
      (fun _ _ => True) custodian := by
  rw [rollback, Ensures.bind_iff]
  refine (routes_follow _).mono ?_
  rintro errors after rfl
  rw [Ensures.bind_iff, dns_follow]
  have restoring := restoreOwned_follows start
  rw [Ensures.bind_iff] at restoring
  refine restoring.mono ?_
  intro owned read restored
  rw [Ensures.bind_iff, dns_follow]
  exact restored.mono fun _ _ _ => trivial

theorem setupDns_follows {routing : MacosRoutingState} {installed : Except String Unit}
    (start : AtRest args.inputs custodian) (nothing : custodian.owned = []) :
    Ensures (discipline args.inputs) (allows args.inputs) (setupDns args routing installed)
      (fun _ after => AtRest args.inputs after) custodian := by
  unfold setupDns
  split
  · exact start
  · exact configure_follows start nothing
  · exact start

theorem startStoreKey_follows {routing : MacosRoutingState} (start : AtRest args.inputs custodian) :
    Ensures (discipline args.inputs) (allows args.inputs) (startStoreKey args routing)
      (fun _ after => AtRest args.inputs after) custodian := by
  rw [startStoreKey]
  split
  · rw [issue_iff]
    refine ⟨trivial, ?_⟩
    rintro key started stepped
    cases stepped
    exact start
  · exact start

theorem connect_follows (start : AtRest args.inputs custodian) (nothing : custodian.owned = []) :
    Ensures (helperDiscipline args.inputs) (helperAllows args.inputs) (connectProgram args) (PhaseAtRest args)
      custodian := by
  rw [connectProgram, Ensures.bind_iff, configureNetworkMacos, Ensures.bind_iff]
  refine (routes_follow _).mono ?_
  rintro ⟨routing, installed⟩ after rfl
  dsimp only
  rw [Ensures.bind_iff, dns_follow]
  refine (setupDns_follows start nothing).mono ?_
  rintro (setupError | fingerprint) configured kept
  · dsimp only
    rw [Ensures.bind_iff]
    exact (rollback_follows kept).mono fun _ _ _ => trivial
  · dsimp only
    rw [Ensures.bind_iff, dns_follow]
    refine (startStoreKey_follows kept).mono ?_
    rintro key started kept'
    rw [Ensures.bind_iff, dns_follow, issue_iff]
    refine ⟨trivial, ?_⟩
    rintro reply final stepped
    cases stepped
    exact ⟨rfl, kept'⟩

/-- What a teardown does to DNS is the restore of what the helper's memory lists. -/
theorem teardown_ensures {S : Type} {env : Environment dnsCommands S} {permits : S → DnsOp → Prop}
    {state : MacosCleanupState} (routing : MacosRoutingState) (post : S → Prop) {start : S}
    (removes : permits start .keyRemove ∧ ∀ after, env start .keyRemove () after → after = start)
    (restoring : Ensures env permits (do
      let owned ← issue .dnsState
      restoreMacosDnsServices owned.services state.reconcile) (fun _ after => post after) start) :
    Ensures ((Environment.idle routeCommands S).both env) (fun s op => op.elim (fun _ => True) (permits s))
      (teardownProgram state routing) (fun phase after => phase = .down ∧ post after) start := by
  have free : ∀ {A : Type} (p : RouteProgram A) s, Ensures ((Environment.idle routeCommands S).both env)
      (fun s op => op.elim (fun _ => True) (permits s)) (routes p) (fun _ after => after = s) s :=
    fun p s => Ensures.inl_iff.mpr (Ensures.idle (fun _ => trivial) p)
  rw [teardownProgram, Ensures.bind_iff, cleanupNetworkMacos]
  have rest : Ensures ((Environment.idle routeCommands S).both env) (fun s op => op.elim (fun _ => True) (permits s)) (do
      let owned ← dns (Dns.issue .dnsState)
      let failed ← dns (restoreMacosDnsServices owned.services state.reconcile)
      let connected ← routes (Routes.issue (.macosConnectedSubnetsByDevice state.reconcile.interface))
      let errors ← routes (deleteRoutes routing.routesAdded (macosLocalConnectedSubnets connected)
        state.reconcile.interface)
      return failed.map restoreMessage ++ errors) (fun _ after => post after) start := by
    rw [Ensures.bind_iff] at restoring
    rw [Ensures.bind_iff]
    apply Ensures.inr_iff.mpr
    apply restoring.mono
    intro owned read restored
    rw [Ensures.bind_iff]
    apply Ensures.inr_iff.mpr
    apply restored.mono
    intro failed after done
    rw [Ensures.bind_iff]
    apply (free _ after).mono
    intro connected _ same
    rw [same, Ensures.bind_iff]
    apply (free _ after).mono
    intro errors _ same
    rw [same]
    exact done
  have ends := rest.mono fun _ after done => (⟨rfl, done⟩ : HelperPhase.down = .down ∧ post after)
  by_cases key : state.dnsStoreKey
  · rw [if_pos key, Ensures.bind_iff]
    refine ⟨removes.1, fun reply after answered => ?_⟩
    rw [removes.2 after answered]
    exact ends
  · rw [if_neg key]
    exact ends

theorem teardown_follows {state : MacosCleanupState} {routing : MacosRoutingState}
    (same : state.reconcile = args.inputs) (start : AtRest args.inputs custodian) :
    Ensures (helperDiscipline args.inputs) (helperAllows args.inputs) (teardownProgram state routing)
      (PhaseAtRest args) custodian := by
  have restoring := (restoreOwned_follows start).mono fun _ _ _ => trivial
  rw [← same] at restoring ⊢
  have whole := teardown_ensures routing (fun _ => True) ⟨trivial, fun _ stepped => stepped⟩ restoring
  exact whole.mono fun _ _ ⟨down, _⟩ => down ▸ trivial

/-- The protocol where no write of a setting reports an error. -/
def reliableDiscipline (inputs : MacosReconcileInputs) : Environment dnsCommands Custodian :=
  fun custodian op reply next => discipline inputs custodian op reply next ∧ match op, reply with
    | .setDnsServers _ _, .error _ | .setSearchDomains _ _, .error _ => False
    | _, _ => True

theorem reliableDiscipline_works (inputs : MacosReconcileInputs) : WritesWork (reliableDiscipline inputs) :=
  fun _ _ _ _ _ => ⟨fun answered => answered.2, fun answered => answered.2⟩

/-- A teardown in which every write works puts back everything that is owned. -/
theorem teardown_restores {state : MacosCleanupState} (routing : MacosRoutingState)
    (same : state.reconcile = args.inputs) (start : AtRest args.inputs custodian) :
    Ensures ((Environment.idle routeCommands Custodian).both (reliableDiscipline args.inputs))
      (helperAllows args.inputs) (teardownProgram state routing) (fun phase after =>
        phase = .down ∧ ∀ owner ∈ after.owned, owner.service ∈ after.back) custodian := by
  refine teardown_ensures routing _ ⟨trivial, fun _ stepped => stepped.1⟩ ?_
  rw [same]
  have settled := (restoreOwned_follows start).narrower
    fun s op reply after (answered : reliableDiscipline args.inputs s op reply after) => answered.1
  rw [Ensures.bind_iff, issue_iff] at settled ⊢
  refine ⟨settled.1, fun reply after answered => ?_⟩
  have worked : Ensures (reliableDiscipline args.inputs) (fun _ _ => True)
      (restoreMacosDnsServices reply.services args.inputs) (fun failed _ => failed = []) after :=
    restoreMacosDnsServices_works (reliableDiscipline_works args.inputs) reply.services args.inputs
  apply ((settled.2 reply after answered).and worked).relax (fun _ _ permitted => permitted.1) |>.mono
  rintro failed final ⟨⟨owned, all⟩, rfl⟩ owner owns
  exact (all owner (owned ▸ owns)).resolve_left List.not_mem_nil

/-- Whatever a helper does next keeps to the protocol, from one moment of rest to another. -/
theorem helper_follows {phase : HelperPhase} {p : HelperProgram HelperPhase} (started : HelperStart args phase p)
    (rest : PhaseAtRest args phase custodian) :
    Ensures (helperDiscipline args.inputs) (helperAllows args.inputs) p (PhaseAtRest args) custodian := by
  cases started with
  | connect => exact connect_follows rest.1 rest.2
  | routeTick =>
    rw [routeTick, Ensures.bind_iff]
    refine (routes_follow _).mono ?_
    rintro ⟨routing', changed⟩ after rfl
    exact rest
  | dnsTick =>
    obtain ⟨same, kept⟩ := rest
    rw [dnsTick, Ensures.bind_iff, dns_follow, ← same]
    refine (tick_follows (same ▸ kept)).mono ?_
    intro changed after kept'
    exact ⟨same, same ▸ kept'⟩
  | teardown => exact teardown_follows rest.1 rest.2

end Life

end Wgd.Dns
