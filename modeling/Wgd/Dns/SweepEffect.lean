import Wgd.Dns.Sweep

/-! What a sweep does on a host where every command works, with at most one record. -/

set_option autoImplicit false

namespace Wgd.Dns

open Wgd.Net Wgd.Helper Wgd.Interaction
/-! ### The effect of a plan -/

/-- Every command works. -/
def workingHost : Environment dnsCommands Host := hostEnvironment fun _ => false

/-- The service an action writes to. -/
def Action.target : Action → Option String
  | .restore _ service _ _ | .clearStray service _ => some service
  | _ => none

def Action.apply (host : Host) : Action → Host
  | .restore _ service servers domains => (host.setDns service servers).setSearch service domains
  | .clearStray service _ => host.setDns service none
  | _ => host

theorem apply_elsewhere {host : Host} {action : Action} {service : String} (apart : action.target ≠ some service) :
    (action.apply host).dns service = host.dns service ∧ (action.apply host).search service = host.search service := by
  cases action with
  | restore interface other servers domains =>
    have different : service ≠ other := fun same => apart (same ▸ rfl)
    simp [Action.apply, Host.setDns, Host.setSearch, Function.update_of_ne different]
  | clearStray other servers =>
    have different : service ≠ other := fun same => apart (same ▸ rfl)
    simp [Action.apply, Host.setDns, Function.update_of_ne different]
  | _ => exact ⟨rfl, rfl⟩

/-- A service no action is about keeps its settings. -/
theorem apply_untouched {actions : List Action} {service : String} (host : Host)
    (apart : ∀ action ∈ actions, action.target ≠ some service) :
    (actions.foldl Action.apply host).dns service = host.dns service ∧
      (actions.foldl Action.apply host).search service = host.search service := by
  induction actions generalizing host with
  | nil => exact ⟨rfl, rfl⟩
  | cons action rest ih =>
    rw [List.foldl_cons]
    obtain ⟨dns, search⟩ := ih (action.apply host) fun other member => apart other (List.mem_cons_of_mem _ member)
    obtain ⟨dns', search'⟩ := apply_elsewhere (apart action List.mem_cons_self)
    exact ⟨dns.trans dns', search.trans search'⟩

/-- Whatever the last action about a service leaves there stays. -/
theorem apply_touched (left : Setting → Setting → Prop) {actions : List Action} {host : Host} {service : String}
    (each : ∀ action ∈ actions, action.target = some service →
      ∀ before, left ((action.apply before).dns service) ((action.apply before).search service))
    (some : ∃ action ∈ actions, action.target = some service) :
    left ((actions.foldl Action.apply host).dns service) ((actions.foldl Action.apply host).search service) := by
  induction actions generalizing host with
  | nil => obtain ⟨_, absurd, -⟩ := some; exact nomatch absurd
  | cons action rest ih =>
    rw [List.foldl_cons]
    by_cases again : ∃ other ∈ rest, other.target = Option.some service
    · exact ih (fun other member => each other (List.mem_cons_of_mem _ member)) again
    · obtain ⟨first, member, aimed⟩ := some
      rcases List.mem_cons.mp member with rfl | inside
      · obtain ⟨dns, search⟩ := apply_untouched (first.apply host)
          fun other inside aimed' => again ⟨other, inside, aimed'⟩
        rw [dns, search]
        exact each first List.mem_cons_self aimed host
      · exact absurd ⟨first, inside, aimed⟩ again

theorem runAction_works {progress : SweepProgress} {action : Action} {host : Host} :
    Ensures workingHost (fun _ _ => True) (runAction progress action) (fun _ after => after = action.apply host) host := by
  cases action with
  | restore interface service servers domains =>
    rw [runAction, Ensures.bind_iff, restoreService, Ensures.attempt_iff, issue_iff]
    refine ⟨trivial, fun reply after answered => ?_⟩
    cases reply with
    | error error => cases answered.1
    | ok value =>
      cases answered
      refine ⟨trivial, fun reply final answered => ?_⟩
      cases reply with
      | error error => cases answered.1
      | ok value => exact answered
  | clearStray service servers =>
    rw [runAction, Ensures.bind_iff, issue_iff]
    refine ⟨trivial, fun reply after answered => ?_⟩
    cases reply with
    | error error => cases answered.1
    | ok value => exact answered
  | _ => rfl

/-- Both settings of every service are the same. -/
def SameSettings (before after : Host) : Prop := after.dns = before.dns ∧ after.search = before.search

theorem settleRecord_works {path : String} {record : DnsCustodyRecord} {keep : List DnsCustodyService} {host : Host} :
    Ensures workingHost (fun _ _ => True) (settleRecord path record keep) (fun _ after => SameSettings host after) host := by
  rw [settleRecord]
  split
  · rw [issue_iff]
    refine ⟨trivial, fun reply after answered => ?_⟩
    cases reply with
    | error error => exact nomatch answered.1
    | ok value => cases answered; exact ⟨rfl, rfl⟩
  · split
    · rw [issue_iff]
      refine ⟨trivial, fun reply after answered => ?_⟩
      cases reply with
      | error error => exact nomatch answered.1
      | ok value => cases answered; exact ⟨rfl, rfl⟩
    · exact ⟨rfl, rfl⟩

theorem settleState_works {progress : SweepProgress} {summary : SweepSummary} {entry : String × RecordState} {host : Host} :
    Ensures workingHost (fun _ _ => True) (settleState progress summary entry) (fun _ after => SameSettings host after)
      host := by
  obtain ⟨path, state⟩ := entry
  rw [settleState]
  split
  · exact ⟨rfl, rfl⟩
  · rw [Ensures.bind_iff]
    apply settleRecord_works.mono
    intro settled written same
    rw [Ensures.bind_iff, removeIfDeadLocked, Ensures.bind_iff, issue_iff]
    refine ⟨trivial, fun live judged answered => ?_⟩
    obtain ⟨-, rfl⟩ := answered
    split
    · exact same
    · refine ⟨trivial, fun reply after answered => ?_⟩
      cases answered
      exact same

/-- The actions of a plan are carried out one after another, and nothing else is written. -/
theorem execute_works {actions : List Action} {states : List (String × RecordState)} {host : Host} :
    Ensures workingHost (fun _ _ => True) (execute actions states)
      (fun _ after => SameSettings (actions.foldl Action.apply host) after) host := by
  rw [execute, Ensures.bind_iff]
  refine Ensures.mono ?_ (Ensures.foldlM (fun rest _ after =>
    rest.foldl Action.apply after = actions.foldl Action.apply host) ?_ rfl)
  · intro progress ready done
    rw [← done]
    refine Ensures.mono (fun _ _ same => same) (Ensures.foldlM (fun _ _ after => SameSettings ready after) ?_ ⟨rfl, rfl⟩)
    intro entry rest summary after same
    apply settleState_works.mono
    exact fun _ _ same' => ⟨same'.1.trans same.1, same'.2.trans same.2⟩
  · intro action rest progress after done
    apply runAction_works.mono
    rintro _ _ rfl
    exact done

/-! ### What a sweep finds where there is one record at most -/

/-- No file but the record of this interface. -/
def OnlyRecord (interface : String) (host : Host) : Prop :=
  ∀ path file, host.records.lookup path = some file →
    path = interface ∧ ∃ record, file = .record record ∧ record.interface = interface

/-- What a sweep reads of the record of a dead helper. -/
def deadRecord (interface : String) (host : Host) : List (String × RecordState) :=
  match host.records.lookup interface with
  | some (.record record) => [(interface, ⟨record, false⟩)]
  | _ => []

theorem readRecordStates_works {interface : String} {scope : Scope} {host : Host} (only : OnlyRecord interface host)
    (dead : host.live interface = false) (covers : scope.includes interface = true) :
    Ensures workingHost (fun _ _ => True) (readRecordStates scope) (fun outcome after =>
      after = host ∧ outcome = .ok (deadRecord interface host)) host := by
  rw [readRecordStates, Ensures.attempt_iff, issue_iff]
  refine ⟨trivial, fun reply after answered => ?_⟩
  cases reply with
  | error error => exact nomatch answered.1
  | ok paths =>
    obtain ⟨perm, rfl⟩ := answered
    dsimp only
    have nodup : paths.Nodup := perm.nodup_iff.mpr after.records.keys_nodup
    have known : ∀ path, path ∈ paths ↔ (after.records.lookup path).isSome := fun path => by
      rw [perm.mem_iff, AList.lookup_isSome, AList.mem_keys]
    have same : ∀ path ∈ paths, path = interface := fun path member => by
      obtain ⟨file, found⟩ := Option.isSome_iff_exists.mp ((known path).mp member)
      exact (only path file found).1
    rw [Ensures.bind_iff]
    cases paths with
    | nil =>
      refine ⟨rfl, ?_⟩
      have none : after.records.lookup interface = none := by
        simpa using (known interface).not.mp List.not_mem_nil
      rw [deadRecord, none]
    | cons path rest =>
      obtain rfl := same path List.mem_cons_self
      have single : rest = [] := List.eq_nil_iff_forall_not_mem.mpr fun other member =>
        (List.nodup_cons.mp nodup).1 (same other (List.mem_cons_of_mem _ member) ▸ member)
      subst single
      obtain ⟨file, found⟩ := Option.isSome_iff_exists.mp ((known path).mp List.mem_cons_self)
      obtain ⟨-, record, rfl, named⟩ := only path file found
      rw [List.foldlM_cons, Ensures.bind_iff, readRecordState, if_neg (by simp [covers]), Ensures.bind_iff, issue_iff]
      refine ⟨trivial, fun reply read answered => ?_⟩
      cases reply with
      | error error =>
        rcases answered.1 with failed | absent
        · exact nomatch failed
        · exact nomatch absent.symm.trans found
      | ok file =>
        obtain ⟨again, rfl⟩ := answered
        cases again.symm.trans found
        simp only [if_pos named]
        rw [Ensures.bind_iff, issue_iff]
        refine ⟨trivial, fun live judged answered => ?_⟩
        obtain ⟨rfl, rfl⟩ := answered
        refine ⟨rfl, ?_⟩
        rw [deadRecord, found, named, dead]
        rfl

/-- The lists of the stored connections that have one. -/
def storedOf (host : Host) : List StoredDns :=
  (host.connections.filter fun connection => !connection.dnsServers.isEmpty).map fun connection =>
    ⟨connection.dnsServers.map IpAddr.toText, host.live connection.interface⟩

/-- The lists a sweep of this scope compares strays with. -/
def sweptLists (host : Host) : Scope → List StoredDns
  | .all => storedOf host
  | .interface _ => []

theorem sweepStored_works {scope : Scope} {host : Host} :
    Ensures workingHost (fun _ _ => True) (sweepStored scope) (fun stored after =>
      after = host ∧ stored = sweptLists host scope) host := by
  cases scope with
  | interface name => exact ⟨rfl, rfl⟩
  | all =>
    rw [sweepStored, storedDnsLists, Ensures.bind_iff, issue_iff]
    refine ⟨trivial, fun reply after answered => ?_⟩
    cases reply with
    | error error => exact nomatch answered.1
    | ok connections =>
      obtain ⟨rfl, rfl⟩ := answered
      let lists (connections : List StoredConnection) : List StoredDns :=
        (connections.filter fun connection => !connection.dnsServers.isEmpty).map fun connection =>
          ⟨connection.dnsServers.map IpAddr.toText, after.live connection.interface⟩
      refine Ensures.mono ?_ (Ensures.foldlM (fun rest stored s => s = after ∧ stored ++ lists rest = lists after.connections)
        ?_ ⟨rfl, rfl⟩)
      · rintro stored s ⟨rfl, done⟩
        exact ⟨rfl, by simpa [lists, sweptLists, storedOf] using done⟩
      · rintro connection rest stored s ⟨rfl, done⟩
        rw [storedDns]
        split
        · rename_i empty
          exact ⟨rfl, by simpa [lists, empty] using done⟩
        · rename_i some
          rw [Ensures.bind_iff, issue_iff]
          refine ⟨trivial, fun live judged answered => ?_⟩
          obtain ⟨rfl, rfl⟩ := answered
          exact ⟨rfl, by simpa [lists, some] using done⟩

/-- The listing with the live DNS of each service. -/
def liveListing (host : Host) : List (String × Setting) := host.listed.map fun service => (service, host.dns service)

theorem readLiveDns_works {services : List String} {live : List (String × Setting)} {host : Host} :
    Ensures workingHost (fun _ _ => True) (readLiveDns live services) (fun outcome after =>
      after = host ∧ outcome = .ok (live ++ services.map fun service => (service, host.dns service))) host := by
  induction services generalizing live with
  | nil => exact ⟨rfl, by simp⟩
  | cons service rest ih =>
    rw [readLiveDns, Ensures.attempt_iff, issue_iff]
    refine ⟨trivial, fun reply after answered => ?_⟩
    cases reply with
    | error error => exact nomatch answered.1
    | ok servers =>
      obtain ⟨rfl, rfl⟩ := answered
      apply ih.mono
      rintro outcome final ⟨rfl, rfl⟩
      exact ⟨rfl, by simp⟩

/-- What a sweep decides where the record of this interface is the only one. -/
def sweepPlan (interface : String) (scope : Scope) (host : Host) : List Action :=
  planDnsSweep ((deadRecord interface host).map Prod.snd) (liveListing host) (sweptLists host scope)

/-- With nothing to restore or to compare with, or nothing listed, no action writes. -/
theorem idle_plan {records : List RecordState} {live : List (String × Setting)} {stored : List StoredDns} {host : Host}
    (idle : live = [] ∨ records = [] ∧ ∀ dns ∈ stored, dns.helperLive = true) :
    (planDnsSweep records live stored).foldl Action.apply host = host := by
  have still : ∀ actions : List Action, (∀ action ∈ actions, action.target = none) →
      actions.foldl Action.apply host = host := by
    intro actions none
    induction actions with
    | nil => rfl
    | cons action rest ih =>
      rw [List.foldl_cons]
      have same : action.apply host = host := by
        have here := none action List.mem_cons_self
        cases action <;> first | rfl | exact nomatch here
      rw [same]
      exact ih fun other member => none other (List.mem_cons_of_mem _ member)
  apply still
  intro action member
  rcases idle with rfl | ⟨rfl, awake⟩
  · simp only [planDnsSweep, List.filterMap_nil, List.append_nil, List.mem_flatMap] at member
    obtain ⟨state, -, planned⟩ := member
    rw [planRecord] at planned
    split at planned
    · rw [List.mem_singleton.mp planned]
      rfl
    · obtain ⟨entry, -, rfl⟩ := List.mem_map.mp planned
      rfl
  · simp only [planDnsSweep, List.flatMap_nil, List.nil_append, List.mem_filterMap] at member
    obtain ⟨entry, -, planned⟩ := member
    have nobody : ∀ live, (stored.any fun dns => !dns.helperLive && dnsListsEqual (some live) dns.servers) = false := by
      intro live
      rw [List.any_eq_false]
      intro dns member
      simp [awake dns member]
    simp [planStray, nobody] at planned

theorem sweepLocked_works {interface : String} {scope : Scope} {host : Host} (only : OnlyRecord interface host)
    (dead : host.live interface = false) (covers : scope.includes interface = true) :
    Ensures workingHost (fun _ _ => True) (sweepLocked scope) (fun _ after =>
      SameSettings ((sweepPlan interface scope host).foldl Action.apply host) after) host := by
  have sorted : (deadRecord interface host).insertionSort (fun a b => a.2.record.interface ≤ b.2.record.interface) =
      deadRecord interface host := by
    unfold deadRecord
    split <;> rfl
  rw [sweepLocked, Ensures.attempt_iff]
  apply (readRecordStates_works only dead covers).mono
  rintro _ _ ⟨rfl, rfl⟩
  dsimp only
  rw [sorted, Ensures.bind_iff]
  apply sweepStored_works.mono
  rintro _ _ ⟨rfl, rfl⟩
  rename_i host
  rw [Ensures.attempt_iff, sweepLive]
  have finish : ∀ live, (planDnsSweep ((deadRecord interface host).map Prod.snd) live (sweptLists host scope)).foldl
      Action.apply host = (sweepPlan interface scope host).foldl Action.apply host →
      Ensures workingHost (fun _ _ => True) (do
        let summary ← execute (planDnsSweep ((deadRecord interface host).map Prod.snd) live (sweptLists host scope))
          (deadRecord interface host)
        if 0 < summary.restored + summary.cleared then issue .flushResolverCache
        return (Except.ok summary : Except String SweepSummary)) (fun _ after =>
          SameSettings ((sweepPlan interface scope host).foldl Action.apply host) after) host := by
    intro live same
    rw [← same, Ensures.bind_iff]
    apply execute_works.mono
    intro summary after done
    split
    · refine ⟨trivial, fun reply final answered => ?_⟩
      cases answered
      exact done
    · exact done
  split
  · rw [snapshotLiveDns, Ensures.attempt_iff, issue_iff]
    refine ⟨trivial, fun reply after answered => ?_⟩
    cases reply with
    | error error => exact nomatch answered.1
    | ok services =>
      obtain ⟨rfl, rfl⟩ := answered
      dsimp only
      split
      · rename_i empty
        have unlisted : liveListing after = [] := by rw [liveListing, List.isEmpty_iff.mp empty, List.map_nil]
        show SameSettings ((sweepPlan interface scope after).foldl Action.apply after) after
        rw [sweepPlan, idle_plan (.inl unlisted)]
        exact ⟨rfl, rfl⟩
      · apply readLiveDns_works.mono
        rintro _ _ ⟨rfl, rfl⟩
        exact finish _ rfl
  · rename_i none
    apply finish
    have records : deadRecord interface host = [] := by
      unfold deadRecord at none ⊢
      split
      · rename_i record found
        simp [found] at none
      · rfl
    have awake : ∀ dns ∈ sweptLists host scope, dns.helperLive = true := by
      intro dns member
      by_contra asleep
      exact none (by simpa using .inr ⟨dns, member, by simpa using asleep⟩)
    rw [sweepPlan, records, List.map_nil, idle_plan (.inl rfl), idle_plan (.inr ⟨rfl, awake⟩)]

end Wgd.Dns
