import Mathlib.Logic.Function.Basic
import Wgd.Dns.Sweep

/-! What a sweep may do to the custody directory, as a protocol: a record it has read
is only ever cut down, and an entry only goes once both of its settings have been
written back or its service was seen with other servers. -/

set_option autoImplicit false

namespace Wgd.Dns

open Wgd.Net Wgd.Helper Wgd.Interaction

structure Sweeper where
  /-- The records read, as long as their helper counts as dead. -/
  held : String → Option DnsCustodyRecord
  /-- The files that are no record of their interface. -/
  broken : String → Bool
  /-- The servers read. -/
  seen : List (String × Setting)
  /-- The servers set by the last write. -/
  half : Option (String × Setting)
  /-- The services put back, with the settings they were given. -/
  back : List (String × Setting × Setting)

namespace Sweeper

def start : Sweeper := ⟨fun _ => none, fun _ => false, [], none, []⟩

/-- Nothing is left to do for an entry. -/
def Settled (sweeper : Sweeper) (record : DnsCustodyRecord) (entry : DnsCustodyService) : Prop :=
  (entry.service, entry.originalDnsServers, entry.originalSearchDomains) ∈ sweeper.back ∨
    ∃ live, (entry.service, live) ∈ sweeper.seen ∧ dnsListsEqual live record.tunnelDns = false

/-- Every entry of the record at a path is kept or settled. -/
def Cuts (sweeper : Sweeper) (path : String) (services : List DnsCustodyService) : Prop :=
  ∃ record, sweeper.held path = some record ∧ ∀ entry ∈ record.services, entry ∈ services ∨ sweeper.Settled record entry

end Sweeper

def sweepAllows (sweeper : Sweeper) : DnsOp → Prop
  | .writeRecord record => sweeper.Cuts record.interface record.services ∧
      ∃ old, sweeper.held record.interface = some old ∧ record = { old with services := record.services } ∧
        record.services ⊆ old.services
  | .removeRecord path => sweeper.Cuts path []
  | .quarantineRecord path => sweeper.broken path = true
  | .pushService _ | .retainServices _ | .storeFingerprint _ => False
  | _ => True

def sweepDiscipline : Environment dnsCommands Sweeper :=
  fun sweeper op reply next => match op, reply with
  | .recordPaths, .ok paths => paths.Nodup ∧ next = sweeper
  | .readRecord path, .ok (.record record) => next = { sweeper with
      held := Function.update sweeper.held path (some record)
      broken := Function.update sweeper.broken path (record.interface != path) }
  | .readRecord path, .ok (.unsupportedVersion _) => next = { sweeper with
      held := Function.update sweeper.held path none
      broken := Function.update sweeper.broken path false }
  | .readRecord path, .ok (.corrupt _) | .readRecord path, .error _ => next = { sweeper with
      held := Function.update sweeper.held path none
      broken := Function.update sweeper.broken path true }
  | .helperIsLive interface (some _) _, true => next = { sweeper with
      held := Function.update sweeper.held interface none }
  | .getDnsServers service, .ok servers => next = { sweeper with seen := (service, servers) :: sweeper.seen }
  | .setDnsServers service servers, .ok () => next = { sweeper with half := some (service, servers) }
  | .setDnsServers _ _, .error _ => next = { sweeper with half := none }
  | .setSearchDomains service domains, .ok () => next = { sweeper with
      back := match sweeper.half with
        | some (written, servers) =>
          if written = service then (service, servers, domains) :: sweeper.back else sweeper.back
        | none => sweeper.back
      half := none }
  | .setSearchDomains _ _, .error _ => next = { sweeper with half := none }
  | .writeRecord record, _ => next = { sweeper with held := Function.update sweeper.held record.interface none }
  | .removeRecord path, _ => next = { sweeper with held := Function.update sweeper.held path none }
  | _, _ => next = sweeper

variable {sweeper : Sweeper}

/-! ### Reading -/

/-- What the read states say about the records on disk. -/
structure Read (sweeper : Sweeper) (states : List (String × RecordState)) : Prop where
  named : ∀ entry ∈ states, entry.2.record.interface = entry.1
  held : ∀ entry ∈ states, entry.2.helperLive = false → sweeper.held entry.1 = some entry.2.record
  nodup : (states.map Prod.fst).Nodup

theorem Read.perm {states other : List (String × RecordState)} (read : Read sweeper states) (perm : other.Perm states) :
    Read sweeper other :=
  ⟨fun entry member => read.named entry (perm.mem_iff.mp member), fun entry member => read.held entry (perm.mem_iff.mp member),
    (perm.map Prod.fst).nodup_iff.mpr read.nodup⟩

theorem Read.nil : Read sweeper [] := ⟨nofun, nofun, List.nodup_nil⟩

/-- Nothing read so far concerns a path that is still to come. -/
def Ahead (states : List (String × RecordState)) (rest : List String) : Prop :=
  rest.Nodup ∧ ∀ entry ∈ states, entry.1 ∉ rest

theorem Ahead.tail {states : List (String × RecordState)} {path : String} {rest : List String}
    (ahead : Ahead states (path :: rest)) : Ahead states rest :=
  ⟨(List.nodup_cons.mp ahead.1).2, fun entry member later => ahead.2 entry member (List.mem_cons_of_mem _ later)⟩

/-- What happens at another path leaves the states read so far as they are. -/
theorem Read.elsewhere {states : List (String × RecordState)} {path : String} {rest : List String} {after : Sweeper}
    (read : Read sweeper states) (ahead : Ahead states (path :: rest))
    (same : ∀ other, other ≠ path → after.held other = sweeper.held other) : Read after states := by
  refine ⟨read.named, fun entry member dead => ?_, read.nodup⟩
  have apart : entry.1 ≠ path := fun here => ahead.2 entry member (here ▸ List.mem_cons_self)
  rw [same entry.1 apart]
  exact read.held entry member dead

theorem Read.snoc {states : List (String × RecordState)} {path : String} {rest : List String} {state : RecordState}
    (read : Read sweeper states) (ahead : Ahead states (path :: rest)) (named : state.record.interface = path)
    (held : state.helperLive = false → sweeper.held path = some state.record) :
    Read sweeper (states ++ [(path, state)]) ∧ Ahead (states ++ [(path, state)]) rest := by
  refine ⟨⟨?_, ?_, ?_⟩, ahead.tail.1, ?_⟩
  · intro entry member
    rcases List.mem_append.mp member with earlier | now
    · exact read.named entry earlier
    · rw [List.mem_singleton.mp now]
      exact named
  · intro entry member
    rcases List.mem_append.mp member with earlier | now
    · exact read.held entry earlier
    · rw [List.mem_singleton.mp now]
      exact held
  · rw [List.map_append, List.nodup_append]
    refine ⟨read.nodup, List.nodup_singleton _, ?_⟩
    intro earlier member now here
    obtain ⟨entry, inside, rfl⟩ := List.mem_map.mp member
    rw [List.map_singleton, List.mem_singleton] at here
    rw [here]
    exact fun same => ahead.2 entry inside (same ▸ List.mem_cons_self)
  · intro entry member
    rcases List.mem_append.mp member with earlier | now
    · exact ahead.tail.2 entry earlier
    · rw [List.mem_singleton.mp now]
      exact (List.nodup_cons.mp ahead.1).1

theorem quarantine_follows {states : List (String × RecordState)} {path : String} {rest : List String}
    (read : Read sweeper states) (ahead : Ahead states (path :: rest)) (broken : sweeper.broken path = true) :
    Ensures sweepDiscipline sweepAllows (do
      let _ ← issue (.quarantineRecord path)
      return states) (fun states' after => Read after states' ∧ Ahead states' rest) sweeper := by
  rw [Ensures.bind_iff, issue_iff]
  refine ⟨broken, fun reply after stepped => ?_⟩
  cases reply <;> cases stepped <;> exact ⟨read, ahead.tail⟩

theorem readRecordState_follows {scope : Scope} {states : List (String × RecordState)} {path : String}
    {rest : List String} (read : Read sweeper states) (ahead : Ahead states (path :: rest)) :
    Ensures sweepDiscipline sweepAllows (readRecordState scope states path)
      (fun states' after => Read after states' ∧ Ahead states' rest) sweeper := by
  have elsewhere : ∀ value other, other ≠ path → Function.update sweeper.held path value other = sweeper.held other :=
    fun value other apart => Function.update_of_ne apart _ _
  rw [readRecordState]
  by_cases outside : scope.includes path = false
  · rw [if_pos outside]
    exact ⟨read, ahead.tail⟩
  rw [if_neg outside, Ensures.bind_iff, issue_iff]
  refine ⟨trivial, fun reply after stepped => ?_⟩
  cases reply with
  | error error =>
    cases stepped
    exact quarantine_follows (read.elsewhere ahead (elsewhere none)) ahead (Function.update_self _ _ _)
  | ok file =>
    cases file with
    | unsupportedVersion version =>
      cases stepped
      exact ⟨read.elsewhere ahead (elsewhere none), ahead.tail⟩
    | corrupt reason =>
      cases stepped
      exact quarantine_follows (read.elsewhere ahead (elsewhere none)) ahead (Function.update_self _ _ _)
    | record record =>
      cases stepped
      have read' : Read { sweeper with
          held := Function.update sweeper.held path (some record)
          broken := Function.update sweeper.broken path (record.interface != path) } states :=
        read.elsewhere ahead (elsewhere (some record))
      by_cases own : record.interface = path
      · simp only [if_pos own]
        rw [Ensures.bind_iff, issue_iff]
        refine ⟨trivial, fun live judged stepped => ?_⟩
        cases live with
        | true =>
          cases stepped
          refine (read'.elsewhere ahead fun other apart => ?_).snoc ahead own nofun
          rw [own]
          exact Function.update_of_ne apart _ _
        | false =>
          cases stepped
          exact read'.snoc ahead own fun _ => Function.update_self _ _ _
      · simp only [if_neg own]
        exact quarantine_follows read' ahead (by simp [own])

theorem readRecordStates_follows {scope : Scope} :
    Ensures sweepDiscipline sweepAllows (readRecordStates scope)
      (fun outcome after => ∀ states, outcome = .ok states → Read after states) sweeper := by
  rw [readRecordStates, Ensures.attempt_iff, issue_iff]
  refine ⟨trivial, fun reply after stepped => ?_⟩
  cases reply with
  | error error => exact nofun
  | ok paths =>
    obtain ⟨nodup, rfl⟩ := stepped
    dsimp only
    rw [Ensures.bind_iff]
    apply Ensures.mono _ (Ensures.foldlM (fun rest states after => Read after states ∧ Ahead states rest) _
      ⟨.nil, nodup, nofun⟩)
    · rintro states final ⟨read, -⟩ _ ⟨⟩
      exact read
    · intro path rest states s kept
      exact readRecordState_follows kept.1 kept.2

theorem sweepStored_follows {scope : Scope} :
    Ensures sweepDiscipline sweepAllows (sweepStored scope) (fun _ after => after = sweeper) sweeper := by
  cases scope with
  | interface name => rfl
  | all =>
    rw [sweepStored, storedDnsLists, Ensures.bind_iff, issue_iff]
    refine ⟨trivial, fun reply after stepped => ?_⟩
    cases reply with
    | error error => exact stepped
    | ok connections =>
      cases stepped
      apply Ensures.foldlM (fun _ _ after => after = sweeper) _ rfl
      rintro connection rest stored _ rfl
      rw [storedDns]
      split
      · rfl
      · rw [Ensures.bind_iff, issue_iff]
        refine ⟨trivial, fun live after stepped => ?_⟩
        cases live <;> exact stepped

/-- A read of the live servers only adds to what has been seen. -/
structure Looked (before after : Sweeper) (live : List (String × Setting)) : Prop where
  held : after.held = before.held
  seen : ∀ entry ∈ live, entry ∈ after.seen

theorem readLiveDns_follows {before : Sweeper} {services : List String} {live : List (String × Setting)}
    (looked : Looked before sweeper live) :
    Ensures sweepDiscipline sweepAllows (readLiveDns live services)
      (fun outcome after => ∀ live', outcome = .ok live' → Looked before after live') sweeper := by
  induction services generalizing live sweeper with
  | nil =>
    rintro _ ⟨⟩
    exact looked
  | cons service rest ih =>
    rw [readLiveDns, Ensures.attempt_iff, issue_iff]
    refine ⟨trivial, fun reply after stepped => ?_⟩
    cases reply with
    | error error => exact nofun
    | ok servers =>
      cases stepped
      apply ih
      refine ⟨looked.held, fun entry member => ?_⟩
      rcases List.mem_append.mp member with earlier | now
      · exact List.mem_cons_of_mem _ (looked.seen entry earlier)
      · rw [List.mem_singleton.mp now]
        exact List.mem_cons_self

theorem sweepLive_follows {states : List (String × RecordState)} {stored : List StoredDns} :
    Ensures sweepDiscipline sweepAllows (sweepLive states stored)
      (fun outcome after => ∀ live, outcome = .ok live → Looked sweeper after live) sweeper := by
  rw [sweepLive]
  split
  · rw [snapshotLiveDns, Ensures.attempt_iff, issue_iff]
    refine ⟨trivial, fun reply after stepped => ?_⟩
    cases reply with
    | error error => exact nofun
    | ok services =>
      cases stepped
      dsimp only
      split
      · exact nofun
      · exact readLiveDns_follows ⟨rfl, nofun⟩
  · rintro _ ⟨⟩
    exact ⟨rfl, nofun⟩

/-! ### Executing -/

/-- What an action leaves behind once it has been run. -/
def Handled (sweeper : Sweeper) (progress : SweepProgress) : Action → Prop
  | .restore interface service servers domains =>
    (interface, service) ∈ progress.pending ∨ (service, servers, domains) ∈ sweeper.back
  | .serviceAbsent interface service => (interface, service) ∈ progress.pending
  | _ => True

theorem Handled.later {after : Sweeper} {progress progress' : SweepProgress} {action : Action}
    (handled : Handled sweeper progress action) (pending : progress.pending ⊆ progress'.pending)
    (back : sweeper.back ⊆ after.back) : Handled after progress' action := by
  cases action with
  | restore interface service servers domains =>
    exact handled.imp (fun member => pending member) fun member => back member
  | serviceAbsent interface service => exact pending handled
  | _ => trivial

/-- One action is handled, and nothing else is lost. -/
theorem runAction_follows {progress : SweepProgress} {action : Action} :
    Ensures sweepDiscipline sweepAllows (runAction progress action) (fun progress' after =>
      after.held = sweeper.held ∧ after.seen = sweeper.seen ∧ Handled after progress' action ∧
        progress.pending ⊆ progress'.pending ∧ sweeper.back ⊆ after.back) sweeper := by
  cases action with
  | skipLive interface => exact ⟨rfl, rfl, trivial, List.Subset.refl _, List.Subset.refl _⟩
  | serviceChanged interface service => exact ⟨rfl, rfl, trivial, List.Subset.refl _, List.Subset.refl _⟩
  | serviceAbsent interface service =>
    exact ⟨rfl, rfl, List.mem_cons_self, List.subset_cons_self _ _, List.Subset.refl _⟩
  | clearStray service servers =>
    rw [runAction, Ensures.bind_iff, issue_iff]
    refine ⟨trivial, fun reply after stepped => ?_⟩
    cases reply <;> cases stepped <;> exact ⟨rfl, rfl, trivial, List.Subset.refl _, List.Subset.refl _⟩
  | restore interface service servers domains =>
    rw [runAction, Ensures.bind_iff, restoreService, Ensures.attempt_iff, issue_iff]
    refine ⟨trivial, fun reply after stepped => ?_⟩
    cases reply with
    | error error =>
      cases stepped
      exact ⟨rfl, rfl, .inl List.mem_cons_self, List.subset_cons_self _ _, List.Subset.refl _⟩
    | ok value =>
      cases stepped
      dsimp only
      rw [issue_iff]
      refine ⟨trivial, fun reply after stepped => ?_⟩
      cases reply with
      | error error =>
        cases stepped
        exact ⟨rfl, rfl, .inl List.mem_cons_self, List.subset_cons_self _ _, List.Subset.refl _⟩
      | ok value =>
        cases stepped
        simp only [if_true]
        exact ⟨rfl, rfl, .inr List.mem_cons_self, List.Subset.refl _, List.subset_cons_self _ _⟩

/-- The plan leaves every entry of a dead record pending or settled. -/
theorem planned_settled {records : List RecordState} {live : List (String × Setting)} {stored : List StoredDns}
    {progress : SweepProgress} {state : RecordState} {entry : DnsCustodyService} (seen : ∀ read ∈ live, read ∈ sweeper.seen)
    (handled : ∀ action ∈ planDnsSweep records live stored, Handled sweeper progress action)
    (member : state ∈ records) (dead : state.helperLive = false) (recorded : entry ∈ state.record.services) :
    (state.record.interface, entry.service) ∈ progress.pending ∨ sweeper.Settled state.record entry := by
  have planned : planService state.record live entry ∈ planDnsSweep records live stored := by
    apply List.mem_append_left
    apply List.mem_flatMap.mpr
    refine ⟨state, member, ?_⟩
    rw [planRecord, if_neg (by simp [dead])]
    exact List.mem_map_of_mem recorded
  have done := handled _ planned
  rw [planService] at done
  cases found : liveOf live entry.service with
  | none =>
    simp only [found] at done
    exact .inl done
  | some servers =>
    simp only [found] at done
    split at done
    · exact done.imp id .inl
    · rename_i changed
      refine .inr (.inr ⟨servers, seen _ ?_, by simpa using changed⟩)
      obtain ⟨read, first, rfl⟩ := Option.map_eq_some_iff.mp found
      have named : read.1 = entry.service := by simpa using List.find?_some first
      rw [← named]
      exact List.mem_of_find?_eq_some first

theorem settleRecord_follows {path : String} {record : DnsCustodyRecord} {progress : SweepProgress}
    (held : sweeper.held path = some record) (named : record.interface = path)
    (settled : ∀ entry ∈ record.services,
      (record.interface, entry.service) ∈ progress.pending ∨ sweeper.Settled record entry) :
    Ensures sweepDiscipline sweepAllows (settleRecord path record (keepOf progress record)) (fun _ after =>
      (∀ other, other ≠ path → after.held other = sweeper.held other) ∧ after.seen = sweeper.seen ∧
        after.back = sweeper.back) sweeper := by
  have kept : ∀ entry ∈ record.services, entry ∈ keepOf progress record ∨ sweeper.Settled record entry := by
    intro entry member
    refine (settled entry member).imp (fun pending => ?_) id
    simpa [keepOf] using ⟨member, pending⟩
  have elsewhere : ∀ other, other ≠ path → Function.update sweeper.held path none other = sweeper.held other :=
    fun other apart => Function.update_of_ne apart _ _
  rw [settleRecord]
  by_cases nothing : (keepOf progress record).isEmpty
  · rw [if_pos nothing, issue_iff]
    rw [List.isEmpty_iff.mp nothing] at kept
    refine ⟨⟨record, held, kept⟩, fun reply after stepped => ?_⟩
    cases stepped
    exact ⟨elsewhere, rfl, rfl⟩
  rw [if_neg nothing]
  split
  · rw [issue_iff]
    subst named
    refine ⟨⟨⟨record, held, kept⟩, record, held, rfl, List.filter_subset_self _⟩, fun reply after stepped => ?_⟩
    cases stepped
    exact ⟨elsewhere, rfl, rfl⟩
  · exact ⟨fun _ _ => rfl, rfl, rfl⟩

theorem removeIfDead_follows {record : DnsCustodyRecord} :
    Ensures sweepDiscipline sweepAllows (removeIfDeadLocked record) (fun _ after =>
      (∀ other, other ≠ record.interface → after.held other = sweeper.held other) ∧ after.seen = sweeper.seen ∧
        after.back = sweeper.back) sweeper := by
  rw [removeIfDeadLocked, Ensures.bind_iff, issue_iff]
  refine ⟨trivial, fun live after stepped => ?_⟩
  cases live with
  | true =>
    cases stepped
    exact ⟨fun other apart => Function.update_of_ne apart _ _, rfl, rfl⟩
  | false =>
    cases stepped
    refine ⟨trivial, fun reply after stepped => ?_⟩
    cases stepped
    exact ⟨fun _ _ => rfl, rfl, rfl⟩

theorem Sweeper.Settled.same {after : Sweeper} {record : DnsCustodyRecord} {entry : DnsCustodyService}
    (settled : sweeper.Settled record entry) (seen : after.seen = sweeper.seen) (back : after.back = sweeper.back) :
    after.Settled record entry := by
  rw [Sweeper.Settled, seen, back]
  exact settled

theorem execute_follows {states : List (String × RecordState)} {live : List (String × Setting)}
    {stored : List StoredDns} (read : Read sweeper states) (seen : ∀ entry ∈ live, entry ∈ sweeper.seen) :
    Ensures sweepDiscipline sweepAllows (execute (planDnsSweep (states.map Prod.snd) live stored) states)
      (fun _ _ => True) sweeper := by
  generalize plan : planDnsSweep (states.map Prod.snd) live stored = actions
  rw [execute, Ensures.bind_iff]
  refine Ensures.mono ?_ (Ensures.foldlM (fun rest progress after => after.held = sweeper.held ∧
    after.seen = sweeper.seen ∧ ∀ action ∈ actions, action ∈ rest ∨ Handled after progress action) ?_
    ⟨rfl, rfl, fun _ member => .inl member⟩)
  · rintro progress ready ⟨held, same, handled⟩
    have settled : ∀ entry ∈ states, entry.2.helperLive = false → ∀ service ∈ entry.2.record.services,
        (entry.2.record.interface, service.service) ∈ progress.pending ∨ ready.Settled entry.2.record service := by
      intro entry member dead service recorded
      have all : ∀ action ∈ planDnsSweep (states.map Prod.snd) live stored, Handled ready progress action :=
        fun action planned => (handled action (plan ▸ planned)).resolve_left List.not_mem_nil
      exact planned_settled (same ▸ seen) all (List.mem_map_of_mem member) dead recorded
    have read' : Read ready states := ⟨read.named, by rw [held]; exact read.held, read.nodup⟩
    refine Ensures.mono (fun _ _ _ => trivial) (Ensures.foldlM (fun rest _ after => rest.Sublist states ∧
      Read after rest ∧ after.seen = ready.seen ∧ after.back = ready.back) ?_ ⟨.refl _, read', rfl, rfl⟩)
    rintro ⟨path, state⟩ rest summary after ⟨within, reading, seen', back'⟩
    have apart := (List.nodup_cons.mp reading.nodup).1
    have member : (path, state) ∈ states := within.subset List.mem_cons_self
    have named : state.record.interface = path := read.named _ member
    -- Later paths differ from this one, so what was read of them still holds.
    have later : ∀ final : Sweeper, (∀ other, other ≠ path → final.held other = after.held other) → Read final rest := by
      intro final elsewhere
      refine ⟨fun entry inside => reading.named entry (List.mem_cons_of_mem _ inside), fun entry inside dead => ?_,
        (List.nodup_cons.mp reading.nodup).2⟩
      have different : entry.1 ≠ path := fun here => apart (List.mem_map.mpr ⟨entry, inside, here⟩)
      rw [elsewhere entry.1 different]
      exact reading.held entry (List.mem_cons_of_mem _ inside) dead
    have within' := (List.sublist_cons_self _ rest).trans within
    rw [settleState]
    cases alive : state.helperLive with
    | true => exact ⟨within', later after fun _ _ => rfl, seen', back'⟩
    | false =>
      simp only [Bool.false_eq_true, if_false, Ensures.bind_iff]
      have here := reading.held (path, state) List.mem_cons_self alive
      refine (settleRecord_follows here named fun service recorded => ?_).mono ?_
      · exact (settled _ member alive service recorded).imp id fun done => done.same seen' back'
      · rintro outcome written ⟨elsewhere, seen'', back''⟩
        refine removeIfDead_follows.mono ?_
        rintro _ final ⟨elsewhere', seen₃, back₃⟩
        refine ⟨within', later final fun other different => ?_, ?_, ?_⟩
        · rw [elsewhere' other (named ▸ different), elsewhere other different]
        · rw [seen₃, seen'', seen']
        · rw [back₃, back'', back']
  · rintro action rest progress after ⟨held, same, handled⟩
    refine runAction_follows.mono ?_
    rintro progress' after' ⟨held', same', now, pending, back⟩
    refine ⟨held'.trans held, same'.trans same, fun other member => ?_⟩
    rcases handled other member with waiting | done
    · rcases List.mem_cons.mp waiting with rfl | later
      · exact .inr now
      · exact .inl later
    · exact .inr (done.later pending back)

/-- Every sweep keeps to the protocol, whatever its commands answer. -/
theorem sweep_follows (scope : Scope) :
    Ensures sweepDiscipline sweepAllows (sweepLocked scope) (fun _ _ => True) sweeper := by
  rw [sweepLocked, Ensures.attempt_iff]
  refine readRecordStates_follows.mono ?_
  rintro (error | states) after read
  · trivial
  dsimp only
  rw [Ensures.bind_iff]
  refine sweepStored_follows.mono ?_
  rintro stored _ rfl
  rw [Ensures.attempt_iff]
  refine sweepLive_follows.mono ?_
  rintro (error | live) final looked
  · trivial
  dsimp only
  have perm : (states.insertionSort fun a b => a.2.record.interface ≤ b.2.record.interface).Perm states :=
    List.perm_insertionSort _ _
  have sorted := (read states rfl).perm perm
  obtain ⟨held, seen⟩ := looked live rfl
  have reading : Read final _ := ⟨sorted.named, by rw [held]; exact sorted.held, sorted.nodup⟩
  rw [Ensures.bind_iff]
  refine (execute_follows reading seen).mono ?_
  rintro summary last -
  split
  · exact ⟨trivial, fun _ _ _ => trivial⟩
  · trivial

end Wgd.Dns
