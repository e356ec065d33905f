import Mathlib.Data.List.Nodup
import Wgd.Dns.Sweep

/-! What a planned sweep may do to the services of the machine. Every entry of a
dead record gets its one action, and a stray is cleared only where nobody has a
record of it. Records are planned one at a time, so what a plan does to a service
named by several of them depends on the overlap. -/

set_option autoImplicit false

namespace Wgd.Dns

/-- The service whose DNS an action changes. -/
def Action.mutates : Action → Option String
  | .restore _ service _ _ => some service
  | .clearStray service _ => some service
  | .skipLive _ | .serviceChanged _ _ | .serviceAbsent _ _ => none

/-- The recorded service an action decides about, with its record's interface. -/
def Action.settles : Action → Option (String × String)
  | .restore interface service _ _ => some (interface, service)
  | .serviceChanged interface service => some (interface, service)
  | .serviceAbsent interface service => some (interface, service)
  | .skipLive _ | .clearStray _ _ => none

def RecordState.lists (state : RecordState) (service : String) : Prop :=
  ∃ entry ∈ state.record.services, entry.service = service

/-- The DNS of a stored tunnel that is dead and of none that lives. -/
def matchesOnlyDead (stored : List StoredDns) (servers : List String) : Prop :=
  (∃ dns ∈ stored, dns.helperLive = false ∧ dnsListsEqual (some servers) dns.servers = true) ∧
    ∀ dns ∈ stored, dns.helperLive = true → dnsListsEqual (some servers) dns.servers = false

/-- What recovery promises of the actions it plans. -/
structure PlanSafe (records : List RecordState) (liveDns : List (String × Setting)) (stored : List StoredDns)
    (plan : List Action) : Prop where
  /-- The DNS of a live helper is left alone. -/
  spares : ∀ state ∈ records, state.helperLive = true → ∀ service, state.lists service →
    ∀ action ∈ plan, action.mutates ≠ some service
  /-- No service is changed twice. -/
  once : (plan.filterMap Action.mutates).Nodup
  /-- Each service of each dead record gets exactly one action. -/
  settled : plan.filterMap Action.settles = (records.filter fun state => !state.helperLive).flatMap fun state =>
    state.record.services.map fun entry => (state.record.interface, entry.service)
  strays : ∀ service servers, Action.clearStray service servers ∈ plan →
    (service, some servers) ∈ liveDns ∧ (∀ state ∈ records, ¬ state.lists service) ∧ matchesOnlyDead stored servers

variable {records : List RecordState} {liveDns : List (String × Setting)} {stored : List StoredDns}

/-! ### What a plan changes -/

/-- Whether the live DNS of a recorded service is still the tunnel's. -/
def stillTunnels (liveDns : List (String × Setting)) (record : DnsCustodyRecord) (entry : DnsCustodyService) : Bool :=
  match liveOf liveDns entry.service with
  | none => false
  | some live => dnsListsEqual live record.tunnelDns

/-- The services of dead records whose live DNS is still the tunnel's. -/
def strandedServices (liveDns : List (String × Setting)) (records : List RecordState) : List String :=
  (records.filter fun state => !state.helperLive).flatMap fun state =>
    (state.record.services.filter (stillTunnels liveDns state.record)).map DnsCustodyService.service

/-- The listed services that nobody has a record of and that show the DNS of a dead tunnel. -/
def strayServices (records : List RecordState) (liveDns : List (String × Setting)) (stored : List StoredDns) :
    List String :=
  liveDns.filterMap fun entry => (planStray records stored entry).bind Action.mutates

theorem planService_mutates (record : DnsCustodyRecord) (entry : DnsCustodyService) :
    (planService record liveDns entry).mutates =
      if stillTunnels liveDns record entry then some entry.service else none := by
  unfold planService stillTunnels
  cases liveOf liveDns entry.service with
  | none => rfl
  | some live =>
    dsimp only
    split
    · rfl
    · rfl

theorem planService_settles (record : DnsCustodyRecord) (entry : DnsCustodyService) :
    (planService record liveDns entry).settles = some (record.interface, entry.service) := by
  unfold planService
  cases liveOf liveDns entry.service with
  | none => rfl
  | some live =>
    dsimp only
    split
    · rfl
    · rfl

theorem planService_ne_clearStray (record : DnsCustodyRecord) (entry : DnsCustodyService) {service : String}
    {servers : List String} : planService record liveDns entry ≠ .clearStray service servers := by
  intro same
  have settled : (planService record liveDns entry).settles = some (record.interface, entry.service) :=
    planService_settles record entry
  rw [same] at settled
  simp [Action.settles] at settled

theorem planRecord_mutates (state : RecordState) :
    (planRecord liveDns state).filterMap Action.mutates =
      if state.helperLive then [] else
        (state.record.services.filter (stillTunnels liveDns state.record)).map DnsCustodyService.service := by
  unfold planRecord
  cases state.helperLive with
  | true => rfl
  | false =>
    have planned : Action.mutates ∘ planService state.record liveDns = fun entry =>
        if stillTunnels liveDns state.record entry then some entry.service else none := by
      funext entry
      exact planService_mutates state.record entry
    simp only [Bool.false_eq_true, if_false, List.filterMap_map, planned]
    induction state.record.services with
    | nil => rfl
    | cons entry rest ih =>
      simp only [List.filterMap_cons, List.filter_cons, ih]
      cases stillTunnels liveDns state.record entry <;> simp

theorem planRecord_settles (state : RecordState) :
    (planRecord liveDns state).filterMap Action.settles =
      if state.helperLive then [] else
        state.record.services.map fun entry => (state.record.interface, entry.service) := by
  unfold planRecord
  cases state.helperLive with
  | true => rfl
  | false =>
    simp [List.filterMap_map, planService_settles]

theorem planStray_eq_some {entry : String × Setting} {action : Action}
    (planned : planStray records stored entry = some action) :
    ∃ servers, entry.2 = some servers ∧ action = .clearStray entry.1 servers ∧
      (∀ state ∈ records, ¬ state.lists entry.1) ∧ matchesOnlyDead stored servers := by
  unfold planStray at planned
  split at planned
  · cases planned
  · rename_i unrecorded
    cases live : entry.2 with
    | none => simp [live] at planned
    | some servers =>
      simp only [live, Option.bind_eq_bind, Option.bind_some] at planned
      split at planned
      · rename_i verdict
        simp only [Bool.and_eq_true, Bool.not_eq_true', List.any_eq_true, List.any_eq_false] at verdict
        obtain ⟨⟨dns, member, dead, equal⟩, noneLive⟩ := verdict
        refine ⟨servers, rfl, (Option.some.inj planned).symm, ?_, ⟨dns, member, dead, equal⟩, ?_⟩
        · rintro state known ⟨recorded, listed, named⟩
          apply unrecorded
          simp only [List.any_eq_true, beq_iff_eq]
          exact ⟨state, known, recorded, listed, named⟩
        · intro dns member alive
          have differs := noneLive dns member
          simpa [alive] using differs
      · cases planned

theorem filterMap_flatMap_planRecord {B : Type} (f : Action → Option B) (g : RecordState → List B)
    (each : ∀ state, (planRecord liveDns state).filterMap f = if state.helperLive then [] else g state) :
    (records.flatMap (planRecord liveDns)).filterMap f = (records.filter fun state => !state.helperLive).flatMap g := by
  induction records with
  | nil => rfl
  | cons state rest ih =>
    simp only [List.flatMap_cons, List.filterMap_append, ih, each, List.filter_cons]
    cases state.helperLive <;> simp

/-- A plan changes the stranded services of dead records, and the strays. -/
theorem planDnsSweep_mutates (records : List RecordState) (liveDns : List (String × Setting))
    (stored : List StoredDns) :
    (planDnsSweep records liveDns stored).filterMap Action.mutates =
      strandedServices liveDns records ++ strayServices records liveDns stored := by
  rw [planDnsSweep, List.filterMap_append, List.filterMap_filterMap]
  rw [filterMap_flatMap_planRecord Action.mutates _ planRecord_mutates]
  rfl

theorem planDnsSweep_settles (records : List RecordState) (liveDns : List (String × Setting))
    (stored : List StoredDns) :
    (planDnsSweep records liveDns stored).filterMap Action.settles =
      (records.filter fun state => !state.helperLive).flatMap fun state =>
        state.record.services.map fun entry => (state.record.interface, entry.service) := by
  have none_settled : (liveDns.filterMap (planStray records stored)).filterMap Action.settles = [] := by
    rw [List.filterMap_eq_nil_iff]
    intro action member
    obtain ⟨entry, _, planned⟩ := List.mem_filterMap.mp member
    obtain ⟨servers, _, rfl, _⟩ := planStray_eq_some planned
    rfl
  rw [planDnsSweep, List.filterMap_append, none_settled, List.append_nil]
  exact filterMap_flatMap_planRecord Action.settles _ planRecord_settles

theorem strayServices_unrecorded {service : String} (stray : service ∈ strayServices records liveDns stored) :
    ∀ state ∈ records, ¬ state.lists service := by
  obtain ⟨entry, _, named⟩ := List.mem_filterMap.mp stray
  obtain ⟨action, planned, mutated⟩ := Option.bind_eq_some_iff.mp named
  obtain ⟨servers, _, rfl, unrecorded, _⟩ := planStray_eq_some planned
  cases mutated
  exact unrecorded

theorem strandedServices_recorded {service : String} (stranded : service ∈ strandedServices liveDns records) :
    ∃ state ∈ records, state.lists service := by
  obtain ⟨state, member, named⟩ := List.mem_flatMap.mp stranded
  obtain ⟨entry, listed, rfl⟩ := List.mem_map.mp named
  exact ⟨state, List.mem_of_mem_filter member, entry, List.mem_of_mem_filter listed, rfl⟩

/-- What holds of a stray in every plan, whatever the overlaps. -/
theorem planDnsSweep_strays {service : String} {servers : List String}
    (cleared : Action.clearStray service servers ∈ planDnsSweep records liveDns stored) :
    (service, some servers) ∈ liveDns ∧ (∀ state ∈ records, ¬ state.lists service) ∧ matchesOnlyDead stored servers := by
  rcases List.mem_append.mp cleared with recorded | stray
  · obtain ⟨state, _, member⟩ := List.mem_flatMap.mp recorded
    unfold planRecord at member
    split at member
    · simp at member
    · obtain ⟨entry, _, planned⟩ := List.mem_map.mp member
      exact absurd planned (planService_ne_clearStray state.record entry)
  · obtain ⟨entry, listed, planned⟩ := List.mem_filterMap.mp stray
    obtain ⟨found, live, same, unrecorded, dead⟩ := planStray_eq_some planned
    cases same
    rw [← live]
    exact ⟨listed, unrecorded, dead⟩

/-! ### When a plan is safe -/

/-- A plan keeps every promise exactly where the stranded services of dead records
are in no live helper's record and named once, and no stray is listed twice. -/
theorem planDnsSweep_safe_iff (records : List RecordState) (liveDns : List (String × Setting))
    (stored : List StoredDns) :
    PlanSafe records liveDns stored (planDnsSweep records liveDns stored) ↔
      (∀ service ∈ strandedServices liveDns records, ∀ state ∈ records, state.helperLive = true →
        ¬ state.lists service) ∧
      (strandedServices liveDns records).Nodup ∧ (strayServices records liveDns stored).Nodup := by
  have changed := planDnsSweep_mutates records liveDns stored
  constructor
  · intro safe
    have once := safe.once
    rw [changed, List.nodup_append] at once
    refine ⟨?_, once.1, once.2.1⟩
    intro service stranded state known alive listed
    have mutated : service ∈ (planDnsSweep records liveDns stored).filterMap Action.mutates := by
      rw [changed]
      exact List.mem_append_left _ stranded
    obtain ⟨action, planned, names⟩ := List.mem_filterMap.mp mutated
    exact safe.spares state known alive service listed action planned names
  · rintro ⟨apart, strandedOnce, strayOnce⟩
    refine ⟨?_, ?_, planDnsSweep_settles records liveDns stored, fun _ _ => planDnsSweep_strays⟩
    · intro state known alive service listed action planned names
      have mutated : service ∈ strandedServices liveDns records ++ strayServices records liveDns stored := by
        rw [← changed]
        exact List.mem_filterMap.mpr ⟨action, planned, names⟩
      rcases List.mem_append.mp mutated with stranded | stray
      · exact apart service stranded state known alive listed
      · exact strayServices_unrecorded stray state known listed
    · rw [changed, List.nodup_append]
      refine ⟨strandedOnce, strayOnce, ?_⟩
      -- a stray is in no record, a stranded service is in one
      rintro service stranded _ stray rfl
      obtain ⟨state, known, listed⟩ := strandedServices_recorded stranded
      exact strayServices_unrecorded stray state known listed

/-- A helper that runs and one that died, both of tunnels with one DNS server and
both with a record of the same service. -/
def sharedServiceRecords : List RecordState :=
  [⟨⟨1, ⟨0x1ce3a4a1000040008000000000000001⟩, "wg-1ce3a4a1", 100, ⟨1, 0⟩, ["10.0.0.1"], [⟨"Wi-Fi", none, none⟩]⟩, true⟩,
   ⟨⟨1, ⟨0x2b9f0c77000040008000000000000002⟩, "wg-2b9f0c77", 200, ⟨2, 0⟩, ["10.0.0.1"], [⟨"Wi-Fi", none, none⟩]⟩, false⟩]

/-- The sweep takes the DNS of the running tunnel away. -/
theorem shared_service_restored :
    ¬ PlanSafe sharedServiceRecords [("Wi-Fi", some ["10.0.0.1"])] []
      (planDnsSweep sharedServiceRecords [("Wi-Fi", some ["10.0.0.1"])] []) := by
  intro safe
  have planned : Action.restore "wg-2b9f0c77" "Wi-Fi" none none ∈
      planDnsSweep sharedServiceRecords [("Wi-Fi", some ["10.0.0.1"])] [] := by decide +kernel
  exact safe.spares _ List.mem_cons_self rfl "Wi-Fi" ⟨_, List.mem_cons_self, rfl⟩ _ planned rfl

end Wgd.Dns
