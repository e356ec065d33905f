import Wgd.Dns.Helper

/-! What the helper may do to a host's DNS, as a protocol of its own: capture
before taking a service, record before writing, put both settings back before
letting a service go. Every DNS program of the helper keeps to it whatever its
commands answer, so a claim about all of them is a claim about the protocol. -/

set_option autoImplicit false

namespace Wgd.Dns

open Wgd.Net Wgd.Helper Wgd.Interaction

/-- What the protocol keeps track of. -/
structure Custodian where
  /-- The services the helper remembers, with their originals. -/
  owned : List MacosDnsServiceState
  /-- The services the record on disk was last asked to list. -/
  filed : List DnsCustodyService
  /-- The services put back since the helper last wrote to them. -/
  back : List String
  /-- The service whose servers were put back by the last command. -/
  half : Option String
  /-- The last read of a service's servers. -/
  shown : Option (String × Setting)
  /-- The last complete capture. -/
  fresh : Option MacosDnsServiceState
  /-- The last listing. -/
  listing : List String

/-- Whether the helper keeps a record of what it owns. -/
def Recording (inputs : MacosReconcileInputs) : Prop := inputs.custody.isSome ∧ inputs.dnsServers ≠ []

namespace Custodian

/-- Nothing owned and nothing recorded. -/
def start : Custodian := ⟨[], [], [], none, none, none, []⟩

/-- The service is owned and, where a record is kept, recorded. -/
def Covers (inputs : MacosReconcileInputs) (custodian : Custodian) (service : String) : Prop :=
  ∃ state ∈ custodian.owned, state.service = service ∧
    (Recording inputs → state.toCustody ∈ custodian.filed)

/-- Every owned service is in the list or put back. -/
def Accounted (custodian : Custodian) (services : List MacosDnsServiceState) : Prop :=
  services ⊆ custodian.owned ∧ ∀ state ∈ custodian.owned, state ∈ services ∨ state.service ∈ custodian.back

end Custodian

/-- Which command may come next. -/
def allows (inputs : MacosReconcileInputs) (custodian : Custodian) : DnsOp → Prop
  | .getSearchDomains service => ∃ servers, custodian.shown = some (service, servers) ∧ servers ≠ some inputs.dnsServers
  | .setDnsServers service servers => custodian.Covers inputs service ∧
      (servers = some inputs.dnsServers ∨
        ∃ state ∈ custodian.owned, state.service = service ∧ servers = state.dnsServers)
  | .setSearchDomains service domains => custodian.Covers inputs service ∧
      ((custodian.half ≠ some service ∧ service ∉ custodian.back ∧ domains = none) ∨
        (custodian.half = some service ∧
          ∃ state ∈ custodian.owned, state.service = service ∧ domains = state.searchDomains))
  | .pushService state => inputs.dnsServers ≠ [] ∧ custodian.fresh = some state ∧ state.service ∈ custodian.listing ∧
      (∀ other ∈ custodian.owned, other.service ≠ state.service) ∧
      ∀ entry ∈ custodian.filed, entry.service ≠ state.service
  | .retainServices without => without ∈ custodian.back ∨ without ∉ custodian.listing ∨
      ∀ state ∈ custodian.owned, state.service ≠ without
  | .writeRecord record => ∃ identity services, inputs.custody = some identity ∧ custodian.Accounted services ∧
      record = recordOf identity inputs.dnsServers (services.map MacosDnsServiceState.toCustody)
  | .removeRecord interface => (∃ identity, inputs.custody = some identity ∧ interface = identity.interface) ∧
      custodian.Accounted []
  -- the daemon's side
  | .recordPaths | .readRecord _ | .quarantineRecord _ | .helperIsLive _ _ _ | .loadAllConnections
  | .removeStaleRuntimeFiles _ => False
  | _ => True

/-- What a command and its reply make of the protocol's state. -/
def discipline (inputs : MacosReconcileInputs) : Environment dnsCommands Custodian :=
  fun custodian op reply next => match op, reply with
  | .listNetworkServices, .ok services => next = { custodian with listing := services }
  | .getDnsServers service, .ok servers => next = { custodian with
      shown := some (service, servers)
      fresh := if servers = some inputs.dnsServers then some ⟨service, none, none⟩ else none }
  | .getSearchDomains service, .ok domains => next = { custodian with
      fresh := custodian.shown.map fun shown => ⟨service, shown.2, domains⟩ }
  | .setDnsServers service servers, .ok () => next = { custodian with
      back := custodian.back.filter (· != service)
      half := if servers = some inputs.dnsServers then none else some service }
  | .setDnsServers _ _, .error _ => next = { custodian with half := none }
  | .setSearchDomains service _, .ok () => next = { custodian with
      back := if custodian.half = some service then service :: custodian.back
        else custodian.back.filter (· != service)
      half := none }
  | .setSearchDomains _ _, .error _ => next = { custodian with half := none }
  | .writeRecord record, _ => next = { custodian with filed := record.services }
  | .removeRecord _, _ => next = { custodian with filed := [] }
  | .pushService state, () => next = { custodian with
      owned := custodian.owned ++ [state]
      back := custodian.back.filter (· != state.service)
      half := none
      fresh := none }
  | .retainServices without, () => next = { custodian with
      owned := retained without custodian.owned
      shown := none
      fresh := none }
  | .dnsState, state => state.services = custodian.owned ∧ next = custodian
  | _, _ => next = custodian

/-- Nothing but the helper's last reads has changed. -/
structure SameHoldings (before after : Custodian) : Prop where
  owned : after.owned = before.owned
  filed : after.filed = before.filed
  back : after.back = before.back

namespace SameHoldings

theorem refl (custodian : Custodian) : SameHoldings custodian custodian := ⟨rfl, rfl, rfl⟩

theorem trans {first second third : Custodian} (one : SameHoldings first second) (two : SameHoldings second third) :
    SameHoldings first third :=
  ⟨two.owned.trans one.owned, two.filed.trans one.filed, two.back.trans one.back⟩

end SameHoldings

section Reads

variable {inputs : MacosReconcileInputs} {custodian : Custodian}

theorem observe_follows {observed : List (String × Setting)} {service : String} :
    Ensures (discipline inputs) (allows inputs) (observeService observed service)
      (fun _ after => SameHoldings custodian after ∧ after.listing = custodian.listing) custodian := by
  rw [observeService, Ensures.bind_iff, issue_iff]
  refine ⟨trivial, ?_⟩
  rintro (error | servers) after stepped
  all_goals
    cases stepped
    exact ⟨⟨rfl, rfl, rfl⟩, rfl⟩

/-- A snapshot changes nothing, and lists what the listing listed. -/
theorem fingerprint_follows :
    Ensures (discipline inputs) (allows inputs) macosCurrentDnsFingerprint (fun outcome after =>
      SameHoldings custodian after ∧ ∀ fingerprint, outcome = .ok fingerprint →
        ∀ service, service ∈ fingerprint.services ↔ service ∈ after.listing) custodian := by
  rw [macosCurrentDnsFingerprint, Ensures.attempt_iff, issue_iff]
  refine ⟨trivial, ?_⟩
  rintro (error | listing) after stepped
  · cases stepped
    exact ⟨.refl _, fun _ absurd => nomatch absurd⟩
  cases stepped
  dsimp only
  by_cases empty : listing.isEmpty
  · rw [if_pos empty]
    exact ⟨⟨rfl, rfl, rfl⟩, fun _ absurd => nomatch absurd⟩
  rw [if_neg empty, Ensures.bind_iff]
  refine Ensures.mono ?_ (Ensures.foldlM
    (fun _ _ after => SameHoldings custodian after ∧ after.listing = listing) ?_ ⟨⟨rfl, rfl, rfl⟩, rfl⟩)
  · rintro observed after ⟨same, listed⟩
    rw [Ensures.bind_iff, issue_iff]
    refine ⟨trivial, ?_⟩
    rintro primary after' stepped
    cases stepped
    refine ⟨same, ?_⟩
    rintro _ ⟨⟩ service
    rw [List.mem_dedup, List.mem_insertionSort, listed]
  · rintro service rest observed after ⟨same, listed⟩
    exact observe_follows.mono fun _ after' kept => ⟨same.trans kept.1, kept.2.trans listed⟩

/-- A capture changes nothing, and what it returns may be remembered. -/
theorem capture_follows {service : String} :
    Ensures (discipline inputs) (allows inputs) (captureMacosDnsService service inputs.dnsServers) (fun outcome after =>
      SameHoldings custodian after ∧ after.listing = custodian.listing ∧
        ∀ state, outcome = .ok state → state.service = service ∧ after.fresh = some state ∧
          state.dnsServers ≠ some inputs.dnsServers) custodian := by
  rw [captureMacosDnsService, Ensures.attempt_iff, issue_iff]
  refine ⟨trivial, ?_⟩
  rintro (error | servers) after stepped
  · cases stepped
    exact ⟨.refl _, rfl, fun _ absurd => nomatch absurd⟩
  cases stepped
  dsimp only
  by_cases stray : servers = some inputs.dnsServers
  · rw [if_pos stray]
    refine ⟨⟨rfl, rfl, rfl⟩, rfl, ?_⟩
    rintro _ ⟨⟩
    exact ⟨rfl, if_pos stray, nofun⟩
  rw [if_neg stray, Ensures.attempt_iff, issue_iff]
  refine ⟨⟨servers, rfl, stray⟩, ?_⟩
  rintro (error | domains) after' stepped
  · cases stepped
    exact ⟨⟨rfl, rfl, rfl⟩, rfl, fun _ absurd => nomatch absurd⟩
  · cases stepped
    refine ⟨⟨rfl, rfl, rfl⟩, rfl, ?_⟩
    rintro _ ⟨⟩
    exact ⟨rfl, rfl, stray⟩

end Reads

/-! ### What is owned between two programs -/

/-- One entry for each service, and no original that is the tunnel's own list. -/
structure Proper (inputs : MacosReconcileInputs) (owned : List MacosDnsServiceState) : Prop where
  distinct : ∀ a ∈ owned, ∀ b ∈ owned, a.service = b.service → a = b
  original : ∀ state ∈ owned, state.dnsServers ≠ some inputs.dnsServers

namespace Proper

variable {inputs : MacosReconcileInputs} {owned smaller : List MacosDnsServiceState} {state : MacosDnsServiceState}

theorem nil : Proper inputs [] := ⟨nofun, nofun⟩

theorem subset (proper : Proper inputs owned) (less : smaller ⊆ owned) : Proper inputs smaller :=
  ⟨fun a ha b hb => proper.distinct a (less ha) b (less hb), fun a ha => proper.original a (less ha)⟩

theorem push (proper : Proper inputs owned) (new : ∀ other ∈ owned, other.service ≠ state.service)
    (original : state.dnsServers ≠ some inputs.dnsServers) : Proper inputs (owned ++ [state]) := by
  constructor
  · intro a ha b hb same
    rw [List.mem_append, List.mem_singleton] at ha hb
    rcases ha with ha | rfl <;> rcases hb with hb | rfl
    · exact proper.distinct a ha b hb same
    · exact absurd same (new a ha)
    · exact absurd same.symm (new b hb)
    · rfl
  · intro a ha
    rw [List.mem_append, List.mem_singleton] at ha
    rcases ha with ha | rfl
    · exact proper.original a ha
    · exact original

end Proper

theorem retained_subset (without : String) (services : List MacosDnsServiceState) :
    retained without services ⊆ services := List.filter_subset_self _

theorem mem_retained {without : String} {services : List MacosDnsServiceState} {state : MacosDnsServiceState} :
    state ∈ retained without services ↔ state ∈ services ∧ state.service ≠ without := by
  simp [retained]

/-- Where a record is kept, it lists the owned services and no others. -/
structure Recorded (inputs : MacosReconcileInputs) (custodian : Custodian) : Prop where
  kept : Recording inputs → custodian.filed = custodian.owned.map MacosDnsServiceState.toCustody
  none : ¬Recording inputs → custodian.filed = []

theorem Recorded.lists {inputs : MacosReconcileInputs} {custodian : Custodian} (recorded : Recorded inputs custodian)
    (recording : Recording inputs) {state : MacosDnsServiceState} (member : state ∈ custodian.owned) :
    state.toCustody ∈ custodian.filed := by
  rw [recorded.kept recording]
  exact List.mem_map_of_mem member

theorem Recorded.named {inputs : MacosReconcileInputs} {custodian : Custodian} (recorded : Recorded inputs custodian)
    {entry : DnsCustodyService} (member : entry ∈ custodian.filed) :
    ∃ state ∈ custodian.owned, state.service = entry.service := by
  by_cases recording : Recording inputs
  · rw [recorded.kept recording] at member
    obtain ⟨state, owns, rfl⟩ := List.mem_map.mp member
    exact ⟨state, owns, rfl⟩
  · rw [recorded.none recording] at member
    exact nomatch member

/-- What every command the protocol allows keeps. -/
structure Lawful (inputs : MacosReconcileInputs) (custodian : Custodian) : Prop where
  proper : Proper inputs custodian.owned
  fresh : ∀ state, custodian.fresh = some state → state.dnsServers ≠ some inputs.dnsServers
  promoting : custodian.owned ≠ [] → inputs.dnsServers ≠ []
  filed : ∀ entry ∈ custodian.filed, ∀ state ∈ custodian.owned, state.service = entry.service →
    entry = state.toCustody

theorem Lawful.start (inputs : MacosReconcileInputs) : Lawful inputs .start :=
  ⟨.nil, nofun, fun absurd => absurd rfl |>.elim, nofun⟩

/-- Reads and reports leave what is owned and recorded as it is. -/
theorem Lawful.same {inputs : MacosReconcileInputs} {custodian next : Custodian} (lawful : Lawful inputs custodian)
    (owned : next.owned = custodian.owned) (filed : next.filed = custodian.filed)
    (fresh : ∀ state, next.fresh = some state → state.dnsServers ≠ some inputs.dnsServers) : Lawful inputs next :=
  ⟨owned ▸ lawful.proper, fresh, owned ▸ lawful.promoting, owned ▸ filed ▸ lawful.filed⟩

theorem Lawful.step {inputs : MacosReconcileInputs} {custodian next : Custodian} {op : DnsOp} (reply : op.Reply)
    (lawful : Lawful inputs custodian) (allowed : allows inputs custodian op)
    (stepped : discipline inputs custodian op reply next) : Lawful inputs next := by
  cases op with
  | listNetworkServices => cases reply <;> cases stepped <;> exact lawful.same rfl rfl lawful.fresh
  | getDnsServers service =>
    cases reply with
    | error error => cases stepped; exact lawful
    | ok servers =>
      cases stepped
      refine lawful.same rfl rfl fun state captured => ?_
      dsimp only at captured
      split at captured
      · cases captured
        exact nofun
      · exact nomatch captured
  | getSearchDomains service =>
    cases reply with
    | error error => cases stepped; exact lawful
    | ok domains =>
      cases stepped
      obtain ⟨servers, shown, original⟩ := allowed
      refine lawful.same rfl rfl fun state captured => ?_
      simp only [shown, Option.map_some, Option.some.injEq] at captured
      subst captured
      exact original
  | setDnsServers service servers => cases reply <;> cases stepped <;> exact lawful.same rfl rfl lawful.fresh
  | setSearchDomains service domains => cases reply <;> cases stepped <;> exact lawful.same rfl rfl lawful.fresh
  | writeRecord record =>
    cases stepped
    obtain ⟨identity, services, -, ⟨within, -⟩, rfl⟩ := allowed
    refine ⟨lawful.proper, lawful.fresh, lawful.promoting, fun entry member state owns same => ?_⟩
    obtain ⟨listed, inside, rfl⟩ := List.mem_map.mp member
    rw [lawful.proper.distinct state owns listed (within inside) same]
  | removeRecord interface =>
    cases stepped
    exact ⟨lawful.proper, lawful.fresh, lawful.promoting, nofun⟩
  | pushService state =>
    cases stepped
    obtain ⟨promoting, fresh, -, new, unfiled⟩ := allowed
    refine ⟨lawful.proper.push new (lawful.fresh state fresh), nofun, fun _ => promoting,
      fun entry member owner owns same => ?_⟩
    rw [List.mem_append, List.mem_singleton] at owns
    rcases owns with owns | rfl
    · exact lawful.filed entry member owner owns same
    · exact absurd same.symm (unfiled entry member)
  | retainServices without =>
    cases stepped
    refine ⟨lawful.proper.subset (retained_subset _ _), nofun, fun some => lawful.promoting fun none => some ?_,
      fun entry member state owns => lawful.filed entry member state (retained_subset _ _ owns)⟩
    simp [none, retained]
  | dnsState => obtain ⟨-, rfl⟩ := stepped; exact lawful
  | _ => cases stepped; exact lawful

/-- What holds between two programs while the helper is alive. -/
structure AtRest (inputs : MacosReconcileInputs) (custodian : Custodian) : Prop where
  proper : Proper inputs custodian.owned
  recorded : Recorded inputs custodian

theorem AtRest.of_eq {inputs : MacosReconcileInputs} {custodian after : Custodian} (rest : AtRest inputs custodian) (owned : after.owned = custodian.owned)
    (filed : after.filed = custodian.filed) : AtRest inputs after := by
  refine ⟨owned ▸ rest.proper, ?_, ?_⟩
  · rw [owned, filed]
    exact rest.recorded.kept
  · rw [filed]
    exact rest.recorded.none

theorem AtRest.same {inputs : MacosReconcileInputs} {custodian after : Custodian} (rest : AtRest inputs custodian) (same : SameHoldings custodian after) :
    AtRest inputs after :=
  rest.of_eq same.owned same.filed

/-! ### Writes -/

section Writes

variable {inputs : MacosReconcileInputs} {custodian : Custodian}

theorem persist_follows {services : List MacosDnsServiceState} (accounted : custodian.Accounted services) :
    Ensures (discipline inputs) (allows inputs) (persistDnsCustody services inputs) (fun _ after =>
      after.owned = custodian.owned ∧ after.listing = custodian.listing ∧ after.back = custodian.back ∧
        (Recording inputs → after.filed = services.map MacosDnsServiceState.toCustody) ∧
        (¬Recording inputs → after.filed = custodian.filed)) custodian := by
  rw [persistDnsCustody]
  cases custody : inputs.custody with
  | none =>
    exact ⟨rfl, rfl, rfl, fun recording => absurd recording.1 (by simp [custody]), fun _ => rfl⟩
  | some identity =>
    dsimp only
    by_cases silent : inputs.dnsServers.isEmpty
    · rw [if_pos silent]
      exact ⟨rfl, rfl, rfl, fun recording => absurd (List.isEmpty_iff.mp silent) recording.2, fun _ => rfl⟩
    rw [if_neg silent]
    have recording : Recording inputs := ⟨by simp [custody], fun empty => silent (List.isEmpty_iff.mpr empty)⟩
    by_cases empty : services.isEmpty
    · rw [if_pos empty, Ensures.bind_iff, issue_iff]
      rw [List.isEmpty_iff.mp empty] at accounted ⊢
      refine ⟨⟨⟨identity, custody, rfl⟩, accounted⟩, ?_⟩
      rintro reply after stepped
      cases stepped
      exact ⟨rfl, rfl, rfl, fun _ => rfl, fun silence => absurd recording silence⟩
    · rw [if_neg empty, Ensures.bind_iff, Ensures.attempt_iff, issue_iff]
      refine ⟨⟨identity, services, custody, accounted, rfl⟩, ?_⟩
      rintro (error | written) after stepped
      all_goals
        cases stepped
        dsimp only
      · exact ⟨rfl, rfl, rfl, fun _ => rfl, fun silence => absurd recording silence⟩
      · rw [issue_iff]
        refine ⟨trivial, ?_⟩
        rintro reply after stepped
        cases reply <;>
        · cases stepped
          exact ⟨rfl, rfl, rfl, fun _ => rfl, fun silence => absurd recording silence⟩

/-- A restore leaves the other services where they are; one that works puts its own back. -/
theorem restore_follows {state : MacosDnsServiceState} (member : state ∈ custodian.owned)
    (filed : Recording inputs → state.toCustody ∈ custodian.filed) (original : state.dnsServers ≠ some inputs.dnsServers) :
    Ensures (discipline inputs) (allows inputs) (restoreMacosDnsService state) (fun outcome after =>
      after.owned = custodian.owned ∧ after.filed = custodian.filed ∧ after.listing = custodian.listing ∧
        (∀ service, service ≠ state.service → service ∈ custodian.back → service ∈ after.back) ∧
        (outcome = .ok () → state.service ∈ after.back)) custodian := by
  rw [restoreMacosDnsService, restoreService, Ensures.attempt_iff, issue_iff]
  refine ⟨⟨⟨state, member, rfl, filed⟩, .inr ⟨state, member, rfl, rfl⟩⟩, ?_⟩
  rintro (error | ⟨⟩) after stepped
  · cases stepped
    exact ⟨rfl, rfl, rfl, fun _ _ kept => kept, by simp⟩
  cases stepped
  dsimp only
  rw [if_neg original, issue_iff]
  refine ⟨⟨⟨state, member, rfl, filed⟩, .inr ⟨rfl, state, member, rfl, rfl⟩⟩, ?_⟩
  have others : ∀ service, service ≠ state.service → service ∈ custodian.back →
      service ∈ custodian.back.filter (· != state.service) := by
    intro service different kept
    simp [different, kept]
  rintro (error | ⟨⟩) after stepped
  · cases stepped
    exact ⟨rfl, rfl, rfl, others, by simp⟩
  · cases stepped
    rw [if_pos rfl]
    exact ⟨rfl, rfl, rfl, fun service different kept => List.mem_cons_of_mem _ (others service different kept),
      fun _ => List.mem_cons_self⟩

theorem assert_follows {service : String} (covered : custodian.Covers inputs service) :
    Ensures (discipline inputs) (allows inputs) (assertTunnelDns inputs service) (fun _ after =>
      after.owned = custodian.owned ∧ after.filed = custodian.filed ∧ after.listing = custodian.listing) custodian := by
  rw [assertTunnelDns, Ensures.attempt_iff, issue_iff]
  refine ⟨⟨covered, .inl rfl⟩, ?_⟩
  rintro (error | ⟨⟩) after stepped
  · cases stepped
    exact ⟨rfl, rfl, rfl⟩
  cases stepped
  dsimp only
  rw [if_pos rfl, issue_iff]
  refine ⟨⟨covered, .inl ⟨nofun, by simp, rfl⟩⟩, ?_⟩
  rintro (error | ⟨⟩) after stepped
  all_goals
    cases stepped
    exact ⟨rfl, rfl, rfl⟩

end Writes

end Wgd.Dns
