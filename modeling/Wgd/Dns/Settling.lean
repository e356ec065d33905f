import Wgd.Dns.Helper

/-! What the helper remembers when the host is steady: a fingerprint of a host on which
nothing is left to do. -/

set_option autoImplicit false

namespace Wgd.Dns

open Wgd.Net Wgd.Helper Wgd.Interaction

/-- What an observer keeps in mind of the program that is running. -/
structure Moment where
  /-- A reconcile tick, not a connect or a teardown. -/
  ticking : Bool
  /-- A setting has been written since the fingerprint was last stored. -/
  changing : Bool
  deriving DecidableEq, Repr

def Moment.observe (moment : Moment) : (op : DnsOp) → op.Reply → Moment
  | .setDnsServers _ _, .ok () | .setSearchDomains _ _, .ok () => { moment with changing := true }
  | .storeFingerprint _, () => { moment with changing := false }
  | _, _ => moment

/-- No write fails during a tick, and after a write no listing or read fails, and no
listing comes back empty, until the fingerprint is stored. -/
def steady (moment : Moment) : (op : DnsOp) → op.Reply → Bool
  | .setDnsServers _ _, .error _ | .setSearchDomains _ _, .error _ => !moment.ticking
  | .listNetworkServices, .error _ | .getDnsServers _, .error _ => !moment.changing
  | .listNetworkServices, .ok services => !(moment.changing && services.isEmpty)
  | _, _ => true

/-- What the reconciler's programs depend on. -/
structure View where
  dns : String → Setting
  memory : MacosDnsState
  moment : Moment

namespace View

/-- The services the helper owns. -/
def names (view : View) : List String := view.memory.services.map MacosDnsServiceState.service

def setServices (view : View) (services : List MacosDnsServiceState) : View :=
  { view with memory := { view.memory with services } }

/-- The commands as far as the view goes, on a steady host. -/
def environment : Environment dnsCommands View :=
  fun view op reply next => steady view.moment op reply = true ∧ match op, reply with
  | .getDnsServers service, .ok servers => servers = view.dns service ∧ next = view
  | .setDnsServers service servers, .ok () => next = { view with
      dns := Function.update view.dns service servers
      moment := { view.moment with changing := true } }
  | .setSearchDomains _ _, .ok () => next = { view with moment := { view.moment with changing := true } }
  | .dnsState, state => state = view.memory ∧ next = view
  | .pushService state, () => next = view.setServices (view.memory.services ++ [state])
  | .retainServices without, () => next = view.setServices (retained without view.memory.services)
  | .storeFingerprint fingerprint, () => next = { view with
      memory := { view.memory with fingerprint }
      moment := { view.moment with changing := false } }
  | _, _ => next = view

end View

/-- Whatever the remembered fingerprint targets is owned alone and shows the tunnel's
servers, unless a tick is forced to act. -/
def Settled (tunnelDns : List String) (memory : MacosDnsState) : Prop :=
  ∀ primary, memory.fingerprint.primaryService = some primary → primary ∈ memory.fingerprint.services →
    primary ∈ memory.services.map MacosDnsServiceState.service →
      showsTunnel tunnelDns memory.fingerprint primary = true ∧ ∀ owner ∈ memory.services, owner.service = primary

/-- Where nothing is left to do, the exit leaves nothing undone. -/
theorem Settled.exit {tunnelDns : List String} {memory : MacosDnsState} {collision : Bool}
    (settled : Settled tunnelDns memory)
    (active : dnsDecision dnsPolicy memory.fingerprint collision ≠ .hold)
    (unforced : dnsReconcileForced collision (memory.services.map MacosDnsServiceState.service)
      (dnsDecision dnsPolicy memory.fingerprint collision).targets = false) :
    planDnsActions tunnelDns memory.fingerprint (memory.services.map MacosDnsServiceState.service)
      (dnsDecision dnsPolicy memory.fingerprint collision).targets = .none := by
  rw [planDnsActions_eq_none]
  cases collision with
  | true =>
    simp only [dnsReconcileForced, dnsDecision, DnsDecision.targets, if_true] at unforced ⊢
    simp_all
  | false =>
    cases named : memory.fingerprint.primaryService with
    | none => simp [dnsDecision, dnsPolicy, named] at active
    | some primary =>
      by_cases listed : primary ∈ memory.fingerprint.services
      · have targets : (dnsDecision dnsPolicy memory.fingerprint false).targets = [primary] := by
          simp [dnsDecision, dnsPolicy, named, listed, DnsDecision.targets]
        rw [targets] at unforced ⊢
        have owned : primary ∈ memory.services.map MacosDnsServiceState.service := by
          simpa [dnsReconcileForced] using unforced
        obtain ⟨shows, only⟩ := settled primary named listed owned
        constructor
        · intro service member
          rw [List.mem_singleton.mp member]
          exact ⟨owned, shows⟩
        · intro service member
          obtain ⟨owner, owns, rfl⟩ := List.mem_map.mp member
          exact List.mem_singleton.mpr (only owner owns)
      · simp [dnsDecision, dnsPolicy, named, listed] at active

/-! ### What the programs see -/

variable {view : View}

/-- A fingerprint shows the tunnel's servers only where they are, and after a write
everywhere they are. -/
structure Shown (view : View) (fingerprint : MacosDnsFingerprint) : Prop where
  faithful : ∀ tunnelDns service, showsTunnel tunnelDns fingerprint service = true → view.dns service = some tunnelDns
  complete : view.moment.changing = true → ∀ tunnelDns, ∀ service ∈ fingerprint.services,
    view.dns service = some tunnelDns → showsTunnel tunnelDns fingerprint service = true

/-- What a list of observations says of the services in it. -/
def Observed (view : View) (observed : List (String × Setting)) : Prop :=
  ∀ entry ∈ observed, entry.2 = view.dns entry.1 ∨ entry.2 = none ∧ view.moment.changing = false

theorem Observed.shown {observed : List (String × Setting)} {services : List String} {primary : Option String}
    (seen : Observed view observed) (all : ∀ service ∈ services, ∃ entry ∈ observed, entry.1 = service) :
    Shown view ⟨primary, services, observed⟩ := by
  constructor
  · intro tunnelDns service shows
    simp only [showsTunnel, beq_iff_eq] at shows
    obtain ⟨entry, found, value⟩ := Option.bind_eq_some_iff.mp shows
    have named : entry.1 = service := by simpa using List.find?_some found
    rcases seen entry (List.mem_of_find?_eq_some found) with same | ⟨none, -⟩
    · rw [← named, ← same, value]
    · exact nomatch none.symm.trans value
  · intro changing tunnelDns service listed shows
    obtain ⟨entry, member, named⟩ := all service listed
    cases found : observed.find? fun entry => entry.1 == service with
    | none =>
      have absent := List.find?_eq_none.mp found entry member
      simp [named] at absent
    | some first =>
      have named' : first.1 = service := by simpa using List.find?_some found
      rcases seen first (List.mem_of_find?_eq_some found) with same | ⟨-, still⟩
      · simp [showsTunnel, found, same, named', shows]
      · exact Bool.noConfusion (changing.symm.trans still)

theorem fingerprint_views :
    Ensures View.environment (fun _ _ => True) macosCurrentDnsFingerprint (fun outcome after => after = view ∧
      match outcome with
      | .error _ => view.moment.changing = false
      | .ok fingerprint => Shown view fingerprint) view := by
  rw [macosCurrentDnsFingerprint, Ensures.attempt_iff, issue_iff]
  refine ⟨trivial, fun reply after stepped => ?_⟩
  cases reply with
  | error error =>
    obtain ⟨still, rfl⟩ := stepped
    exact ⟨rfl, by simpa [steady] using still⟩
  | ok listing =>
    obtain ⟨some, rfl⟩ := stepped
    dsimp only
    by_cases empty : listing.isEmpty
    · rw [if_pos empty]
      exact ⟨rfl, by simpa [steady, empty] using some⟩
    rw [if_neg empty, Ensures.bind_iff]
    refine Ensures.mono ?_ (Ensures.foldlM (fun rest observed s => s = after ∧ Observed after observed ∧
      ∀ service ∈ (listing.insertionSort (· ≤ ·)).dedup, service ∈ rest ∨ ∃ entry ∈ observed, entry.1 = service) ?_
      ⟨rfl, nofun, fun _ member => .inl member⟩)
    · rintro observed _ ⟨rfl, seen, all⟩
      rw [Ensures.bind_iff, issue_iff]
      refine ⟨trivial, fun primary read stepped => ?_⟩
      obtain ⟨-, rfl⟩ := stepped
      exact ⟨rfl, seen.shown fun service listed => (all service listed).resolve_left List.not_mem_nil⟩
    · rintro service rest observed _ ⟨rfl, seen, all⟩
      have later : ∀ setting : Setting, ∀ other ∈ (listing.insertionSort (· ≤ ·)).dedup,
          other ∈ rest ∨ ∃ entry ∈ observed ++ [(service, setting)], entry.1 = other := by
        intro setting other listed
        rcases all other listed with waiting | ⟨entry, member, named⟩
        · rcases List.mem_cons.mp waiting with rfl | waiting
          · exact .inr ⟨(other, setting), by simp, rfl⟩
          · exact .inl waiting
        · exact .inr ⟨entry, List.mem_append_left _ member, named⟩
      rw [observeService, Ensures.bind_iff, issue_iff]
      refine ⟨trivial, fun reply read stepped => ?_⟩
      cases reply with
      | error error =>
        obtain ⟨still, rfl⟩ := stepped
        refine ⟨rfl, fun entry member => ?_, later none⟩
        rcases List.mem_append.mp member with earlier | now
        · exact seen entry earlier
        · rw [List.mem_singleton.mp now]
          exact .inr ⟨rfl, by simpa [steady] using still⟩
      | ok servers =>
        obtain ⟨-, rfl, rfl⟩ := stepped
        refine ⟨rfl, fun entry member => ?_, later _⟩
        rcases List.mem_append.mp member with earlier | now
        · exact seen entry earlier
        · rw [List.mem_singleton.mp now]
          exact .inl rfl

theorem capture_views {service : String} {tunnelDns : List String} :
    Ensures View.environment (fun _ _ => True) (captureMacosDnsService service tunnelDns)
      (fun outcome after => after = view ∧ ∀ state, outcome = .ok state → state.service = service) view := by
  rw [captureMacosDnsService, Ensures.attempt_iff, issue_iff]
  refine ⟨trivial, fun reply after stepped => ?_⟩
  cases reply with
  | error error =>
    obtain ⟨-, rfl⟩ := stepped
    exact ⟨rfl, nofun⟩
  | ok servers =>
    obtain ⟨-, rfl, rfl⟩ := stepped
    dsimp only
    split
    · refine ⟨rfl, ?_⟩
      rintro _ ⟨⟩
      rfl
    · rw [Ensures.attempt_iff, issue_iff]
      refine ⟨trivial, fun reply final stepped => ?_⟩
      cases reply with
      | error error =>
        obtain ⟨-, rfl⟩ := stepped
        exact ⟨rfl, nofun⟩
      | ok domains =>
        obtain ⟨-, rfl⟩ := stepped
        refine ⟨rfl, ?_⟩
        rintro _ ⟨⟩
        rfl

theorem persist_views {services : List MacosDnsServiceState} {inputs : MacosReconcileInputs} :
    Ensures View.environment (fun _ _ => True) (persistDnsCustody services inputs) (fun _ after => after = view) view := by
  rw [persistDnsCustody]
  split
  · rfl
  · split
    · rfl
    · split
      · rw [Ensures.bind_iff, issue_iff]
        refine ⟨trivial, fun reply after stepped => ?_⟩
        cases reply <;> exact stepped.2
      · rw [Ensures.bind_iff, Ensures.attempt_iff, issue_iff]
        refine ⟨trivial, fun reply after stepped => ?_⟩
        cases reply with
        | error error => exact stepped.2
        | ok value =>
          obtain ⟨-, rfl⟩ := stepped
          refine ⟨trivial, fun reply final stepped => ?_⟩
          cases reply <;> exact stepped.2

/-- Both writes about a service, where they cannot fail or may end the program. -/
theorem restoreService_views {service : String} {servers domains : Setting} :
    Ensures View.environment (fun _ _ => True) (restoreService service servers domains) (fun outcome after =>
      (view.moment.ticking = true → outcome = .ok ()) ∧ (outcome = .ok () → after = { view with
        dns := Function.update view.dns service servers
        moment := { view.moment with changing := true } })) view := by
  rw [restoreService, Ensures.attempt_iff, issue_iff]
  refine ⟨trivial, fun reply after stepped => ?_⟩
  cases reply with
  | error error =>
    refine ⟨fun ticking => ?_, by simp⟩
    have still := stepped.1
    simp [steady, ticking] at still
  | ok value =>
    obtain ⟨-, rfl⟩ := stepped
    dsimp only
    rw [issue_iff]
    refine ⟨trivial, fun reply final stepped => ?_⟩
    cases reply with
    | error error =>
      refine ⟨fun ticking => ?_, by simp⟩
      have still := stepped.1
      simp [steady, ticking] at still
    | ok value => exact ⟨fun _ => rfl, fun _ => stepped.2⟩

/-! ### A tick -/

variable {inputs : MacosReconcileInputs}

/-- How far a program has come: of the memory only the owned services have changed, and
of the settings only those of some services. -/
structure Under (before after : View) (touched : List String) : Prop where
  fingerprint : after.memory.fingerprint = before.memory.fingerprint
  ticking : after.moment.ticking = before.moment.ticking
  changing : before.moment.changing = true → after.moment.changing = true
  dns : ∀ service, service ∉ touched → after.dns service = before.dns service

namespace Under

theorem refl (view : View) (touched : List String) : Under view view touched := ⟨rfl, rfl, id, fun _ _ => rfl⟩

theorem trans {first second third : View} {touched touched' : List String} (one : Under first second touched)
    (two : Under second third touched') : Under first third (touched ++ touched') where
  fingerprint := two.fingerprint.trans one.fingerprint
  ticking := two.ticking.trans one.ticking
  changing := fun changing => two.changing (one.changing changing)
  dns := by
    intro service spared
    rw [List.mem_append, not_or] at spared
    rw [two.dns service spared.2, one.dns service spared.1]

theorem more {before after : View} {touched touched' : List String} (under : Under before after touched)
    (more : touched ⊆ touched') : Under before after touched' :=
  { under with dns := fun service spared => under.dns service fun member => spared (more member) }

/-- A write of the servers of a touched service. -/
theorem write {before after : View} {touched : List String} {service : String} (servers : Setting)
    (under : Under before after touched) (member : service ∈ touched) :
    Under before { after with
      dns := Function.update after.dns service servers
      moment := { after.moment with changing := true } } touched where
  fingerprint := under.fingerprint
  ticking := under.ticking
  changing := fun _ => rfl
  dns := by
    intro other spared
    have different : other ≠ service := fun same => spared (same ▸ member)
    have kept : Function.update after.dns service servers other = after.dns other :=
      Function.update_of_ne different servers after.dns
    exact kept.trans (under.dns other spared)

end Under

@[simp] theorem View.mem_names_push {view : View} {state : MacosDnsServiceState} {service : String} :
    service ∈ (view.setServices (view.memory.services ++ [state])).names ↔
      service ∈ view.names ∨ service = state.service := by
  simp only [View.names, View.setServices, List.map_append, List.mem_append, List.map_singleton, List.mem_singleton]

@[simp] theorem View.mem_names_retained {view : View} {without service : String} :
    service ∈ (view.setServices (retained without view.memory.services)).names ↔
      service ∈ view.names ∧ service ≠ without := by
  simp only [View.names, View.setServices, retained, List.mem_map, List.mem_filter, bne_iff_ne]
  constructor
  · rintro ⟨owner, ⟨owns, other⟩, rfl⟩
    exact ⟨⟨owner, owns, rfl⟩, other⟩
  · rintro ⟨⟨owner, owns, rfl⟩, other⟩
    exact ⟨owner, ⟨owns, other⟩, rfl⟩

/-- What the captures of a tick leave: a service whose capture has failed is not owned. -/
structure Capturing (before after : View) (targets rest failed : List String) : Prop where
  under : Under before after []
  kept : before.names ⊆ after.names
  owned : ∀ service ∈ after.names, service ∈ before.names ∨ service ∈ targets
  unowned : ∀ service ∈ rest, service ∉ after.names
  failed : ∀ service ∈ failed, service ∉ after.names ∧ service ∉ rest
  within : rest ⊆ targets
  nodup : rest.Nodup

theorem captureAll_views {targets : List String} (nodup : targets.Nodup)
    (unowned : ∀ service ∈ targets, service ∉ view.names) :
    Ensures View.environment (fun _ _ => True) (targets.foldlM (captureTarget inputs) (0, []))
      (fun progress after => Capturing view after targets [] progress.2) view := by
  apply Ensures.foldlM (fun rest (progress : Nat × List String) after => Capturing view after targets rest progress.2)
  · intro service rest progress before capturing
    obtain ⟨fresh, nodup'⟩ := List.nodup_cons.mp capturing.nodup
    have within : rest ⊆ targets := fun other member => capturing.within (List.mem_cons_of_mem _ member)
    rw [captureTarget, Ensures.bind_iff]
    apply capture_views.mono
    intro outcome after captured
    obtain ⟨rfl, named⟩ := captured
    cases outcome with
    | error error =>
      refine { capturing with unowned := ?_, failed := ?_, within, nodup := nodup' }
      · intro other member
        exact capturing.unowned other (List.mem_cons_of_mem _ member)
      · intro other member
        rcases List.mem_append.mp member with earlier | now
        · obtain ⟨absent, waiting⟩ := capturing.failed other earlier
          exact ⟨absent, fun member => waiting (List.mem_cons_of_mem _ member)⟩
        · obtain rfl := List.mem_singleton.mp now
          exact ⟨capturing.unowned other List.mem_cons_self, fresh⟩
    | ok state =>
      obtain rfl := named state rfl
      dsimp only
      rw [Ensures.bind_iff, issue_iff]
      refine ⟨trivial, ?_⟩
      intro reply pushed stepped
      obtain ⟨-, rfl⟩ := stepped
      refine { capturing with under := ?_, kept := ?_, owned := ?_, unowned := ?_, failed := ?_, within, nodup := nodup' }
      · exact { capturing.under with }
      · intro other owns
        exact View.mem_names_push.mpr (.inl (capturing.kept owns))
      · intro other owns
        rcases View.mem_names_push.mp owns with earlier | rfl
        · exact capturing.owned other earlier
        · exact .inr (capturing.within List.mem_cons_self)
      · intro other member owns
        rcases View.mem_names_push.mp owns with earlier | rfl
        · exact capturing.unowned other (List.mem_cons_of_mem _ member) earlier
        · exact fresh member
      · intro other member
        obtain ⟨absent, waiting⟩ := capturing.failed other member
        constructor
        · intro owns
          rcases View.mem_names_push.mp owns with earlier | rfl
          · exact absent earlier
          · exact waiting List.mem_cons_self
        · exact fun member => waiting (List.mem_cons_of_mem _ member)
  · exact ⟨.refl view [], List.Subset.refl _, fun _ => .inl, unowned, nofun, List.Subset.refl _, nodup⟩

/-- What the releases of a tick leave: whatever is to be restored is no longer owned,
and some restore is counted, if there is any. -/
structure Releasing (before after : View) (services rest : List String) (restored : Nat) : Prop where
  under : Under before after services
  owned : ∀ service ∈ after.names, service ∈ before.names ∧ (service ∈ services → service ∈ rest)
  counted : 0 < restored → after.moment.changing = true
  none : restored = 0 → rest = services ∧ after = before

theorem releaseAll_views {services : List String} (ticking : view.moment.ticking = true)
    (owned : services ⊆ view.names) :
    Ensures View.environment (fun _ _ => True) (services.foldlM releaseService 0)
      (fun restored after => Releasing view after services [] restored) view := by
  apply Ensures.mono (fun _ _ (both : Releasing view _ services [] _ ∧ _) => both.1)
    (Ensures.foldlM (fun rest restored after => Releasing view after services rest restored ∧ rest ⊆ services) _ _)
  · intro service rest restored before releasing
    obtain ⟨releasing, within⟩ := releasing
    have member : service ∈ services := within List.mem_cons_self
    have within' : rest ⊆ services := fun other member => within (List.mem_cons_of_mem _ member)
    have later : ∀ other, other ∈ before.names ∧ other ≠ service →
        other ∈ view.names ∧ (other ∈ services → other ∈ rest) := by
      intro other spared
      obtain ⟨earlier, waiting⟩ := releasing.owned other spared.1
      exact ⟨earlier, fun member => (List.mem_cons.mp (waiting member)).resolve_left spared.2⟩
    rw [releaseService, Ensures.bind_iff, issue_iff]
    refine ⟨trivial, ?_⟩
    intro memory after stepped
    obtain ⟨-, rfl, rfl⟩ := stepped
    split
    · rename_i absent
      rw [Ensures.bind_iff, issue_iff]
      refine ⟨trivial, ?_⟩
      intro reply dropped stepped
      obtain ⟨-, rfl⟩ := stepped
      refine ⟨⟨{ releasing.under with }, ?_, releasing.counted, ?_⟩, within'⟩
      · intro other owns
        exact later other (View.mem_names_retained.mp owns)
      · intro none
        obtain ⟨-, rfl⟩ := releasing.none none
        obtain ⟨owner, owns, named⟩ := List.mem_map.mp (owned member)
        have missed := List.find?_eq_none.mp absent owner owns
        simp [named] at missed
    · rename_i owner found
      have named : owner.service = service := by simpa using List.find?_some found
      rw [Ensures.bind_iff, restoreMacosDnsService]
      apply restoreService_views.mono
      intro outcome after settled
      obtain ⟨works, restores⟩ := settled
      rw [works (releasing.under.ticking.trans ticking), restores (works (releasing.under.ticking.trans ticking))]
      dsimp only
      rw [Ensures.bind_iff, issue_iff]
      refine ⟨trivial, ?_⟩
      intro reply released stepped
      obtain ⟨-, rfl⟩ := stepped
      refine ⟨⟨?_, ?_, fun _ => rfl, fun none => absurd none (Nat.succ_ne_zero _)⟩, within'⟩
      · have written := releasing.under.write owner.dnsServers (named ▸ member)
        exact { written with }
      · intro other owns
        exact later other (View.mem_names_retained.mp owns)
  · exact ⟨⟨.refl view _, fun _ owns => ⟨owns, id⟩, fun some => absurd some (Nat.lt_irrefl 0),
      fun _ => ⟨rfl, rfl⟩⟩, List.Subset.refl _⟩

/-- What a program leaves that only takes services off the owned list. -/
structure Dropping (before after : View) (services rest : List String) : Prop where
  dns : after.dns = before.dns
  moment : after.moment = before.moment
  fingerprint : after.memory.fingerprint = before.memory.fingerprint
  owned : ∀ service ∈ after.names, service ∈ before.names ∧ (service ∈ services → service ∈ rest)

theorem dropAll_views {services : List String} :
    Ensures View.environment (fun _ _ => True) (services.foldlM dropService 0)
      (fun _ after => Dropping view after services []) view := by
  apply Ensures.foldlM (fun rest (_ : Nat) after => Dropping view after services rest)
  · intro service rest dropped before dropping
    rw [dropService, Ensures.bind_iff, issue_iff]
    refine ⟨trivial, ?_⟩
    intro reply after stepped
    obtain ⟨-, rfl⟩ := stepped
    refine ⟨dropping.dns, dropping.moment, dropping.fingerprint, ?_⟩
    intro other owns
    obtain ⟨held, spared⟩ := View.mem_names_retained.mp owns
    obtain ⟨earlier, waiting⟩ := dropping.owned other held
    exact ⟨earlier, fun member => (List.mem_cons.mp (waiting member)).resolve_left spared⟩
  · exact ⟨rfl, rfl, rfl, fun _ owns => ⟨owns, id⟩⟩

theorem recordOwned_views {changes : Nat} :
    Ensures View.environment (fun _ _ => True) (recordOwned inputs changes) (fun _ after => after = view) view := by
  rw [recordOwned]
  split
  · rw [Ensures.bind_iff, issue_iff]
    refine ⟨trivial, ?_⟩
    intro memory after stepped
    obtain ⟨-, -, rfl⟩ := stepped
    exact persist_views
  · rfl

/-- What the writes of a tick leave: every service to be written that is not left out
shows the tunnel's servers, and some write is counted, if there is any. -/
structure Applying (tunnelDns captureFailed : List String) (before after : View) (services rest : List String)
    (applied : Nat) : Prop where
  under : Under before after services
  memory : after.memory = before.memory
  shown : ∀ service ∈ services, service ∈ rest ∨ service ∈ captureFailed ∨ after.dns service = some tunnelDns
  counted : 0 < applied → after.moment.changing = true
  none : applied = 0 → ∀ service ∈ services, service ∈ rest ∨ service ∈ captureFailed
  within : rest ⊆ services

theorem applyAll_views {services captureFailed : List String} (ticking : view.moment.ticking = true) :
    Ensures View.environment (fun _ _ => True) (services.foldlM (reassertService inputs captureFailed) 0)
      (fun applied after => Applying inputs.dnsServers captureFailed view after services [] applied) view := by
  apply Ensures.foldlM (fun rest applied after => Applying inputs.dnsServers captureFailed view after services rest applied)
  · intro service rest applied before applying
    have within : rest ⊆ services := fun other member => applying.within (List.mem_cons_of_mem _ member)
    rw [reassertService]
    split
    · rename_i left
      have left : service ∈ captureFailed := by simpa using left
      refine { applying with shown := ?_, none := ?_, within }
      · intro other member
        rcases applying.shown other member with waiting | done
        · rcases List.mem_cons.mp waiting with rfl | waiting
          · exact .inr (.inl left)
          · exact .inl waiting
        · exact .inr done
      · intro none other member
        rcases applying.none none other member with waiting | done
        · rcases List.mem_cons.mp waiting with rfl | waiting
          · exact .inr left
          · exact .inl waiting
        · exact .inr done
    · rw [Ensures.bind_iff, assertTunnelDns, ← restoreService]
      apply restoreService_views.mono
      intro outcome after settled
      obtain ⟨works, writes⟩ := settled
      have worked := works (applying.under.ticking.trans ticking)
      rw [writes worked, worked]
      refine ⟨applying.under.write _ (applying.within List.mem_cons_self), applying.memory, ?_, fun _ => rfl,
        fun none => absurd none (Nat.succ_ne_zero _), within⟩
      intro other member
      by_cases same : other = service
      · rw [same]
        exact .inr (.inr (Function.update_self _ _ _))
      · rcases applying.shown other member with waiting | left | shows
        · exact .inl ((List.mem_cons.mp waiting).resolve_left same)
        · exact .inr (.inl left)
        · have kept : Function.update before.dns service (some inputs.dnsServers) other = before.dns other :=
            Function.update_of_ne same _ _
          exact .inr (.inr (kept.trans shows))
  · exact ⟨.refl view services, rfl, fun _ => .inl, fun some => absurd some (Nat.lt_irrefl 0), fun _ _ => .inl,
      List.Subset.refl _⟩

/-- What a plan leaves once it has been carried out: only targets are owned, and what is
owned shows the tunnel's servers; if nothing is counted, it already did. -/
structure Applied (tunnelDns targets : List String) (fingerprint : MacosDnsFingerprint) (after : View) (changed : Nat) :
    Prop where
  owned : ∀ service ∈ after.names, service ∈ targets
  shows : ∀ service ∈ after.names, after.dns service = some tunnelDns
  counted : 0 < changed → after.moment.changing = true
  none : changed = 0 → ∀ service ∈ after.names, showsTunnel tunnelDns fingerprint service = true

theorem applyDnsActions_views {fingerprint : MacosDnsFingerprint} {targets : List String} (nodup : targets.Nodup)
    (shown : Shown view fingerprint) (ticking : view.moment.ticking = true) :
    Ensures View.environment (fun _ _ => True)
      (applyDnsActions inputs (planDnsActions inputs.dnsServers fingerprint view.names targets))
      (fun changed after => Applied inputs.dnsServers targets fingerprint after changed) view := by
  have fresh : ∀ service ∈ (planDnsActions inputs.dnsServers fingerprint view.names targets).capture,
      service ∉ view.names := fun service member => (mem_capture.mp member).2
  rw [applyDnsActions, Ensures.bind_iff]
  apply (captureAll_views (nodup.filter _) fresh).mono
  intro progress captured capturing
  have release : (planDnsActions inputs.dnsServers fingerprint view.names targets).restore ⊆ captured.names :=
    fun service member => capturing.kept (mem_restore.mp member).1
  rw [Ensures.bind_iff]
  apply (releaseAll_views (capturing.under.ticking.trans ticking) release).mono
  intro restored released releasing
  rw [Ensures.bind_iff]
  apply dropAll_views.mono
  intro dropped forgotten dropping
  rw [Ensures.bind_iff]
  apply recordOwned_views.mono
  intro _ recorded same
  rw [same, Ensures.bind_iff]
  have still : forgotten.moment.ticking = true := by
    rw [dropping.moment, releasing.under.ticking, capturing.under.ticking, ticking]
  apply (applyAll_views still).mono
  intro applied final applying
  -- Only targets are left among the owned services, and only captured ones.
  have owned : ∀ service ∈ final.names, service ∈ targets ∧ service ∈ captured.names := by
    intro service owns
    rw [View.names, applying.memory] at owns
    obtain ⟨held, notDropped⟩ := dropping.owned service owns
    obtain ⟨held, notReleased⟩ := releasing.owned service held
    refine ⟨?_, held⟩
    rcases capturing.owned service held with before | taken
    · by_contra spared
      by_cases listed : service ∈ fingerprint.services
      · exact List.not_mem_nil (notReleased (mem_restore.mpr ⟨before, spared, listed⟩))
      · exact List.not_mem_nil (notDropped (mem_drop.mpr ⟨before, spared, listed⟩))
    · exact (List.mem_filter.mp taken).1
  have unfailed : ∀ service ∈ final.names, service ∉ progress.2 := by
    intro service owns failed
    exact (capturing.failed service failed).1 (owned service owns).2
  have written : ∀ service ∈ final.names, showsTunnel inputs.dnsServers fingerprint service = false →
      service ∈ (planDnsActions inputs.dnsServers fingerprint view.names targets).apply :=
    fun service owns hidden => mem_apply.mpr ⟨(owned service owns).1, hidden⟩
  constructor
  · exact fun service owns => (owned service owns).1
  · intro service owns
    cases shows : showsTunnel inputs.dnsServers fingerprint service with
    | false =>
      rcases applying.shown service (written service owns shows) with waiting | failed | done
      · exact absurd waiting List.not_mem_nil
      · exact absurd failed (unfailed service owns)
      · exact done
    | true =>
      have unwritten : service ∉ (planDnsActions inputs.dnsServers fingerprint view.names targets).apply := by
        intro member
        exact Bool.noConfusion (shows.symm.trans (mem_apply.mp member).2)
      have unrestored : service ∉ (planDnsActions inputs.dnsServers fingerprint view.names targets).restore :=
        fun member => (mem_restore.mp member).2.1 (owned service owns).1
      calc final.dns service = forgotten.dns service := applying.under.dns service unwritten
        _ = released.dns service := by rw [dropping.dns]
        _ = captured.dns service := releasing.under.dns service unrestored
        _ = view.dns service := capturing.under.dns service List.not_mem_nil
        _ = some inputs.dnsServers := shown.faithful _ service shows
  · intro some
    rcases Nat.eq_zero_or_pos applied with none | some'
    · have restored' : 0 < restored := by omega
      apply applying.under.changing
      rw [dropping.moment]
      exact releasing.counted restored'
    · exact applying.counted some'
  · intro none service owns
    have none : applied = 0 := by omega
    by_contra hidden
    rcases applying.none none service (written service owns (by simpa using hidden)) with waiting | failed
    · exact List.not_mem_nil waiting
    · exact unfailed service owns failed

/-- What a tick remembers leaves nothing to do. -/
theorem rememberFingerprint_views {targets : List String} {fingerprint : MacosDnsFingerprint} {changed : Nat}
    (applied : Applied inputs.dnsServers targets fingerprint view changed)
    (single : ∀ one ∈ targets, ∀ other ∈ targets, one = other) :
    Ensures View.environment (fun _ _ => True) (rememberFingerprint fingerprint changed)
      (fun _ after => Settled inputs.dnsServers after.memory) view := by
  have settled : ∀ remembered : MacosDnsFingerprint,
      (∀ service ∈ remembered.services, service ∈ view.names →
        showsTunnel inputs.dnsServers remembered service = true) →
      Ensures View.environment (fun _ _ => True) (issue (.storeFingerprint remembered))
        (fun _ after => Settled inputs.dnsServers after.memory) view := by
    intro remembered shows
    rw [issue_iff]
    refine ⟨trivial, ?_⟩
    intro reply after stepped
    obtain ⟨-, rfl⟩ := stepped
    intro primary named listed owned
    refine ⟨shows primary listed owned, ?_⟩
    intro owner owns
    exact single _ (applied.owned _ (List.mem_map_of_mem owns)) _ (applied.owned _ owned)
  rw [rememberFingerprint]
  split
  · rename_i some
    rw [Ensures.bind_iff]
    apply fingerprint_views.mono
    intro outcome after seen
    obtain ⟨rfl, seen⟩ := seen
    cases outcome with
    | error error => exact Bool.noConfusion ((applied.counted some).symm.trans seen)
    | ok observed =>
      apply settled
      intro service listed owned
      exact seen.complete (applied.counted some) _ service listed (applied.shows service owned)
  · rename_i none
    apply settled
    intro service _ owned
    exact applied.none (by omega) service owned

theorem reconcileServices_views {state : MacosCleanupState} {fingerprint : MacosDnsFingerprint} {collision : Bool}
    (settled : Settled state.reconcile.dnsServers view.memory) (shown : Shown view fingerprint)
    (ticking : view.moment.ticking = true) :
    Ensures View.environment (fun _ _ => True) (reconcileServices state fingerprint collision)
      (fun _ after => Settled state.reconcile.dnsServers after.memory) view := by
  rw [reconcileServices, Ensures.bind_iff, issue_iff]
  refine ⟨trivial, ?_⟩
  intro memory after stepped
  obtain ⟨-, rfl, rfl⟩ := stepped
  dsimp only
  split
  · exact settled
  split
  · exact settled
  rw [Ensures.bind_iff]
  apply (applyDnsActions_views targets_nodup shown ticking).mono
  intro changed acted applied
  rw [Ensures.bind_iff]
  apply (rememberFingerprint_views applied _).mono
  · intro _ remembered settled
    by_cases key : state.dnsStoreKey
    · rw [if_pos key, Ensures.bind_iff, issue_iff]
      refine ⟨trivial, ?_⟩
      intro intact final stepped
      obtain ⟨-, rfl⟩ := stepped
      exact settled
    · rw [if_neg key]
      exact settled
  · intro one member other member'
    have only := (mem_targets member).2.2
    rw [only] at member'
    exact (List.mem_singleton.mp member').symm

theorem reconcileDnsStoreKey_views {state : MacosCleanupState} :
    Ensures View.environment (fun _ _ => True) (reconcileDnsStoreKey state) (fun _ after => after = view) view := by
  rw [reconcileDnsStoreKey]
  split
  · rw [Ensures.bind_iff, issue_iff]
    refine ⟨trivial, ?_⟩
    intro connected after stepped
    obtain ⟨-, rfl⟩ := stepped
    rw [issue_iff]
    refine ⟨trivial, ?_⟩
    intro wanted final stepped
    exact stepped.2
  · rfl

theorem macosReconcileDns_views {state : MacosCleanupState} (settled : Settled state.reconcile.dnsServers view.memory)
    (ticking : view.moment.ticking = true) :
    Ensures View.environment (fun _ _ => True) (macosReconcileDns state)
      (fun _ after => Settled state.reconcile.dnsServers after.memory) view := by
  rw [macosReconcileDns]
  split
  · exact settled
  split
  · apply reconcileDnsStoreKey_views.mono
    intro _ after same
    rw [same]
    exact settled
  rw [Ensures.bind_iff]
  apply fingerprint_views.mono
  intro outcome after seen
  obtain ⟨rfl, seen⟩ := seen
  cases outcome with
  | error error => exact settled
  | ok fingerprint =>
    rw [Ensures.bind_iff, issue_iff]
    refine ⟨trivial, ?_⟩
    intro connected read stepped
    obtain ⟨-, rfl⟩ := stepped
    dsimp only
    by_cases key : state.dnsStoreKey
    · rw [if_pos key, Ensures.bind_iff, issue_iff]
      refine ⟨trivial, ?_⟩
      intro wanted final stepped
      obtain ⟨-, rfl⟩ := stepped
      exact reconcileServices_views settled seen ticking
    · rw [if_neg key]
      exact reconcileServices_views settled seen ticking

/-! ### The connect -/

/-- What a connect has taken over so far. -/
structure Taking (tunnelDns targets : List String) (view : View) : Prop where
  owned : ∀ service ∈ view.names, service ∈ targets ∧ view.dns service = some tunnelDns
  counted : view.names ≠ [] → view.moment.changing = true

theorem takeService_views {targets : List String} {service : String} (taking : Taking inputs.dnsServers targets view)
    (target : service ∈ targets) :
    Ensures View.environment (fun _ _ => True) (takeService inputs service)
      (fun outcome after => outcome = .ok () → Taking inputs.dnsServers targets after) view := by
  rw [takeService, Ensures.attempt_iff]
  apply capture_views.mono
  intro outcome after captured
  obtain ⟨rfl, named⟩ := captured
  cases outcome with
  | error error => exact nofun
  | ok state =>
    obtain rfl := named state rfl
    dsimp only
    rw [Ensures.bind_iff, issue_iff]
    refine ⟨trivial, ?_⟩
    intro reply pushed stepped
    obtain ⟨-, rfl⟩ := stepped
    rw [Ensures.bind_iff, issue_iff]
    refine ⟨trivial, ?_⟩
    intro memory read stepped
    obtain ⟨-, -, rfl⟩ := stepped
    rw [Ensures.bind_iff]
    apply persist_views.mono
    intro _ persisted same
    rw [same, assertTunnelDns, ← restoreService]
    apply restoreService_views.mono
    intro outcome final settled worked
    rw [settled.2 worked]
    refine ⟨?_, fun _ => rfl⟩
    intro other owns
    by_cases here : other = state.service
    · rw [here]
      exact ⟨target, Function.update_self _ _ _⟩
    · have earlier := (View.mem_names_push.mp owns).resolve_right here
      obtain ⟨member, shows⟩ := taking.owned other earlier
      have kept : Function.update after.dns state.service (some inputs.dnsServers) other = after.dns other :=
        Function.update_of_ne here _ _
      exact ⟨member, kept.trans shows⟩

/-- What a connect has when it is about to store its fingerprint. -/
def Ready (tunnelDns : List String) (fingerprint : MacosDnsFingerprint) (view : View) : Prop :=
  Settled tunnelDns { view.memory with fingerprint }

theorem ready_unowned {tunnelDns : List String} {fingerprint : MacosDnsFingerprint} (nothing : view.names = []) :
    Ready tunnelDns fingerprint view := by
  intro primary _ _ owned
  change primary ∈ view.names at owned
  simp [nothing] at owned

theorem configureMacosDns_views {localSubnets : List Subnet} (nothing : view.names = []) :
    Ensures View.environment (fun _ _ => True) (configureMacosDns inputs localSubnets) (fun outcome after =>
      ∀ fingerprint, outcome = .ok fingerprint → Ready inputs.dnsServers fingerprint after) view := by
  rw [configureMacosDns]
  split
  · intro fingerprint _
    exact ready_unowned nothing
  rw [Ensures.attempt_iff]
  apply fingerprint_views.mono
  intro outcome after seen
  obtain ⟨rfl, -⟩ := seen
  cases outcome with
  | error error => exact nofun
  | ok fingerprint =>
    dsimp only
    generalize decided : dnsDecision dnsPolicy fingerprint _ = decision
    have single : ∀ one ∈ decision.targets, ∀ other ∈ decision.targets, one = other := by
      intro one member other member'
      rw [← decided] at member member'
      rw [(mem_targets member).2.2] at member'
      exact (List.mem_singleton.mp member').symm
    rw [Ensures.attempt_iff]
    apply Ensures.forEach (fun rest reached => Taking inputs.dnsServers decision.targets reached ∧ rest ⊆ decision.targets)
    · intro service rest before kept
      obtain ⟨taking, within⟩ := kept
      apply (takeService_views taking (within List.mem_cons_self)).mono
      intro outcome taken done
      cases outcome with
      | error error => exact nofun
      | ok value => exact ⟨done rfl, fun other member => within (List.mem_cons_of_mem _ member)⟩
    · intro taken kept
      obtain ⟨taking, -⟩ := kept
      dsimp only
      rw [Ensures.bind_iff]
      apply fingerprint_views.mono
      intro outcome final seen
      obtain ⟨rfl, seen⟩ := seen
      cases outcome with
      | error error =>
        intro remembered _
        apply ready_unowned
        by_contra some
        exact Bool.noConfusion ((taking.counted some).symm.trans seen)
      | ok observed =>
        intro remembered same
        cases same
        intro primary _ listed owned
        have changing : final.moment.changing = true := taking.counted (List.ne_nil_of_mem owned)
        refine ⟨seen.complete changing _ primary listed (taking.owned primary owned).2, ?_⟩
        intro owner owns
        exact single _ (taking.owned _ (List.mem_map_of_mem owns)).1 _ (taking.owned _ owned).1
    · refine ⟨⟨?_, fun some => absurd nothing some⟩, List.Subset.refl _⟩
      intro service owns
      simp [nothing] at owns

end Wgd.Dns
