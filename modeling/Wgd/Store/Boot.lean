import Wgd.Store.Discipline
import Wgd.Store.Script

/-! The daemon's own connects after a boot (`reconcile_boot_once`), among other handlers. -/

set_option autoImplicit false

namespace Wgd.Store

open Wgd.Interaction Wgd.Net Wgd.Links Wgd.Config Wgd.Helper

/-- Global, automatic, and not disconnected by the user. -/
def eligible (stored : StoredConnection) : Bool :=
  stored.global && stored.startMode = .automatic && !stored.userDisconnected

/-- The listed connections to bring up, unless they are up already. -/
def bootReconcileCandidates : List StoredConnection → StoreProgram (List ConnectionId)
  | [] => .done []
  | stored :: rest =>
    if eligible stored then do
      let active ← isConnected stored.id
      let candidates ← bootReconcileCandidates rest
      return if active then candidates else stored.id :: candidates
    else bootReconcileCandidates rest

def reconcileConnect (crates : Crates) (id : ConnectionId) : StoreProgram (Except AppError Unit) := do
  match ← storeCall (.lockConnection id .bounded) with
  | .error error => return .error (.io error)
  | .ok () =>
    let result ← reconcileLocked crates id
    storeCall (.unlockConnection id)
    return result

/-- Best effort: a failed connect does not keep the others from being tried. -/
def reconcileAll (crates : Crates) : List ConnectionId → StoreProgram Bool
  | [] => .done true
  | id :: rest => do
    let connected ← reconcileConnect crates id
    let others ← reconcileAll crates rest
    return connected.isOk && others

/-- Whether every connect that was tried succeeded. -/
def reconcileBootOnce (crates : Crates) : StoreProgram Bool := do
  match ← loadAll with
  | .error _ => return false
  | .ok connections =>
    let candidates ← bootReconcileCandidates connections
    reconcileAll crates candidates

/-! ### The pass among other handlers -/

/-- The connection whose lock the pass holds. -/
abbrev Held : Type := Option ConnectionId

def holding (held : Held) (op : StoreOp) (reply : op.Reply) : Held :=
  match op, reply with
  | .lockConnection id _, .ok () => some id
  | .unlockConnection _, () => none
  | _, _ => held

/-- The handlers that may run meanwhile. -/
def LockedSection.meanwhile : LockedSection → Bool
  | .setMode _ _ _ | .remove _ | .disconnect _ | .connect _ _ => true
  | _ => false

/-- Another handler runs to its end, on a connection the pass has not locked. -/
inductive Meanwhile (crates : Crates) : StoreState × Held → StoreState × Held → Prop where
  | handled {state after : StoreState} {held : Held} {id : ConnectionId} {locked : LockedSection}
      {response : PrivilegedResponse} (kind : locked.meanwhile = true) (free : held ≠ some id)
      (completed : @Completes storeCommands _ _ storeEnvironment (locked.program crates id) state response after) :
      Meanwhile crates (state, held) (after, held)

/-- The pass's own calls, with any number of other handlers before each. -/
def bootEnvironment (crates : Crates) (condition : StoreState × Held → (op : StoreOp) → op.Reply → Prop) :
    Environment storeCommands (StoreState × Held) :=
  ((@Environment.observe storeCommands _ _ storeEnvironment holding).meeting condition).after (Meanwhile crates)

/-- A granted lock finds a record that is still automatic, or no longer wanted. -/
def StillAutomatic (moment : StoreState × Held) (op : StoreOp) (reply : op.Reply) : Prop :=
  match op, reply with
  | .lockConnection id _, .ok () => ∀ stored, moment.1.records id = some (.record stored) →
      stored.startMode = .automatic ∨ stored.userDisconnected = true
  | _, _ => True

/-- The record of this id is there, and the daemon may connect it by itself. -/
def Eligible (state : StoreState) (id : ConnectionId) : Prop :=
  ∃ stored, state.records id = some (.record stored) ∧ eligible stored = true

/-- While a lock is held, nothing but looking at the record is done to one that is not eligible. -/
def Proper (moment : StoreState × Held) (op : StoreOp) : Prop :=
  ∀ id, moment.2 = some id → op = .readRecord id ∨ op = .unlockConnection id ∨ Eligible moment.1 id

/-- The record of this id is a global one, as long as there is one. -/
def GlobalAt (id : ConnectionId) (state : StoreState) : Prop :=
  ∀ stored, state.records id = some (.record stored) → stored.global = true

variable {crates : Crates} {id : ConnectionId} {state after : StoreState} {held : Held}

/-- What other handlers cannot change. -/
structure Undisturbed (before after : StoreState × Held) : Prop where
  held : after.2 = before.2
  locked : ∀ id, before.2 = some id → after.1.records id = before.1.records id
  global : ∀ id, GlobalAt id before.1 → GlobalAt id after.1

theorem Isolated.global {other : ConnectionId} (isolated : Isolated other state after) (before : GlobalAt id state) :
    GlobalAt id after := by
  intro stored there
  by_cases own : id = other
  · subst own
    obtain ⟨old, was, _, global⟩ := isolated.scope stored there
    rw [global]
    exact before old was
  · rw [isolated.others id own] at there
    exact before stored there

theorem Meanwhile.undisturbed {before after : StoreState × Held} (step : Meanwhile crates before after) :
    Undisturbed before after := by
  cases step with
  | handled kind free completed =>
    have isolated := section_isolated completed
    constructor
    · rfl
    · intro own same
      apply isolated.others
      rintro rfl
      exact free same
    · intro own before
      exact isolated.global before

theorem undisturbed {before after : StoreState × Held} (steps : Relation.ReflTransGen (Meanwhile crates) before after) :
    Undisturbed before after := by
  induction steps with
  | refl => exact ⟨rfl, fun _ _ => rfl, fun _ global => global⟩
  | tail _ step ih =>
    have last := step.undisturbed
    constructor
    · exact last.held.trans ih.held
    · intro own same
      exact (last.locked own (ih.held.trans same)).trans (ih.locked own same)
    · intro own global
      exact last.global own (ih.global own global)

/-- The rule for a call of the pass. -/
theorem boot_call {A : Type} {moment : StoreState × Held} {op : StoreOp} {f : op.Reply → StoreProgram A}
    {post : A → StoreState × Held → Prop} (permitted : Proper moment op)
    (rest : ∀ changed reply final, Undisturbed moment changed → storeEnvironment changed.1 op reply final →
      StillAutomatic changed op reply →
      @Ensures storeCommands _ _ (bootEnvironment crates StillAutomatic) Proper (f reply) post
        (final, holding changed.2 op reply)) :
    @Ensures storeCommands _ _ (bootEnvironment crates StillAutomatic) Proper (storeCall op >>= f) post moment := by
  refine Ensures.bind_iff.mpr ⟨permitted, ?_⟩
  rintro reply ⟨final, held⟩ ⟨changed, steps, still, answered, rfl⟩
  exact rest changed reply final (undisturbed steps) answered still

/-- Between two connections of the pass. -/
structure Unlocked (ids : List ConnectionId) (moment : StoreState × Held) : Prop where
  free : moment.2 = none
  global : ∀ id ∈ ids, GlobalAt id moment.1

/-- With the lock of one of them; its record is the one the lock found. -/
structure LockedOn (id : ConnectionId) (record : Option RecordFile) (ids : List ConnectionId) (moment : StoreState × Held) :
    Prop where
  held : moment.2 = some id
  record : moment.1.records id = record
  global : ∀ other ∈ ids, GlobalAt other moment.1

variable {record : Option RecordFile} {ids : List ConnectionId}

theorem LockedOn.undisturbed {moment changed : StoreState × Held} (locked : LockedOn id record ids moment)
    (same : Undisturbed moment changed) : LockedOn id record ids changed :=
  ⟨same.held.trans locked.held, (same.locked id locked.held).trans locked.record,
    fun other member => same.global other (locked.global other member)⟩

theorem LockedOn.same {moment : StoreState × Held} (locked : LockedOn id record ids moment)
    (same : after.records = moment.1.records) : LockedOn id record ids (after, moment.2) :=
  ⟨locked.held, (congrFun same id).trans locked.record, fun other member => by
    intro stored there
    exact locked.global other member stored (same ▸ there)⟩

/-- What loading the locked record may find. -/
def LoadedFrom (record : Option RecordFile) : Except AppError (Option StoredConnection) → Prop
  | .ok none => record = none
  | .ok (some stored) => record = some (.record stored)
  | .error _ => True

theorem load_locked {moment : StoreState × Held} (locked : LockedOn id record ids moment) :
    @Ensures storeCommands _ _ (bootEnvironment crates StillAutomatic) Proper (load id)
      (fun found final => LockedOn id record ids final ∧ LoadedFrom record found) moment := by
  have permitted : Proper moment (.readRecord id) := by
    intro own same
    cases locked.held.symm.trans same
    exact .inl rfl
  apply boot_call permitted
  rintro changed reply final same ⟨read, rfl⟩ _
  have here := locked.undisturbed same
  cases reply with
  | ok file =>
    obtain ⟨contents, there, rfl⟩ := read
    refine ⟨here, ?_⟩
    cases outcome : contents.read id with
    | error error => trivial
    | ok stored =>
      obtain ⟨rfl, _⟩ := RecordFile.read_ok_iff.mp outcome
      exact here.record.symm.trans there
  | error error =>
    dsimp only
    split
    · rename_i missing
      exact ⟨here, here.record.symm.trans (read missing)⟩
    · exact ⟨here, trivial⟩

/-- An eligible record is connected. -/
theorem connect_eligible {moment : StoreState × Held} {stored : StoredConnection}
    (locked : LockedOn id (some (.record stored)) ids moment) (wanted : eligible stored = true) (debug : Bool) :
    @Ensures storeCommands _ _ (bootEnvironment crates StillAutomatic) Proper (connect crates id debug)
      (fun _ final => LockedOn id (some (.record stored)) ids final) moment := by
  have stays : ∀ s op reply final, OnTunnel id op → LockedOn id (some (.record stored)) ids s →
      bootEnvironment crates StillAutomatic s op reply final → LockedOn id (some (.record stored)) ids final := by
    rintro s op reply ⟨final, held⟩ tunnel locked ⟨changed, steps, _, answered, rfl⟩
    have here := locked.undisturbed (Wgd.Store.undisturbed steps)
    have kept := here.same (tunnel.records answered)
    have quiet : holding changed.2 op reply = changed.2 := by
      cases op <;> first
        | rfl
        | exact tunnel.elim
    rw [quiet]
    exact kept
  have kept := @Issues.keeps storeCommands _ _ _ _ _ (bootEnvironment crates StillAutomatic) _ moment
    (@connect_tunnels id crates debug) stays locked
  refine (kept.relax ?_).mono fun _ _ both => both.1
  rintro s op ⟨here, _⟩ own same
  cases here.held.symm.trans same
  exact .inr (.inr ⟨stored, here.record, wanted⟩)

/-- One that has gone is not. -/
theorem connect_gone {moment : StoreState × Held} (locked : LockedOn id none ids moment) (debug : Bool) :
    @Ensures storeCommands _ _ (bootEnvironment crates StillAutomatic) Proper (connect crates id debug)
      (fun _ final => LockedOn id none ids final) moment := by
  have required : @Ensures storeCommands _ _ (bootEnvironment crates StillAutomatic) Proper (loadRequired id)
      (fun found final => LockedOn id none ids final ∧ ∀ stored, found ≠ .ok stored) moment := by
    apply ensures_attempt (load_locked locked)
    · intro error final holds
      exact ⟨holds.1, by simp⟩
    · intro found final holds
      cases found with
      | none => exact ⟨holds.1, by simp⟩
      | some stored => exact absurd holds.2 (by simp [LoadedFrom])
  apply ensures_attempt required
  · intro error final holds
    exact holds.1
  · intro stored final holds
    exact absurd rfl (holds.2 stored)

theorem reconcileLocked_proper {moment : StoreState × Held} (locked : LockedOn id record ids moment)
    (global : ∀ stored, record = some (.record stored) → stored.global = true)
    (still : ∀ stored, record = some (.record stored) → stored.startMode = .automatic ∨ stored.userDisconnected = true) :
    @Ensures storeCommands _ _ (bootEnvironment crates StillAutomatic) Proper (reconcileLocked crates id)
      (fun _ final => LockedOn id record ids final) moment := by
  apply ensures_attempt (load_locked locked)
  · intro error final holds
    exact holds.1
  rintro found final ⟨here, loaded⟩
  cases found with
  | none =>
    cases loaded
    exact connect_gone here false
  | some stored =>
    cases loaded
    dsimp only
    split
    · exact here
    · rename_i wanted
      apply connect_eligible here
      have automatic := (still stored rfl).resolve_right wanted
      simp [eligible, global stored rfl, automatic, wanted]

theorem reconcileConnect_proper {moment : StoreState × Held} (between : Unlocked (id :: ids) moment) :
    @Ensures storeCommands _ _ (bootEnvironment crates StillAutomatic) Proper (reconcileConnect crates id)
      (fun _ final => Unlocked ids final) moment := by
  have permitted : Proper moment (.lockConnection id .bounded) := by
    intro own same
    cases between.free.symm.trans same
  apply boot_call permitted
  rintro changed reply final same answered still
  cases answered
  have global : ∀ other ∈ id :: ids, GlobalAt other changed.1 :=
    fun other member => same.global other (between.global other member)
  cases reply with
  | error error => exact ⟨same.held.trans between.free, fun other member => global other (List.mem_cons_of_mem _ member)⟩
  | ok value =>
    have locked : LockedOn id (changed.1.records id) ids (changed.1, some id) :=
      ⟨rfl, rfl, fun other member => global other (List.mem_cons_of_mem _ member)⟩
    apply ensures_bind (reconcileLocked_proper locked (global id List.mem_cons_self) still)
    intro result after here
    have unlocks : Proper after (.unlockConnection id) := by
      intro own same
      cases here.held.symm.trans same
      exact .inr (.inl rfl)
    apply boot_call unlocks
    rintro changed' reply final same' answered' _
    cases answered'
    exact ⟨rfl, (here.undisturbed same').global⟩

theorem reconcileAll_proper {moment : StoreState × Held} (between : Unlocked ids moment) :
    @Ensures storeCommands _ _ (bootEnvironment crates StillAutomatic) Proper (reconcileAll crates ids)
      (fun _ _ => True) moment := by
  induction ids generalizing moment with
  | nil => trivial
  | cons id rest ih =>
    apply ensures_bind (reconcileConnect_proper between)
    intro connected after between
    apply ensures_bind (ih between)
    intro others last _
    trivial

/-- Looking for candidates only reads, and each candidate was listed as eligible. -/
theorem bootReconcileCandidates_reads (connections : List StoredConnection) :
    @Issues storeCommands _ (fun op => (∃ id, op = .readActive id) ∨ ∃ path, op = .tryExists path)
      (bootReconcileCandidates connections)
      (fun ids => ∀ id ∈ ids, ∃ stored ∈ connections, stored.id = id ∧ eligible stored = true) := by
  induction connections with
  | nil => simp [bootReconcileCandidates]
  | cons stored rest ih =>
    have later : ∀ ids : List ConnectionId, (∀ id ∈ ids, ∃ stored ∈ rest, stored.id = id ∧ eligible stored = true) →
        ∀ id ∈ ids, ∃ found ∈ stored :: rest, found.id = id ∧ eligible found = true := by
      intro ids among id member
      obtain ⟨found, listed, holds⟩ := among id member
      exact ⟨found, List.mem_cons_of_mem _ listed, holds⟩
    unfold bootReconcileCandidates
    split
    · rename_i wanted
      have connected : @Issues storeCommands _ (fun op => (∃ id, op = .readActive id) ∨ ∃ path, op = .tryExists path)
          (isConnected stored.id) fun _ => True := by
        apply Issues.bind (isActive_issues (.inl ⟨_, rfl⟩) fun path => .inr ⟨path, rfl⟩)
        intro active _
        trivial
      apply Issues.bind connected
      intro active _
      apply Issues.bind ih
      intro ids among
      cases active with
      | true => exact later ids among
      | false =>
        intro id member
        rcases List.mem_cons.mp member with rfl | member
        · exact ⟨stored, List.mem_cons_self, rfl, wanted⟩
        · exact later ids among id member
    · exact ih.mono fun ids among => later ids among

theorem reconcileBootOnce_proper {moment : StoreState × Held} (free : moment.2 = none) :
    @Ensures storeCommands _ _ (bootEnvironment crates StillAutomatic) Proper (reconcileBootOnce crates)
      (fun _ _ => True) moment := by
  have idle : ∀ {s : StoreState × Held} {op}, s.2 = none → Proper s op := by
    intro s op free own same
    cases free.symm.trans same
  have listed : @Ensures storeCommands _ _ (bootEnvironment crates StillAutomatic) Proper loadAll
      (fun found final => final.2 = none ∧ ∀ connections, found = .ok connections →
        ∀ stored ∈ connections, eligible stored = true → GlobalAt stored.id final.1) moment := by
    apply boot_call (idle free)
    intro changed reply final same answered _
    cases reply with
    | error error => exact ⟨same.held.trans free, by simp⟩
    | ok entries =>
      obtain ⟨listed, rfl⟩ := answered
      refine ⟨same.held.trans free, ?_⟩
      rintro connections ⟨⟩ stored member wanted found there
      obtain ⟨entry, among, read⟩ := List.mem_filterMap.mp member
      have whole : entry.read = .ok stored := by
        cases outcome : entry.read with
        | error error => simp [readable, outcome, Except.toOption] at read
        | ok found =>
          simp only [readable, outcome, Except.toOption, Option.some.injEq] at read
          rw [read]
      obtain ⟨_, disk, _⟩ := listed.read_ok among whole
      cases disk.symm.trans there
      simp only [eligible, Bool.and_eq_true] at wanted
      exact wanted.1.1
  apply ensures_bind listed
  rintro found after ⟨free, global⟩
  cases found with
  | error error => trivial
  | ok connections =>
    have stays : ∀ (s : StoreState × Held) op reply final, ((∃ id, op = .readActive id) ∨ ∃ path, op = .tryExists path) →
        (s.2 = none ∧ ∀ stored ∈ connections, eligible stored = true → GlobalAt stored.id s.1) →
        bootEnvironment crates StillAutomatic s op reply final →
        final.2 = none ∧ ∀ stored ∈ connections, eligible stored = true → GlobalAt stored.id final.1 := by
      rintro s op reply ⟨final, held⟩ reads ⟨free, global⟩ ⟨changed, steps, _, answered, rfl⟩
      have same := undisturbed steps
      have records : final.records = changed.1.records := by
        rcases reads with ⟨id, rfl⟩ | ⟨path, rfl⟩ <;> exact records_unchanged answered (by simp) (by simp)
      have quiet : holding changed.2 op reply = changed.2 := by
        rcases reads with ⟨id, rfl⟩ | ⟨path, rfl⟩ <;> rfl
      constructor
      · exact quiet.trans (same.held.trans free)
      · intro stored member wanted found there
        exact same.global stored.id (global stored member wanted) found (records ▸ there)
    have candidates := @Issues.keeps storeCommands _ _ _ _ _ (bootEnvironment crates StillAutomatic) _ after
      (bootReconcileCandidates_reads connections) stays ⟨free, global connections rfl⟩
    apply ensures_bind (candidates.relax fun _ _ both => idle both.1.1)
    rintro ids last ⟨⟨free, global⟩, among⟩
    apply reconcileAll_proper
    constructor
    · exact free
    · intro id member
      obtain ⟨stored, listed, rfl, wanted⟩ := among id member
      exact global stored listed wanted

/-- Every connect of the pass is of a record that is eligible at that very moment. -/
def ConnectsEligible (crates : Crates) (condition : StoreState × Held → (op : StoreOp) → op.Reply → Prop) : Prop :=
  ∀ (start : StoreState) (moment now : StoreState × Held) (id : ConnectionId) (op : StoreOp) (next : op.Reply → StoreProgram Bool),
    @Runs storeCommands _ _ (bootEnvironment crates condition) ((start, none), reconcileBootOnce crates)
      (moment, .call op next) →
    Relation.ReflTransGen (Meanwhile crates) moment now → now.2 = some id →
    op ≠ .readRecord id → op ≠ .unlockConnection id → Eligible now.1 id

/-- Where every lock the pass is granted finds a record that is still automatic or no
longer wanted, the pass connects eligible records only. -/
theorem boot_connects_eligible (crates : Crates) : ConnectsEligible crates StillAutomatic := by
  intro start moment now id op next run others held looks unlocks
  have same := undisturbed others
  have locked : moment.2 = some id := same.held.symm.trans held
  have proper := ((reconcileBootOnce_proper rfl).runs run).1
  obtain ⟨stored, there, wanted⟩ := ((proper id locked).resolve_left looks).resolve_left unlocks
  exact ⟨stored, (same.locked id locked).trans there, wanted⟩

/-! ### A change of mode behind the pass's back -/

def scriptedBoot : Handler storeCommands (Scripted × Held) :=
  @Handler.observe storeCommands _ _ (scriptedStore workingCues) holding

def bootMoment (script : Scripted × Held) : StoreState × Held := (script.1.state, script.2)

theorem scriptedBoot_faithful : scriptedBoot.Faithful bootMoment
    ((@Environment.observe storeCommands _ _ storeEnvironment holding).meeting fun _ _ _ => True) :=
  fun script op => ⟨trivial, (scriptedStore_faithful workingCues).observe holding script op⟩

theorem scriptedBoot_runs (fuel : Nat) (script : Scripted × Held) (p : StoreProgram Bool) :
    @Runs storeCommands _ _ (bootEnvironment crates fun _ _ _ => True) (bootMoment script, p)
      (bootMoment (interpretFor scriptedBoot fuel (script, p)).1, (interpretFor scriptedBoot fuel (script, p)).2) :=
  Runs.mono (fun state _ _ _ answered => ⟨state, .refl, answered⟩) (interpretFor_runs scriptedBoot_faithful fuel script p)

/-- The pass goes on after another handler. -/
theorem scriptedBoot_goes_on {moment : StoreState × Held} (fuel : Nat) {script : Scripted × Held} {p : StoreProgram Bool}
    (step : Meanwhile crates moment (bootMoment script)) (going : p.upcoming.isSome = true) :
    @Runs storeCommands _ _ (bootEnvironment crates fun _ _ _ => True) (moment, p)
      (bootMoment (interpretFor scriptedBoot (fuel + 1) (script, p)).1, (interpretFor scriptedBoot (fuel + 1) (script, p)).2) := by
  obtain ⟨op, first⟩ := Option.isSome_iff_exists.mp going
  obtain ⟨next, rfl⟩ := Program.upcoming_call first
  exact interpretFor_after scriptedBoot_faithful (.single step) fuel

theorem meanwhile_played {script : Scripted × Held} (locked : LockedSection) (kind : locked.meanwhile = true)
    (free : script.2 ≠ some id) :
    Meanwhile crates (bootMoment script) (bootMoment ((play workingCues (locked.program crates id) script.1).2, script.2)) :=
  .handled kind free (play_completes rfl)

/-- The pass has listed its candidates, and is about to lock the first. -/
def listedBoot : (Scripted × Held) × StoreProgram Bool :=
  interpretFor scriptedBoot 2 ((storedScript, none), reconcileBootOnce exampleCrates)

/-- Root makes the connection manual, there and then. -/
def manualBoot : Scripted × Held :=
  ((play workingCues ((LockedSection.setMode .stdio .manual none).program exampleCrates exampleId) listedBoot.1.1).2,
    listedBoot.1.2)

/-- The pass goes on up to the start of a helper. -/
def startingBoot : (Scripted × Held) × StoreProgram Bool := interpretFor scriptedBoot (15 + 1) (manualBoot, listedBoot.2)

/-- The pass starts the helper of a connection that is not to start by itself. -/
theorem boot_connects_manual : ¬ ConnectsEligible exampleCrates fun _ _ _ => True := by
  intro connects
  have evaluated : (listedBoot.1.2 = none ∧ listedBoot.2.upcoming.isSome = true) ∧
      (bootMoment startingBoot.1).1.records exampleId = some (.record { exampleStored.inMode .manual with updatedAt := 7 }) ∧
      (bootMoment startingBoot.1).2 = some exampleId ∧ startingBoot.2.upcoming.map StoreOp.raises = some true := by
    decide +kernel
  obtain ⟨⟨unlocked, going⟩, record, held, starts⟩ := evaluated
  have changed : Meanwhile exampleCrates (bootMoment listedBoot.1) (bootMoment manualBoot) :=
    meanwhile_played (.setMode .stdio .manual none) rfl (by simp [unlocked])
  have listed : @Runs storeCommands _ _ (bootEnvironment exampleCrates fun _ _ _ => True)
      (bootMoment (storedScript, none), reconcileBootOnce exampleCrates) (bootMoment listedBoot.1, listedBoot.2) := by
    unfold listedBoot
    exact scriptedBoot_runs 2 (storedScript, none) _
  have started : @Runs storeCommands _ _ (bootEnvironment exampleCrates fun _ _ _ => True)
      (bootMoment listedBoot.1, listedBoot.2) (bootMoment startingBoot.1, startingBoot.2) := by
    unfold startingBoot
    exact scriptedBoot_goes_on 15 changed going
  obtain ⟨op, first, raises⟩ := Option.map_eq_some_iff.mp starts
  obtain ⟨next, whole⟩ := Program.upcoming_call first
  rw [whole] at started
  have looks : op ≠ .readRecord exampleId := by
    rintro rfl
    cases raises
  have unlocks : op ≠ .unlockConnection exampleId := by
    rintro rfl
    cases raises
  obtain ⟨stored, there, wanted⟩ := connects _ _ _ _ _ _ (listed.trans started) .refl held looks unlocks
  cases record.symm.trans there
  simp [Wgd.Store.eligible, StoredConnection.inMode] at wanted

end Wgd.Store
