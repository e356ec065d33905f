import Wgd.Store.Requests
import Wgd.Store.Script

/-! Configurations change, and global connections come to start by themselves, with an
admin's consent only. -/

set_option autoImplicit false

namespace Wgd.Store

open Wgd.Interaction Wgd.Net Wgd.Links Wgd.Config Wgd.Helper Wgd.Daemon

/-- The same configuration, in all its forms. -/
def SameConfiguration (old stored : StoredConnection) : Prop :=
  stored.config = old.config ∧ stored.rawConf = old.rawConf ∧ stored.fingerprint = old.fingerprint

/-- A change of the store that takes an admin. -/
inductive NeedsAdmin (before after : StoreState) : Prop where
  | created {id : ConnectionId} (absent : before.records id = none) (there : after.records id ≠ none)
  | deleted {id : ConnectionId} (there : before.records id ≠ none) (absent : after.records id = none)
  | reconfigured {id : ConnectionId} {old stored : StoredConnection} (was : before.records id = some (.record old))
      (becomes : after.records id = some (.record stored)) (other : ¬ SameConfiguration old stored)
  | elevated {id : ConnectionId} {old stored : StoredConnection} (was : before.records id = some (.record old))
      (becomes : after.records id = some (.record stored)) (global : old.global = true) (manual : old.startMode = .manual)
      (automatic : stored.startMode = .automatic)

/-- A record as an ordinary change leaves it. -/
structure OrdinaryChange (old stored : StoredConnection) : Prop where
  same : SameConfiguration old stored
  global : stored.global = old.global
  manual : old.global = true → old.startMode = .manual → stored.startMode = .manual

/-- The store as any number of ordinary changes leave it. -/
structure Ordinary (before after : StoreState) : Prop where
  absent : ∀ id, after.records id = none ↔ before.records id = none
  changed : ∀ id stored, after.records id = some (.record stored) →
    ∃ old, before.records id = some (.record old) ∧ OrdinaryChange old stored

variable {state after : StoreState} {crates : Crates} {admitted : Prop} {force : Bool}

theorem OrdinaryChange.refl (stored : StoredConnection) : OrdinaryChange stored stored :=
  ⟨⟨rfl, rfl, rfl⟩, rfl, fun _ manual => manual⟩

theorem OrdinaryChange.trans {first second third : StoredConnection} (earlier : OrdinaryChange first second)
    (later : OrdinaryChange second third) : OrdinaryChange first third := by
  obtain ⟨⟨config, text, identity⟩, global, manual⟩ := earlier
  obtain ⟨⟨config', text', identity'⟩, global', manual'⟩ := later
  constructor
  · exact ⟨config'.trans config, text'.trans text, identity'.trans identity⟩
  · exact global'.trans global
  · intro isGlobal isManual
    exact manual' (global.trans isGlobal) (manual isGlobal isManual)

theorem Ordinary.refl (state : StoreState) : Ordinary state state :=
  ⟨fun _ => Iff.rfl, fun _ stored there => ⟨stored, there, .refl stored⟩⟩

theorem Ordinary.trans {first second third : StoreState} (earlier : Ordinary first second) (later : Ordinary second third) :
    Ordinary first third := by
  constructor
  · intro id
    exact (later.absent id).trans (earlier.absent id)
  · intro id stored there
    obtain ⟨middle, between, change'⟩ := later.changed id stored there
    obtain ⟨old, was, change⟩ := earlier.changed id middle between
    exact ⟨old, was, change.trans change'⟩

theorem Ordinary.of_records (same : after.records = state.records) : Ordinary state after := by
  constructor
  · intro id
    rw [same]
  · intro id stored there
    exact ⟨stored, same ▸ there, .refl stored⟩

/-- Ordinary changes never add up to one that takes an admin. -/
theorem Ordinary.not_needsAdmin (ordinary : Ordinary state after) : ¬ NeedsAdmin state after := by
  intro needs
  cases needs with
  | created absent there => exact there ((ordinary.absent _).mpr absent)
  | deleted there absent => exact there ((ordinary.absent _).mp absent)
  | reconfigured was becomes other =>
    obtain ⟨old, was', change⟩ := ordinary.changed _ _ becomes
    cases was.symm.trans was'
    exact other change.same
  | elevated was becomes global manual automatic =>
    obtain ⟨old, was', change⟩ := ordinary.changed _ _ becomes
    cases was.symm.trans was'
    cases (change.manual global manual).symm.trans automatic

theorem RecordChange.ordinary {old stored : StoredConnection} (refused : ¬ admitted)
    (change : RecordChange crates admitted force state old stored) : OrdinaryChange old stored := by
  cases change with
  | wish userDisconnected => exact ⟨⟨rfl, rfl, rfl⟩, rfl, fun _ manual => manual⟩
  | source sourcePath now => exact ⟨⟨rfl, rfl, rfl⟩, rfl, fun _ manual => manual⟩
  | dnsStore enabled now => exact ⟨⟨rfl, rfl, rfl⟩, rfl, fun _ manual => manual⟩
  | links valid now => exact ⟨⟨rfl, rfl, rfl⟩, rfl, fun _ manual => manual⟩
  | config parses free allowed sourcePath now => exact absurd allowed refused
  | mode startMode now elevation =>
    refine ⟨⟨rfl, rfl, rfl⟩, rfl, fun global manual => ?_⟩
    cases startMode with
    | manual => rfl
    | automatic => exact absurd (elevation (by simp [elevates, global, manual])) refused
  | @resubmitted request nameFree elevation now =>
    unfold Resubmission.apply
    dsimp only
    split_ifs with named source mode
    all_goals try exact ⟨⟨rfl, rfl, rfl⟩, rfl, fun _ manual => manual⟩
    -- The start mode is the one asked for.
    all_goals
      refine ⟨⟨rfl, rfl, rfl⟩, rfl, fun global manual => ?_⟩
      cases asked : request.startMode with
      | manual => rfl
      | automatic => exact absurd (elevation (by simp [elevates, global, manual, asked])) refused

theorem InRequest.ordinary {op : StoreOp} {reply : op.Reply} (refused : ¬ admitted)
    (allowed : InRequest crates admitted force state op) (answered : storeEnvironment state op reply after) :
    Ordinary state after := by
  cases op
  case writeRecord stored =>
    cases allowed with
    | created fresh => exact absurd fresh.allowed refused
    | @changed old own change =>
      have written : Ordinary state (state.withRecord stored) := by
        constructor
        · intro id
          by_cases same : id = stored.id
          · subst same
            simp [own.there]
          · rw [withRecord_other same]
        · intro id found there
          by_cases same : id = stored.id
          · subst same
            rw [withRecord_same] at there
            cases there
            exact ⟨old, own.there, change.ordinary refused⟩
          · rw [withRecord_other same] at there
            exact ⟨found, there, .refl found⟩
      cases answered
      cases reply with
      | failed error => exact .refl _
      | written => exact written
      | unsynced error => exact written
  case removeRecord id => exact absurd allowed refused
  all_goals exact .of_records (records_unchanged answered (by simp) (by simp))

/-- A ghost of the forms that were accepted. -/
def acceptedForms (forms : List (List UInt8)) (op : StoreOp) (reply : op.Reply) : List (List UInt8) :=
  match op, reply with
  | .verifyExternalForm form, .ok () => form :: forms
  | _, _ => forms

/-- The ghost has it that the form of an accepted call was accepted. -/
def notesAccepted (forms : List (List UInt8)) (op : StoreOp) (reply : op.Reply) : Prop :=
  match op, reply with
  | .verifyExternalForm form, .ok () => form ∈ forms
  | _, _ => True

theorem acceptedForms_noted (forms : List (List UInt8)) (op : StoreOp) (reply : op.Reply) :
    notesAccepted (acceptedForms forms op reply) op reply := by
  cases op
  case verifyExternalForm form =>
    cases reply with
    | ok value => exact List.mem_cons_self
    | error error => trivial
  all_goals trivial

theorem acceptedForms_lasting (forms : List (List UInt8)) (op : StoreOp) (reply : op.Reply) (op' : StoreOp) (reply' : op'.Reply)
    (before : notesAccepted forms op reply) : notesAccepted (acceptedForms forms op' reply') op reply := by
  cases op
  case verifyExternalForm form =>
    cases reply with
    | error error => trivial
    | ok value =>
      have among : form ∈ forms := before
      show form ∈ acceptedForms forms op' reply'
      cases op'
      case verifyExternalForm form' =>
        cases reply' with
        | ok value => exact List.mem_cons_of_mem _ among
        | error error => exact among
      all_goals exact among
  all_goals trivial

theorem consults_accepted (forms : List (List UInt8)) :
    Consults (· ∈ forms) (storeEnvironment.meeting fun _ => notesAccepted forms) :=
  fun _ _ _ answered => answered.1

/-- Whatever the store, the caller and the request: a change that takes an admin is made only
by a request whose own form was accepted, and a refusal leaves every record and marker alone. -/
theorem admin_gate {control control' : ControlState} {origin : PeerOrigin} {request : PrivilegedRequest}
    {response : PrivilegedResponse} {accepted : List (List UInt8)}
    (served : @Completes storeCommands _ _ (@Environment.observe storeCommands _ _ storeEnvironment acceptedForms)
      (serveRequest crates control origin request) (state, []) (response, control') (after, accepted)) :
    (NeedsAdmin state after → ∃ form, request.authExternalForm = some form ∧ form ∈ accepted) ∧
      (response.refuses = true → after.records = state.records ∧ after.active = state.active) := by
  have run := (@Runs.noted storeCommands _ _ storeEnvironment _ acceptedForms notesAccepted acceptedForms_noted
    acceptedForms_lasting _ _ _ _ served).1
  have discipline := @serveRequest_discipline _ state crates _ (within_meeting _) (consults_accepted accepted) control origin request
  constructor
  · intro needs
    by_contra refused
    have ordinary := discipline.related Ordinary.refl (fun _ _ _ earlier later => earlier.trans later)
      (fun _ _ _ _ allowed answered => InRequest.ordinary refused allowed answered.2) run
    exact ordinary.not_needsAdmin needs
  · exact discipline.completes run

/-- Root removes the one connection, with a form that is accepted. -/
def removal : PrivilegedRequest := .removeConnection exampleId (some [1])

def plainControl : ControlState := ⟨[], false, false⟩

def removed : (PrivilegedResponse × ControlState) × Scripted × List (List UInt8) :=
  interpret (@Handler.observe storeCommands _ _ (scriptedStore { workingCues with accepts := fun _ => true }) acceptedForms)
    (serveRequest exampleCrates plainControl .stdio removal) (storedScript, [])

theorem admin_gate_removed : ∃ form, removal.authExternalForm = some form ∧ form ∈ removed.2.2 := by
  have gone : removed.2.1.state.records exampleId = none := by decide +kernel
  have served := interpret_completes ((scriptedStore_faithful { workingCues with accepts := fun _ => true }).observe acceptedForms)
    (storedScript, []) (serveRequest exampleCrates plainControl .stdio removal)
  have there : storedScript.state.records exampleId ≠ none := by decide +kernel
  exact (admin_gate served).1 (.deleted there gone)

end Wgd.Store
