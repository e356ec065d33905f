import Wgd.Interaction.Observed
import Wgd.Store.Accessors
import Wgd.Store.Script

/-! A connect adopts a tunnel that its own marker describes, starts a helper where no socket is
left, and keeps away from everything else. -/

set_option autoImplicit false

namespace Wgd.Store

open Wgd.Interaction Wgd.Net Wgd.Links Wgd.Config Wgd.Helper

/-- What has been seen of a connect: the state its marker was read in, and whether a helper was started. -/
structure Sighting where
  checked : Option StoreState
  started : Bool

def Sighting.none : Sighting := ⟨.none, false⟩

def Sighting.note (seen : Sighting) (state : StoreState) (op : StoreOp) (_ : op.Reply) : Sighting :=
  match op with
  | .readActive _ => { seen with checked := some state }
  | .spawnHelper _ => { seen with started := true }
  | _ => seen

abbrev sighted : Environment storeCommands (StoreState × Sighting) :=
  @Environment.sighted storeCommands _ _ storeEnvironment Sighting.note

/-- The marker describes the socket that is there, and the record as it is. -/
def Adoptable (stored : StoredConnection) (state : StoreState) : Prop :=
  ∃ marker file, state.active stored.id = some (.marker marker) ∧ state.runtime marker.socket = some file ∧
    marker.recorded file.metadata = true ∧ marker.fingerprint = stored.fingerprint

/-- A socket is there that is not the connection's own. -/
inductive Foreign (stored : StoredConnection) (state : StoreState) : Prop where
  | marked {marker : ActiveConnectionState} {file : RuntimeFile} (active : state.active stored.id = some (.marker marker))
      (there : state.runtime marker.socket = some file)
      (other : marker.recorded file.metadata = false ∨ marker.fingerprint ≠ stored.fingerprint)
  | unmarked (there : (state.runtime (socketPath stored.interface)).isSome = true) (none : ¬ Adoptable stored state)

/-- All a connect does before it looks at its marker: what a dead helper left may be gone. -/
structure Cleaned (interface : String) (before after : StoreState) : Prop where
  records : after.records = before.records
  active : after.active = before.active
  running : after.running = before.running
  files : FilesRemoved interface before.runtime after.runtime
  alive : before.running interface = true → after.runtime = before.runtime

/-- Why a connect that finds a foreign socket fails: by the conflict, or because it could not look. -/
inductive Unverified (state : StoreState) (id : ConnectionId) : AppError → Prop where
  | conflict : Unverified state id conflict
  | unreadable (error : IoError) : Unverified state id (.io error)
  | malformed {message : String} (active : state.active id = some (.malformed message)) : Unverified state id (.json message)

variable {crates : Crates} {id : ConnectionId} {interface : String} {start state : StoreState} {seen : Sighting}
  {stored : StoredConnection}

theorem Cleaned.refl (interface : String) (state : StoreState) : Cleaned interface state state :=
  ⟨rfl, rfl, rfl, fun _ => .inl rfl, fun _ => rfl⟩

theorem Cleaned.there {before after : StoreState} (cleaned : Cleaned interface before after) {path : String} {file : RuntimeFile}
    (there : after.runtime path = some file) : before.runtime path = some file := by
  rcases cleaned.files path with same | ⟨-, gone⟩
  · rw [← same, there]
  · rw [gone] at there
    cases there

/-- The ghost does not see these calls. -/
def Aside (op : StoreOp) : Prop := (∀ other, op ≠ .readActive other) ∧ ∀ spec, op ≠ .spawnHelper spec

theorem Cleaned.trans {first second third : StoreState} (earlier : Cleaned interface first second)
    (later : Cleaned interface second third) : Cleaned interface first third where
  records := later.records.trans earlier.records
  active := later.active.trans earlier.active
  running := later.running.trans earlier.running
  files := by
    intro path
    rcases later.files path with same | gone
    · rw [same]
      exact earlier.files path
    · exact .inr gone
  alive := by
    intro alive
    rw [later.alive (by rw [earlier.running]; exact alive), earlier.alive alive]

/-- What the look at the marker and its socket may find, with everything left as it is. -/
def Looked (id : ConnectionId) (stored : StoredConnection) (state : StoreState) (result : Except AppError Bool)
    (after : StoreState) : Prop :=
  after = state ∧
    match result with
    | .ok true => Adoptable stored state
    | .ok false => ∀ marker, state.active id = some (.marker marker) → state.runtime marker.socket = none
    | .error error => Unverified state id error

variable {debug : Bool}

/-- Of these calls none makes a socket, and the ghost sees none. -/
def MakesNone (op : StoreOp) : Prop := Aside op ∧ ∀ interface seconds, op ≠ .waitForCleanupStatus interface seconds

theorem MakesNone.absent {op : StoreOp} {reply : op.Reply} {after : StoreState} {path : String} (none : MakesNone op)
    (answered : storeEnvironment state op reply after) (absent : state.runtime path = .none) : after.runtime path = .none := by
  obtain ⟨⟨reads, starts⟩, waits⟩ := none
  cases op
  case spawnHelper spec => exact absurd rfl (starts spec)
  case waitForCleanupStatus interface seconds => exact absurd rfl (waits interface seconds)
  case sweepInterface interface =>
    obtain ⟨runtime, files, -, rfl⟩ := answered
    rcases files path with same | ⟨-, gone⟩
    · exact same.trans absent
    · exact gone
  case removeFile other =>
    cases answered
    cases reply with
    | error error => exact absent
    | ok value =>
      by_cases here : path = other
      · subst here
        exact Function.update_self _ _ _
      · exact (Function.update_of_ne here _ _).trans absent
  case removeRegularFile other =>
    rcases answered with rfl | rfl
    · exact absent
    · by_cases here : path = other
      · subst here
        exact Function.update_self _ _ _
      · exact (Function.update_of_ne here _ _).trans absent
  case listRecords =>
    cases reply with
    | error error =>
      cases answered
      exact absent
    | ok entries =>
      rw [answered.2]
      exact absent
  case tryExists other =>
    cases reply with
    | error error =>
      cases answered
      exact absent
    | ok there =>
      rw [answered.2]
      exact absent
  all_goals first
    | (rw [answered.2]; exact absent)
    | (cases answered; exact absent)

/-- The ghost keeps what was checked, and no helper is up that was not started. -/
def Launched (seen : Sighting) (result : Except AppError Unit) (config : StoreState × Sighting) : Prop :=
  config.2.checked = seen.checked ∧ (result = .ok () → config.2.started = true)

theorem Launched.failed (error : AppError) (config : StoreState × Sighting) (same : config.2 = seen) :
    Launched seen (.error error) config := ⟨by rw [same], fun fine => by cases fine⟩

theorem Launched.depends {result : Except AppError Unit} {first second : StoreState × Sighting} (launched : Launched seen result first)
    (same : second.2 = first.2) : Launched seen result second := by
  rw [Launched, same]
  exact launched

/-- How a connect ends. -/
structure Verdict (id : ConnectionId) (start : StoreState) (result : Except AppError Unit) (config : StoreState × Sighting) :
    Prop where
  /-- It succeeds without a helper of its own on one that is recorded for it. -/
  adopted : result = .ok () → config.2.started = false → config.1.records = start.records ∧
    config.1.active = start.active ∧ ∃ stored, start.records id = some (.record stored) ∧ Adoptable stored config.1
  /-- It fails before it has looked at its marker. -/
  unchecked : config.2.checked = none → config.2.started = false ∧ (∃ error, result = .error error) ∧
    Cleaned id.interfaceName start config.1
  /-- It looked, and a foreign socket is left alone. -/
  checked : ∀ state, config.2.checked = some state → Cleaned id.interfaceName start state ∧
    ∀ stored, start.records id = some (.record stored) → Foreign stored state →
      config.1 = state ∧ config.2.started = false ∧ ∃ error, result = .error error ∧ Unverified state id error

theorem Verdict.early {error : AppError} (cleaned : Cleaned id.interfaceName start state) :
    Verdict id start (.error error) (state, .none) where
  adopted fine := by cases fine
  unchecked _ := ⟨rfl, ⟨error, rfl⟩, cleaned⟩
  checked _ none := by cases none

/-- The look was enough to tell. -/
theorem Verdict.looked {error : AppError} (cleaned : Cleaned id.interfaceName start state) (unverified : Unverified state id error) :
    Verdict id start (.error error) (state, ⟨some state, false⟩) where
  adopted fine := by cases fine
  unchecked none := by cases none
  checked _ same := by
    cases same
    exact ⟨cleaned, fun _ _ _ => ⟨rfl, rfl, error, rfl, unverified⟩⟩

end Wgd.Store
