import Mathlib.Logic.Function.Basic
import Wgd.Store.Dispatch

/-! What the daemon's calls find and leave behind: the record and marker files, the
helpers' runtime files, and which helpers run. Any file operation may fail. Hooks
and commands are taken to leave all of these alone. -/

set_option autoImplicit false

namespace Wgd.Store

open Wgd.Interaction Wgd.Net Wgd.Helper

/-- A file in the helpers' runtime directory. -/
structure RuntimeFile where
  metadata : SocketMetadata
  contents : String
  deriving DecidableEq

structure StoreState where
  records : ConnectionId → Option RecordFile
  active : ConnectionId → Option ActiveFile
  /-- By path. -/
  runtime : String → Option RuntimeFile
  /-- By interface. -/
  running : String → Bool

/-- The file belongs to the helper of this interface. -/
def ownPath (interface path : String) : Prop :=
  path ∈ gotatunCleanupStatusPath interface :: staleRuntimePaths interface

instance (interface path : String) : Decidable (ownPath interface path) := by
  unfold ownPath
  infer_instance

/-- Only runtime files of this interface may differ. -/
def OwnFilesChanged (interface : String) (before after : String → Option RuntimeFile) : Prop :=
  ∀ path, ¬ ownPath interface path → after path = before path

/-- Some runtime files are gone. -/
def FilesRemoved (interface : String) (before after : String → Option RuntimeFile) : Prop :=
  ∀ path, after path = before path ∨ (path ∈ staleRuntimePaths interface ∧ after path = none)

/-- A file read, as far as the file decides its outcome. -/
def reads {F A : Type} (file : Option F) (matching : F → A → Prop) : Except IoError A → Prop
  | .ok value => ∃ contents, file = some contents ∧ matching contents value
  | .error error => error.kind = .notFound → file = none

/-- A listing names every file there is once, and nothing else. -/
structure Listed (records : ConnectionId → Option RecordFile) (entries : List ListedEntry) : Prop where
  there : ∀ entry ∈ entries, ∀ id, entry.id = some id → records id ≠ none
  contents : ∀ entry ∈ entries, ∀ id file, entry.id = some id → entry.contents = .ok file → records id = some file
  all : ∀ id, records id ≠ none → ∃ entry ∈ entries, entry.id = some id
  once : entries.Pairwise fun first second => first.id = none ∨ first.id ≠ second.id

/-- A file that was written, or may have been, or was not. -/
def WriteOutcome.stores {K V : Type} [DecidableEq K] (outcome : WriteOutcome) (files : K → Option V) (key : K)
    (file : V) : K → Option V :=
  match outcome with
  | .written | .unsynced _ => Function.update files key (some file)
  | .failed _ => files

/-- A file that was removed, or is still there. -/
def removes {K V : Type} [DecidableEq K] (outcome : Except IoError Unit) (files : K → Option V) (key : K) :
    K → Option V :=
  match outcome with
  | .ok () => Function.update files key none
  | .error _ => files

/-- A helper that was asked to shut down may end during the wait; its status file is
then there, and its other runtime files may be gone. -/
inductive HelperWait (interface : String) (state : StoreState) : Option String → StoreState → Prop where
  | goesOn {status : Option String}
      (stale : ∀ text, status = some text →
        ∃ file, state.runtime (gotatunCleanupStatusPath interface) = some file ∧
          String.ofList (trim file.contents.toList) = text) :
      HelperWait interface state status state
  | ends {status : Option String} {runtime : String → Option RuntimeFile}
      (files : OwnFilesChanged interface state.runtime runtime) :
      HelperWait interface state status
        { state with runtime := runtime, running := Function.update state.running interface false }

/-- A helper that has reported itself ready runs, and has written its runtime files. -/
inductive HelperSpawn (interface : String) (state : StoreState) : Except String ExitStatus → StoreState → Prop where
  | notStarted {error : String} : HelperSpawn interface state (.error error) state
  | failed {status : ExitStatus} (failure : status.success = false) : HelperSpawn interface state (.ok status) state
  | ready {status : ExitStatus} {runtime : String → Option RuntimeFile} (success : status.success = true)
      (files : ∀ path, path ∉ staleRuntimePaths interface → runtime path = state.runtime path) :
      HelperSpawn interface state (.ok status)
        { state with runtime := runtime, running := Function.update state.running interface true }

def storeEnvironment : Environment storeCommands StoreState := fun state op reply after =>
  match op, reply with
  | .readRecord id, reply => reads (state.records id) (· = ·) reply ∧ after = state
  | .listRecords, .ok entries => Listed state.records entries ∧ after = state
  | .writeRecord stored, outcome =>
    after = { state with records := outcome.stores state.records stored.id (.record stored) }
  | .removeRecord id, outcome => after = { state with records := removes outcome state.records id }
  | .readActive id, reply => reads (state.active id) (· = ·) reply ∧ after = state
  | .writeActive id marker, outcome =>
    after = { state with active := outcome.stores state.active id (.marker marker) }
  | .removeActive id, outcome => after = { state with active := removes outcome state.active id }
  | .tryExists path, .ok there => there = (state.runtime path).isSome ∧ after = state
  | .pathExists path, there => there = (state.runtime path).isSome ∧ after = state
  | .metadata path, reply => reads (state.runtime path) (fun file metadata => file.metadata = metadata) reply ∧ after = state
  | .readFile path, reply => reads (state.runtime path) (fun file text => file.contents = text) reply ∧ after = state
  | .removeFile path, outcome => after = { state with runtime := removes outcome state.runtime path }
  | .removeRegularFile path, () =>
    after = state ∨ after = { state with runtime := Function.update state.runtime path none }
  | .waitForCleanupStatus interface _, status => HelperWait interface state status after
  | .spawnHelper spec, outcome => HelperSpawn spec.interface state outcome after
  -- A helper that runs listens on its socket or has its pid file.
  | .helperIsLiveWithoutRecord interface, live => (state.running interface = true → live = true) ∧ after = state
  -- Only what a dead helper left behind is swept.
  | .sweepInterface interface, () =>
    ∃ runtime, FilesRemoved interface state.runtime runtime ∧ (state.running interface = true → runtime = state.runtime) ∧
      after = { state with runtime := runtime }
  | _, _ => after = state

variable {state after : StoreState}

/-! ### What each call leaves alone -/

/-- The records change in a write or a removal of a record only. -/
theorem records_unchanged {op : StoreOp} {reply : op.Reply} (answered : storeEnvironment state op reply after)
    (noWrite : ∀ stored, op ≠ .writeRecord stored) (noRemove : ∀ id, op ≠ .removeRecord id) :
    after.records = state.records := by
  cases op
  case writeRecord stored => exact absurd rfl (noWrite stored)
  case removeRecord id => exact absurd rfl (noRemove id)
  case waitForCleanupStatus interface seconds =>
    cases answered <;> rfl
  case spawnHelper spec =>
    cases answered <;> rfl
  case sweepInterface interface =>
    obtain ⟨runtime, _, _, rfl⟩ := answered
    rfl
  case removeRegularFile path =>
    rcases answered with rfl | rfl <;> rfl
  case listRecords =>
    cases reply with
    | error error =>
      cases answered
      rfl
    | ok entries =>
      rw [answered.2]
  case tryExists path =>
    cases reply with
    | error error =>
      cases answered
      rfl
    | ok there => rw [answered.2]
  all_goals first
    | rw [answered.2]
    | (cases answered; rfl)

/-- The markers change in a write or a removal of a marker only. -/
theorem active_unchanged {op : StoreOp} {reply : op.Reply} (answered : storeEnvironment state op reply after)
    (noWrite : ∀ id marker, op ≠ .writeActive id marker) (noRemove : ∀ id, op ≠ .removeActive id) :
    after.active = state.active := by
  cases op
  case writeActive id marker => exact absurd rfl (noWrite id marker)
  case removeActive id => exact absurd rfl (noRemove id)
  case waitForCleanupStatus interface seconds =>
    cases answered <;> rfl
  case spawnHelper spec =>
    cases answered <;> rfl
  case sweepInterface interface =>
    obtain ⟨runtime, _, _, rfl⟩ := answered
    rfl
  case removeRegularFile path =>
    rcases answered with rfl | rfl <;> rfl
  case listRecords =>
    cases reply with
    | error error =>
      cases answered
      rfl
    | ok entries =>
      rw [answered.2]
  case tryExists path =>
    cases reply with
    | error error =>
      cases answered
      rfl
    | ok there => rw [answered.2]
  all_goals first
    | rw [answered.2]
    | (cases answered; rfl)

end Wgd.Store
