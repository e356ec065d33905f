import Wgd.Store.Tending

/-! What a dead helper leaves behind, and when a disconnect gets rid of it. -/

set_option autoImplicit false

namespace Wgd.Store

open Wgd.Interaction Wgd.Net Wgd.Links Wgd.Config Wgd.Helper Wgd.Daemon

/-! ### A dead helper -/

/-- What a wait for the clean-up status reads. -/
def statusText (file : Option RuntimeFile) : Option String :=
  (file.map fun file => String.ofList (trim file.contents.toList)).filter (· ≠ "")

/-- The machine once a helper is dead and its device is gone: nothing fails, nobody will write
a clean-up status any more, and the pids belong to whichever processes run now. -/
def deadHelper (alive ours : Nat → Bool) : Environment storeCommands StoreState := fun state op reply after =>
  storeEnvironment state op reply after ∧ match op, reply with
    | .readRecord _, .error error | .readFile _, .error error => error.kind = .notFound
    | .writeRecord _, outcome => outcome = .written
    | .removeActive _, .error _ | .lockConnection _ _, .error _ | .lockNetwork, .error _ => False
    | .removeFile path, .error _ => state.runtime path = none
    | .waitForCleanupStatus interface _, status =>
      status = statusText (state.runtime (gotatunCleanupStatusPath interface)) ∧ after = state
    | .pidIsAlive pid, live => live = alive pid
    | .processIdentity pid, identity => identity.isOk = ours pid
    | .interfaceExists _, there => there = false
    | _, _ => True

/-- The device name left behind, if there is one. -/
def leftName (interface : String) (runtime : String → Option RuntimeFile) : Option (List Char) :=
  ((runtime (gotatunNamePath interface)).map fun file => trim file.contents.toList).filter fun name => !name.isEmpty

/-- The pid left behind. -/
def leftPid (interface : String) (runtime : String → Option RuntimeFile) : Except AppError (Option Nat) :=
  match runtime (gotatunPidPath interface) with
  | none => .ok none
  | some file => (parseGotatunPid (gotatunPidPath interface) file.contents).map some

/-- The pid file is gone, or it names no process, or one of this program. -/
def PidFine (alive ours : Nat → Bool) (interface : String) (runtime : String → Option RuntimeFile) : Prop :=
  ∃ tracked, leftPid interface runtime = .ok tracked ∧ ∀ pid, tracked = some pid → alive pid = true → ours pid = true

/-- Nothing is left that a shutdown would look at. -/
def NothingLeft (interface : String) (runtime : String → Option RuntimeFile) : Prop :=
  runtime (gotatunPidPath interface) = none ∧ leftName interface runtime = none ∧
    runtime (gotatunCleanupStatusPath interface) = none

/-- The helper had reported a clean shutdown. -/
def ReportedOk (interface : String) (runtime : String → Option RuntimeFile) : Prop :=
  statusText (runtime (gotatunCleanupStatusPath interface)) = some "ok"

variable {alive ours : Nat → Bool} {state : StoreState} {id : ConnectionId} {interface : String} {crates : Crates}

theorem within_deadHelper : Within (deadHelper alive ours) := by
  intro state op reply after answered
  exact answered.1

/-! ### The files one by one -/

theorem paths_differ (interface first second : String) (different : first ≠ second) :
    gotatunRuntimePath interface first ≠ gotatunRuntimePath interface second := by
  intro same
  apply different
  have texts := congrArg String.toList same
  simp only [gotatunRuntimePath, String.toList_append, List.append_cancel_left_eq] at texts
  exact String.toList_inj.mp texts

theorem socketPath_differs (interface suffix : String) : socketPath interface ≠ gotatunRuntimePath interface suffix := by
  intro same
  have texts := congrArg String.toList same
  simp [socketPath, gotatunRuntimePath, String.toList_append] at texts

/-- The rule for a call whose answers are known. -/
theorem ensures_answered {env : Environment storeCommands StoreState} {A : Type} {op : StoreOp}
    {f : op.Reply → StoreProgram A} {post : A → StoreState → Prop}
    (rest : ∀ reply after, env state op reply after → @Ensures storeCommands _ _ env (fun _ _ => True) (f reply) post after) :
    @Ensures storeCommands _ _ env (fun _ _ => True) (storeCall op >>= f) post state :=
  Ensures.bind_iff.mpr ⟨trivial, rest⟩

/-- The rule for reading a file. -/
theorem dead_readFile {A : Type} {path : String} {f : Except IoError String → StoreProgram A} {post : A → StoreState → Prop}
    (missing : state.runtime path = none → ∀ error, error.kind = .notFound →
      @Ensures storeCommands _ _ (deadHelper alive ours) (fun _ _ => True) (f (.error error)) post state)
    (there : ∀ file, state.runtime path = some file →
      @Ensures storeCommands _ _ (deadHelper alive ours) (fun _ _ => True) (f (.ok file.contents)) post state) :
    @Ensures storeCommands _ _ (deadHelper alive ours) (fun _ _ => True) (storeCall (.readFile path) >>= f) post state := by
  apply ensures_answered
  intro reply after answered
  obtain ⟨⟨read, same⟩, fine⟩ := answered
  cases same
  cases reply with
  | error error => exact missing (read fine) error fine
  | ok text =>
    obtain ⟨file, here, contents⟩ := read
    cases contents
    exact there file here

theorem readActualInterface_dead :
    @Ensures storeCommands _ _ (deadHelper alive ours) (fun _ _ => True) (readActualInterface interface)
      (fun name final => final = state ∧ name = leftName interface state.runtime) state := by
  apply dead_readFile
  · intro missing error _
    exact ⟨rfl, by simp [leftName, missing, Except.toOption]⟩
  · intro file there
    exact ⟨rfl, by simp [leftName, there, Except.toOption]⟩

theorem readGotatunPid_dead :
    @Ensures storeCommands _ _ (deadHelper alive ours) (fun _ _ => True) (readGotatunPid (gotatunPidPath interface))
      (fun result final => final = state ∧ result = leftPid interface state.runtime) state := by
  apply dead_readFile
  · intro missing error kind
    simp [kind, leftPid, missing]
  · intro file there
    exact ⟨rfl, by simp [leftPid, there]⟩

/-- A live process has to be one of this program. -/
theorem checkTracked_dead (tracked : Option Nat) :
    @Ensures storeCommands _ _ (deadHelper alive ours) (fun _ _ => True) (checkTracked tracked)
      (fun result final => final = state ∧
        (result = .ok () ↔ ∀ pid, tracked = some pid → alive pid = true → ours pid = true)) state := by
  cases tracked with
  | none => exact ⟨rfl, by simp⟩
  | some pid =>
    apply ensures_answered
    intro live after answered
    obtain ⟨same, rfl⟩ := answered
    cases same
    cases living : alive pid with
    | false => exact ⟨rfl, by simp [living]⟩
    | true =>
      apply ensures_answered
      intro identity after answered
      obtain ⟨same, fine⟩ := answered
      cases same
      refine ⟨rfl, ?_⟩
      cases identity with
      | error error =>
        have other : ours pid = false := fine.symm
        simp [Except.mapError, living, other]
      | ok value =>
        have own : ours pid = true := fine.symm
        simp [Except.mapError, own]

theorem alreadyAbsent_dead (tracked : Option Nat) (name : Option (List Char)) :
    @Ensures storeCommands _ _ (deadHelper alive ours) (fun _ _ => True) (alreadyAbsent interface tracked name)
      (fun absent final => final = state ∧ absent = (tracked.isNone && name.isNone &&
        (state.runtime (socketPath interface)).isNone && (state.runtime (gotatunCleanupStatusPath interface)).isNone)) state := by
  unfold alreadyAbsent
  split
  · next blank =>
    apply ensures_answered
    intro socket after answered
    obtain ⟨⟨rfl, same⟩, -⟩ := answered
    cases same
    cases there : state.runtime (socketPath interface) with
    | some file => simp
    | none =>
      apply ensures_answered
      intro status after answered
      obtain ⟨⟨rfl, same⟩, -⟩ := answered
      cases same
      rw [Bool.and_eq_true] at blank
      refine ⟨rfl, ?_⟩
      cases state.runtime (gotatunCleanupStatusPath interface) <;> simp [blank]
  · next there =>
    refine ⟨rfl, ?_⟩
    rw [Bool.not_eq_true] at there
    simp [there]

/-- The state without some runtime file. -/
def StoreState.withoutFile (state : StoreState) (path : String) : StoreState :=
  { state with runtime := Function.update state.runtime path none }

theorem withoutFile_missing {path : String} (missing : state.runtime path = none) : state.withoutFile path = state := by
  have same : Function.update state.runtime path none = state.runtime := by
    rw [← missing]
    exact Function.update_eq_self _ _
  rw [StoreState.withoutFile, same]

/-- A file that is removed is gone; there may have been none. -/
theorem dead_removeFile {path : String} {outcome : Except IoError Unit} {after : StoreState}
    (answered : deadHelper alive ours state (.removeFile path) outcome after) : after = state.withoutFile path := by
  obtain ⟨removed, fine⟩ := answered
  cases outcome with
  | ok value => exact removed
  | error error => exact removed.trans (withoutFile_missing fine).symm

theorem removeControlSocket_dead :
    @Ensures storeCommands _ _ (deadHelper alive ours) (fun _ _ => True) (removeControlSocket interface)
      (fun result final => final = state.withoutFile (socketPath interface) ∧ result = .ok ()) state := by
  apply ensures_answered
  intro socket after answered
  obtain ⟨⟨rfl, same⟩, -⟩ := answered
  cases same
  cases there : state.runtime (socketPath interface) with
  | none => exact ⟨(withoutFile_missing there).symm, rfl⟩
  | some file =>
    apply ensures_answered
    intro outcome after answered
    refine ⟨dead_removeFile answered, ?_⟩
    cases outcome with
    | ok value => rfl
    | error error => exact absurd (there.symm.trans answered.2) (by simp)

theorem terminateTracked_dead (tracked : Option Nat) :
    @Ensures storeCommands _ _ (deadHelper alive ours) (fun _ _ => True) (terminateTracked tracked)
      (fun _ final => final = state) state := by
  cases tracked with
  | none => rfl
  | some pid =>
    apply ensures_answered
    intro live after answered
    obtain ⟨same, -⟩ := answered
    cases same
    cases live with
    | false => rfl
    | true =>
      apply ensures_answered
      intro killed after answered
      exact answered.1

/-- The wait is for a status that is there already, or for nothing. -/
theorem awaitCleanupStatus_dead (tracked : Option Nat) :
    @Ensures storeCommands _ _ (deadHelper alive ours) (fun _ _ => True) (awaitCleanupStatus interface tracked)
      (fun result final => final = state ∧ ∀ status, result = .ok status ↔
        statusText (state.runtime (gotatunCleanupStatusPath interface)) = some status) state := by
  apply ensures_answered
  intro status after answered
  obtain ⟨-, rfl, same⟩ := answered
  cases same
  cases written : statusText (state.runtime (gotatunCleanupStatusPath interface)) with
  | some text => exact ⟨rfl, by simp⟩
  | none =>
    apply Ensures.attempt_iff.mpr
    apply (terminateTracked_dead tracked).mono
    intro outcome after same
    cases same
    cases outcome with
    | error error => exact ⟨rfl, by simp⟩
    | ok value =>
      apply ensures_answered
      intro status after answered
      obtain ⟨-, rfl, same⟩ := answered
      cases same
      rw [written]
      exact ⟨rfl, by simp⟩

theorem checkInterfaceGone_dead (name : Option (List Char)) :
    @Ensures storeCommands _ _ (deadHelper alive ours) (fun _ _ => True) (checkInterfaceGone name)
      (fun result final => final = state ∧ result = .ok ()) state := by
  cases name with
  | none => exact ⟨rfl, rfl⟩
  | some name =>
    apply ensures_answered
    intro there after answered
    obtain ⟨same, rfl⟩ := answered
    cases same
    exact ⟨rfl, rfl⟩

/-- The files of an earlier helper are gone. -/
def StoreState.withoutHelperFiles (state : StoreState) (interface : String) : StoreState :=
  ((state.withoutFile (gotatunPidPath interface)).withoutFile (gotatunNamePath interface)).withoutFile
    (gotatunCleanupStatusPath interface)

theorem clearHelperFiles_dead :
    @Ensures storeCommands _ _ (deadHelper alive ours) (fun _ _ => True) (clearHelperFiles interface)
      (fun _ final => final = state.withoutHelperFiles interface) state := by
  apply ensures_answered
  intro _ _ answered
  rw [dead_removeFile answered]
  apply ensures_answered
  intro _ _ answered
  rw [dead_removeFile answered]
  apply ensures_answered
  intro _ _ answered
  exact dead_removeFile answered

/-! ### Shutting down -/

/-- One shutdown gets rid of what is left. -/
def Removable (alive ours : Nat → Bool) (interface : String) (runtime : String → Option RuntimeFile) : Prop :=
  (PidFine alive ours interface runtime ∧ ReportedOk interface runtime) ∨
    (NothingLeft interface runtime ∧ runtime (socketPath interface) = none)

/-- None of the files is left that a connect would be refused for. -/
structure Gone (interface : String) (runtime : String → Option RuntimeFile) : Prop where
  socket : runtime (socketPath interface) = none
  pid : runtime (gotatunPidPath interface) = none
  status : runtime (gotatunCleanupStatusPath interface) = none

/-- How a shutdown of what is left ends, and what it leaves. -/
inductive Shutdown (alive ours : Nat → Bool) (interface : String) (state : StoreState) : Except AppError Unit → StoreState → Prop where
  | absent (left : NothingLeft interface state.runtime) (socket : state.runtime (socketPath interface) = none) :
      Shutdown alive ours interface state (.ok ()) state
  | refused (error : AppError) (unfit : ¬PidFine alive ours interface state.runtime) :
      Shutdown alive ours interface state (.error error) state
  | unconfirmed (error : AppError) (fine : PidFine alive ours interface state.runtime)
      (unreported : ¬ReportedOk interface state.runtime)
      (left : NothingLeft interface state.runtime → state.runtime (socketPath interface) ≠ none) :
      Shutdown alive ours interface state (.error error) (state.withoutFile (socketPath interface))
  | confirmed (fine : PidFine alive ours interface state.runtime) (reported : ReportedOk interface state.runtime) :
      Shutdown alive ours interface state (.ok ())
        ((state.withoutFile (socketPath interface)).withoutHelperFiles interface)

theorem leftPid_none_iff {runtime : String → Option RuntimeFile} :
    leftPid interface runtime = .ok none ↔ runtime (gotatunPidPath interface) = none := by
  unfold leftPid
  cases runtime (gotatunPidPath interface) with
  | none => simp
  | some file => cases parsed : parseGotatunPid (gotatunPidPath interface) file.contents <;> simp [Except.map, parsed]

theorem withoutFile_other {path other : String} (different : other ≠ path) :
    (state.withoutFile path).runtime other = state.runtime other :=
  Function.update_of_ne different _ _

theorem runGotatunDown_dead :
    @Ensures storeCommands _ _ (deadHelper alive ours) (fun _ _ => True) (runGotatunDown interface)
      (Shutdown alive ours interface state) state := by
  apply ensures_bind readActualInterface_dead
  intro name final named
  obtain ⟨same, rfl⟩ := named
  cases same
  apply Ensures.attempt_iff.mpr
  apply readGotatunPid_dead.mono
  intro tracked final read
  obtain ⟨same, read⟩ := read
  cases same
  cases tracked with
  | error error =>
    apply Shutdown.refused
    intro fine
    obtain ⟨tracked, other, -⟩ := fine
    exact absurd (read.trans other) (by simp)
  | ok tracked =>
    apply Ensures.attempt_iff.mpr
    apply (checkTracked_dead tracked).mono
    intro checked final verdict
    obtain ⟨same, verdict⟩ := verdict
    cases same
    cases checked with
    | error error =>
      apply Shutdown.refused
      intro fine
      obtain ⟨other, same, fine⟩ := fine
      cases read.trans same
      exact absurd (verdict.mpr fine) (by simp)
    | ok value =>
      have fine : PidFine alive ours interface state.runtime := ⟨tracked, read.symm, verdict.mp rfl⟩
      have gone : tracked = none ↔ state.runtime (gotatunPidPath interface) = none := by
        rw [← leftPid_none_iff, ← read, Except.ok.injEq]
      apply ensures_bind (alreadyAbsent_dead tracked _)
      intro absent final looked
      obtain ⟨same, absent⟩ := looked
      cases same
      subst absent
      split
      · next nothing =>
        simp only [Bool.and_eq_true, Option.isNone_iff_eq_none] at nothing
        obtain ⟨⟨⟨pid, blank⟩, socket⟩, status⟩ := nothing
        exact .absent ⟨gone.mp pid, blank, status⟩ socket
      · next something =>
        have left : NothingLeft interface state.runtime → state.runtime (socketPath interface) ≠ none := by
          intro nothing socket
          obtain ⟨pid, blank, status⟩ := nothing
          apply something
          simp [gone.mpr pid, blank, socket, status]
        apply Ensures.attempt_iff.mpr
        apply removeControlSocket_dead.mono
        intro removed final unlinked
        obtain ⟨same, rfl⟩ := unlinked
        cases same
        have status : (state.withoutFile (socketPath interface)).runtime (gotatunCleanupStatusPath interface) =
            state.runtime (gotatunCleanupStatusPath interface) := withoutFile_other (socketPath_differs _ _).symm
        apply Ensures.attempt_iff.mpr
        apply (awaitCleanupStatus_dead tracked).mono
        intro outcome final waited
        obtain ⟨same, waited⟩ := waited
        cases same
        rw [status] at waited
        cases outcome with
        | error error =>
          apply Shutdown.unconfirmed error fine _ left
          intro reported
          exact absurd ((waited "ok").mpr reported) (by simp)
        | ok text =>
          have reads := (waited text).mp rfl
          dsimp only
          split
          · next ok =>
            apply Ensures.attempt_iff.mpr
            apply (checkInterfaceGone_dead _).mono
            intro checked final there
            obtain ⟨same, rfl⟩ := there
            cases same
            apply ensures_bind clearHelperFiles_dead
            intro _ final cleared
            rw [cleared]
            exact .confirmed fine (by rw [ReportedOk, reads, ok])
          · next other =>
            apply Shutdown.unconfirmed _ fine _ left
            intro reported
            exact other (Option.some.inj (reads.symm.trans reported))

theorem PidFine.of_nothing {runtime : String → Option RuntimeFile} (nothing : runtime (gotatunPidPath interface) = none) :
    PidFine alive ours interface runtime :=
  ⟨none, leftPid_none_iff.mpr nothing, by simp⟩

/-- A shutdown succeeds where it can get rid of what is left, and only there. -/
theorem Shutdown.ok_iff {result : Except AppError Unit} {after : StoreState}
    (shutdown : Shutdown alive ours interface state result after) :
    result = .ok () ↔ Removable alive ours interface state.runtime := by
  cases shutdown with
  | absent left socket => exact iff_of_true rfl (.inr ⟨left, socket⟩)
  | confirmed fine reported => exact iff_of_true rfl (.inl ⟨fine, reported⟩)
  | refused error unfit =>
    apply iff_of_false (by simp)
    intro removable
    cases removable with
    | inl reported => exact unfit reported.1
    | inr nothing => exact unfit (.of_nothing nothing.1.1)
  | unconfirmed error fine unreported left =>
    apply iff_of_false (by simp)
    intro removable
    cases removable with
    | inl reported => exact unreported reported.2
    | inr nothing => exact left nothing.1 nothing.2

theorem Shutdown.gone {after : StoreState} (shutdown : Shutdown alive ours interface state (.ok ()) after) :
    Gone interface after.runtime := by
  cases shutdown with
  | absent left socket => exact ⟨socket, left.1, left.2.2⟩
  | confirmed fine reported =>
    constructor
    · rw [StoreState.withoutHelperFiles, gotatunPidPath, gotatunNamePath, gotatunCleanupStatusPath,
        withoutFile_other (socketPath_differs _ _),
        withoutFile_other (socketPath_differs _ _), withoutFile_other (socketPath_differs _ _)]
      exact Function.update_self _ _ _
    · rw [StoreState.withoutHelperFiles, gotatunPidPath, gotatunNamePath, gotatunCleanupStatusPath,
        withoutFile_other (paths_differ _ _ _ (by decide)), withoutFile_other (paths_differ _ _ _ (by decide))]
      exact Function.update_self _ _ _
    · exact Function.update_self _ _ _

theorem Shutdown.frame {result : Except AppError Unit} {after : StoreState}
    (shutdown : Shutdown alive ours interface state result after) :
    after.records = state.records ∧ after.active = state.active := by
  cases shutdown <;> exact ⟨rfl, rfl⟩

/-! ### One disconnect -/

theorem withNetworkLock_dead {body : StoreProgram (Except AppError Unit)} {post : Except AppError Unit → StoreState → Prop}
    (inside : @Ensures storeCommands _ _ (deadHelper alive ours) (fun _ _ => True) body post state) :
    @Ensures storeCommands _ _ (deadHelper alive ours) (fun _ _ => True) (withNetworkLock body) post state := by
  apply ensures_answered
  intro locked after answered
  obtain ⟨same, fine⟩ := answered
  cases same
  cases locked with
  | error error => exact fine.elim
  | ok value =>
    apply ensures_bind inside
    intro result final holds
    apply ensures_answered
    intro _ after answered
    cases answered.1
    exact holds

/-- A program that only looks finds the state as it is. -/
theorem looking_dead {A : Type} {p : StoreProgram A} {post : A → Prop} (looking : @Issues storeCommands _ Looking p post) :
    @Ensures storeCommands _ _ (deadHelper alive ours) (fun _ _ => True) p (fun result final => final = state ∧ post result)
      state := by
  have kept := @Issues.keeps storeCommands _ _ _ _ _ (deadHelper alive ours) (fun s => s = state) state looking
    (fun _ _ _ _ looking same answered => (looking.looks.quiet _ _ _ answered.1).trans same) rfl
  exact kept.relax fun _ _ _ => trivial

/-- Hooks or not, the tunnel goes down as the shutdown goes. -/
theorem takeDown_dead (stored : StoredConnection) :
    @Ensures storeCommands _ _ (deadHelper alive ours) (fun _ _ => True) (takeDown crates stored)
      (Shutdown alive ours stored.interface state) state := by
  apply ensures_answered
  intro resolver after answered
  cases answered.1
  split
  · exact withNetworkLock_dead runGotatunDown_dead
  · next reparsed _ =>
    apply ensures_bind (looking_dead (runHooksBestEffort_looks reparsed.preDown stored.interface "PreDown"))
    intro _ final same
    cases same.1
    apply Ensures.attempt_iff.mpr
    apply (withNetworkLock_dead runGotatunDown_dead).mono
    intro outcome final down
    cases outcome with
    | error error => exact down
    | ok value =>
      apply ensures_bind (looking_dead (runHooksBestEffort_looks reparsed.postDown stored.interface "PostDown"))
      intro _ after same
      cases same.1
      exact down

/-- The record is there, and the caller may act on it. -/
def Usable (id : ConnectionId) (origin : PeerOrigin) (records : ConnectionId → Option RecordFile) : Prop :=
  ∃ stored, records id = some (.record stored) ∧ stored.id = id ∧ stored.interface = id.interfaceName ∧
    authorizeAccess stored origin = none

theorem clearActive_dead :
    @Ensures storeCommands _ _ (deadHelper alive ours) (fun _ _ => True) (clearActive id)
      (fun result final => result = .ok () ∧ final = { state with active := Function.update state.active id none }) state := by
  apply ensures_answered
  intro outcome after answered
  obtain ⟨removed, fine⟩ := answered
  cases outcome with
  | error error => exact fine.elim
  | ok value => exact ⟨rfl, removed⟩

/-- A record that is there and sound is loaded, if reading can fail for a missing file only. -/
theorem load_sound {env : Environment storeCommands StoreState} {stored : StoredConnection} (within : Within env)
    (readable : ∀ s error after, env s (.readRecord id) (.error error) after → error.kind = .notFound)
    (there : state.records id = some (.record stored)) (named : stored.id = id) (interface : stored.interface = id.interfaceName) :
    @Ensures storeCommands _ _ env (fun _ _ => True) (load id)
      (fun found final => final = state ∧ found = .ok (some stored)) state := by
  apply ensures_answered
  intro reply after answered
  obtain ⟨read, same⟩ := within _ _ _ _ answered
  cases same
  cases reply with
  | error error => exact absurd (there.symm.trans (read (readable _ _ _ answered))) (by simp)
  | ok file =>
    obtain ⟨_, here, rfl⟩ := read
    cases there.symm.trans here
    have reads : (RecordFile.record stored).read id = .ok stored := RecordFile.read_ok_iff.mpr ⟨rfl, named, interface⟩
    simp [reads, Except.map]

theorem load_dead {stored : StoredConnection} (there : state.records id = some (.record stored)) (named : stored.id = id)
    (interface : stored.interface = id.interfaceName) :
    @Ensures storeCommands _ _ (deadHelper alive ours) (fun _ _ => True) (load id)
      (fun found final => final = state ∧ found = .ok (some stored)) state :=
  load_sound within_deadHelper (fun _ _ _ answered => answered.2) there named interface

/-- How an attempt to disconnect ends: what is left is gone with the marker, or the attempt is
refused and leaves everything but the control socket. -/
inductive Attempted (alive ours : Nat → Bool) (id : ConnectionId) (state : StoreState) {A : Type} (ok : A) (result : A)
    (after : StoreState) : Prop where
  | done (removable : Removable alive ours id.interfaceName state.runtime) (answered : result = ok)
      (gone : Gone id.interfaceName after.runtime) (unmarked : after.active id = none)
  | failed (stuck : ¬Removable alive ours id.interfaceName state.runtime) (answered : result ≠ ok)
      (left : after.runtime = state.runtime ∧ ¬PidFine alive ours id.interfaceName state.runtime ∨
        after.runtime = (state.withoutFile (socketPath id.interfaceName)).runtime ∧
          PidFine alive ours id.interfaceName state.runtime)

theorem disconnect_dead {origin : PeerOrigin} (usable : Usable id origin state.records) :
    @Ensures storeCommands _ _ (deadHelper alive ours) (fun _ _ => True) (disconnect crates id)
      (fun result final => Attempted alive ours id state (.ok ()) result final ∧ final.records = state.records) state := by
  obtain ⟨stored, there, named, interface, _⟩ := usable
  apply Ensures.attempt_iff.mpr
  apply Ensures.attempt_iff.mpr
  apply (load_dead there named interface).mono
  intro found final loaded
  obtain ⟨same, rfl⟩ := loaded
  cases same
  apply Ensures.attempt_iff.mpr
  apply (takeDown_dead stored).mono
  intro outcome final down
  rw [interface] at down
  have outcome_iff := down.ok_iff
  cases outcome with
  | error error =>
    have stuck : ¬Removable alive ours id.interfaceName state.runtime := fun removable => by cases outcome_iff.mpr removable
    refine ⟨.failed stuck (by simp) ?_, down.frame.1⟩
    cases down with
    | refused _ unfit => exact .inl ⟨rfl, unfit⟩
    | unconfirmed _ fine _ _ => exact .inr ⟨rfl, fine⟩
  | ok value =>
    apply clearActive_dead.mono
    intro result after cleared
    obtain ⟨rfl, rfl⟩ := cleared
    exact ⟨.done (outcome_iff.mp rfl) rfl down.gone (Function.update_self _ _ _), down.frame.1⟩

theorem markUserDisconnected_dead {origin : PeerOrigin} (usable : Usable id origin state.records) (reason : DisconnectReason) :
    @Ensures storeCommands _ _ (deadHelper alive ours) (fun _ _ => True) (markUserDisconnected id reason)
      (fun result final => result = .ok () ∧ final.runtime = state.runtime ∧ Usable id origin final.records) state := by
  cases reason with
  | sessionTeardown => exact ⟨rfl, rfl, usable⟩
  | user =>
    obtain ⟨stored, there, named, interface, authorized⟩ := usable
    apply Ensures.attempt_iff.mpr
    apply (load_dead there named interface).mono
    intro found final loaded
    obtain ⟨same, rfl⟩ := loaded
    cases same
    dsimp only
    split
    · exact ⟨rfl, rfl, stored, there, named, interface, authorized⟩
    · apply ensures_answered
      intro outcome after answered
      obtain ⟨written, rfl⟩ := answered
      cases written
      refine ⟨rfl, rfl, { stored with userDisconnected := true }, ?_, named, interface, authorized⟩
      simp [WriteOutcome.stores, ← named]

theorem disconnectLocked_dead {origin : PeerOrigin} (usable : Usable id origin state.records) (reason : DisconnectReason) :
    @Ensures storeCommands _ _ (deadHelper alive ours) (fun _ _ => True) (disconnectLocked crates id reason)
      (fun response final => Attempted alive ours id state .unit response final ∧ Usable id origin final.records) state := by
  have failed : ∀ error, errorResponse error ≠ .unit := by
    intro error
    cases error <;> simp [errorResponse, authDenied]
  apply ensures_bind (markUserDisconnected_dead usable reason)
  intro marked final holds
  obtain ⟨rfl, runtime, usable⟩ := holds
  apply ensures_bind (disconnect_dead usable)
  intro result after attempted
  obtain ⟨attempted, records⟩ := attempted
  have still : Usable id origin after.records := by rwa [records]
  cases attempted with
  | done removable answered gone unmarked =>
    subst answered
    exact ⟨.done (runtime ▸ removable) rfl gone unmarked, still⟩
  | failed stuck answered left =>
    cases result with
    | ok value => exact absurd rfl answered
    | error error =>
      rw [StoreState.withoutFile, runtime] at left
      exact ⟨.failed (runtime ▸ stuck) (failed error) left, still⟩

/-! ### Whole requests -/

/-- In this environment the request gets this response. -/
def ServedIn (env : Environment storeCommands StoreState) (crates : Crates) (origin : PeerOrigin)
    (request : PrivilegedRequest) (state : StoreState) (response : PrivilegedResponse) (after : StoreState) : Prop :=
  ∃ control control', @Completes storeCommands _ _ env (serveRequest crates control origin request) state
    (response, control') after

/-- Where the record can be read and the lock be had, a request that is worked off on a thread is
what its worker makes it. -/
theorem ServedIn.worker {env : Environment storeCommands StoreState} {origin : PeerOrigin} {request : PrivilegedRequest}
    {worker : StoreProgram PrivilegedResponse} {post : PrivilegedResponse → StoreState → Prop} {stored : StoredConnection}
    {response : PrivilegedResponse} {after : StoreState} (within : Within env)
    (locks : ∀ s error s', ¬env s (.lockConnection id .patient) (.error error) s')
    (loads : @Ensures storeCommands _ _ env (fun _ _ => True) (load id)
      (fun found final => final = state ∧ found = .ok (some stored)) state)
    (authorized : authorizeAccess stored origin = none)
    (dispatched : ∀ control, dispatch crates control origin request =
      onThread control (onWorker id origin (withConnectionLock id .patient worker)))
    (inside : @Ensures storeCommands _ _ env (fun _ _ => True) worker post state)
    (served : ServedIn env crates origin request state response after) : post response after := by
  obtain ⟨control, control', completes⟩ := served
  have locked : @Ensures storeCommands _ _ env (fun _ _ => True) (withConnectionLock id .patient worker) post state := by
    refine Ensures.bind_iff.mpr ⟨trivial, fun reply s answered => ?_⟩
    have same : s = state := within _ _ _ _ answered
    subst same
    cases reply with
    | error error => exact absurd answered (locks _ _ _)
    | ok value =>
      apply ensures_bind inside
      intro response final holds
      apply ensures_quiet within (by exact fun _ _ answered => answered) trivial
      intro _
      exact holds
  have started : @Ensures storeCommands _ _ env (fun _ _ => True) (dispatch crates control origin request)
      (fun outcome final => @Ensures storeCommands _ _ env (fun _ _ => True) outcome.1.run post final) state := by
    rw [dispatched]
    apply ensures_bind (ensures_bind loads _)
    · intro outcome final holds
      exact holds
    · intro found final loaded
      obtain ⟨same, rfl⟩ := loaded
      subst same
      dsimp only
      rw [authorized]
      exact locked
  have whole : @Ensures storeCommands _ _ env (fun _ _ => True) (serveRequest crates control origin request)
      (fun answer final => post answer.1 final) state := by
    apply ensures_bind started
    intro outcome final runs
    apply ensures_bind runs
    intro response final holds
    exact holds
  exact whole.completes completes

/-- A disconnect on the machine with the dead helper. -/
def Disconnects (alive ours : Nat → Bool) (crates : Crates) (origin : PeerOrigin) (id : ConnectionId)
    (reason : DisconnectReason) : StoreState → PrivilegedResponse → StoreState → Prop :=
  ServedIn (deadHelper alive ours) crates origin (.disconnectConnection id reason)

theorem Disconnects.attempted {origin : PeerOrigin} {reason : DisconnectReason} {response : PrivilegedResponse}
    {after : StoreState} (usable : Usable id origin state.records)
    (disconnects : Disconnects alive ours crates origin id reason state response after) :
    Attempted alive ours id state .unit response after ∧ Usable id origin after.records := by
  obtain ⟨stored, there, named, interface, authorized⟩ := usable
  exact disconnects.worker within_deadHelper (fun _ _ _ answered => answered.2) (load_dead there named interface) authorized
    (fun _ => rfl) (disconnectLocked_dead ⟨stored, there, named, interface, authorized⟩ reason)

/-! ### Connecting again -/

/-- Nothing stands in the way of a connect but what it finds of its interface; whether the
helper then starts is left open. -/
def unhindered (crates : Crates) (id : ConnectionId) : Environment storeCommands StoreState := fun state op reply after =>
  storeEnvironment state op reply after ∧ match op, reply with
    | .readRecord _, .error error | .readActive _, .error error | .readFile _, .error error => error.kind = .notFound
    | .writeRecord _, outcome => outcome = .written
    | .tryExists _, .error _ | .lockConnection _ _, .error _ | .lockNetwork, .error _ | .selfExecutable, .error _
    | .rotateHelperLog _, .error _ | .ensureDnsCustodyDir, .error _ => False
    | .runShell _, outcome => ∃ status, outcome = .ok status ∧ status.success = true
    | .resolver, resolver => ∀ stored, state.records id = some (.record stored) →
      ∃ reparsed, parseConnectionConfig crates resolver stored.rawConf = .ok reparsed ∧
        fingerprint crates reparsed = stored.fingerprint ∧ reparsed.peers.length = 1
    | .spawnHelper _, _ => False
    | _, _ => True

theorem within_unhindered : Within (unhindered crates id) := by
  intro state op reply after answered
  exact answered.1

/-- Where a connect starts from: nothing left of a helper, no marker, and a sound record. -/
structure Vacant (id : ConnectionId) (origin : PeerOrigin) (state : StoreState) : Prop where
  socket : state.runtime (socketPath id.interfaceName) = none
  pid : state.runtime (gotatunPidPath id.interfaceName) = none
  unmarked : state.active id = none
  usable : Usable id origin state.records

theorem load_unhindered {stored : StoredConnection} (there : state.records id = some (.record stored))
    (named : stored.id = id) (interface : stored.interface = id.interfaceName) :
    @Ensures storeCommands _ _ (unhindered crates id) (fun _ _ => True) (load id)
      (fun found final => final = state ∧ found = .ok (some stored)) state :=
  load_sound within_unhindered (fun _ _ _ answered => answered.2) there named interface

theorem resolveConnectIntent_unhindered {origin : PeerOrigin} (vacant : Vacant id origin state) :
    @Ensures storeCommands _ _ (unhindered crates id) (fun _ _ => True) (resolveConnectIntent id .user)
      (fun proceeds final => proceeds = .ok true ∧ Vacant id origin final) state := by
  obtain ⟨stored, there, named, interface, authorized⟩ := vacant.usable
  apply Ensures.attempt_iff.mpr
  apply (load_unhindered there named interface).mono
  intro found final loaded
  obtain ⟨same, rfl⟩ := loaded
  cases same
  dsimp only
  split
  · apply ensures_answered
    intro outcome after answered
    obtain ⟨written, rfl⟩ := answered
    cases written
    refine ⟨rfl, vacant.socket, vacant.pid, vacant.unmarked, { stored with userDisconnected := false }, ?_, named, interface,
      authorized⟩
    simp [WriteOutcome.stores, ← named]
  · exact ⟨rfl, vacant⟩

theorem tryExists_unhindered {A : Type} {path : String} {f : Except IoError Bool → StoreProgram A}
    {post : A → StoreState → Prop} (missing : state.runtime path = none)
    (rest : @Ensures storeCommands _ _ (unhindered crates id) (fun _ _ => True) (f (.ok false)) post state) :
    @Ensures storeCommands _ _ (unhindered crates id) (fun _ _ => True) (storeCall (.tryExists path) >>= f) post state := by
  apply ensures_answered
  intro reply after answered
  obtain ⟨within, fine⟩ := answered
  cases reply with
  | error error => exact fine.elim
  | ok there =>
    obtain ⟨rfl, same⟩ := within
    cases same
    simpa [missing] using rest

theorem alreadyUp_unhindered {stored : StoredConnection} (unmarked : state.active stored.id = none) :
    @Ensures storeCommands _ _ (unhindered crates id) (fun _ _ => True) (alreadyUp stored)
      (fun up final => up = .ok false ∧ final = state) state := by
  apply Ensures.attempt_iff.mpr
  apply ensures_answered
  intro reply after answered
  obtain ⟨⟨read, same⟩, fine⟩ := answered
  cases same
  cases reply with
  | error error => simp [show error.kind = .notFound from fine]
  | ok file =>
    obtain ⟨_, there, _⟩ := read
    exact absurd (unmarked.symm.trans there) (by simp)

theorem runHooks_unhindered (commands : List String) (label : String) :
    @Ensures storeCommands _ _ (unhindered crates id) (fun _ _ => True) (runHooks commands interface label)
      (fun result final => result = .ok () ∧ final = state) state := by
  induction commands with
  | nil => exact ⟨rfl, rfl⟩
  | cons command rest ih =>
    apply Ensures.attempt_iff.mpr
    apply ensures_answered
    intro outcome after answered
    obtain ⟨same, status, rfl, success⟩ := answered
    cases same
    dsimp only
    rw [if_pos success]
    exact ih

/-- With no pid file there is nothing before the start of a helper. -/
theorem runGotatunUp_starts {spec : HelperSpec} {post : Except AppError Unit → StoreState → Prop}
    (missing : state.runtime (gotatunPidPath spec.interface) = none) :
    @Ensures storeCommands _ _ (unhindered crates id) (fun _ _ => True) (runGotatunUp spec) post state := by
  apply Ensures.attempt_iff.mpr
  apply ensures_answered
  intro reply after answered
  obtain ⟨⟨read, same⟩, fine⟩ := answered
  cases same
  cases reply with
  | ok text =>
    obtain ⟨_, there, _⟩ := read
    exact absurd (missing.symm.trans there) (by simp)
  | error error =>
    have gone : error.kind = .notFound := fine
    simp only [gone, if_true]
    apply Ensures.attempt_iff.mpr
    apply ensures_answered
    intro resolved after answered
    obtain ⟨-, fine⟩ := answered
    cases resolved with
    | error error => exact fine.elim
    | ok value =>
      apply Ensures.attempt_iff.mpr
      apply ensures_answered
      intro rotated after answered
      obtain ⟨-, fine⟩ := answered
      cases rotated with
      | error error => exact fine.elim
      | ok value =>
        apply ensures_bind (Ensures.any (clearHelperFiles spec.interface) after)
        intro _ final _
        apply ensures_answered
        intro spawned after answered
        exact answered.2.elim

theorem bringUp_starts {spec : HelperSpec} {reparsed : ConnectionConfig} {post : Except AppError Unit → StoreState → Prop}
    (missing : state.runtime (gotatunPidPath spec.interface) = none) :
    @Ensures storeCommands _ _ (unhindered crates id) (fun _ _ => True) (bringUp spec reparsed) post state := by
  apply ensures_answered
  intro locked after answered
  obtain ⟨same, fine⟩ := answered
  cases same
  cases locked with
  | error error => exact fine.elim
  | ok value =>
    apply Ensures.bind_iff.mpr
    apply ensures_answered
    intro ensured after answered
    obtain ⟨same, fine⟩ := answered
    cases same
    cases ensured with
    | error error => exact fine.elim
    | ok value =>
      apply ensures_answered
      intro _ swept answered
      obtain ⟨⟨runtime, removed, _, rfl⟩, -⟩ := answered
      have still : runtime (gotatunPidPath spec.interface) = none := by
        cases removed (gotatunPidPath spec.interface) with
        | inl same => rw [same, missing]
        | inr gone => exact gone.2
      have sentinel : @Ensures storeCommands _ _ (unhindered crates id) (fun _ _ => True) (createSentinelFor reparsed)
          (fun _ final => final = { state with runtime := runtime }) { state with runtime := runtime } := by
        unfold createSentinelFor
        split
        · rfl
        · exact ⟨trivial, fun _ _ answered => answered.1⟩
      apply ensures_bind sentinel
      intro _ final same
      cases same
      have up : @Ensures storeCommands _ _ (unhindered crates id) (fun _ _ => True) (runGotatunUp spec) (fun _ _ => False)
          { state with runtime := runtime } := runGotatunUp_starts still
      apply ensures_bind up
      intro _ _ never
      exact never.elim

theorem connect_starts {origin : PeerOrigin} (vacant : Vacant id origin state) (debug : Bool) :
    @Ensures storeCommands _ _ (unhindered crates id) (fun _ _ => True) (connect crates id debug) (fun _ _ => False) state := by
  obtain ⟨stored, there, named, interface, _⟩ := vacant.usable
  have socket : state.runtime (socketPath stored.interface) = none := by rw [interface]; exact vacant.socket
  have pid : state.runtime (gotatunPidPath stored.interface) = none := by rw [interface]; exact vacant.pid
  apply Ensures.attempt_iff.mpr
  apply Ensures.attempt_iff.mpr
  apply (load_unhindered there named interface).mono
  intro found final loaded
  obtain ⟨same, rfl⟩ := loaded
  cases same
  apply Ensures.attempt_iff.mpr
  apply ensures_answered
  intro resolver after answered
  obtain ⟨same, parses⟩ := answered
  cases same
  obtain ⟨reparsed, parsed, identity, single⟩ := parses stored there
  dsimp only
  rw [parsed]
  dsimp only
  rw [if_pos identity]
  simp only [Program.pure_eq, Ensures.done_iff, single, ne_eq, not_true_eq_false, if_false]
  apply Ensures.attempt_iff.mpr
  apply tryExists_unhindered socket
  apply Ensures.attempt_iff.mpr
  have unmarked : state.active stored.id = none := by rw [named]; exact vacant.unmarked
  apply (alreadyUp_unhindered unmarked).mono
  intro up final same
  obtain ⟨rfl, rfl⟩ := same
  apply Ensures.attempt_iff.mpr
  apply tryExists_unhindered socket
  apply Ensures.attempt_iff.mpr
  apply (runHooks_unhindered reparsed.preUp "PreUp").mono
  intro hooked final same
  obtain ⟨rfl, rfl⟩ := same
  apply Ensures.attempt_iff.mpr
  exact bringUp_starts pid

theorem connectLocked_starts {origin : PeerOrigin} (vacant : Vacant id origin state) (debug : Bool) :
    @Ensures storeCommands _ _ (unhindered crates id) (fun _ _ => True) (connectLocked crates id debug .user) (fun _ _ => False)
      state := by
  apply ensures_bind (resolveConnectIntent_unhindered vacant)
  intro proceeds final resolved
  obtain ⟨rfl, vacant⟩ := resolved
  apply ensures_bind (connect_starts vacant debug)
  intro _ _ never
  exact never.elim

/-! ### Two attempts -/

/-- The disconnect has succeeded, the marker is cleared, and a connect that nothing else hinders
does not end before it starts a helper. -/
structure Freed (crates : Crates) (origin : PeerOrigin) (id : ConnectionId) (response : PrivilegedResponse)
    (after : StoreState) : Prop where
  answered : response = .unit
  unmarked : after.active id = none
  connects : ∀ debug answer later,
    ¬ServedIn (unhindered crates id) crates origin (.connectConnection id debug .user) after answer later

/-- What two disconnects get rid of. -/
def Clearable (alive ours : Nat → Bool) (interface : String) (runtime : String → Option RuntimeFile) : Prop :=
  (PidFine alive ours interface runtime ∧ ReportedOk interface runtime) ∨ NothingLeft interface runtime

theorem Attempted.down {origin : PeerOrigin} {response : PrivilegedResponse} {after : StoreState}
    (attempted : Attempted alive ours id state .unit response after) (usable : Usable id origin after.records)
    (removable : Removable alive ours id.interfaceName state.runtime) : Freed crates origin id response after := by
  cases attempted with
  | failed stuck _ _ => exact absurd removable stuck
  | done _ answered gone unmarked =>
    refine ⟨answered, unmarked, fun debug answer later served => ?_⟩
    obtain ⟨stored, there, named, interface, authorized⟩ := usable
    exact served.worker within_unhindered (fun _ _ _ answered => answered.2) (load_unhindered there named interface) authorized
      (fun _ => rfl) (connectLocked_starts ⟨gone.socket, gone.pid, unmarked, stored, there, named, interface, authorized⟩ debug)

theorem Attempted.removable {response : PrivilegedResponse} {after : StoreState}
    (attempted : Attempted alive ours id state .unit response after) (answered : response = .unit) :
    Removable alive ours id.interfaceName state.runtime := by
  cases attempted with
  | done removable _ _ _ => exact removable
  | failed _ other _ => exact absurd answered other

/-- Removing the control socket changes nothing else that a shutdown looks at. -/
theorem leftover_withoutSocket :
    (PidFine alive ours interface (state.withoutFile (socketPath interface)).runtime ↔ PidFine alive ours interface state.runtime) ∧
      (ReportedOk interface (state.withoutFile (socketPath interface)).runtime ↔ ReportedOk interface state.runtime) ∧
      (NothingLeft interface (state.withoutFile (socketPath interface)).runtime ↔ NothingLeft interface state.runtime) := by
  have pid : (state.withoutFile (socketPath interface)).runtime (gotatunPidPath interface) = state.runtime (gotatunPidPath interface) :=
    withoutFile_other (socketPath_differs _ _).symm
  have name : (state.withoutFile (socketPath interface)).runtime (gotatunNamePath interface) = state.runtime (gotatunNamePath interface) :=
    withoutFile_other (socketPath_differs _ _).symm
  have status : (state.withoutFile (socketPath interface)).runtime (gotatunCleanupStatusPath interface) =
      state.runtime (gotatunCleanupStatusPath interface) := withoutFile_other (socketPath_differs _ _).symm
  refine ⟨?_, ?_, ?_⟩
  · simp only [PidFine, leftPid, pid]
  · simp only [ReportedOk, status]
  · simp only [NothingLeft, leftName, pid, name, status]

/-- Two attempts get rid of what a dead helper left exactly where it had reported a clean shutdown
and its pid file, if it is there, names no other program's process, or where nothing but its
control socket is left. -/
theorem dead_helper_cleared_iff {origin : PeerOrigin} {reason reason' : DisconnectReason}
    {response response' : PrivilegedResponse} {middle after : StoreState} (usable : Usable id origin state.records)
    (first : Disconnects alive ours crates origin id reason state response middle)
    (second : Disconnects alive ours crates origin id reason' middle response' after) :
    (Freed crates origin id response middle ∨ Freed crates origin id response' after) ↔
      Clearable alive ours id.interfaceName state.runtime := by
  obtain ⟨attempted, usable⟩ := first.attempted usable
  obtain ⟨attempted', usable'⟩ := second.attempted usable
  have clearable : Removable alive ours id.interfaceName state.runtime → Clearable alive ours id.interfaceName state.runtime :=
    fun removable => removable.imp_right fun nothing => nothing.1
  obtain ⟨pidFine, reportedOk, nothingLeft⟩ := @leftover_withoutSocket alive ours state id.interfaceName
  constructor
  · intro down
    cases down with
    | inl down => exact clearable (attempted.removable down.answered)
    | inr down =>
      have removable := attempted'.removable down.answered
      cases attempted with
      | done removable' _ _ _ => exact clearable removable'
      | failed _ _ left =>
        cases left with
        | inl same => exact clearable (same.1 ▸ removable)
        | inr same =>
          rw [same.1] at removable
          cases removable with
          | inl reported => exact .inl ⟨pidFine.mp reported.1, reportedOk.mp reported.2⟩
          | inr nothing => exact .inr (nothingLeft.mp nothing.1)
  · intro clears
    by_cases removable : Removable alive ours id.interfaceName state.runtime
    · exact .inl (attempted.down usable removable)
    · -- Nothing but the control socket is left, and the first attempt removes it.
      have nothing : NothingLeft id.interfaceName state.runtime := clears.resolve_left fun reported => removable (.inl reported)
      cases attempted with
      | done removable' _ _ _ => exact absurd removable' removable
      | failed _ _ left =>
        have fine : PidFine alive ours id.interfaceName state.runtime := .of_nothing nothing.1
        cases left with
        | inl same => exact absurd fine same.2
        | inr same =>
          apply Or.inr
          apply attempted'.down usable'
          rw [same.1]
          exact .inr ⟨nothingLeft.mpr nothing, Function.update_self _ _ _⟩

/-! ### A helper that was killed -/

/-- The leftovers of a helper that is gone, with or without a clean-up status. -/
def leftScript (status : Option String) : Scripted :=
  storedScript.become upScript.state.active
    (Function.update upScript.state.runtime (gotatunCleanupStatusPath exampleStored.interface)
      (status.map fun text => ⟨⟨1, 7, 3, 4⟩, text⟩)) fun _ => false

/-- No process has the pid that was left behind. -/
def deadCues : Cues := { workingCues with fails := fun op => match op with
  | .pidIsAlive _ => true
  | _ => false }

/-- Whether a scripted call is one on the machine with the dead helper. -/
def deadCheck (script : Scripted) (op : StoreOp) (reply : op.Reply) : Bool :=
  match op, reply with
  | .readRecord _, .error error | .readFile _, .error error => error.kind = .notFound
  | .writeRecord _, outcome => match outcome with
    | .written => true
    | _ => false
  | .removeActive _, .error _ | .lockConnection _ _, .error _ | .lockNetwork, .error _ => false
  | .removeFile path, .error _ => (script.state.runtime path).isNone
  | .waitForCleanupStatus interface _, status =>
    status == statusText (script.state.runtime (gotatunCleanupStatusPath interface)) && !script.state.running interface
  | .pidIsAlive _, live | .interfaceExists _, live => !live
  | .processIdentity _, identity => !identity.isOk
  | _, _ => true

theorem deadCheck_sound (script : Scripted) (op : StoreOp)
    (checked : deadCheck script op (scriptedStore deadCues script op).1 = true) :
    deadHelper (fun _ => false) (fun _ => false) script.state op (scriptedStore deadCues script op).1
      (scriptedStore deadCues script op).2.state := by
  constructor
  · exact scriptedStore_faithful deadCues script op
  · cases op
    case waitForCleanupStatus interface seconds =>
      simp only [deadCheck, Bool.and_eq_true, Bool.not_eq_true', beq_iff_eq] at checked
      exact ⟨checked.1, by simp [scriptedStore, Scripted.awaitCleanup, checked.2]⟩
    case readRecord | readFile | writeRecord | removeActive | lockConnection | lockNetwork | removeFile =>
      revert checked
      generalize (scriptedStore deadCues script _).1 = reply
      cases reply <;> simp [deadCheck]
    all_goals trivial

def disconnecting : StoreProgram (PrivilegedResponse × ControlState) :=
  serveRequest exampleCrates ⟨[], false, false⟩ (.socket 0) (.disconnectConnection exampleId .user)

/-- A scripted disconnect. -/
def attempt (script : Scripted) : (PrivilegedResponse × ControlState) × Scripted := play deadCues disconnecting script

theorem attempt_disconnects {script : Scripted} (met : meets (scriptedStore deadCues) deadCheck disconnecting script = true) :
    Disconnects (fun _ => false) (fun _ => false) exampleCrates (.socket 0) exampleId .user script.state (attempt script).1.1
      (attempt script).2.state :=
  ⟨_, _, interpret_checked deadCheck deadCheck_sound met⟩

theorem leftScript_usable (status : Option String) : Usable exampleId (.socket 0) (leftScript status).state.records :=
  ⟨exampleStored, rfl, rfl, rfl, rfl⟩

/-- A helper that had shut down cleanly, but was gone before it could remove its files. -/
theorem dead_helper_cleared_reported :
    Freed exampleCrates (.socket 0) exampleId (attempt (leftScript (some "ok\n"))).1.1 (attempt (leftScript (some "ok\n"))).2.state ∨
      Freed exampleCrates (.socket 0) exampleId (attempt (attempt (leftScript (some "ok\n"))).2).1.1
        (attempt (attempt (leftScript (some "ok\n"))).2).2.state := by
  have first := attempt_disconnects (by decide +kernel :
    meets (scriptedStore deadCues) deadCheck disconnecting (leftScript (some "ok\n")) = true)
  have second := attempt_disconnects (by decide +kernel :
    meets (scriptedStore deadCues) deadCheck disconnecting (attempt (leftScript (some "ok\n"))).2 = true)
  apply (dead_helper_cleared_iff (leftScript_usable _) first second).mpr
  refine .inl ⟨⟨some 4242, by decide +kernel, fun _ _ living => absurd living (by simp)⟩, ?_⟩
  unfold ReportedOk
  decide +kernel

/-- A helper that was killed leaves its pid file and no clean-up status: both attempts wait in vain. -/
theorem killed_helper_stuck :
    ¬ ∀ (alive ours : Nat → Bool) (crates : Crates) (origin : PeerOrigin) (id : ConnectionId) (reason : DisconnectReason)
      (state middle after : StoreState) (response response' : PrivilegedResponse), Usable id origin state.records →
      state.running id.interfaceName = false →
      Disconnects alive ours crates origin id reason state response middle →
      Disconnects alive ours crates origin id reason middle response' after →
      Freed crates origin id response middle ∨ Freed crates origin id response' after := by
  intro freed
  have first := attempt_disconnects (by decide +kernel :
    meets (scriptedStore deadCues) deadCheck disconnecting (leftScript none) = true)
  have second := attempt_disconnects (by decide +kernel :
    meets (scriptedStore deadCues) deadCheck disconnecting (attempt (leftScript none)).2 = true)
  have refused : (attempt (leftScript none)).1.1 ≠ .unit ∧ (attempt (attempt (leftScript none)).2).1.1 ≠ .unit := by
    decide +kernel
  cases freed _ _ _ _ _ _ _ _ _ _ _ (leftScript_usable none) rfl first second with
  | inl freed => exact refused.1 freed.answered
  | inr freed => exact refused.2 freed.answered

end Wgd.Store
