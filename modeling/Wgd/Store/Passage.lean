import Wgd.Store.Accessors

/-! What a connect leaves behind that returns an error. A ghost follows it from the
moment its helper reports itself ready. -/

set_option autoImplicit false

namespace Wgd.Store

open Wgd.Interaction Wgd.Net Wgd.Links Wgd.Config Wgd.Helper

inductive Stage where
  | waiting
  | ready
  /-- A hook has failed since. -/
  | undoing
  deriving DecidableEq, Repr

structure Passage where
  stage : Stage
  /-- A step has failed since for which nothing is undone. -/
  lapsed : Bool
  /-- The marker is in place. -/
  marked : Bool
  /-- The marker is in place, but that was reported as a failure. -/
  unsynced : Bool
  /-- On the way back the helper was taken to be down. -/
  concluded : Bool
  deriving DecidableEq, Repr

namespace Passage

def start : Passage := ⟨.waiting, false, false, false, false⟩

def ready : Passage := ⟨.ready, false, false, false, false⟩

def lapse : Passage := ⟨.ready, true, false, false, false⟩

def undoing (concluded : Bool) : Passage := ⟨.undoing, false, false, false, concluded⟩

end Passage

/-- What reading a pid file comes to. -/
def pidOutcome (path : String) : Except IoError String → Except AppError (Option Nat)
  | .ok raw => (parseGotatunPid path raw).map some
  | .error error => if error.kind = .notFound then .ok none else .error (.io error)

def pidReads (path : String) (reply : Except IoError String) : Bool :=
  match pidOutcome path reply with
  | .ok (some _) => true
  | _ => false

def helperStarts (op : StoreOp) (reply : op.Reply) : Bool :=
  match op, reply with
  | .spawnHelper _, .ok status => status.success
  | _, _ => false

def hookFails (op : StoreOp) (reply : op.Reply) : Bool :=
  match op, reply with
  | .runShell _, .ok status => !status.success
  | .runShell _, .error _ => true
  | _, _ => false

/-- The step fails, and once a helper is ready nothing is undone for it. -/
def lapses (op : StoreOp) (reply : op.Reply) : Bool :=
  match op, reply with
  | .readFile path, reply => !pidReads path reply
  | .pidIsAlive _, alive => !alive
  | .processIdentity _, .error _ => true
  | .metadata _, .error _ => true
  | .writeActive _ _, outcome => outcome ≠ .written
  | _, _ => false

/-- Nothing is found of a helper, or its status says that it has cleaned up and its device is gone. -/
def concludes (interface : String) (concluded : Bool) (op : StoreOp) (reply : op.Reply) : Bool :=
  match op, reply with
  | .pathExists path, there => concluded || (path = gotatunCleanupStatusPath interface && !there)
  | .waitForCleanupStatus _ _, status => status = some "ok"
  | .interfaceExists _, there => concluded && !there
  | _, _ => concluded

def Passage.mark (passage : Passage) (op : StoreOp) (reply : op.Reply) : Passage :=
  match op, reply with
  | .writeActive _ _, .written => { passage with marked := true }
  | .writeActive _ _, .unsynced _ => { passage with marked := true, unsynced := true }
  | _, _ => passage

def Passage.note (interface : String) (passage : Passage) (op : StoreOp) (reply : op.Reply) : Passage :=
  let passage := passage.mark op reply
  match passage.stage with
  | .waiting => if helperStarts op reply then { passage with stage := .ready } else passage
  | .ready =>
    if hookFails op reply then { passage with stage := .undoing }
    else { passage with lapsed := passage.lapsed || lapses op reply }
  | .undoing => { passage with concluded := concludes interface passage.concluded op reply }

/-- The store, with a connect on this interface being followed. -/
def watched (interface : String) : Environment storeCommands (StoreState × Passage) :=
  @Environment.observe storeCommands _ _ storeEnvironment (Passage.note interface)

/-- Every step is one the store may take, and the ghost follows it. -/
def Follows (interface : String) (env : Environment storeCommands (StoreState × Passage)) : Prop :=
  ∀ config op reply after, env config op reply after → watched interface config op reply after

theorem watched_follows (interface : String) : Follows interface (watched interface) := fun _ _ _ _ answered => answered

/-- The error says that the helper could not be taken down again. -/
def ReportsRollback (error : AppError) : Prop :=
  ∃ first second : AppError,
    error = .wireGuard s!"PostUp failed: {first.toText}; rollback also failed: {second.toText}"

/-- A connect that returns an error leaves no helper running that was not, or says so, and no marker. -/
def AllOrNothing (interface : String) (state : StoreState) (result : Except AppError Unit)
    (final : StoreState × Passage) : Prop :=
  ∀ error, result = .error error →
    (final.1.running interface = true → state.running interface = true ∨ ReportsRollback error) ∧ final.2.marked = false

/-- What has to go wrong for a connect to be none of both. -/
def Stranded (interface : String) (state : StoreState) (final : StoreState × Passage) : Prop :=
  final.2.unsynced = true ∨
    state.running interface = false ∧
      (final.2.lapsed = true ∨ final.2.concluded = true ∧ final.1.running interface = true)

variable {env : Environment storeCommands (StoreState × Passage)} {permits : StoreState × Passage → StoreOp → Prop}
  {state after : StoreState} {passage : Passage} {id : ConnectionId} {interface : String} {crates : Crates}

/-! ### Rules -/

/-- The rule for a call with a continuation. -/
theorem follow_call {A : Type} (follows : Follows interface env) {op : StoreOp} {f : op.Reply → StoreProgram A}
    {post : A → StoreState × Passage → Prop} (permitted : permits (state, passage) op)
    (rest : ∀ reply after, env (state, passage) op reply (after, passage.note interface op reply) →
      storeEnvironment state op reply after →
      @Ensures storeCommands _ _ env permits (f reply) post (after, passage.note interface op reply)) :
    @Ensures storeCommands _ _ env permits (storeCall op >>= f) post (state, passage) := by
  rw [Ensures.bind_iff]
  refine ⟨permitted, ?_⟩
  intro reply after answered
  obtain ⟨within, noted⟩ := follows _ _ _ _ answered
  obtain ⟨after, passage'⟩ := after
  dsimp only at within noted
  subst noted
  exact rest reply after answered within

/-- The rule for a call that leaves the state as it is. -/
theorem follow_quiet {A : Type} (follows : Follows interface env) {op : StoreOp} {f : op.Reply → StoreProgram A}
    {post : A → StoreState × Passage → Prop} (quiet : ∀ reply after, storeEnvironment state op reply after → after = state)
    (permitted : permits (state, passage) op)
    (rest : ∀ reply, env (state, passage) op reply (state, passage.note interface op reply) →
      storeEnvironment state op reply state →
      @Ensures storeCommands _ _ env permits (f reply) post (state, passage.note interface op reply)) :
    @Ensures storeCommands _ _ env permits (storeCall op >>= f) post (state, passage) := by
  apply follow_call follows permitted
  intro reply after answered within
  have same := quiet reply after within
  subst same
  exact rest reply answered within

/-- Only the start of a helper makes one run. -/
theorem running_lowers {op : StoreOp} {reply : op.Reply} (answered : storeEnvironment state op reply after)
    (quiet : op.raises = false) (running : after.running interface = true) : state.running interface = true := by
  cases op
  case spawnHelper spec => cases quiet
  case waitForCleanupStatus other seconds =>
    cases answered with
    | goesOn stale => exact running
    | ends files =>
      by_cases own : interface = other
      · simp [own] at running
      · simpa [own] using running
  case sweepInterface other =>
    obtain ⟨runtime, _, _, rfl⟩ := answered
    exact running
  case removeRegularFile path =>
    rcases answered with rfl | rfl <;> exact running
  case listRecords =>
    cases reply with
    | error error =>
      cases answered
      exact running
    | ok entries =>
      rw [← answered.2]
      exact running
  case tryExists path =>
    cases reply with
    | error error =>
      cases answered
      exact running
    | ok there =>
      rw [← answered.2]
      exact running
  all_goals first
    | (rw [← answered.2]; exact running)
    | (cases answered; exact running)

theorem note_start {op : StoreOp} (quiet : op.raises = false) (reply : op.Reply) :
    Passage.start.note interface op reply = .start := by
  cases op <;> first | rfl | cases quiet

/-! ### The errors -/

theorem reportsRollback_opening {text : String} (reports : ReportsRollback (.wireGuard text)) :
    text.toList.take 8 = "PostUp f".toList := by
  obtain ⟨first, second, same⟩ := reports
  injection same with same
  rw [same]
  simp [toString, String.toList_append]

theorem not_reports_io (error : IoError) : ¬ ReportsRollback (.io error) := by
  intro reports
  obtain ⟨_, _, same⟩ := reports
  cases same

theorem not_reports_other (text : String) : ¬ ReportsRollback (.other text) := by
  intro reports
  obtain ⟨_, _, same⟩ := reports
  cases same

/-! ### The helper is ready -/

theorem readGotatunPid_eq (path : String) :
    readGotatunPid path = storeCall (.readFile path) >>= fun reply => pure (pidOutcome path reply) := by
  unfold readGotatunPid
  congr 1
  funext reply
  cases reply with
  | ok raw => rfl
  | error error =>
    unfold pidOutcome
    dsimp only
    split <;> rfl

theorem pidOutcome_error {path : String} {reply : Except IoError String} {error : AppError}
    (failed : pidOutcome path reply = .error error) : ¬ ReportsRollback error := by
  unfold pidOutcome at failed
  split at failed
  · unfold parseGotatunPid at failed
    dsimp only at failed
    split at failed
    · cases failed
      exact not_reports_other _
    · split at failed
      · cases failed
        exact not_reports_other _
      · cases failed
  · split at failed
    · cases failed
    · cases failed
      exact not_reports_io _

/-- What a step between readiness and the marker comes to. -/
def Lapsed (state : StoreState) {A : Type} (result : Except AppError A) (final : StoreState × Passage) : Prop :=
  final.1 = state ∧ match result with
    | .ok _ => final.2 = .ready
    | .error error => final.2 = .lapse ∧ ¬ ReportsRollback error

theorem mark_quiet {op : StoreOp} (quiet : op.raises = false) (reply : op.Reply) : passage.mark op reply = passage := by
  cases op <;> first | rfl | cases quiet

theorem note_ready {op : StoreOp} {reply : op.Reply} (passes : lapses op reply = false) (noHook : hookFails op reply = false)
    (quiet : op.raises = false) : Passage.ready.note interface op reply = .ready := by
  simp [Passage.note, mark_quiet quiet, Passage.ready, passes, noHook]

theorem note_lapse {op : StoreOp} {reply : op.Reply} (fails : lapses op reply = true) (noHook : hookFails op reply = false)
    (quiet : op.raises = false) : Passage.ready.note interface op reply = .lapse := by
  simp [Passage.note, mark_quiet quiet, Passage.ready, Passage.lapse, fails, noHook]

theorem note_pid (path : String) (reply : Except IoError String) :
    Passage.ready.note interface (.readFile path) reply = if pidReads path reply then .ready else .lapse := by
  have quiet : (StoreOp.readFile path).raises = false := rfl
  cases reads : pidReads path reply with
  | true => exact note_ready (by simp [lapses, reads]) rfl quiet
  | false => exact note_lapse (by simp [lapses, reads]) rfl quiet

theorem identity_follows (follows : Follows interface env) (pid : Nat) :
    @Ensures storeCommands _ _ env (fun _ _ => True) (ensureGotatunProcessIdentity pid) (Lapsed state) (state, .ready) := by
  apply follow_quiet follows (by exact fun _ _ answered => answered) trivial
  intro identity _ _
  cases identity with
  | ok value => exact ⟨rfl, rfl⟩
  | error text => exact ⟨rfl, rfl, not_reports_other text⟩

theorem confirmHelper_follows (follows : Follows interface env) :
    @Ensures storeCommands _ _ env (fun _ _ => True) (confirmHelper interface) (Lapsed state) (state, .ready) := by
  unfold confirmHelper
  rw [readGotatunPid_eq]
  have reads : @Ensures storeCommands _ _ env (fun _ _ => True)
      (storeCall (.readFile (gotatunPidPath interface)) >>= fun reply => pure (pidOutcome (gotatunPidPath interface) reply))
      (fun outcome final => final.1 = state ∧ match outcome with
        | .ok (some _) => final.2 = .ready
        | .ok none => final.2 = .lapse
        | .error error => final.2 = .lapse ∧ ¬ ReportsRollback error) (state, .ready) := by
    apply follow_quiet follows (by exact fun _ _ answered => answered.2) trivial
    intro reply _ _
    rw [note_pid, pidReads]
    cases outcome : pidOutcome (gotatunPidPath interface) reply with
    | error error => exact ⟨rfl, rfl, pidOutcome_error outcome⟩
    | ok tracked => cases tracked <;> exact ⟨rfl, rfl⟩
  apply ensures_attempt reads
  · intro error final holds
    exact holds
  · intro tracked final holds
    obtain ⟨final, passage⟩ := final
    obtain ⟨same, noted⟩ := holds
    dsimp only at same noted
    subst same
    cases tracked with
    | none =>
      subst noted
      refine ⟨rfl, rfl, ?_⟩
      intro reports
      have opening := reportsRollback_opening reports
      simp [toString, String.toList_append] at opening
    | some pid =>
      subst noted
      apply follow_quiet follows (by exact fun _ _ answered => answered) trivial
      intro alive _ _
      cases alive with
      | true => exact identity_follows follows pid
      | false =>
        refine ⟨rfl, rfl, ?_⟩
        intro reports
        have opening := reportsRollback_opening reports
        simp [toString, String.toList_append] at opening

/-- What the hooks of a connect that is up come to. -/
def Hooked (state : StoreState) (result : Except AppError Unit) (final : StoreState × Passage) : Prop :=
  match result with
  | .ok () => final = (state, .ready)
  | .error error => final = (state, .undoing false) ∧ ¬ ReportsRollback error

theorem postUpHook_follows (follows : Follows interface env) (command : String) :
    @Ensures storeCommands _ _ env (fun _ _ => True) (runHook command interface "PostUp") (Hooked state) (state, .ready) := by
  apply follow_quiet follows (by exact fun _ _ answered => answered) trivial
  intro outcome _ _
  cases outcome with
  | error text => exact ⟨rfl, not_reports_other _⟩
  | ok status =>
    cases success : status.success with
    | true => simp [Hooked, Passage.note, Passage.ready, Passage.mark, hookFails, lapses, success]
    | false =>
      have undoing : Passage.ready.note interface (.runShell (substituteInterface command interface)) (.ok status) =
          .undoing false := by
        simp [Passage.note, Passage.ready, Passage.mark, Passage.undoing, hookFails, success]
      rw [undoing]
      dsimp only
      rw [if_neg (by simp [success])]
      refine ⟨rfl, ?_⟩
      intro reports
      have opening := reportsRollback_opening reports
      simp [toString, String.toList_append] at opening

theorem postUpHooks_follow (follows : Follows interface env) (commands : List String) :
    @Ensures storeCommands _ _ env (fun _ _ => True) (runHooks commands interface "PostUp") (Hooked state) (state, .ready) := by
  apply Ensures.forEach (fun _ config => config = (state, .ready))
  · intro command rest config here
    subst here
    apply (postUpHook_follows follows command).mono
    intro outcome final holds
    cases outcome with
    | error error => exact holds
    | ok value => exact holds
  · intro config here
    exact here
  · rfl

/-- What writing the marker comes to. -/
def Recorded (interface : String) (result : Except AppError Unit) (final : StoreState × Passage) : Prop :=
  match result with
  | .ok () => final.2.lapsed = false ∧ final.2.unsynced = false ∧ final.2.concluded = false
  | .error error => ¬ ReportsRollback error ∧ final.1.running interface = true ∧ final.2.lapsed = true ∧
      final.2.marked = final.2.unsynced

theorem recordActive_follows (follows : Follows interface env) {stored : StoredConnection} (debug : Bool)
    (running : state.running interface = true) :
    @Ensures storeCommands _ _ env (fun _ _ => True) (recordActive stored debug) (Recorded interface) (state, .ready) := by
  apply follow_quiet follows (by exact fun _ _ answered => answered.2) trivial
  intro reply _ _
  cases reply with
  | error error => exact ⟨not_reports_io error, running, rfl, rfl⟩
  | ok metadata =>
    apply follow_quiet follows (by exact fun _ _ answered => answered) trivial
    intro now _ _
    apply follow_call follows trivial
    intro outcome after _ within
    cases within
    cases outcome with
    | written => exact ⟨rfl, rfl, rfl⟩
    | failed error => exact ⟨not_reports_io error, running, rfl, rfl⟩
    | unsynced error => exact ⟨not_reports_io error, running, rfl, rfl⟩

/-! ### On the way back -/

theorem socketPath_ne_cleanup (interface : String) : socketPath interface ≠ gotatunCleanupStatusPath interface := by
  intro same
  have texts := congrArg String.toList same
  simp [socketPath, gotatunCleanupStatusPath, gotatunRuntimePath, String.toList_append] at texts

theorem note_undoing {op : StoreOp} (quiet : op.raises = false) (concluded : Bool) (reply : op.Reply) :
    (Passage.undoing concluded).note interface op reply = .undoing (concludes interface concluded op reply) := by
  simp [Passage.note, mark_quiet quiet, Passage.undoing]

/-- A step that says nothing of the helper being down. -/
theorem undoing_call {A : Type} (follows : Follows interface env) {op : StoreOp} {f : op.Reply → StoreProgram A}
    {post : A → StoreState × Passage → Prop} {concluded : Bool} (quiet : op.raises = false)
    (silent : ∀ reply, concludes interface concluded op reply = concluded)
    (rest : ∀ reply after, @Ensures storeCommands _ _ env (fun _ _ => True) (f reply) post (after, .undoing concluded)) :
    @Ensures storeCommands _ _ env (fun _ _ => True) (storeCall op >>= f) post (state, .undoing concluded) := by
  apply follow_call follows trivial
  intro reply after _ _
  rw [note_undoing quiet, silent reply]
  exact rest reply after

/-- A program that leaves the ghost on its way back where it is. -/
abbrev Silent (env : Environment storeCommands (StoreState × Passage)) (concluded : Bool) {A : Type} (p : StoreProgram A) :
    Prop :=
  ∀ state : StoreState, @Ensures storeCommands _ _ env (fun _ _ => True) p (fun _ final => final.2 = .undoing concluded)
    (state, .undoing concluded)

theorem silent_call {A : Type} (follows : Follows interface env) {op : StoreOp} {f : op.Reply → StoreProgram A}
    {concluded : Bool} (quiet : op.raises = false) (silent : ∀ reply, concludes interface concluded op reply = concluded)
    (rest : ∀ reply, Silent env concluded (f reply)) : Silent env concluded (storeCall op >>= f) :=
  fun _ => undoing_call follows quiet silent fun reply after => rest reply after

theorem Silent.done {concluded : Bool} {A : Type} (result : A) : Silent env concluded (.done result) := fun _ => rfl

theorem Silent.bind {concluded : Bool} {A B : Type} {p : StoreProgram A} {f : A → StoreProgram B}
    (first : Silent env concluded p) (rest : ∀ value, Silent env concluded (f value)) : Silent env concluded (p >>= f) := by
  intro state
  apply ensures_bind (first state)
  intro value final here
  obtain ⟨after, passage⟩ := final
  cases here
  exact rest value after

/-- Up to its first failure the shutdown comes to no conclusion. -/
theorem Silent.attempt {A B : Type} {p : StoreProgram (Except AppError A)} {f : A → StoreProgram (Except AppError B)}
    {post : Except AppError B → StoreState × Passage → Prop} (first : Silent env false p)
    (failed : ∀ error final, final.2 = .undoing false → post (.error error) final)
    (rest : ∀ value after, @Ensures storeCommands _ _ env (fun _ _ => True) (f value) post (after, .undoing false)) :
    @Ensures storeCommands _ _ env (fun _ _ => True) (p.attempt f) post (state, .undoing false) := by
  apply ensures_attempt (first state)
  · intro error final here
    exact failed error final here
  · intro value final here
    obtain ⟨after, passage⟩ := final
    cases here
    exact rest value after

theorem readActualInterface_silent (follows : Follows interface env) : Silent env false (readActualInterface interface) :=
  silent_call follows rfl (fun _ => rfl) fun _ => .done _

theorem readGotatunPid_silent (follows : Follows interface env) (path : String) : Silent env false (readGotatunPid path) := by
  rw [readGotatunPid_eq]
  exact silent_call follows rfl (fun _ => rfl) fun _ => .done _

theorem checkTracked_silent (follows : Follows interface env) (tracked : Option Nat) : Silent env false (checkTracked tracked) := by
  cases tracked with
  | none => exact .done _
  | some pid =>
    apply silent_call follows rfl fun _ => rfl
    intro alive
    cases alive with
    | false => exact .done _
    | true => exact silent_call follows rfl (fun _ => rfl) fun _ => .done _

theorem removeControlSocket_silent (follows : Follows interface env) : Silent env false (removeControlSocket interface) := by
  apply silent_call follows rfl
  · intro there
    simp [concludes, socketPath_ne_cleanup]
  · intro there
    cases there with
    | false => exact .done _
    | true => exact silent_call follows rfl (fun _ => rfl) fun _ => .done _

theorem terminateTracked_silent (follows : Follows interface env) (tracked : Option Nat) :
    Silent env false (terminateTracked tracked) := by
  cases tracked with
  | none => exact .done _
  | some pid =>
    apply silent_call follows rfl fun _ => rfl
    intro alive
    cases alive with
    | false => exact .done _
    | true => exact silent_call follows rfl (fun _ => rfl) fun _ => .done _

theorem clearHelperFiles_silent (follows : Follows interface env) (concluded : Bool) :
    Silent env concluded (clearHelperFiles interface) := by
  apply silent_call follows rfl fun _ => rfl
  intro _
  apply silent_call follows rfl fun _ => rfl
  intro _
  apply silent_call follows rfl fun _ => rfl
  intro _
  exact .done _

/-- What taking the helper down comes to: it succeeds where it concludes that the helper is down. -/
def Undone {A : Type} (concluded : A → Bool) (result : Except AppError A) (final : StoreState × Passage) : Prop :=
  match result with
  | .ok value => final.2 = .undoing (concluded value)
  | .error _ => final.2 = .undoing false

theorem alreadyAbsent_undoes (follows : Follows interface env) (tracked : Option Nat) (actualInterface : Option (List Char)) :
    @Ensures storeCommands _ _ env (fun _ _ => True) (alreadyAbsent interface tracked actualInterface)
      (fun absent final => final.2 = .undoing absent) (state, .undoing false) := by
  unfold alreadyAbsent
  split
  · apply undoing_call follows rfl
    · intro there
      simp [concludes, socketPath_ne_cleanup]
    · intro there after
      cases there with
      | true => exact rfl
      | false =>
        apply follow_call follows trivial
        intro status final _ _
        rw [note_undoing rfl]
        simp [concludes]
  · exact rfl

theorem awaitCleanupStatus_undoes (follows : Follows interface env) (tracked : Option Nat) :
    @Ensures storeCommands _ _ env (fun _ _ => True) (awaitCleanupStatus interface tracked)
      (Undone fun status => status = "ok") (state, .undoing false) := by
  apply follow_call follows trivial
  intro status after _ _
  rw [note_undoing rfl]
  cases status with
  | some status => simp [Undone, concludes]
  | none =>
    apply Silent.attempt (terminateTracked_silent follows tracked)
    · intro error final here
      exact here
    · intro value after
      apply follow_call follows trivial
      intro status final _ _
      rw [note_undoing rfl]
      cases status with
      | some status => simp [Undone, concludes]
      | none => simp [Undone, concludes]

theorem checkInterfaceGone_undoes (follows : Follows interface env) (name : Option (List Char)) :
    @Ensures storeCommands _ _ env (fun _ _ => True) (checkInterfaceGone name) (Undone fun _ => true)
      (state, .undoing true) := by
  cases name with
  | none => exact rfl
  | some name =>
    apply follow_call follows trivial
    intro there after _ _
    rw [note_undoing rfl]
    cases there <;> exact rfl

theorem runGotatunDown_undoes (follows : Follows interface env) :
    @Ensures storeCommands _ _ env (fun _ _ => True) (runGotatunDown interface) (Undone fun _ => true)
      (state, .undoing false) := by
  apply ensures_bind (readActualInterface_silent follows state)
  intro name final here
  obtain ⟨final, passage⟩ := final
  cases here
  apply Silent.attempt (readGotatunPid_silent follows _) fun error final here => here
  intro tracked final
  apply Silent.attempt (checkTracked_silent follows tracked) fun error final here => here
  intro _ final
  apply ensures_bind (alreadyAbsent_undoes follows tracked name)
  intro absent final here
  obtain ⟨final, passage⟩ := final
  cases here
  cases absent with
  | true => exact rfl
  | false =>
    apply Silent.attempt (removeControlSocket_silent follows) fun error final here => here
    intro _ final
    apply ensures_attempt (awaitCleanupStatus_undoes follows tracked)
    · intro error final here
      exact here
    intro status final here
    obtain ⟨final, passage⟩ := final
    cases here
    dsimp only
    split
    · rename_i cleaned
      rw [decide_eq_true cleaned]
      apply ensures_attempt (checkInterfaceGone_undoes follows name)
      · intro error final here
        exact here
      intro _ final here
      obtain ⟨final, passage⟩ := final
      cases here
      apply ensures_bind (clearHelperFiles_silent follows true final)
      intro _ final here
      exact here
    · rename_i failed
      rw [decide_eq_false failed]
      exact rfl

theorem rollback_undoes (follows : Follows interface env) :
    @Ensures storeCommands _ _ env (fun _ _ => True) (withNetworkLock (runGotatunDown interface)) (Undone fun _ => true)
      (state, .undoing false) := by
  apply undoing_call follows rfl fun _ => rfl
  intro locked after
  cases locked with
  | error error => exact rfl
  | ok value =>
    apply ensures_bind (runGotatunDown_undoes follows)
    intro result final here
    obtain ⟨final, passage⟩ := final
    cases result with
    | error error =>
      cases here
      apply undoing_call follows rfl fun _ => rfl
      intro _ _
      exact rfl
    | ok value =>
      cases here
      apply undoing_call follows rfl fun _ => rfl
      intro _ _
      exact rfl

/-- What the hooks and, where one fails, the way back come to. -/
def PostUp (state : StoreState) (result : Except AppError Unit) (final : StoreState × Passage) : Prop :=
  match result with
  | .ok () => final = (state, .ready)
  | .error error => final.2 = .undoing true ∧ ¬ ReportsRollback error ∨ final.2 = .undoing false ∧ ReportsRollback error

theorem postUp_follows (follows : Follows interface env) (reparsed : ConnectionConfig) :
    @Ensures storeCommands _ _ env (fun _ _ => True) (postUp reparsed interface) (PostUp state) (state, .ready) := by
  apply ensures_bind (postUpHooks_follow follows reparsed.postUp)
  intro outcome final holds
  cases outcome with
  | ok value => exact holds
  | error error =>
    obtain ⟨here, silent⟩ := holds
    subst here
    apply ensures_bind (rollback_undoes follows)
    intro rollback final here
    cases rollback with
    | ok value => exact .inl ⟨here, silent⟩
    | error rollbackError => exact .inr ⟨here, error, rollbackError, rfl⟩

/-! ### Until the helper is ready -/

/-- No helper runs that did not run before. -/
def Lowers (interface : String) (before state : StoreState) : Prop :=
  state.running interface = true → before.running interface = true

theorem waiting_call {before : StoreState} {A : Type} (follows : Follows interface env) {op : StoreOp}
    {f : op.Reply → StoreProgram A} {post : A → StoreState × Passage → Prop} (kept : Lowers interface before state)
    (quiet : op.raises = false)
    (rest : ∀ reply after, Lowers interface before after →
      @Ensures storeCommands _ _ env (fun _ _ => True) (f reply) post (after, .start)) :
    @Ensures storeCommands _ _ env (fun _ _ => True) (storeCall op >>= f) post (state, .start) := by
  apply follow_call follows trivial
  intro reply after _ within
  rw [note_start quiet]
  exact rest reply after fun running => kept (running_lowers within quiet running)

/-- A program that starts no helper, before one is ready. -/
theorem waiting_bind {before : StoreState} {A B : Type} (follows : Follows interface env)
    {p : StoreProgram A} {f : A → StoreProgram B} {mid : A → Prop} {post : B → StoreState × Passage → Prop}
    (issues : @Issues storeCommands _ (OnTeardown id) p mid) (kept : Lowers interface before state)
    (rest : ∀ value after, mid value → Lowers interface before after →
      @Ensures storeCommands _ _ env (fun _ _ => True) (f value) post (after, .start)) :
    @Ensures storeCommands _ _ env (fun _ _ => True) (p >>= f) post (state, .start) := by
  have ensured := @Issues.keeps storeCommands _ _ _ _ _ env (fun s => s.2 = .start ∧ Lowers interface before s.1)
    (state, .start) issues (fun s op reply final quiet holds answered => by
      obtain ⟨within, noted⟩ := follows _ _ _ _ answered
      rw [holds.1, note_start quiet.2] at noted
      exact ⟨noted, fun running => holds.2 (running_lowers within quiet.2 running)⟩) ⟨rfl, kept⟩
  apply ensures_bind (ensured.relax fun _ _ _ => trivial)
  intro value final holds
  obtain ⟨after, passage⟩ := final
  obtain ⟨⟨here, kept⟩, reached⟩ := holds
  cases here
  exact rest value after reached kept

theorem waiting_attempt {before : StoreState} {A B : Type} (follows : Follows interface env)
    {p : StoreProgram (Except AppError A)} {f : A → StoreProgram (Except AppError B)} {mid : A → Prop}
    {post : Except AppError B → StoreState × Passage → Prop} (teardown : Teardown id p mid)
    (kept : Lowers interface before state)
    (failed : ∀ error after, Lowers interface before after → post (.error error) (after, .start))
    (rest : ∀ value after, mid value → Lowers interface before after →
      @Ensures storeCommands _ _ env (fun _ _ => True) (f value) post (after, .start)) :
    @Ensures storeCommands _ _ env (fun _ _ => True) (p.attempt f) post (state, .start) := by
  apply waiting_bind follows teardown kept
  intro outcome after holds kept
  cases outcome with
  | error error => exact failed error after kept
  | ok value => exact rest value after holds kept

/-- What starting a helper comes to. -/
def Raised (interface : String) (before : StoreState) (result : Except AppError Unit) (final : StoreState × Passage) : Prop :=
  match result with
  | .ok () => final.2 = .ready ∧ final.1.running interface = true
  | .error error => final.2 = .start ∧ Lowers interface before final.1 ∨
      final.2 = .lapse ∧ final.1.running interface = true ∧ ¬ ReportsRollback error

theorem startHelper_raises {before : StoreState} {spec : HelperSpec} (follows : Follows interface env)
    (own : spec.interface = interface) (kept : Lowers interface before state) :
    @Ensures storeCommands _ _ env (fun _ _ => True) (startHelper spec) (Raised interface before) (state, .start) := by
  apply follow_call follows trivial
  intro outcome after _ within
  cases within with
  | notStarted => exact .inl ⟨rfl, kept⟩
  | failed failure =>
    dsimp only
    rw [failure]
    refine .inl ⟨?_, kept⟩
    simp [Passage.note, Passage.mark, Passage.start, helperStarts, failure]
  | @ready status runtime success files =>
    have ready : Passage.start.note interface (.spawnHelper spec) (.ok status) = .ready := by
      simp [Passage.note, Passage.mark, Passage.start, Passage.ready, helperStarts, success]
    rw [ready]
    dsimp only
    rw [success, own]
    apply (confirmHelper_follows follows).mono
    intro result final holds
    obtain ⟨final, passage⟩ := final
    obtain ⟨here, noted⟩ := holds
    dsimp only at here noted
    subst here
    have running : (Function.update state.running interface true) interface = true := by simp
    cases result with
    | ok value => exact ⟨noted, running⟩
    | error error => exact .inr ⟨noted.1, running, noted.2⟩

theorem note_lapsed {op : StoreOp} {reply : op.Reply} (noHook : hookFails op reply = false) (quiet : op.raises = false) :
    Passage.lapse.note interface op reply = .lapse := by
  simp [Passage.note, mark_quiet quiet, Passage.lapse, noHook]

/-- A call after the helper that cannot fail changes nothing of what has come of it. -/
theorem raised_call {before : StoreState} (follows : Follows interface env) {op : StoreOp}
    {f : op.Reply → StoreProgram (Except AppError Unit)} {outcome : Except AppError Unit}
    (raised : Raised interface before outcome (state, passage))
    (unchanged : ∀ reply after, storeEnvironment state op reply after → after = state) (quiet : op.raises = false)
    (fine : ∀ reply, lapses op reply = false ∧ hookFails op reply = false)
    (rest : ∀ reply passage, Raised interface before outcome (state, passage) →
      @Ensures storeCommands _ _ env (fun _ _ => True) (f reply) (Raised interface before) (state, passage)) :
    @Ensures storeCommands _ _ env (fun _ _ => True) (storeCall op >>= f) (Raised interface before) (state, passage) := by
  apply follow_quiet follows unchanged trivial
  intro reply _ _
  apply rest
  obtain ⟨passes, noHook⟩ := fine reply
  cases outcome with
  | ok value =>
    obtain ⟨noted, running⟩ := raised
    cases noted
    exact ⟨note_ready passes noHook quiet, running⟩
  | error error =>
    rcases raised with ⟨noted, kept⟩ | ⟨noted, running, silent⟩
    · cases noted
      exact .inl ⟨note_start quiet reply, kept⟩
    · cases noted
      exact .inr ⟨note_lapsed noHook quiet, running, silent⟩

theorem runGotatunUp_raises {before : StoreState} {spec : HelperSpec} (follows : Follows id.interfaceName env)
    (own : spec.interface = id.interfaceName) (kept : Lowers id.interfaceName before state) :
    @Ensures storeCommands _ _ env (fun _ _ => True) (runGotatunUp spec) (Raised id.interfaceName before) (state, .start) := by
  have early : ∀ error after, Lowers id.interfaceName before after →
      Raised id.interfaceName before (.error error) (after, .start) := fun _ _ kept => .inl ⟨rfl, kept⟩
  apply waiting_attempt follows (@readGotatunPid_teardown id _) kept early
  intro tracked after _ kept
  apply waiting_bind follows (@trackedIsAlive_issues id tracked) kept
  intro alive after _ kept
  cases alive with
  | true => exact early _ _ kept
  | false =>
    apply waiting_attempt follows (@selfExecutableForSpawn_teardown id) kept early
    intro _ after _ kept
    apply waiting_attempt follows (@rotateHelperLog_teardown id _ own) kept early
    intro _ after _ kept
    rw [own]
    apply waiting_bind follows clearHelperFiles_issues kept
    intro _ after _ kept
    exact startHelper_raises follows own kept

theorem bringUp_raises {before : StoreState} {spec : HelperSpec} (follows : Follows id.interfaceName env)
    (own : spec.interface = id.interfaceName) (reparsed : ConnectionConfig) (kept : Lowers id.interfaceName before state) :
    @Ensures storeCommands _ _ env (fun _ _ => True) (bringUp spec reparsed) (Raised id.interfaceName before)
      (state, .start) := by
  apply waiting_call follows kept rfl
  intro locked after kept
  cases locked with
  | error error => exact .inl ⟨rfl, kept⟩
  | ok value =>
    refine @ensures_bind _ _ _ _ _ _ _ _ (Raised id.interfaceName before) _ ?_ ?_
    · apply waiting_call follows kept rfl
      intro ensured after kept
      cases ensured with
      | error error => exact .inl ⟨rfl, kept⟩
      | ok value =>
        apply waiting_call follows kept rfl
        intro _ after kept
        apply waiting_bind follows (@createSentinelFor_teardown id reparsed) kept
        intro _ after _ kept
        apply ensures_bind (runGotatunUp_raises follows own kept)
        intro result final raised
        apply raised_call follows raised (by exact fun _ _ answered => answered) rfl (fun _ => ⟨rfl, rfl⟩)
        intro _ passage raised
        exact raised
    · intro result final raised
      apply raised_call follows raised (by exact fun _ _ answered => answered) rfl (fun _ => ⟨rfl, rfl⟩)
      intro _ passage raised
      exact raised

/-! ### The whole connect -/

/-- How a connect can end. -/
inductive Ended (interface : String) (before : StoreState) : Except AppError Unit → StoreState × Passage → Prop where
  | early {result : Except AppError Unit} {final : StoreState} (kept : Lowers interface before final) :
      Ended interface before result (final, .start)
  | up {final : StoreState × Passage}
      (fine : final.2.lapsed = false ∧ final.2.unsynced = false ∧ final.2.concluded = false) :
      Ended interface before (.ok ()) final
  | lapsed {error : AppError} {final : StoreState × Passage} (silent : ¬ ReportsRollback error)
      (running : final.1.running interface = true) (lapsed : final.2.lapsed = true)
      (marked : final.2.marked = final.2.unsynced) : Ended interface before (.error error) final
  | undone {error : AppError} {final : StoreState} (silent : ¬ ReportsRollback error) :
      Ended interface before (.error error) (final, .undoing true)
  | stuck {error : AppError} {final : StoreState} (reports : ReportsRollback error) :
      Ended interface before (.error error) (final, .undoing false)

theorem startConnection_ends {before : StoreState} {stored : StoredConnection} (follows : Follows id.interfaceName env)
    (own : stored.interface = id.interfaceName) (reparsed : ConnectionConfig) (debug : Bool)
    (kept : Lowers id.interfaceName before state) :
    @Ensures storeCommands _ _ env (fun _ _ => True) (startConnection stored reparsed debug) (Ended id.interfaceName before)
      (state, .start) := by
  have early : ∀ (error : AppError) after, Lowers id.interfaceName before after →
      Ended id.interfaceName before (.error error) (after, .start) := fun _ _ kept => .early kept
  unfold startConnection
  rw [own]
  apply waiting_attempt follows (@checkNoSocket_teardown id _) kept early
  intro _ after _ kept
  apply waiting_attempt follows (@runHooks_teardown id _ reparsed.preUp "PreUp") kept early
  intro _ after _ kept
  apply ensures_attempt (bringUp_raises follows own reparsed kept)
  · intro error final raised
    obtain ⟨final, passage⟩ := final
    rcases raised with ⟨noted, kept⟩ | ⟨noted, running, silent⟩
    · cases noted
      exact .early kept
    · cases noted
      exact .lapsed silent running rfl rfl
  intro _ final raised
  obtain ⟨final, passage⟩ := final
  obtain ⟨noted, running⟩ := raised
  cases noted
  apply ensures_attempt (postUp_follows follows reparsed)
  · intro error final holds
    obtain ⟨final, passage⟩ := final
    rcases holds with ⟨noted, silent⟩ | ⟨noted, reports⟩
    · cases noted
      exact .undone silent
    · cases noted
      exact .stuck reports
  intro _ last here
  cases here
  apply (recordActive_follows follows debug running).mono
  intro result last recorded
  cases result with
  | ok value => exact .up recorded
  | error error => exact .lapsed recorded.1 recorded.2.1 recorded.2.2.1 recorded.2.2.2

theorem connect_ends (follows : Follows id.interfaceName env) (debug : Bool) :
    @Ensures storeCommands _ _ env (fun _ _ => True) (connect crates id debug) (Ended id.interfaceName state)
      (state, .start) := by
  have early : ∀ (error : AppError) after, Lowers id.interfaceName state after →
      Ended id.interfaceName state (.error error) (after, .start) := fun _ _ kept => .early kept
  apply waiting_attempt follows (@loadRequired_teardown id) (fun running => running) early
  intro stored after own kept
  apply waiting_attempt follows (@reparseAndVerify_teardown id crates stored) kept early
  intro reparsed after _ kept
  split
  · exact .early kept
  rw [own.2]
  apply waiting_attempt follows (@clearLeftovers_teardown id) kept early
  intro _ after _ kept
  apply waiting_attempt follows (@alreadyUp_teardown id stored own.1) kept early
  intro up after _ kept
  cases up with
  | true => exact .early kept
  | false => exact startConnection_ends follows own.2 reparsed debug kept

theorem Ended.allOrNothing_iff {before : StoreState} {result : Except AppError Unit} {final : StoreState × Passage}
    (ended : Ended interface before result final) :
    AllOrNothing interface before result final ↔ ¬ Stranded interface before final := by
  cases ended with
  | early kept =>
    simp only [AllOrNothing, Stranded, Passage.start]
    simpa using fun _ _ running => .inl (kept running)
  | up fine =>
    obtain ⟨notLapsed, synced, unconcluded⟩ := fine
    simp [AllOrNothing, Stranded, notLapsed, synced, unconcluded]
  | @lapsed error final silent running lapsed marked =>
    simp [AllOrNothing, Stranded, silent, running, lapsed, marked, and_comm]
  | @undone error final silent =>
    simp only [AllOrNothing, Stranded, Passage.undoing]
    cases before.running interface <;> simp [silent]
  | @stuck error final reports => simp [AllOrNothing, Stranded, Passage.undoing, reports]

/-- A connect is all or nothing exactly where, once its helper is ready, no step fails that
nothing is undone for, and no helper survives being taken down. -/
theorem connect_allOrNothing {debug : Bool} {result : Except AppError Unit} {final : StoreState × Passage}
    (connected : @Completes storeCommands _ _ (watched id.interfaceName) (connect crates id debug) (state, .start) result final) :
    AllOrNothing id.interfaceName state result final ↔ ¬ Stranded id.interfaceName state final :=
  ((connect_ends (watched_follows _) debug).completes connected).allOrNothing_iff

end Wgd.Store
