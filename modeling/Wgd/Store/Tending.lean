import Wgd.Store.Passage
import Wgd.Store.Requests
import Wgd.Store.Script

/-! A helper that runs is covered by its marker, and its connection's record stays: over
connects, disconnects and removals of which no step fails that would expose a helper. -/

set_option autoImplicit false

namespace Wgd.Store

open Wgd.Interaction Wgd.Net Wgd.Links Wgd.Config Wgd.Helper

/-- The marker is there, and so is the socket it names. -/
structure Covered (id : ConnectionId) (state : StoreState) : Prop where
  marker : ∃ marker, state.active id = some (.marker marker) ∧ marker.socket = socketPath id.interfaceName
  socket : (state.runtime (socketPath id.interfaceName)).isSome = true

/-- No clean-up status of an earlier helper is left. -/
def Clean (id : ConnectionId) (state : StoreState) : Prop := state.runtime (gotatunCleanupStatusPath id.interfaceName) = none

/-- The helper, if it runs, is covered. -/
def Tended (id : ConnectionId) (state : StoreState) : Prop :=
  state.running id.interfaceName = true → Covered id state ∧ Clean id state

/-- The failures of a ready helper's connect after which there is no marker. -/
def loses (op : StoreOp) (reply : op.Reply) : Bool :=
  match op, reply with
  | .writeActive _ _, .unsynced _ => false
  | op, reply => lapses op reply

/-- The failures on the way down after which the helper may go on. -/
def staysUp (interface : String) (op : StoreOp) (reply : op.Reply) : Bool :=
  match op, reply with
  | .lockNetwork, .error _ => true
  | .readFile path, reply => path = gotatunPidPath interface && !(pidOutcome path reply).isOk
  | .processIdentity _, .error _ => true
  | .pathExists path, there => path = gotatunCleanupStatusPath interface && !there
  | .removeFile path, .error _ => path = socketPath interface
  | .terminate _, .error _ => true
  | .waitForCleanupStatus _ seconds, status => seconds = 5 && status.isNone
  | _, _ => false

def statFails (op : StoreOp) (reply : op.Reply) : Bool :=
  match op, reply with
  | .tryExists _, .error _ => true
  | _, _ => false

/-- A helper is started where no clean-up status is left, its socket can be looked for, and
while it runs uncovered nothing fails that could cover it or take it down. -/
structure Careful (id : ConnectionId) (config : StoreState × Passage) (op : StoreOp) (reply : op.Reply) : Prop where
  spawns : ∀ spec, op = .spawnHelper spec → Clean id config.1
  stats : config.1.running id.interfaceName = true → statFails op reply = false
  up : config.1.running id.interfaceName = true → ¬ Covered id config.1 → config.2.stage = .ready → loses op reply = false
  down : config.1.running id.interfaceName = true → ¬ Covered id config.1 → config.2.stage ≠ .ready →
    staysUp id.interfaceName op reply = false

/-- The store, a connect being followed, with careful steps only. -/
def carefully (id : ConnectionId) : Environment storeCommands (StoreState × Passage) :=
  @Environment.meeting storeCommands _ (watched id.interfaceName) (Careful id)

/-- A record is not removed while a helper runs. -/
def Spares (id : ConnectionId) (config : StoreState × Passage) (op : StoreOp) : Prop :=
  ∀ other, op = .removeRecord other → config.1.running id.interfaceName = false

variable {state after : StoreState} {passage : Passage} {id : ConnectionId} {crates : Crates} {stage : Stage}

theorem carefully_follows : Follows id.interfaceName (carefully id) := fun _ _ _ _ answered => answered.2

theorem Tended.of_down (down : state.running id.interfaceName = false) : Tended id state := by
  intro running
  rw [down] at running
  cases running

theorem Covered.congr (covered : Covered id state) (active : after.active = state.active) (runtime : after.runtime = state.runtime) :
    Covered id after :=
  ⟨active ▸ covered.marker, runtime ▸ covered.socket⟩

theorem Tended.congr (tended : Tended id state) (active : after.active = state.active)
    (runtime : after.runtime = state.runtime) (running : after.running = state.running) : Tended id after := by
  intro up
  obtain ⟨covered, clean⟩ := tended (running ▸ up)
  exact ⟨covered.congr active runtime, (congrFun runtime _).trans clean⟩

/-- A failure on the way down leaves the helper covered, or it does not happen. -/
theorem Careful.covered_down {op : StoreOp} {reply : op.Reply} (careful : Careful id (state, passage) op reply)
    (running : state.running id.interfaceName = true) (calm : passage.stage ≠ .ready)
    (fails : staysUp id.interfaceName op reply = true) : Covered id state := by
  by_contra uncovered
  have fine := careful.down running uncovered calm
  rw [fails] at fine
  cases fine

theorem Careful.covered_up {op : StoreOp} {reply : op.Reply} (careful : Careful id (state, passage) op reply)
    (running : state.running id.interfaceName = true) (ready : passage.stage = .ready) (fails : loses op reply = true) :
    Covered id state := by
  by_contra uncovered
  have fine := careful.up running uncovered ready
  rw [fails] at fine
  cases fine

/-! ### Stages -/

theorem note_stage {op : StoreOp} (quiet : op.raises = false) (reply : op.Reply) {interface : String}
    (calm : passage.stage ≠ .ready) : (passage.note interface op reply).stage = passage.stage := by
  have silent : helperStarts op reply = false := by
    cases op <;> first | rfl | cases quiet
  unfold Passage.note
  rw [mark_quiet quiet]
  dsimp only
  cases here : passage.stage with
  | waiting => simp [silent, here]
  | ready => exact absurd here calm
  | undoing => rfl

theorem note_stage_ready {op : StoreOp} (quiet : op.raises = false) {reply : op.Reply} {interface : String}
    (ready : passage.stage = .ready) (noHook : hookFails op reply = false) :
    (passage.note interface op reply).stage = .ready := by
  simp [Passage.note, mark_quiet quiet, ready, noHook]

/-! ### Rules -/

/-- A call that leaves the store as it is. -/
structure Looking (op : StoreOp) : Prop where
  looks : Looks op
  quiet : op.raises = false

theorem Looking.spares {op : StoreOp} (looking : Looking op) (config : StoreState × Passage) : Spares id config op :=
  fun other same => absurd same (looking.looks.remove other)

theorem OnTeardown.spares {op : StoreOp} (teardown : OnTeardown id op) (config : StoreState × Passage) : Spares id config op := by
  intro other same
  subst same
  exact teardown.1.elim

/-- A program that only looks. -/
theorem looking_bind {A B : Type} {p : StoreProgram A} {f : A → StoreProgram B} {mid : A → Prop}
    {post : B → StoreState × Passage → Prop} (issues : @Issues storeCommands _ Looking p mid) (calm : stage ≠ .ready)
    (here : passage.stage = stage)
    (rest : ∀ value passage, mid value → passage.stage = stage →
      @Ensures storeCommands _ _ (carefully id) (Spares id) (f value) post (state, passage)) :
    @Ensures storeCommands _ _ (carefully id) (Spares id) (p >>= f) post (state, passage) := by
  have ensured := @Issues.keeps storeCommands _ _ _ _ _ (carefully id) (fun s => s.1 = state ∧ s.2.stage = stage)
    (state, passage) issues (fun s op reply final looking holds answered => by
      obtain ⟨within, noted⟩ := answered.2
      obtain ⟨same, kept⟩ := holds
      refine ⟨(looking.looks.quiet _ _ _ within).trans same, ?_⟩
      rw [noted, note_stage looking.quiet reply (kept ▸ calm), kept]) ⟨rfl, here⟩
  apply ensures_bind (ensured.relax fun config op both => both.2.spares config)
  intro value final holds
  obtain ⟨final, passage⟩ := final
  obtain ⟨⟨same, kept⟩, reached⟩ := holds
  cases same
  exact rest value passage reached kept

/-- What is down stays down while no helper is started. -/
theorem stays_down {A : Type} {p : StoreProgram A} {mid : A → Prop} (issues : @Issues storeCommands _ (OnTeardown id) p mid)
    (calm : stage ≠ .ready) (down : state.running id.interfaceName = false) (here : passage.stage = stage) :
    @Ensures storeCommands _ _ (carefully id) (Spares id) p (fun value final =>
      (final.1.running id.interfaceName = false ∧ final.2.stage = stage) ∧ mid value) (state, passage) := by
  have ensured := @Issues.keeps storeCommands _ _ _ _ _ (carefully id)
    (fun s => s.1.running id.interfaceName = false ∧ s.2.stage = stage)
    (state, passage) issues (fun s op reply final quiet holds answered => by
      obtain ⟨within, noted⟩ := answered.2
      obtain ⟨down, kept⟩ := holds
      constructor
      · by_contra up
        rw [Bool.not_eq_false] at up
        rw [running_lowers within quiet.2 up] at down
        cases down
      · rw [noted, note_stage quiet.2 reply (kept ▸ calm), kept]) ⟨down, here⟩
  exact ensured.relax fun config op both => both.2.spares config

theorem down_bind {A B : Type} {p : StoreProgram A} {f : A → StoreProgram B} {mid : A → Prop}
    {post : B → StoreState × Passage → Prop} (issues : @Issues storeCommands _ (OnTeardown id) p mid) (calm : stage ≠ .ready)
    (down : state.running id.interfaceName = false) (here : passage.stage = stage)
    (rest : ∀ value after passage, mid value → after.running id.interfaceName = false → passage.stage = stage →
      @Ensures storeCommands _ _ (carefully id) (Spares id) (f value) post (after, passage)) :
    @Ensures storeCommands _ _ (carefully id) (Spares id) (p >>= f) post (state, passage) := by
  apply ensures_bind (stays_down issues calm down here)
  intro value final holds
  obtain ⟨final, passage⟩ := final
  obtain ⟨⟨down, kept⟩, reached⟩ := holds
  exact rest value final passage reached down kept

/-- A call of the connect or the shutdown. -/
theorem careful_call {A : Type} {op : StoreOp} {f : op.Reply → StoreProgram A} {post : A → StoreState × Passage → Prop}
    (keeps : ∀ other, op ≠ .removeRecord other)
    (rest : ∀ reply after, Careful id (state, passage) op reply → storeEnvironment state op reply after →
      @Ensures storeCommands _ _ (carefully id) (Spares id) (f reply) post (after, passage.note id.interfaceName op reply)) :
    @Ensures storeCommands _ _ (carefully id) (Spares id) (storeCall op >>= f) post (state, passage) :=
  follow_call carefully_follows (fun other same => absurd same (keeps other))
    fun reply after answered within => rest reply after answered.1 within

/-- A call that leaves the store as it is, away from a ready helper. -/
theorem careful_look {A : Type} {op : StoreOp} {f : op.Reply → StoreProgram A} {post : A → StoreState × Passage → Prop}
    (looking : Looking op) (calm : stage ≠ .ready) (here : passage.stage = stage)
    (rest : ∀ reply passage', Careful id (state, passage) op reply → storeEnvironment state op reply state →
      passage'.stage = stage → @Ensures storeCommands _ _ (carefully id) (Spares id) (f reply) post (state, passage')) :
    @Ensures storeCommands _ _ (carefully id) (Spares id) (storeCall op >>= f) post (state, passage) := by
  apply careful_call looking.looks.remove
  intro reply after careful within
  have same := looking.looks.quiet _ _ _ within
  subst same
  apply rest reply _ careful within
  rw [note_stage looking.quiet reply (here ▸ calm), here]

theorem down_attempt {A B : Type} {p : StoreProgram (Except AppError A)} {f : A → StoreProgram (Except AppError B)}
    {mid : A → Prop} {post : Except AppError B → StoreState × Passage → Prop} (teardown : Teardown id p mid)
    (calm : stage ≠ .ready) (down : state.running id.interfaceName = false) (here : passage.stage = stage)
    (failed : ∀ error after passage, after.running id.interfaceName = false → passage.stage = stage →
      post (.error error) (after, passage))
    (rest : ∀ value after passage, mid value → after.running id.interfaceName = false → passage.stage = stage →
      @Ensures storeCommands _ _ (carefully id) (Spares id) (f value) post (after, passage)) :
    @Ensures storeCommands _ _ (carefully id) (Spares id) (p.attempt f) post (state, passage) := by
  apply down_bind teardown calm down here
  intro outcome after passage holds down here
  cases outcome with
  | error error => exact failed error after passage down here
  | ok value => exact rest value after passage holds down here

theorem looking_attempt {A B : Type} {p : StoreProgram (Except AppError A)} {f : A → StoreProgram (Except AppError B)}
    {mid : A → Prop} {post : Except AppError B → StoreState × Passage → Prop}
    (issues : @Issues storeCommands _ Looking p (Outcome NotAuth mid)) (calm : stage ≠ .ready) (here : passage.stage = stage)
    (failed : ∀ error passage, passage.stage = stage → post (.error error) (state, passage))
    (rest : ∀ value passage, mid value → passage.stage = stage →
      @Ensures storeCommands _ _ (carefully id) (Spares id) (f value) post (state, passage)) :
    @Ensures storeCommands _ _ (carefully id) (Spares id) (p.attempt f) post (state, passage) := by
  apply looking_bind issues calm here
  intro outcome passage holds here
  cases outcome with
  | error error => exact failed error passage here
  | ok value => exact rest value passage holds here

theorem looking_file (path : String) : Looking (.readFile path) := ⟨⟨by simp, by simp, fun _ _ _ answered => answered.2⟩, rfl⟩

theorem looking_path (path : String) : Looking (.pathExists path) := ⟨⟨by simp, by simp, fun _ _ _ answered => answered.2⟩, rfl⟩

theorem looking_metadata (path : String) : Looking (.metadata path) :=
  ⟨⟨by simp, by simp, fun _ _ _ answered => answered.2⟩, rfl⟩

theorem looking_stat (path : String) : Looking (.tryExists path) := ⟨looks_tryExists path, rfl⟩

theorem looking_record : Looking (.readRecord id) := ⟨looks_readRecord, rfl⟩

theorem looking_active : Looking (.readActive id) := ⟨looks_readActive, rfl⟩

/-- A call that has nothing to do with the store. -/
theorem looking_idle {op : StoreOp} (quiet : op.raises = false) (write : ∀ stored, op ≠ .writeRecord stored)
    (remove : ∀ other, op ≠ .removeRecord other)
    (idle : ∀ state (reply : op.Reply) after, storeEnvironment state op reply after → after = state) : Looking op :=
  ⟨⟨write, remove, idle⟩, quiet⟩

theorem looking_alive (pid : Nat) : Looking (.pidIsAlive pid) :=
  looking_idle rfl (by simp) (by simp) (by exact fun _ _ _ answered => answered)

theorem looking_identity (pid : Nat) : Looking (.processIdentity pid) :=
  looking_idle rfl (by simp) (by simp) (by exact fun _ _ _ answered => answered)

theorem cleanup_not_stale (interface : String) : gotatunCleanupStatusPath interface ∉ staleRuntimePaths interface := by
  intro member
  have texts : (gotatunCleanupStatusPath interface).toList ∈ (staleRuntimePaths interface).map String.toList :=
    List.mem_map_of_mem member
  simp [staleRuntimePaths, socketPath, gotatunPidPath, gotatunNamePath, gotatunQuerySocketPath, gotatunCleanupStatusPath,
    gotatunRuntimePath, String.toList_append] at texts

/-! ### Taking a helper down -/

/-- A state in which the helper runs, with no clean-up status of an earlier one. -/
structure Up (id : ConnectionId) (state : StoreState) : Prop where
  running : state.running id.interfaceName = true
  clean : Clean id state

theorem Up.tended (up : Up id state) (covered : Covered id state) : Tended id state := fun _ => ⟨covered, up.clean⟩

/-- The helper is down, or runs on without its socket. -/
def Sinking (id : ConnectionId) (state : StoreState) : Prop :=
  state.running id.interfaceName = false ∨ Up id state ∧ ¬ Covered id state

theorem Sinking.waited {status : Option String} (sinking : Sinking id state)
    (waited : HelperWait id.interfaceName state status after) : Sinking id after := by
  cases waited with
  | goesOn stale => exact sinking
  | ends files => exact .inl (by simp)

/-- A wait that says something, or the last one, has seen the helper end. -/
theorem Sinking.ends {seconds : Nat} {status : Option String} (sinking : Sinking id state) (calm : passage.stage ≠ .ready)
    (careful : Careful id (state, passage) (.waitForCleanupStatus id.interfaceName seconds) status)
    (last : seconds = 5 ∨ status ≠ none) (waited : HelperWait id.interfaceName state status after) :
    after.running id.interfaceName = false := by
  cases waited with
  | ends files => simp
  | goesOn stale =>
    rcases sinking with down | ⟨up, uncovered⟩
    · exact down
    cases status with
    | some text =>
      obtain ⟨file, there, _⟩ := stale text rfl
      rw [up.clean] at there
      cases there
    | none =>
      rcases last with rfl | other
      · exact absurd (careful.covered_down up.running calm rfl) uncovered
      · exact absurd rfl other

theorem terminateTracked_sinks (calm : stage ≠ .ready) (sinking : Sinking id state) (here : passage.stage = stage)
    (tracked : Option Nat) :
    @Ensures storeCommands _ _ (carefully id) (Spares id) (terminateTracked tracked) (fun outcome final =>
      Sinking id final.1 ∧ final.2.stage = stage ∧
        ∀ error, outcome = .error error → final.1.running id.interfaceName = false) (state, passage) := by
  cases tracked with
  | none => exact ⟨sinking, here, by simp⟩
  | some pid =>
    apply careful_look (looking_alive pid) calm here
    intro alive passage _ _ here
    cases alive with
    | false => exact ⟨sinking, here, by simp⟩
    | true =>
      have looking : Looking (.terminate pid) :=
        looking_idle rfl (by simp) (by simp) (by exact fun _ _ _ answered => answered)
      apply careful_look looking calm here
      intro killed passage' careful _ here'
      cases killed with
      | ok value => exact ⟨sinking, here', by simp [Except.mapError]⟩
      | error text =>
        refine ⟨sinking, here', fun _ _ => ?_⟩
        rcases sinking with down | ⟨up, uncovered⟩
        · exact down
        · exact absurd (careful.covered_down up.running (here ▸ calm) rfl) uncovered

theorem awaitCleanupStatus_downs (calm : stage ≠ .ready) (sinking : Sinking id state) (here : passage.stage = stage)
    (tracked : Option Nat) :
    @Ensures storeCommands _ _ (carefully id) (Spares id) (awaitCleanupStatus id.interfaceName tracked)
      (fun _ final => final.1.running id.interfaceName = false ∧ final.2.stage = stage) (state, passage) := by
  apply careful_call (by simp)
  intro status after careful waited
  have stays : (passage.note id.interfaceName (.waitForCleanupStatus id.interfaceName 15) status).stage = stage :=
    (note_stage rfl status (here ▸ calm)).trans here
  cases status with
  | some text => exact ⟨sinking.ends (here ▸ calm) careful (.inr (by simp)) waited, stays⟩
  | none =>
    apply ensures_attempt (terminateTracked_sinks calm (sinking.waited waited) stays tracked)
    · intro error final holds
      exact ⟨holds.2.2 error rfl, holds.2.1⟩
    intro value final holds
    obtain ⟨final, passage⟩ := final
    obtain ⟨sinking, here, _⟩ := holds
    apply careful_call (by simp)
    intro status last careful waited
    have ended := sinking.ends (here ▸ calm) careful (.inl rfl) waited
    have stays : (passage.note id.interfaceName (.waitForCleanupStatus id.interfaceName 5) status).stage = stage :=
      (note_stage rfl status (here ▸ calm)).trans here
    cases status <;> exact ⟨ended, stays⟩

/-- What a shutdown leaves: the helper is down, or as covered as it was. -/
def ShutDown (id : ConnectionId) (stage : Stage) {A : Type} (result : Except AppError A) (final : StoreState × Passage) : Prop :=
  Tended id final.1 ∧ final.2.stage = stage ∧ ∀ value, result = .ok value → final.1.running id.interfaceName = false

theorem ShutDown.of_down {A : Type} {result : Except AppError A} (down : after.running id.interfaceName = false)
    (here : passage.stage = stage) : ShutDown id stage result (after, passage) :=
  ⟨.of_down down, here, fun _ _ => down⟩

/-- It fails early, with the helper covered. -/
theorem ShutDown.refused {A : Type} {error : AppError} (up : Up id state) (covered : Covered id state)
    (here : passage.stage = stage) : ShutDown id stage (.error error : Except AppError A) (state, passage) :=
  ⟨up.tended covered, here, by simp⟩

/-- The control socket goes, or the helper stays covered. -/
theorem removeControlSocket_sinks (calm : stage ≠ .ready) (up : Up id state) (here : passage.stage = stage) :
    @Ensures storeCommands _ _ (carefully id) (Spares id) (removeControlSocket id.interfaceName) (fun outcome final =>
      final.2.stage = stage ∧ match outcome with
        | .ok () => Sinking id final.1
        | .error _ => Up id final.1 ∧ Covered id final.1) (state, passage) := by
  apply careful_look (looking_path _) calm here
  intro there passage _ found here
  cases there with
  | false =>
    refine ⟨here, .inr ⟨up, ?_⟩⟩
    intro covered
    have absent := found.1
    rw [covered.socket] at absent
    cases absent
  | true =>
    apply careful_call (by simp)
    intro removed after careful within
    cases within
    have stays : (passage.note id.interfaceName (.removeFile (socketPath id.interfaceName)) removed).stage = stage :=
      (note_stage rfl removed (here ▸ calm)).trans here
    cases removed with
    | error error =>
      have covered := careful.covered_down up.running (here ▸ calm) (by simp [staysUp])
      exact ⟨stays, up, covered⟩
    | ok value =>
      refine ⟨stays, .inr ⟨⟨up.running, ?_⟩, ?_⟩⟩
      · have clean := up.clean
        simpa [Clean, removes, Function.update_of_ne (socketPath_ne_cleanup id.interfaceName).symm] using clean
      · intro covered
        have socket := covered.socket
        simp [removes] at socket

/-- A pid file that cannot be read stops the shutdown of a covered helper only. -/
theorem readGotatunPid_careful (calm : stage ≠ .ready) (up : Up id state) (here : passage.stage = stage) :
    @Ensures storeCommands _ _ (carefully id) (Spares id) (readGotatunPid (gotatunPidPath id.interfaceName))
      (fun outcome final => final.1 = state ∧ final.2.stage = stage ∧ ∀ error, outcome = .error error → Covered id state)
      (state, passage) := by
  rw [readGotatunPid_eq]
  apply careful_look (looking_file _) calm here
  intro reply passage' careful _ here'
  refine ⟨rfl, here', ?_⟩
  intro error failed
  apply careful.covered_down up.running (here ▸ calm)
  simp [staysUp, failed, Except.isOk, Except.toBool]

theorem checkTracked_careful (calm : stage ≠ .ready) (up : Up id state) (here : passage.stage = stage) (tracked : Option Nat) :
    @Ensures storeCommands _ _ (carefully id) (Spares id) (checkTracked tracked)
      (fun outcome final => final.1 = state ∧ final.2.stage = stage ∧ ∀ error, outcome = .error error → Covered id state)
      (state, passage) := by
  cases tracked with
  | none => exact ⟨rfl, here, by simp⟩
  | some pid =>
    apply careful_look (looking_alive pid) calm here
    intro alive passage _ _ here
    cases alive with
    | false => exact ⟨rfl, here, by simp⟩
    | true =>
      apply careful_look (looking_identity pid) calm here
      intro identity passage' careful _ here'
      refine ⟨rfl, here', ?_⟩
      cases identity with
      | ok value => simp [Except.mapError]
      | error text => exact fun _ _ => careful.covered_down up.running (here ▸ calm) rfl

/-- A helper that runs is not taken to be absent. -/
theorem alreadyAbsent_careful (calm : stage ≠ .ready) (up : Up id state) (here : passage.stage = stage)
    (tracked : Option Nat) (actualInterface : Option (List Char)) :
    @Ensures storeCommands _ _ (carefully id) (Spares id) (alreadyAbsent id.interfaceName tracked actualInterface)
      (fun absent final => final.1 = state ∧ final.2.stage = stage ∧ absent = false) (state, passage) := by
  unfold alreadyAbsent
  split
  · apply careful_look (looking_path _) calm here
    intro there passage _ found here
    cases there with
    | true => exact ⟨rfl, here, rfl⟩
    | false =>
      apply careful_look (looking_path _) calm here
      intro status passage' careful _ here'
      refine ⟨rfl, here', ?_⟩
      cases status with
      | true => rfl
      | false =>
        have covered := careful.covered_down up.running (here ▸ calm) (by simp [staysUp])
        have absent := found.1
        rw [covered.socket] at absent
        cases absent
  · exact ⟨rfl, here, rfl⟩

theorem runGotatunDown_shutsDown (calm : stage ≠ .ready)
    (clean : state.running id.interfaceName = true → Clean id state) (here : passage.stage = stage) :
    @Ensures storeCommands _ _ (carefully id) (Spares id) (runGotatunDown id.interfaceName) (ShutDown id stage)
      (state, passage) := by
  cases running : state.running id.interfaceName with
  | false =>
    apply (stays_down runGotatunDown_teardown calm running here).mono
    intro result final holds
    exact .of_down holds.1.1 holds.1.2
  | true =>
    have up : Up id state := ⟨running, clean running⟩
    have reads : @Issues storeCommands _ Looking (readActualInterface id.interfaceName) fun _ => True :=
      issues_call (looking_file _) fun _ => trivial
    apply looking_bind reads calm here
    intro name passage _ here
    apply ensures_attempt (readGotatunPid_careful calm up here)
    · intro error final holds
      obtain ⟨final, passage⟩ := final
      obtain ⟨same, here, covered⟩ := holds
      cases same
      exact .refused up (covered error rfl) here
    intro tracked final holds
    obtain ⟨final, passage⟩ := final
    obtain ⟨same, here, _⟩ := holds
    cases same
    apply ensures_attempt (checkTracked_careful calm up here tracked)
    · intro error final holds
      obtain ⟨final, passage⟩ := final
      obtain ⟨same, here, covered⟩ := holds
      cases same
      exact .refused up (covered error rfl) here
    intro _ final holds
    obtain ⟨final, passage⟩ := final
    obtain ⟨same, here, _⟩ := holds
    cases same
    apply ensures_bind (alreadyAbsent_careful calm up here tracked name)
    intro absent final holds
    obtain ⟨final, passage⟩ := final
    obtain ⟨same, here, no⟩ := holds
    cases same
    cases no
    apply ensures_attempt (removeControlSocket_sinks calm up here)
    · intro error final holds
      obtain ⟨final, passage⟩ := final
      exact .refused holds.2.1 holds.2.2 holds.1
    intro _ final holds
    obtain ⟨final, passage⟩ := final
    apply ensures_attempt (awaitCleanupStatus_downs calm holds.2 holds.1 tracked)
    · intro error final holds
      obtain ⟨final, passage⟩ := final
      exact .of_down holds.1 holds.2
    intro status final holds
    obtain ⟨final, passage⟩ := final
    obtain ⟨down, here⟩ := holds
    split
    · apply down_attempt (checkInterfaceGone_teardown name) calm down here
      · intro error after passage down here
        exact .of_down down here
      intro _ after passage _ down here
      apply down_bind clearHelperFiles_issues calm down here
      intro _ after passage _ down here
      exact .of_down down here
    · exact .of_down down here

theorem Tended.clean (tended : Tended id state) (running : state.running id.interfaceName = true) : Clean id state :=
  (tended running).2

/-- Taking the helper down, under the network lock. -/
theorem locked_shutsDown (calm : stage ≠ .ready) (clean : state.running id.interfaceName = true → Clean id state)
    (here : passage.stage = stage) :
    @Ensures storeCommands _ _ (carefully id) (Spares id) (withNetworkLock (runGotatunDown id.interfaceName))
      (ShutDown id stage) (state, passage) := by
  have looking : Looking .lockNetwork := looking_idle rfl (by simp) (by simp) (by exact fun _ _ _ answered => answered)
  have unlocking : Looking .unlockNetwork := looking_idle rfl (by simp) (by simp) (by exact fun _ _ _ answered => answered)
  apply careful_look looking calm here
  intro locked passage' careful _ here'
  cases locked with
  | error error =>
    cases running : state.running id.interfaceName with
    | false => exact .of_down running here'
    | true => exact .refused ⟨running, clean running⟩ (careful.covered_down running (here ▸ calm) rfl) here'
  | ok value =>
    apply ensures_bind (runGotatunDown_shutsDown calm clean here')
    intro result final down
    obtain ⟨final, passage⟩ := final
    obtain ⟨tended, here, ended⟩ := down
    apply careful_look unlocking calm here
    intro _ passage _ _ here
    exact ⟨tended, here, ended⟩

theorem looking_shell (command : String) : Looking (.runShell command) :=
  looking_idle rfl (by simp) (by simp) (by exact fun _ _ _ answered => answered)

theorem looking_resolver : Looking .resolver :=
  looking_idle rfl (by simp) (by simp) (by exact fun _ _ _ answered => answered)

theorem runHook_looks (command interface label : String) :
    @Issues storeCommands _ Looking (runHook command interface label) (Outcome NotAuth fun _ => True) := by
  apply issues_call (looking_shell _)
  intro outcome
  cases outcome with
  | error error => exact notAuth_other _
  | ok status =>
    dsimp only
    split
    · trivial
    · exact notAuth_wireGuard _

theorem runHooksBestEffort_looks (commands : List String) (interface label : String) :
    @Issues storeCommands _ Looking (runHooksBestEffort commands interface label) fun _ => True := by
  induction commands with
  | nil => trivial
  | cons command rest ih => exact Issues.bind (runHook_looks command interface label) fun _ _ => ih

theorem loadRequired_looks : @Issues storeCommands _ Looking (loadRequired id) (Outcome NotAuth fun stored =>
    stored.id = id ∧ stored.interface = id.interfaceName) := by
  apply Issues.attempt (load_issues looking_record)
  intro found named
  cases found with
  | none => exact notAuth_other _
  | some stored => exact named stored rfl

/-- Disconnecting leaves the helper down or covered. -/
theorem disconnect_tends (tended : Tended id state) (here : passage.stage = .waiting) :
    @Ensures storeCommands _ _ (carefully id) (Spares id) (disconnect crates id) (fun _ final => Tended id final.1)
      (state, passage) := by
  have calm : Stage.waiting ≠ .ready := by simp
  apply looking_attempt loadRequired_looks calm here
  · intro error passage here
    exact tended
  intro stored passage own here
  have takes : @Ensures storeCommands _ _ (carefully id) (Spares id) (takeDown crates stored) (ShutDown id .waiting)
      (state, passage) := by
    apply careful_look looking_resolver calm here
    intro resolver passage _ _ here
    rw [own.2]
    split
    · exact locked_shutsDown calm tended.clean here
    · rename_i reparsed _
      apply looking_bind (runHooksBestEffort_looks _ _ _) calm here
      intro _ passage _ here
      apply ensures_attempt (locked_shutsDown calm tended.clean here)
      · intro error final down
        exact down
      intro _ final down
      obtain ⟨final, passage⟩ := final
      obtain ⟨_, here, ended⟩ := down
      apply down_bind (runHooksBestEffort_issues reparsed.postDown "PostDown") calm (ended _ rfl) here
      intro _ after passage _ down here
      exact .of_down down here
  apply ensures_attempt takes
  · intro error final down
    exact down.1
  intro _ final down
  obtain ⟨final, passage⟩ := final
  obtain ⟨_, here, ended⟩ := down
  apply (stays_down (clearActive_issues ⟨rfl, rfl⟩) calm (ended _ rfl) here).mono
  intro result last holds
  exact .of_down holds.1.1

/-! ### Bringing a helper up -/

/-- A call of a ready helper's connect that leaves the store as it is. -/
theorem ready_look {A : Type} {op : StoreOp} {f : op.Reply → StoreProgram A} {post : A → StoreState × Passage → Prop}
    (looking : Looking op) (here : passage.stage = .ready) (noHook : ∀ reply, hookFails op reply = false)
    (rest : ∀ reply passage', Careful id (state, passage) op reply → storeEnvironment state op reply state →
      passage'.stage = .ready → @Ensures storeCommands _ _ (carefully id) (Spares id) (f reply) post (state, passage')) :
    @Ensures storeCommands _ _ (carefully id) (Spares id) (storeCall op >>= f) post (state, passage) := by
  apply careful_call looking.looks.remove
  intro reply after careful within
  have same := looking.looks.quiet _ _ _ within
  subst same
  exact rest reply _ careful within (note_stage_ready looking.quiet here (noHook reply))

/-- What comes of a ready helper: it is up, or a failure has found it covered. -/
def Brought (id : ConnectionId) (state : StoreState) {A : Type} (result : Except AppError A) (final : StoreState × Passage) :
    Prop :=
  final.1 = state ∧ final.2.stage = .ready ∧ ∀ error, result = .error error → Covered id state

theorem confirmHelper_brings (up : Up id state) (here : passage.stage = .ready) :
    @Ensures storeCommands _ _ (carefully id) (Spares id) (confirmHelper id.interfaceName) (Brought id state)
      (state, passage) := by
  have reads : @Ensures storeCommands _ _ (carefully id) (Spares id) (readGotatunPid (gotatunPidPath id.interfaceName))
      (fun outcome final => final.1 = state ∧ final.2.stage = .ready ∧
        ((∀ pid, outcome ≠ .ok (some pid)) → Covered id state)) (state, passage) := by
    rw [readGotatunPid_eq]
    apply ready_look (looking_file _) here fun _ => rfl
    intro reply passage' careful _ here'
    refine ⟨rfl, here', ?_⟩
    intro none
    apply careful.covered_up up.running here
    have unread : pidReads (gotatunPidPath id.interfaceName) reply = false := by
      unfold pidReads
      split
      · rename_i pid some
        exact absurd some (none pid)
      · rfl
    simp [loses, lapses, unread]
  apply ensures_attempt reads
  · intro error final holds
    obtain ⟨same, here, covered⟩ := holds
    exact ⟨same, here, fun _ _ => covered (by simp)⟩
  intro tracked final holds
  obtain ⟨final, passage⟩ := final
  obtain ⟨same, here, covered⟩ := holds
  cases same
  cases tracked with
  | none => exact ⟨rfl, here, fun _ _ => covered (by simp)⟩
  | some pid =>
    apply ready_look (looking_alive pid) here fun _ => rfl
    intro alive passage' careful _ here'
    cases alive with
    | false => exact ⟨rfl, here', fun _ _ => careful.covered_up up.running here rfl⟩
    | true =>
      apply ready_look (looking_identity pid) here' fun _ => rfl
      intro identity passage careful _ here
      cases identity with
      | ok value => exact ⟨rfl, here, by simp [Except.mapError]⟩
      | error text => exact ⟨rfl, here, fun _ _ => careful.covered_up up.running here' rfl⟩

/-- What bringing the helper up comes to. -/
def Risen (id : ConnectionId) (result : Except AppError Unit) (final : StoreState × Passage) : Prop :=
  match result with
  | .ok () => Up id final.1 ∧ final.2.stage = .ready
  | .error _ => Tended id final.1

theorem startHelper_rises {spec : HelperSpec} (own : spec.interface = id.interfaceName)
    (down : state.running id.interfaceName = false) (here : passage.stage = .waiting) :
    @Ensures storeCommands _ _ (carefully id) (Spares id) (startHelper spec) (Risen id) (state, passage) := by
  apply careful_call (by simp)
  intro outcome after careful spawned
  cases spawned with
  | notStarted => exact .of_down down
  | failed failure =>
    dsimp only
    rw [failure]
    exact .of_down down
  | @ready status runtime success files =>
    dsimp only
    rw [success, own]
    have up : Up id ⟨state.records, state.active, runtime, Function.update state.running id.interfaceName true⟩ := by
      constructor
      · simp
      · have clean := careful.spawns spec rfl
        have kept := files (gotatunCleanupStatusPath id.interfaceName) (by rw [own]; exact cleanup_not_stale _)
        exact kept.trans clean
    have ready : (passage.note id.interfaceName (.spawnHelper spec) (.ok status)).stage = .ready := by
      simp [Passage.note, Passage.mark, here, helperStarts, success]
    apply (confirmHelper_brings up ready).mono
    intro result final holds
    obtain ⟨final, passage⟩ := final
    obtain ⟨same, here, covered⟩ := holds
    cases same
    cases result with
    | ok value => exact ⟨up, here⟩
    | error error => exact up.tended (covered error rfl)

/-- What comes right after the helper changes nothing of it. -/
theorem Risen.then {result : Except AppError Unit} (risen : Risen id result (state, passage)) {op : StoreOp}
    (looking : Looking op) (noHook : ∀ reply, hookFails op reply = false) :
    @Ensures storeCommands _ _ (carefully id) (Spares id) (storeCall op >>= fun _ => .done result) (Risen id)
      (state, passage) := by
  apply careful_call looking.looks.remove
  intro reply after _ within
  have same := looking.looks.quiet _ _ _ within
  subst same
  cases result with
  | ok value => exact ⟨risen.1, note_stage_ready looking.quiet risen.2 (noHook reply)⟩
  | error error => exact risen

theorem runGotatunUp_rises {spec : HelperSpec} (own : spec.interface = id.interfaceName)
    (down : state.running id.interfaceName = false) (here : passage.stage = .waiting) :
    @Ensures storeCommands _ _ (carefully id) (Spares id) (runGotatunUp spec) (Risen id) (state, passage) := by
  have calm : Stage.waiting ≠ .ready := by simp
  have early : ∀ (error : AppError) (after : StoreState) (passage : Passage), after.running id.interfaceName = false →
      passage.stage = .waiting → Risen id (.error error) (after, passage) := fun _ _ _ down _ => .of_down down
  apply down_attempt (@readGotatunPid_teardown id _) calm down here early
  intro tracked after passage _ down here
  apply down_bind (@trackedIsAlive_issues id tracked) calm down here
  intro alive after passage _ down here
  cases alive with
  | true => exact early _ _ _ down here
  | false =>
    apply down_attempt (@selfExecutableForSpawn_teardown id) calm down here early
    intro _ after passage _ down here
    apply down_attempt (@rotateHelperLog_teardown id _ own) calm down here early
    intro _ after passage _ down here
    rw [own]
    apply down_bind clearHelperFiles_issues calm down here
    intro _ after passage _ down here
    exact startHelper_rises own down here

theorem bringUp_rises {spec : HelperSpec} (own : spec.interface = id.interfaceName) (reparsed : ConnectionConfig)
    (down : state.running id.interfaceName = false) (here : passage.stage = .waiting) :
    @Ensures storeCommands _ _ (carefully id) (Spares id) (bringUp spec reparsed) (Risen id) (state, passage) := by
  have calm : Stage.waiting ≠ .ready := by simp
  have locking : @Issues storeCommands _ (OnTeardown id) (storeCall .lockNetwork) fun _ => True := ⟨⟨trivial, rfl⟩, fun _ => trivial⟩
  have ensuring : @Issues storeCommands _ (OnTeardown id) (storeCall .ensureDnsCustodyDir) fun _ => True :=
    ⟨⟨trivial, rfl⟩, fun _ => trivial⟩
  have settling : Looking .settle := looking_idle rfl (by simp) (by simp) (by exact fun _ _ _ answered => answered)
  have unlocking : Looking .unlockNetwork := looking_idle rfl (by simp) (by simp) (by exact fun _ _ _ answered => answered)
  have sweeping : @Issues storeCommands _ (OnTeardown id) (storeCall (.sweepInterface spec.interface)) fun _ => True :=
    ⟨⟨own, rfl⟩, fun _ => trivial⟩
  apply down_bind locking calm down here
  intro locked after passage _ down here
  cases locked with
  | error error => exact .of_down down
  | ok value =>
    refine @ensures_bind _ _ _ _ _ _ _ _ (Risen id) _ ?_ ?_
    · apply down_bind ensuring calm down here
      intro ensured after passage _ down here
      cases ensured with
      | error error => exact .of_down down
      | ok value =>
        apply down_bind sweeping calm down here
        intro _ after passage _ down here
        apply down_bind (@createSentinelFor_teardown id reparsed) calm down here
        intro _ after passage _ down here
        apply ensures_bind (runGotatunUp_rises own down here)
        intro result final risen
        exact Risen.then risen settling fun _ => rfl
    · intro result final risen
      exact Risen.then risen unlocking fun _ => rfl

theorem postUpHooks_hold (commands : List String) (here : passage.stage = .ready) :
    @Ensures storeCommands _ _ (carefully id) (Spares id) (runHooks commands id.interfaceName "PostUp")
      (fun outcome final => final.1 = state ∧ match outcome with
        | .ok () => final.2.stage = .ready
        | .error _ => final.2.stage = .undoing) (state, passage) := by
  apply Ensures.forEach (fun _ config => config.1 = state ∧ config.2.stage = .ready)
  · intro command rest config holds
    obtain ⟨final, passage⟩ := config
    obtain ⟨same, here⟩ := holds
    cases same
    have here : passage.stage = .ready := here
    apply careful_call (by simp)
    intro outcome after _ within
    cases within
    cases outcome with
    | error error => exact ⟨rfl, by simp [Passage.note, Passage.mark, here, hookFails]⟩
    | ok status =>
      cases success : status.success with
      | true =>
        simp only [success, if_true]
        exact ⟨rfl, note_stage_ready rfl here (by simp [hookFails, success])⟩
      | false =>
        simp only [success, Bool.false_eq_true, if_false]
        exact ⟨rfl, by simp [Passage.note, Passage.mark, here, hookFails, success]⟩
  · intro config holds
    exact holds
  · exact ⟨rfl, here⟩

theorem postUp_rises (up : Up id state) (here : passage.stage = .ready) (reparsed : ConnectionConfig) :
    @Ensures storeCommands _ _ (carefully id) (Spares id) (postUp reparsed id.interfaceName) (Risen id) (state, passage) := by
  apply ensures_bind (postUpHooks_hold reparsed.postUp here)
  intro outcome final holds
  obtain ⟨final, passage⟩ := final
  obtain ⟨same, here⟩ := holds
  cases same
  cases outcome with
  | ok value => exact ⟨up, here⟩
  | error error =>
    have calm : Stage.undoing ≠ .ready := by simp
    apply ensures_bind (locked_shutsDown calm (fun _ => up.clean) here)
    intro rollback final down
    cases rollback with
    | ok value => exact down.1
    | error rollbackError => exact down.1

theorem metadata_there {path : String} {metadata : SocketMetadata}
    (found : storeEnvironment state (.metadata path) (.ok metadata) after) : (state.runtime path).isSome = true := by
  obtain ⟨⟨file, there, _⟩, _⟩ := found
  rw [there]
  rfl

theorem recordActive_tends {stored : StoredConnection} (own : stored.id = id ∧ stored.interface = id.interfaceName)
    (debug : Bool) (up : Up id state) (here : passage.stage = .ready) :
    @Ensures storeCommands _ _ (carefully id) (Spares id) (recordActive stored debug) (fun _ final => Tended id final.1)
      (state, passage) := by
  unfold recordActive
  rw [own.1, own.2]
  apply ready_look (looking_metadata _) here fun _ => rfl
  intro reply passage' careful found here'
  cases reply with
  | error error => exact up.tended (careful.covered_up up.running here rfl)
  | ok metadata =>
    have there : (state.runtime (socketPath id.interfaceName)).isSome = true := metadata_there found
    have clock : Looking .nowUnix := looking_idle rfl (by simp) (by simp) (by exact fun _ _ _ answered => answered)
    apply ready_look clock here' fun _ => rfl
    intro now passage _ _ here
    apply careful_call (by simp)
    intro outcome after careful within
    cases within
    have marked : ∀ marker, marker.socket = socketPath id.interfaceName →
        Tended id { state with active := Function.update state.active id (some (.marker marker)) } := by
      intro marker socket running
      exact ⟨⟨⟨marker, by simp, socket⟩, by simp [there]⟩, up.clean⟩
    cases outcome with
    | written => exact marked _ rfl
    | unsynced error => exact marked _ rfl
    | failed error => exact up.tended (careful.covered_up up.running here rfl)

/-- What precedes the helper leaves one that runs as it is. -/
def Unmoved (id : ConnectionId) (state : StoreState) (final : StoreState × Passage) : Prop :=
  final.2.stage = .waiting ∧ (final.1 = state ∨ final.1.running id.interfaceName = false)

theorem Unmoved.tended {final : StoreState × Passage} (unmoved : Unmoved id state final) (tended : Tended id state) :
    Tended id final.1 := by
  rcases unmoved.2 with same | down
  · rw [same]
    exact tended
  · exact .of_down down

theorem clearLeftovers_unmoved (tended : Tended id state) (here : passage.stage = .waiting) :
    @Ensures storeCommands _ _ (carefully id) (Spares id) (clearLeftovers id.interfaceName)
      (fun _ final => Unmoved id state final) (state, passage) := by
  have calm : Stage.waiting ≠ .ready := by simp
  cases running : state.running id.interfaceName with
  | false =>
    apply (stays_down clearLeftovers_teardown calm running here).mono
    intro result final holds
    exact ⟨holds.1.2, .inr holds.1.1⟩
  | true =>
    apply careful_look (looking_stat _) calm here
    intro lingering passage' careful _ here'
    cases lingering with
    | error error => exact ⟨here', .inl rfl⟩
    | ok lingering =>
      cases lingering with
      | false => exact ⟨here', .inl rfl⟩
      | true =>
        have locking : Looking .lockNetwork := looking_idle rfl (by simp) (by simp) (by exact fun _ _ _ answered => answered)
        have unlocking : Looking .unlockNetwork :=
          looking_idle rfl (by simp) (by simp) (by exact fun _ _ _ answered => answered)
        have recording : Looking (.custodyRecordExists id.interfaceName) :=
          looking_idle rfl (by simp) (by simp) (by exact fun _ _ _ answered => answered)
        have living : Looking (.helperIsLiveWithoutRecord id.interfaceName) :=
          looking_idle rfl (by simp) (by simp) (by exact fun _ _ _ answered => answered.2)
        apply careful_look locking calm here'
        intro locked passage _ _ here
        cases locked with
        | error error => exact ⟨here, .inl rfl⟩
        | ok value =>
          refine @ensures_bind _ _ _ _ _ _ _ _ (fun _ final => final.1 = state ∧ final.2.stage = .waiting) _ ?_ ?_
          · apply careful_call (by simp)
            intro _ after _ swept
            obtain ⟨runtime, _, kept, rfl⟩ := swept
            rw [kept running]
            have stays := (@note_stage passage (.sweepInterface id.interfaceName) rfl () id.interfaceName (here ▸ calm)).trans here
            apply careful_look recording calm stays
            intro recorded passage _ _ here
            cases recorded with
            | true => exact ⟨rfl, here⟩
            | false =>
              apply careful_look living calm here
              intro live passage _ answered here
              have lives : live = true := answered.1 running
              subst lives
              exact ⟨rfl, here⟩
          · intro result final holds
            obtain ⟨final, passage⟩ := final
            obtain ⟨same, here⟩ := holds
            cases same
            apply careful_look unlocking calm here
            intro _ passage _ _ here
            exact ⟨here, .inl rfl⟩

/-- Without the marker no helper runs. -/
theorem Tended.unmarked (tended : Tended id state) (absent : state.active id = none) :
    state.running id.interfaceName = false := by
  by_contra up
  obtain ⟨⟨marker, marked, _⟩, _⟩ := (tended (by simpa using up)).1
  rw [absent] at marked
  cases marked

/-- Without the socket the marker names no helper runs. -/
theorem Tended.unlinked {marker : ActiveConnectionState} (tended : Tended id state)
    (there : state.active id = some (.marker marker)) (gone : state.runtime marker.socket = none) :
    state.running id.interfaceName = false := by
  by_contra up
  obtain ⟨⟨recorded, marked, socket⟩, present⟩ := (tended (by simpa using up)).1
  have same : some (ActiveFile.marker marker) = some (.marker recorded) := there.symm.trans marked
  cases same
  rw [socket] at gone
  rw [gone] at present
  cases present

theorem loadActive_careful (here : passage.stage = .waiting) :
    @Ensures storeCommands _ _ (carefully id) (Spares id) (loadActive id) (fun outcome final =>
      final.1 = state ∧ final.2.stage = .waiting ∧ ∀ found, outcome = .ok found → LoadedActive state id (.ok found))
      (state, passage) := by
  apply careful_look looking_active (by simp) here
  intro reply passage _ read here
  cases reply with
  | ok file =>
    obtain ⟨⟨contents, there, rfl⟩, _⟩ := read
    cases contents with
    | marker marker =>
      refine ⟨rfl, here, ?_⟩
      rintro found ⟨⟩
      exact there
    | malformed message => exact ⟨rfl, here, by simp⟩
  | error error =>
    dsimp only
    split
    · rename_i missing
      refine ⟨rfl, here, ?_⟩
      rintro found ⟨⟩
      exact read.1 missing
    · exact ⟨rfl, here, by simp⟩

/-- A helper that runs and is covered is found up, or in conflict. -/
theorem alreadyUp_careful {stored : StoredConnection} (own : stored.id = id) (tended : Tended id state)
    (here : passage.stage = .waiting) :
    @Ensures storeCommands _ _ (carefully id) (Spares id) (alreadyUp stored) (fun outcome final =>
      final.1 = state ∧ final.2.stage = .waiting ∧ (outcome = .ok false → state.running id.interfaceName = false))
      (state, passage) := by
  unfold alreadyUp
  rw [own]
  apply ensures_attempt (loadActive_careful here)
  · intro error final holds
    exact ⟨holds.1, holds.2.1, by simp⟩
  intro active final holds
  obtain ⟨final, passage⟩ := final
  obtain ⟨same, here, loaded⟩ := holds
  dsimp only at same
  subst final
  have there := loaded active rfl
  cases active with
  | none => exact ⟨rfl, here, fun _ => tended.unmarked there⟩
  | some active =>
    have stats : @Ensures storeCommands _ _ (carefully id) (Spares id) (socketMetadata active.socket) (fun outcome final =>
        final.1 = state ∧ final.2.stage = .waiting ∧ (outcome = .ok none → state.running id.interfaceName = false))
        (state, passage) := by
      apply careful_look (looking_metadata _) (by simp) here
      intro reply passage _ read here
      cases reply with
      | ok metadata => exact ⟨rfl, here, by simp⟩
      | error error =>
        dsimp only
        split
        · rename_i missing
          exact ⟨rfl, here, fun _ => tended.unlinked there (read.1 missing)⟩
        · exact ⟨rfl, here, by simp⟩
    apply ensures_attempt stats
    · intro error final holds
      exact ⟨holds.1, holds.2.1, by simp⟩
    intro metadata final holds
    obtain ⟨final, passage⟩ := final
    obtain ⟨same, here, gone⟩ := holds
    dsimp only at same
    subst final
    cases metadata with
    | none => exact ⟨rfl, here, fun _ => gone rfl⟩
    | some metadata =>
      dsimp only
      split
      · split
        · exact ⟨rfl, here, by simp⟩
        · exact ⟨rfl, here, by simp⟩
      · exact ⟨rfl, here, by simp⟩

theorem startConnection_tends {stored : StoredConnection} (own : stored.id = id ∧ stored.interface = id.interfaceName)
    (reparsed : ConnectionConfig) (debug : Bool) (down : state.running id.interfaceName = false)
    (here : passage.stage = .waiting) :
    @Ensures storeCommands _ _ (carefully id) (Spares id) (startConnection stored reparsed debug)
      (fun _ final => Tended id final.1) (state, passage) := by
  have calm : Stage.waiting ≠ .ready := by simp
  have early : ∀ (error : AppError) (after : StoreState) (passage : Passage), after.running id.interfaceName = false →
      passage.stage = .waiting → Tended id (after, passage).1 := fun _ _ _ down _ => .of_down down
  unfold startConnection
  rw [own.2]
  apply down_attempt (@checkNoSocket_teardown id _) calm down here early
  intro _ after passage _ down here
  apply down_attempt (@runHooks_teardown id _ reparsed.preUp "PreUp") calm down here early
  intro _ after passage _ down here
  apply ensures_attempt (bringUp_rises own.2 reparsed down here)
  · intro error final risen
    exact risen
  intro _ final risen
  obtain ⟨final, passage⟩ := final
  obtain ⟨up, here⟩ := risen
  apply ensures_attempt (postUp_rises up here reparsed)
  · intro error final risen
    exact risen
  intro _ final risen
  obtain ⟨final, passage⟩ := final
  exact recordActive_tends own debug risen.1 risen.2

theorem reparseAndVerify_looks (stored : StoredConnection) :
    @Issues storeCommands _ Looking (reparseAndVerify crates stored) (Outcome NotAuth fun _ => True) := by
  apply issues_call looking_resolver
  intro resolver
  cases parsed : parseConnectionConfig crates resolver stored.rawConf with
  | error error => exact notAuth_parse parsed
  | ok reparsed =>
    dsimp only
    split
    · trivial
    · exact notAuth_wireGuard _

/-- Connecting leaves the helper down or covered. -/
theorem connect_tends (debug : Bool) (tended : Tended id state) (here : passage.stage = .waiting) :
    @Ensures storeCommands _ _ (carefully id) (Spares id) (connect crates id debug) (fun _ final => Tended id final.1)
      (state, passage) := by
  have calm : Stage.waiting ≠ .ready := by simp
  apply looking_attempt loadRequired_looks calm here
  · intro error passage here
    exact tended
  intro stored passage own here
  apply looking_attempt (reparseAndVerify_looks stored) calm here
  · intro error passage here
    exact tended
  intro reparsed passage _ here
  split
  · exact tended
  rw [own.2]
  apply ensures_attempt (clearLeftovers_unmoved tended here)
  · intro error final unmoved
    exact unmoved.tended tended
  intro _ final unmoved
  obtain ⟨final, passage⟩ := final
  apply ensures_attempt (alreadyUp_careful own.1 (unmoved.tended tended) unmoved.1)
  · intro error last holds
    rw [holds.1]
    exact unmoved.tended tended
  intro up last holds
  obtain ⟨last, passage⟩ := last
  obtain ⟨same, here, down⟩ := holds
  cases same
  cases up with
  | true => exact unmoved.tended tended
  | false => exact startConnection_tends own reparsed debug (down rfl) here

/-! ### Requests -/

theorem tended_withRecord {stored : StoredConnection} (tended : Tended id state) : Tended id (state.withRecord stored) :=
  tended.congr rfl rfl rfl

/-- Saving a record, whatever comes of it. -/
theorem save_tends {stored : StoredConnection} (tended : Tended id state) (here : passage.stage = .waiting) :
    @Ensures storeCommands _ _ (carefully id) (Spares id) (save stored)
      (fun _ final => Tended id final.1 ∧ final.2.stage = .waiting) (state, passage) := by
  apply careful_call (by simp)
  intro outcome after _ within
  cases within
  have stays := (@note_stage passage (.writeRecord stored) rfl outcome id.interfaceName (by simp [here])).trans here
  cases outcome with
  | failed error => exact ⟨tended, stays⟩
  | written => exact ⟨tended_withRecord tended, stays⟩
  | unsynced error => exact ⟨tended_withRecord tended, stays⟩

theorem resolveConnectIntent_tends (reason : ConnectReason) (tended : Tended id state) (here : passage.stage = .waiting) :
    @Ensures storeCommands _ _ (carefully id) (Spares id) (resolveConnectIntent id reason)
      (fun _ final => Tended id final.1 ∧ final.2.stage = .waiting) (state, passage) := by
  apply looking_attempt (load_issues looking_record) (by simp) here
  · intro error passage here
    exact ⟨tended, here⟩
  intro found passage _ here
  cases found with
  | none => exact ⟨tended, here⟩
  | some stored =>
    cases reason with
    | reconciliation => exact ⟨tended, here⟩
    | user =>
      dsimp only
      split
      · apply ensures_attempt (save_tends tended here)
        · intro error final holds
          exact holds
        · intro value final holds
          exact holds
      · exact ⟨tended, here⟩

theorem connectLocked_tends (debug : Bool) (reason : ConnectReason) (tended : Tended id state)
    (here : passage.stage = .waiting) :
    @Ensures storeCommands _ _ (carefully id) (Spares id) (connectLocked crates id debug reason)
      (fun _ final => Tended id final.1) (state, passage) := by
  apply ensures_orRespond (resolveConnectIntent_tends reason tended here)
  · intro error final holds
    exact holds.1
  intro proceeds final holds
  obtain ⟨final, passage⟩ := final
  cases proceeds with
  | false => exact holds.1
  | true =>
    apply ensures_orRespond (connect_tends debug holds.1 holds.2)
    · intro error final tended
      exact tended
    · intro value final tended
      exact tended

theorem markUserDisconnected_tends (reason : DisconnectReason) (tended : Tended id state)
    (here : passage.stage = .waiting) :
    @Ensures storeCommands _ _ (carefully id) (Spares id) (markUserDisconnected id reason)
      (fun _ final => Tended id final.1 ∧ final.2.stage = .waiting) (state, passage) := by
  cases reason with
  | sessionTeardown => exact ⟨tended, here⟩
  | user =>
    apply looking_attempt (load_issues looking_record) (by simp) here
    · intro error passage here
      exact ⟨tended, here⟩
    intro found passage _ here
    cases found with
    | none => exact ⟨tended, here⟩
    | some stored =>
      dsimp only
      split
      · exact ⟨tended, here⟩
      · exact save_tends tended here

theorem disconnectLocked_tends (reason : DisconnectReason) (tended : Tended id state) (here : passage.stage = .waiting) :
    @Ensures storeCommands _ _ (carefully id) (Spares id) (disconnectLocked crates id reason)
      (fun _ final => Tended id final.1) (state, passage) := by
  apply ensures_orRespond (markUserDisconnected_tends reason tended here)
  · intro error final holds
    exact holds.1
  intro _ final holds
  obtain ⟨final, passage⟩ := final
  apply ensures_orRespond (disconnect_tends holds.1 holds.2)
  · intro error final tended
    exact tended
  · intro value final tended
    exact tended

/-- A connection that is not found active has no helper running. -/
theorem isActive_careful (tended : Tended id state) (here : passage.stage = .waiting) :
    @Ensures storeCommands _ _ (carefully id) (Spares id) (isActive id) (fun outcome final =>
      final.1 = state ∧ final.2.stage = .waiting ∧ (outcome = .ok false → state.running id.interfaceName = false))
      (state, passage) := by
  have debug : @Ensures storeCommands _ _ (carefully id) (Spares id) (activeDebug id) (fun outcome final =>
      final.1 = state ∧ final.2.stage = .waiting ∧ (outcome = .ok none → state.running id.interfaceName = false))
      (state, passage) := by
    apply ensures_bind (loadActive_careful here)
    intro outcome final holds
    obtain ⟨final, passage⟩ := final
    obtain ⟨same, here, loaded⟩ := holds
    dsimp only at same
    subst final
    cases outcome with
    | error error => exact ⟨rfl, here, by simp⟩
    | ok active =>
      have there := loaded active rfl
      cases active with
      | none => exact ⟨rfl, here, fun _ => tended.unmarked there⟩
      | some marker =>
        apply careful_look (looking_stat _) (by simp) here
        intro reply passage careful found here
        cases reply with
        | error error =>
          refine ⟨rfl, here, fun _ => ?_⟩
          by_contra up
          have fine := careful.stats (by simpa using up)
          cases fine
        | ok there' =>
          cases there' with
          | true => exact ⟨rfl, here, by simp⟩
          | false =>
            refine ⟨rfl, here, fun _ => tended.unlinked there ?_⟩
            have absent := found.1
            simpa using absent.symm
  apply ensures_bind debug
  intro outcome final holds
  obtain ⟨same, here, down⟩ := holds
  refine ⟨same, here, fun inactive => down ?_⟩
  cases outcome with
  | error error => cases inactive
  | ok found =>
    cases found with
    | none => rfl
    | some debug => cases inactive

theorem removeLocked_tends (form : Option (List UInt8)) (tended : Tended id state) (here : passage.stage = .waiting) :
    @Ensures storeCommands _ _ (carefully id) (Spares id) (removeLocked id form) (fun _ final => Tended id final.1)
      (state, passage) := by
  apply ensures_orRespond (isActive_careful tended here)
  · intro error final holds
    rw [holds.1]
    exact tended
  intro active final holds
  obtain ⟨final, passage⟩ := final
  obtain ⟨same, here, down⟩ := holds
  dsimp only at same
  subst final
  cases active with
  | true => exact tended
  | false =>
    have verifies : ∀ bytes, Looking (.verifyExternalForm bytes) :=
      fun _ => looking_idle rfl (by simp) (by simp) (by exact fun _ _ _ answered => answered)
    have authorizes : @Ensures storeCommands _ _ (carefully id) (Spares id) (requireAdminAuth form removeCause)
        (fun _ final => final.1 = state) (state, passage) := by
      cases form with
      | none => exact rfl
      | some bytes =>
        apply careful_look (verifies bytes) (by simp) here
        intro verdict passage _ _ _
        cases verdict with
        | ok value => exact rfl
        | error error => cases error <;> exact rfl
    apply ensures_orRefuse authorizes
    · intro response final same
      rw [same]
      exact tended
    intro final same
    obtain ⟨final, passage⟩ := final
    dsimp only at same
    subst final
    have removes : @Ensures storeCommands _ _ (carefully id) (Spares id) (remove id) (fun _ final => Tended id final.1)
        (state, passage) := by
      apply follow_call carefully_follows (fun _ _ => down rfl)
      intro outcome after _ within
      cases within
      exact tended.congr rfl rfl rfl
    apply ensures_orRespond removes
    · intro error final tended
      exact tended
    · intro value final tended
      exact tended

/-- The sections of the three requests. -/
def LockedSection.tending : LockedSection → Bool
  | .connect _ _ | .disconnect _ | .remove _ => true
  | _ => false

theorem section_tends {locked : LockedSection} (kind : locked.tending = true) (tended : Tended id state) :
    @Ensures storeCommands _ _ (carefully id) (Spares id) (locked.program crates id) (fun _ final => Tended id final.1)
      (state, .start) := by
  cases locked with
  | connect debug reason => exact connectLocked_tends debug reason tended rfl
  | disconnect reason => exact disconnectLocked_tends reason tended rfl
  | remove form => exact removeLocked_tends form tended rfl
  | _ => cases kind

/-- One step of a run: one of the three requests, under the connection's lock, or something elsewhere. -/
inductive TendingStep (crates : Crates) (id : ConnectionId) : StoreState → StoreState → Prop where
  | request {state after : StoreState} {locked : LockedSection} {response : PrivilegedResponse} {passage : Passage}
      (kind : locked.tending = true)
      (served : @Completes storeCommands _ _ (carefully id) (locked.program crates id) (state, .start) response
        (after, passage)) : TendingStep crates id state after
  | elsewhere {state after : StoreState} (marker : after.active id = state.active id)
      (files : ∀ path, ownPath id.interfaceName path → after.runtime path = state.runtime path)
      (helper : after.running id.interfaceName = state.running id.interfaceName) : TendingStep crates id state after

theorem TendingStep.tended (step : TendingStep crates id state after) (tended : Tended id state) : Tended id after := by
  cases step with
  | request kind served => exact (section_tends kind tended).completes served
  | elsewhere marker files helper =>
    intro running
    obtain ⟨covered, clean⟩ := tended (helper ▸ running)
    have socket := files (socketPath id.interfaceName) (by simp [ownPath, staleRuntimePaths])
    have cleanup := files (gotatunCleanupStatusPath id.interfaceName) (by simp [ownPath])
    exact ⟨⟨marker ▸ covered.marker, socket ▸ covered.socket⟩, cleanup.trans clean⟩

theorem tending_run {start : StoreState} (tended : Tended id start)
    (run : Relation.ReflTransGen (TendingStep crates id) start state) : Tended id state := by
  induction run with
  | refl => exact tended
  | tail _ step ih => exact step.tended ih

/-- A connect is all or nothing exactly where, once its helper is ready, no step fails that
nothing is undone for and no helper survives being taken down; and over careful connects,
disconnects and removals no record is removed while its helper runs. -/
theorem connect_all_or_nothing (crates : Crates) (id : ConnectionId) :
    (∀ (state : StoreState) (debug : Bool) (result : Except AppError Unit) (final : StoreState × Passage),
      @Completes storeCommands _ _ (watched id.interfaceName) (connect crates id debug) (state, .start) result final →
      (AllOrNothing id.interfaceName state result final ↔ ¬ Stranded id.interfaceName state final)) ∧
    ∀ (start state : StoreState) (locked : LockedSection) (moment : StoreState × Passage)
      (rest : StoreProgram PrivilegedResponse) (other : ConnectionId), Tended id start →
      Relation.ReflTransGen (TendingStep crates id) start state → locked.tending = true →
      @Runs storeCommands _ _ (carefully id) ((state, .start), locked.program crates id) (moment, rest) →
      rest.upcoming = some (.removeRecord other) → moment.1.running id.interfaceName = false := by
  constructor
  · intro state debug result final connected
    exact connect_allOrNothing connected
  · intro start state locked moment rest other tended run kind here upcoming
    have ensured := (section_tends kind (tending_run tended run)).runs here
    obtain ⟨next, rfl⟩ := Program.upcoming_call upcoming
    exact ensured.1 other rfl

/-! ### One connect -/

/-- A connect in a script, being followed. -/
def follow (cues : Cues) (script : Scripted) : Except AppError Unit × Scripted × Passage :=
  interpret (@Handler.observe storeCommands _ _ (scriptedStore cues) (Passage.note exampleId.interfaceName))
    (connect exampleCrates exampleId false) (script, .start)

theorem follow_completes (cues : Cues) (script : Scripted) :
    @Completes storeCommands _ _ (watched exampleId.interfaceName) (connect exampleCrates exampleId false)
      (script.state, .start) (follow cues script).1 ((follow cues script).2.1.state, (follow cues script).2.2) :=
  interpret_completes ((scriptedStore_faithful cues).observe (Passage.note exampleId.interfaceName)) (script, .start) _

/-- A connect whose marker cannot be written, and the removal of the record after it. -/
theorem follow_strands {cues : Cues} {script : Scripted} (down : script.state.running exampleId.interfaceName = false)
    (lapsed : (follow cues script).2.2.lapsed = true)
    (removed : let gone := (play cues ((LockedSection.remove (some [1])).program exampleCrates exampleId) (follow cues script).2.1).2
      gone.state.records exampleId = none ∧ gone.state.running exampleId.interfaceName = true) :
    ∃ (result : Except AppError Unit) (final : StoreState × Passage) (response : PrivilegedResponse) (after : StoreState),
      @Completes storeCommands _ _ (watched exampleId.interfaceName) (connect exampleCrates exampleId false)
        (script.state, .start) result final ∧
      ¬ AllOrNothing exampleId.interfaceName script.state result final ∧
      @Completes storeCommands _ _ storeEnvironment ((LockedSection.remove (some [1])).program exampleCrates exampleId) final.1
        response after ∧
      after.records exampleId = none ∧ after.running exampleId.interfaceName = true := by
  refine ⟨_, _, _, _, follow_completes cues script, ?_, play_completes rfl, removed⟩
  rw [connect_allOrNothing (follow_completes cues script)]
  intro fine
  exact fine (.inr ⟨down, .inl lapsed⟩)

/-- No marker can be written. -/
def fullDisk : Cues where
  fails op := match op with
    | .writeActive _ _ => true
    | _ => false
  accepts _ := true
  resolver := noResolver
  newId := ⟨1⟩
  now := 7

theorem connect_strands :
    ∃ (result : Except AppError Unit) (final : StoreState × Passage) (response : PrivilegedResponse) (after : StoreState),
      @Completes storeCommands _ _ (watched exampleId.interfaceName) (connect exampleCrates exampleId false)
        (storedScript.state, .start) result final ∧
      ¬ AllOrNothing exampleId.interfaceName storedScript.state result final ∧
      @Completes storeCommands _ _ storeEnvironment ((LockedSection.remove (some [1])).program exampleCrates exampleId) final.1
        response after ∧
      after.records exampleId = none ∧ after.running exampleId.interfaceName = true := by
  have played : (follow fullDisk storedScript).2.2.lapsed = true ∧
      let gone :=
        (play fullDisk ((LockedSection.remove (some [1])).program exampleCrates exampleId) (follow fullDisk storedScript).2.1).2
      gone.state.records exampleId = none ∧ gone.state.running exampleId.interfaceName = true := by decide +kernel
  exact follow_strands rfl played.1 played.2

theorem Careful.of_down {op : StoreOp} (down : state.running id.interfaceName = false) (quiet : op.raises = false)
    (reply : op.Reply) : Careful id (state, passage) op reply := by
  have absurdly : state.running id.interfaceName ≠ true := by simp [down]
  refine ⟨?_, fun up => absurd up absurdly, fun up => absurd up absurdly, fun up => absurd up absurdly⟩
  intro spec same
  subst same
  cases quiet

/-- A removal of a connection that is down, up to the removal itself. -/
theorem remove_runs (down : state.running id.interfaceName = false) (unmarked : state.active id = none) (form : List UInt8) :
    ∃ rest : StoreProgram PrivilegedResponse, rest.upcoming = some (.removeRecord id) ∧
      @Runs storeCommands _ _ (carefully id) ((state, .start), (LockedSection.remove (some form)).program crates id)
        ((state, .start), rest) := by
  have reads : carefully id (state, .start) (.readActive id) (.error ⟨.notFound, ""⟩) (state, .start) :=
    ⟨.of_down down rfl _, ⟨fun _ => unmarked, rfl⟩, rfl⟩
  have verifies : carefully id (state, .start) (.verifyExternalForm form) (.ok ()) (state, .start) :=
    ⟨.of_down down rfl _, rfl, rfl⟩
  exact ⟨_, rfl, .head (.command reads) (.head (.command verifies) .refl)⟩

theorem not_stranded {interface : String} {final : StoreState} (synced : passage.unsynced = false)
    (kept : passage.lapsed = false) (unconcluded : passage.concluded = false) :
    ¬ Stranded interface state (final, passage) := by
  simp [Stranded, synced, kept, unconcluded]

/-- A connect that succeeds, and a removal before it. -/
theorem connect_all_or_nothing_stored :
    AllOrNothing exampleId.interfaceName storedScript.state (follow workingCues storedScript).1
        ((follow workingCues storedScript).2.1.state, (follow workingCues storedScript).2.2) ∧
      ∃ (moment : StoreState × Passage) (rest : StoreProgram PrivilegedResponse),
        rest.upcoming = some (.removeRecord exampleId) ∧
        @Runs storeCommands _ _ (carefully exampleId) ((storedScript.state, .start),
          (LockedSection.remove (some [1])).program exampleCrates exampleId) (moment, rest) ∧
        moment.1.running exampleId.interfaceName = false := by
  constructor
  · apply ((connect_all_or_nothing exampleCrates exampleId).1 _ _ _ _ (follow_completes workingCues storedScript)).mpr
    have fine : (follow workingCues storedScript).2.2.unsynced = false ∧ (follow workingCues storedScript).2.2.lapsed = false ∧
        (follow workingCues storedScript).2.2.concluded = false := by decide +kernel
    exact not_stranded fine.1 fine.2.1 fine.2.2
  · obtain ⟨rest, upcoming, run⟩ := @remove_runs storedScript.state exampleId exampleCrates rfl rfl [1]
    exact ⟨_, rest, upcoming, run, (connect_all_or_nothing exampleCrates exampleId).2 _ _ (.remove (some [1])) _ rest _
      (.of_down rfl) .refl rfl run upcoming⟩

end Wgd.Store
