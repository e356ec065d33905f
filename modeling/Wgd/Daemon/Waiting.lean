import Wgd.Daemon.Framing
import Wgd.Interaction.Footprint

/-! What the loop leaves in the buffers of its clients when it goes to sleep
(`privileged/socket.rs`, `serve` and `wait_for_io`). -/

set_option autoImplicit false

namespace Wgd.Daemon

open Wgd.Interaction

/-- A whole request is in the buffer, and nothing but new bytes would wake the loop for it. -/
def Client.Stranded (client : Client) : Prop :=
  client.pending = none ∧ client.output = [] ∧ newline ∈ client.input

/-- No whole request is in the buffer. -/
def Client.Cut (client : Client) : Prop := newline ∉ client.input

theorem Client.Cut.not_stranded {client : Client} (cut : client.Cut) : ¬client.Stranded := fun stranded => cut stranded.2.2

/-- The loop does not go to sleep on a whole request. -/
def Awake (op : ServeOp) : Prop := ∀ clients, op = .waitForIo clients → ∀ client ∈ clients, ¬client.Stranded

def Quick (op : ServeOp) : Prop := ∀ clients, op ≠ .waitForIo clients

theorem Quick.awake {op : ServeOp} (quick : Quick op) : Awake op := fun clients same => absurd same (quick clients)

/-- The client is dropped, or holds these bytes. -/
def Holds (input : List UInt8) (stepped : Except String (Option Client)) : Prop :=
  ∀ client, stepped = .ok (some client) → client.input = input

/-- The client is dropped, or holds no whole request. -/
def LeavesCut (stepped : Except String (Option Client)) : Prop := ∀ client, stepped = .ok (some client) → client.Cut

section Steps

variable {client : Client} {timeout : Nat}

theorem answer_holds (frames : Except String (List UInt8)) :
    @Issues serveCommands _ Quick (client.answer timeout frames) fun answered => Holds client.input (answered.map some) := by
  unfold Client.answer
  cases frames with
  | error error =>
    intro client' same
    cases same
  | ok bytes =>
    dsimp only
    split
    · intro client' same
      cases same
    · refine ⟨by simp [Quick], ?_⟩
      intro now client' same
      cases same
      rfl

theorem collect_holds (worker : Worker) :
    @Issues serveCommands _ Quick (client.collect timeout worker) (Holds client.input) := by
  refine Issues.bind_iff.mpr ⟨by simp [Quick], ?_⟩
  intro received
  rw [Issues.done_iff]
  cases received with
  | response frames => exact Issues.bind (answer_holds frames) fun answered holds => holds
  | empty =>
    intro client' same
    cases same
    rfl
  | disconnected =>
    intro client' same
    cases same

theorem stepPending_holds (worker : Worker) :
    @Issues serveCommands _ Quick (client.stepPending timeout worker) (Holds client.input) := by
  refine ⟨by simp [Quick], ?_⟩
  intro result
  cases result with
  | eof =>
    intro client' same
    cases same
  | error error =>
    intro client' same
    cases same
  | bytes chunk => exact collect_holds worker
  | wouldBlock => exact collect_holds worker

theorem request_holds (serve : ServeState) (stop : Nat) :
    @Issues serveCommands _ Quick (client.request timeout serve stop)
      fun result => Holds (client.input.drop (stop + 1)) result.2 := by
  unfold Client.request
  split
  next =>
    intro client' same
    cases same
  next line readable =>
    refine ⟨by simp [Quick], ?_⟩
    intro reply
    obtain ⟨outcome, control⟩ := reply
    refine ⟨by simp [Quick], ?_⟩
    intro lastActivity
    cases outcome with
    | immediate frames =>
      apply Issues.bind (answer_holds frames)
      intro answered holds client' same
      cases answered with
      | error error => cases same
      | ok answered =>
        cases same
        exact congrArg (List.drop (stop + 1)) (holds answered rfl)
    | pending worker =>
      refine ⟨by simp [Quick], ?_⟩
      intro now client' same
      cases same
      rfl

/-- With at most one newline in the buffer, none is left once the line is dispatched. -/
theorem receive_cut (serve : ServeState) {chunk : List UInt8} (single : (client.input ++ chunk).count newline ≤ 1) :
    @Issues serveCommands _ Quick (client.receive timeout serve chunk) fun result => LeavesCut result.2 := by
  unfold Client.receive
  dsimp only
  split
  · intro client' same
    cases same
  · split
    next stop found =>
      apply (request_holds serve stop).mono
      intro result holds client' same
      rw [Client.Cut, holds client' same]
      obtain ⟨inside, here, -⟩ := List.findIdx?_eq_some_iff_getElem.mp found
      have parts := List.take_append_drop (stop + 1) (client.input ++ chunk)
      rw [← parts, List.count_append, List.take_succ_eq_append_getElem inside, List.count_append] at single
      have first : (client.input ++ chunk)[stop] = newline := by simpa [newline] using here
      rw [first, List.count_singleton_self] at single
      show newline ∉ (client.input ++ chunk).drop (stop + 1)
      rw [← List.count_eq_zero]
      omega
    next found =>
      intro client' same member
      cases same
      rw [List.findIdx?_eq_none_iff] at found
      have other := found newline member
      simp [newline] at other

theorem sent_holds : @Issues serveCommands _ Quick (client.sent timeout) (Holds client.input) := by
  unfold Client.sent
  split
  · refine ⟨by simp [Quick], ?_⟩
    intro now client' same
    cases same
    rfl
  · intro client' same
    cases same
    rfl

theorem flush_holds : @Issues serveCommands _ Quick (client.flush timeout) (Holds client.input) := by
  unfold Client.flush
  split
  · intro client' same
    cases same
    rfl
  · refine ⟨by simp [Quick], ?_⟩
    intro result
    cases result with
    | error error =>
      intro client' same
      cases same
    | wouldBlock => exact sent_holds
    | wrote count =>
      cases count with
      | zero =>
        intro client' same
        cases same
      | succ count => exact @sent_holds { client with written := client.written + (count + 1) } timeout

/-- A client that was just accepted has sent nothing yet. -/
theorem acceptClients_cut (n : Nat) {clients : List Client} (cut : ∀ client ∈ clients, client.Cut) :
    @Issues serveCommands _ Quick (acceptClients n clients) fun accepted =>
      ∀ clients', accepted = .ok clients' → ∀ client ∈ clients', client.Cut := by
  induction n generalizing clients with
  | zero =>
    intro clients' same
    cases same
    exact cut
  | succ n ih =>
    refine Issues.bind_iff.mpr ⟨by simp [Quick], ?_⟩
    intro result
    rw [Issues.done_iff]
    cases result with
    | wouldBlock =>
      intro clients' same
      cases same
      exact cut
    | error error =>
      intro clients' same
      cases same
    | stream =>
      dsimp only
      split
      · refine Issues.bind_iff.mpr ⟨by simp [Quick], ?_⟩
        intro peer
        rw [Issues.done_iff]
        cases peer with
        | error error =>
          intro clients' same
          cases same
        | ok peer =>
          refine Issues.bind_iff.mpr ⟨by simp [Quick], ?_⟩
          intro now
          apply ih
          intro client member
          rw [List.mem_append, List.mem_singleton] at member
          cases member with
          | inl old => exact cut client old
          | inr new =>
            rw [new]
            simp [Client.Cut]
      · exact ih cut

theorem pruneStaleLeases_quick (tokens : List String) :
    @Issues serveCommands _ Quick (pruneStaleLeases tokens) fun _ => True := by
  induction tokens with
  | nil => trivial
  | cons token rest ih =>
    refine Issues.bind_iff.mpr ⟨by simp [Quick], ?_⟩
    intro live
    exact Issues.bind ih fun _ _ => trivial

theorem mayExit_quick (idleTimeout : Option Nat) (serve : ServeState) (clients : List Client) :
    @Issues serveCommands _ Quick (mayExit idleTimeout serve clients) fun _ => True := by
  have told : @Issues serveCommands _ Quick (shouldExitNow serve.control) fun _ => True := by
    unfold shouldExitNow
    split
    · trivial
    · exact Issues.bind (pruneStaleLeases_quick _) fun _ _ => trivial
  have idle : ∀ lastActivity, @Issues serveCommands _ Quick (idleElapsed lastActivity idleTimeout) fun _ => True := by
    intro lastActivity
    cases idleTimeout with
    | none => trivial
    | some timeout => exact ⟨by simp [Quick], fun _ => trivial⟩
  unfold mayExit
  split
  · refine Issues.bind_iff.mpr ⟨by simp [Quick], ?_⟩
    intro background
    rw [Issues.done_iff]
    split
    · refine Issues.bind_iff.mpr ⟨by simp [Quick], ?_⟩
      intro resident
      rw [Issues.done_iff]
      split
      · apply Issues.bind told
        intro decided _
        dsimp only
        split
        · trivial
        · exact Issues.bind (idle _) fun _ _ => trivial
      · trivial
    · trivial
  · trivial

end Steps

/-! ### Once round the loop -/

/-- No read brings the end of more than one request. -/
def oneLine : (op : ServeOp) → op.Reply → Bool
  | .read _ _, .bytes chunk => decide (chunk.count newline ≤ 1)
  | _, _ => true

theorem Holds.leavesCut {input : List UInt8} {stepped : Except String (Option Client)} (holds : Holds input stepped)
    (cut : newline ∉ input) : LeavesCut stepped := by
  intro client same
  rw [Client.Cut, holds client same]
  exact cut

section Rounds

variable {S A : Type} {env : Environment serveCommands S} {client : Client} {timeout : Nat} {serve : ServeState} {state : S}

/-- The loop stays awake while it runs such a program. -/
theorem quick_awake {p : ServeProgram A} {post : A → Prop} (issues : @Issues serveCommands A Quick p post) :
    Ensures env (fun _ op => Awake op) p (fun result _ => post result) state :=
  issues.ensures.relax fun _ _ quick => Quick.awake quick

theorem call_awake {op : ServeOp} {post : op.Reply → S → Prop} (quick : Quick op) (rest : ∀ reply after, post reply after) :
    Ensures env (fun _ op => Awake op) (serveCall op) post state :=
  ⟨quick.awake, fun reply after _ => rest reply after⟩

variable (single : ∀ s op reply after, env s op reply after → oneLine op reply = true)

include single

theorem stepRequest_cut (cut : client.Cut) :
    Ensures env (fun _ op => Awake op) (client.stepRequest timeout serve) (fun result _ => LeavesCut result.2) state := by
  have none : client.input.count newline = 0 := List.count_eq_zero.mpr cut
  refine Ensures.bind_iff.mpr ⟨Quick.awake (by simp [Quick]), ?_⟩
  intro result after answered
  rw [Ensures.done_iff]
  cases result with
  | eof =>
    intro client' same
    cases same
  | error error =>
    intro client' same
    cases same
  | bytes chunk =>
    have few : chunk.count newline ≤ 1 := of_decide_eq_true (single _ _ _ _ answered)
    apply quick_awake
    apply receive_cut
    rw [List.count_append]
    omega
  | wouldBlock =>
    apply quick_awake
    apply receive_cut
    rw [List.append_nil]
    omega

theorem work_cut (cut : client.Cut) :
    Ensures env (fun _ op => Awake op) (client.work timeout serve) (fun result _ => LeavesCut result.2) state := by
  unfold Client.work
  split
  next worker pending =>
    apply quick_awake
    apply Issues.bind (stepPending_holds worker)
    intro worked holds
    exact holds.leavesCut cut
  next =>
    split
    · exact stepRequest_cut single cut
    · intro client' same
      cases same
      exact cut

theorem step_cut (cut : client.Cut) :
    Ensures env (fun _ op => Awake op) (client.step timeout serve) (fun result _ => LeavesCut result.2) state := by
  apply Ensures.bind_iff.mpr
  apply call_awake (by simp [Quick])
  intro now after
  split
  · apply Ensures.bind_iff.mpr
    apply (work_cut single cut).mono
    intro result after left
    obtain ⟨serve, worked⟩ := result
    cases worked with
    | error error =>
      intro client' same
      cases same
    | ok kept =>
      cases kept with
      | none =>
        intro client' same
        cases same
      | some client =>
        apply quick_awake
        apply Issues.bind flush_holds
        intro stepped holds
        exact holds.leavesCut (left client rfl)
  · intro client' same
    cases same

theorem retainClients_cut {clients : List Client} (cut : ∀ client ∈ clients, client.Cut) :
    Ensures env (fun _ op => Awake op) (retainClients serve clients) (fun result _ => ∀ client ∈ result.2, client.Cut) state := by
  induction clients generalizing serve state with
  | nil => simp [retainClients]
  | cons client rest ih =>
    rw [List.forall_mem_cons] at cut
    apply Ensures.bind_iff.mpr
    apply (step_cut single cut.1).mono
    intro result after left
    obtain ⟨serve, stepped⟩ := result
    apply Ensures.bind_iff.mpr
    apply (ih cut.2).mono
    intro result after later
    obtain ⟨serve, kept⟩ := result
    cases stepped with
    | error error => exact later
    | ok option =>
      cases option with
      | none => exact later
      | some client' => exact List.forall_mem_cons.mpr ⟨left client' rfl, later⟩

/-- Before the loop goes to sleep no client holds a whole request. -/
theorem serveOnce_awake {idleTimeout : Option Nat} {clients : List Client} (cut : ∀ client ∈ clients, client.Cut) :
    Ensures env (fun _ op => Awake op) (serveOnce idleTimeout serve clients)
      (fun phase _ => ∀ serve clients, phase = .serving serve clients → ∀ client ∈ clients, client.Cut) state := by
  apply Ensures.bind_iff.mpr
  apply (quick_awake (acceptClients_cut maxClients cut)).mono
  intro accepted after fresh
  cases accepted with
  | error error =>
    intro serve clients same
    cases same
  | ok clients =>
    apply Ensures.bind_iff.mpr
    apply (retainClients_cut single (fresh clients rfl)).mono
    intro result after left
    obtain ⟨serve, clients⟩ := result
    apply Ensures.bind_iff.mpr
    apply (quick_awake (mayExit_quick idleTimeout serve clients)).mono
    intro decided after _
    obtain ⟨exit, serve⟩ := decided
    cases exit with
    | true =>
      intro serve clients same
      cases same
    | false =>
      refine ⟨?_, ?_⟩
      · intro waiting same client member
        cases same
        exact (left client member).not_stranded
      · intro _ _ _ serve clients' same
        cases same
        exact left

end Rounds

/-! ### Whole runs -/

/-- The loop of `serve`, in runs in which no read brings the end of more than one request. -/
def singleLineSession (idleTimeout : Option Nat) : Session serveCommands Workers ServePhase :=
  { serveSession idleTimeout with env := serveEnvironment.meeting fun _ op reply => oneLine op reply = true }

def AllCut (phase : ServePhase) : Prop := ∀ serve clients, phase = .serving serve clients → ∀ client ∈ clients, client.Cut

theorem singleLine_obeys (idleTimeout : Option Nat) :
    (singleLineSession idleTimeout).Obeys (fun _ op => Awake op) (fun phase _ => AllCut phase) := by
  constructor
  · intro phase workers after p cut started
    obtain ⟨serve, clients, rfl, rfl, rfl⟩ := started
    have single : ∀ s op reply after, ((singleLineSession idleTimeout).env.after (singleLineSession idleTimeout).outside) s op
        reply after → oneLine op reply = true := by
      intro s op reply after answered
      obtain ⟨changed, -, answered⟩ := answered
      exact answered.1
    exact serveOnce_awake single (cut serve clients rfl)
  · intro phase workers after cut _
    exact cut
  · intro _ _ _ died
    cases died

/-- The loop never goes to sleep on a whole request of a client that waits for nothing, as long
as no read brings the end of more than one. -/
theorem single_lines_not_stranded {idleTimeout : Option Nat} {workers : Workers} {p : ServeProgram ServePhase}
    {clients : List Client}
    (reached : (singleLineSession idleTimeout).Reachable ServeBegins (workers, p))
    (asleep : p.upcoming = some (.waitForIo clients)) : ∀ client ∈ clients, ¬client.Stranded := by
  have starts : ∀ phase workers, ServeBegins phase workers → AllCut phase := by
    intro phase workers begins serve clients same client member
    obtain ⟨⟨serve', rfl⟩, -⟩ := begins
    cases same
    cases member
  obtain ⟨earlier, -, awake⟩ := (singleLine_obeys idleTimeout).upcoming starts reached asleep
  exact awake clients rfl

/-- One connection to come, and what its client sends. -/
structure Visit where
  workers : Workers
  connecting : Bool
  arriving : List UInt8

/-- What the client sends arrives in one piece, if that has not too many lines. -/
def visit (most : Nat) : Handler serveCommands Visit := fun script op => match op with
  | .accept => (if script.connecting then .stream else .wouldBlock, { script with connecting := false })
  | .newClient => (.ok (501, 20), script)
  | .clock | .deadlineClock _ => ((1000 : Nat), script)
  | .read _ _ =>
    if script.arriving.count newline ≤ most then (.bytes script.arriving, { script with arriving := [] })
    else (.wouldBlock, script)
  | .tryRecv _ => (.empty, script)
  | .dispatch _ _ control => ((.immediate (.ok [newline]), control), script)
  | .write _ bytes => (.wrote bytes.length, script)
  | .backgroundWork | .resident => ((0 : Nat), script)
  | .leaseTokenIsLive _ => (true, script)
  | .waitForIo _ => ((), script)

theorem visit_faithful (most : Nat) : (visit most).Faithful Visit.workers serveEnvironment := by
  intro script op
  cases op with
  | read client size =>
    simp only [visit]
    split <;> rfl
  | accept => rfl
  | newClient => rfl
  | clock => rfl
  | deadlineClock client => rfl
  | tryRecv worker => rfl
  | dispatch client request control => rfl
  | write client bytes => rfl
  | backgroundWork => rfl
  | resident => rfl
  | leaseTokenIsLive token => rfl
  | waitForIo clients => rfl

theorem visit_single (idleTimeout : Option Nat) : (visit 1).Faithful Visit.workers (singleLineSession idleTimeout).env := by
  intro script op
  refine ⟨?_, visit_faithful 1 script op⟩
  cases op with
  | read client size =>
    simp only [visit]
    split
    next few => exact decide_eq_true few
    next => rfl
  | accept => rfl
  | newClient => rfl
  | clock => rfl
  | deadlineClock client => rfl
  | tryRecv worker => rfl
  | dispatch client request control => rfl
  | write client bytes => rfl
  | backgroundWork => rfl
  | resident => rfl
  | leaseTokenIsLive token => rfl
  | waitForIo clients => rfl

/-- The clients over which a program is about to sleep. -/
def asleepOver : ServeProgram ServePhase → Option (List Client)
  | .call (.waitForIo clients) _ => some clients
  | _ => none

theorem upcoming_of_asleepOver {p : ServeProgram ServePhase} {clients : List Client} (asleep : asleepOver p = some clients) :
    p.upcoming = some (.waitForIo clients) := by
  unfold asleepOver at asleep
  split at asleep
  · cases asleep
    rfl
  · cases asleep

def freshServe : ServeState := ⟨⟨[], true, false⟩, 0⟩

def arrives (requests : List String) : Visit := ⟨fun _ => .unborn, true, requests.flatMap frame⟩

/-- Where the loop first goes to sleep when a client sends these requests. -/
def firstSleep (most : Nat) (requests : List String) : Visit × ServeProgram ServePhase :=
  interpretFor (visit most) 11 (arrives requests, serveOnce none freshServe [])

/-- The client once its first request is answered. -/
def answered (input : List UInt8) : Client := ⟨501, 20, input, [], 0, 11000, none⟩

theorem serve_begins (requests : List String) : ServeBegins (.serving freshServe []) (arrives requests).workers :=
  ⟨⟨_, rfl⟩, fun _ => rfl⟩

theorem single_lines_not_stranded_visit :
    (firstSleep 1 ["first"]).2.upcoming = some (.waitForIo [answered []]) ∧ ¬(answered []).Stranded := by
  have asleep := upcoming_of_asleepOver (by decide +kernel : asleepOver (firstSleep 1 ["first"]).2 = some [answered []])
  have begun : (singleLineSession none).Reachable ServeBegins ((arrives ["first"]).workers, .done (.serving freshServe [])) :=
    .begin (serve_begins _)
  have reached := begun.scripted (visit_single none) (arrives ["first"]) ⟨_, _, rfl, rfl, rfl⟩ 11
  exact ⟨asleep, single_lines_not_stranded reached asleep _ List.mem_cons_self⟩

/-- Two requests in one read: the loop answers the first and goes to sleep on the second. -/
theorem second_request_stranded :
    ¬ ∀ idleTimeout workers p clients, (serveSession idleTimeout).Reachable ServeBegins (workers, p) →
      p.upcoming = some (.waitForIo clients) → ∀ client ∈ clients, ¬client.Stranded := by
  intro awake
  have asleep := upcoming_of_asleepOver
    (by decide +kernel : asleepOver (firstSleep 2 ["first", "second"]).2 = some [answered (frame "second")])
  have begun : (serveSession none).Reachable ServeBegins
      ((arrives ["first", "second"]).workers, .done (.serving freshServe [])) := .begin (serve_begins _)
  have reached := begun.scripted (visit_faithful 2) (arrives ["first", "second"]) ⟨_, _, rfl, rfl, rfl⟩ 11
  exact awake _ _ _ _ reached asleep _ List.mem_cons_self ⟨rfl, rfl, by decide +kernel⟩

end Wgd.Daemon
