import Wgd.Daemon.Serve

/-! How one client's bytes become requests (`privileged/socket.rs`, `Client::step`), and
what the loop leaves in a buffer when it goes to sleep. -/

set_option autoImplicit false

namespace Wgd.Daemon

open Wgd.Interaction

/-! ### Lines -/

def newline : UInt8 := 10

/-- The bytes of a request line. -/
def lineBytes (request : String) : List UInt8 := request.toByteArray.data.toList

/-- A request as it is sent. -/
def frame (request : String) : List UInt8 := lineBytes request ++ [newline]

theorem fromUTF8?_lineBytes (request : String) : String.fromUTF8? ⟨(lineBytes request).toArray⟩ = some request := by
  rw [lineBytes, Array.toArray_toList, String.fromUTF8?, dif_pos request.isValidUTF8]
  rfl

/-- The bytes of whole frames up to their first newline are the first line. -/
theorem first_line {requests : List String} {bytes unread : List UInt8} {stop : Nat}
    (lines : ∀ request ∈ requests, newline ∉ lineBytes request) (all : bytes ++ unread = requests.flatMap frame)
    (found : bytes.findIdx? (· == 10) = some stop) :
    ∃ request rest, requests = request :: rest ∧ bytes.take stop = lineBytes request ∧
      bytes.drop (stop + 1) ++ unread = rest.flatMap frame := by
  obtain ⟨inside, -⟩ := List.findIdx?_eq_some_iff_getElem.mp found
  cases requests with
  | nil =>
    rw [List.flatMap_nil, List.append_eq_nil_iff] at all
    simp [all.1] at inside
  | cons request rest =>
    have clean : (lineBytes request).findIdx? (· == 10) = none := by
      rw [List.findIdx?_eq_none_iff]
      intro byte member
      have other : byte ≠ newline := by
        intro same
        exact lines request List.mem_cons_self (same ▸ member)
      simpa [newline] using other
    rw [List.flatMap_cons, frame, List.append_assoc, List.singleton_append] at all
    have place := congrArg (List.findIdx? (· == 10)) all
    rw [List.findIdx?_append, found, List.findIdx?_append, clean] at place
    have stops : stop = (lineBytes request).length := by simpa [List.findIdx?_cons, newline] using place
    refine ⟨request, rest, rfl, ?_, ?_⟩
    · have front := congrArg (List.take stop) all
      rw [List.take_append_of_le_length (by omega), stops, List.take_left] at front
      rw [stops, front]
    · have back := congrArg (List.drop (stop + 1)) all
      rw [List.drop_append_of_le_length (by omega), stops] at back
      rw [stops, back, ← List.drop_drop, List.drop_left]
      rfl

/-! ### One client and its stream -/

/-- What a client has sent and the daemon has not read, and what of it was dispatched. -/
structure Wire where
  unread : List UInt8
  dispatched : List String

/-- A client that stays connected and takes its responses. A read returns what has arrived of
the stream, as much as it likes. -/
def wireEnvironment : Environment serveCommands Wire := fun wire op reply after =>
  match op, reply with
  | .read _ size, .bytes chunk => chunk ≠ [] ∧ chunk.length ≤ size ∧ wire.unread = chunk ++ after.unread ∧
      after.dispatched = wire.dispatched
  | .read _ _, .wouldBlock => after = wire
  | .read _ _, _ => False
  | .write _ bytes, .wrote count => 0 < count ∧ count ≤ bytes.length ∧ after = wire
  | .write _ _, .wouldBlock => after = wire
  | .write _ _, .error _ => False
  | .dispatch _ request _, _ => after = { wire with dispatched := wire.dispatched ++ [request] }
  | _, _ => after = wire

/-- Every step comes before the deadline of the client. -/
def inTime : (op : ServeOp) → op.Reply → Bool
  | .deadlineClock client, now => decide (now < client.deadline)
  | _, _ => true

/-- The response can be sent. -/
def fits : Except String (List UInt8) → Bool
  | .ok bytes => decide (bytes.length ≤ maxResponseBytes)
  | .error _ => false

/-- Nothing arrives while a worker is pending, no read takes the buffer over its limit,
and every request gets a response that can be sent. -/
def orderly : (op : ServeOp) → op.Reply → Bool
  | .read client _, .bytes chunk => client.pending.isNone && decide (client.input.length + chunk.length ≤ maxRequestBytes)
  | .dispatch _ _ _, (.immediate frames, _) => fits frames
  | .tryRecv _, .response frames => fits frames
  | .tryRecv _, .disconnected => false
  | op, reply => inTime op reply

def timelyWire : Environment serveCommands Wire := wireEnvironment.meeting fun _ op reply => inTime op reply = true

def orderlyWire : Environment serveCommands Wire := wireEnvironment.meeting fun _ op reply => orderly op reply = true

/-- The client, as long as it is kept. -/
abbrev ClientPhase : Type := Option (ServeState × Client)

def kept : ServeState × Except String (Option Client) → ClientPhase
  | (serve, .ok (some client)) => some (serve, client)
  | (_, _) => none

def clientTurn (serve : ServeState) (client : Client) : ServeProgram ClientPhase := do
  let stepped ← client.step ioTimeout serve
  return kept stepped

/-- The loop steps one client over and over. -/
def clientSession (env : Environment serveCommands Wire) : Session serveCommands Wire ClientPhase where
  env := env
  outside := fun _ _ => False
  start := fun phase wire after p =>
    ∃ serve client, phase = some (serve, client) ∧ after = wire ∧ p = clientTurn serve client
  abandon := fun _ _ _ => False

/-- A client that was just accepted and sends these requests. -/
def Connects (requests : List String) (phase : ClientPhase) (wire : Wire) : Prop :=
  wire = ⟨requests.flatMap frame, []⟩ ∧
    ∃ serve client, phase = some (serve, client) ∧ client.input = [] ∧ client.output = [] ∧ client.pending = none

/-! ### What a step keeps -/

/-- Every request is dispatched, or among the bytes in the buffer and those not read yet. -/
structure Framed (requests : List String) (input : List UInt8) (wire : Wire) : Prop where
  left : ∃ left, requests = wire.dispatched ++ left ∧ input ++ wire.unread = left.flatMap frame
  bounded : input.length ≤ maxRequestBytes

/-- Requests are dispatched in their order, and each one only when no worker is pending and no response is queued. -/
def InTurn (requests : List String) (wire : Wire) (op : ServeOp) : Prop :=
  wire.dispatched <+: requests ∧ ∀ client request control, op = .dispatch client request control →
    client.pending = none ∧ client.output = []

/-- The client is kept. -/
def KeepsFrames (requests : List String) (stepped : Except String (Option Client)) (wire : Wire) : Prop :=
  ∃ client, stepped = .ok (some client) ∧ Framed requests client.input wire

section Steps

variable {requests : List String} {wire : Wire} {client : Client}

theorem Framed.isPrefix {input : List UInt8} (framed : Framed requests input wire) : wire.dispatched <+: requests := by
  obtain ⟨left, whole, -⟩ := framed.left
  exact ⟨left, whole.symm⟩

theorem inTurn_other {op : ServeOp} (before : wire.dispatched <+: requests)
    (other : ∀ client request control, op ≠ .dispatch client request control) : InTurn requests wire op := by
  refine ⟨before, ?_⟩
  intro client request control same
  exact absurd same (other client request control)

theorem clock_frames {post : Nat → Wire → Prop} (before : wire.dispatched <+: requests) (rest : ∀ now, post now wire) :
    Ensures orderlyWire (InTurn requests) (serveCall .clock) post wire := by
  refine ⟨inTurn_other before (by simp), ?_⟩
  intro now after answered
  obtain ⟨-, same⟩ := answered
  cases same
  exact rest now

theorem answer_frames {timeout : Nat} {frames : Except String (List UInt8)} (before : wire.dispatched <+: requests)
    (sendable : fits frames = true) :
    Ensures orderlyWire (InTurn requests) (client.answer timeout frames)
      (fun answered after => after = wire ∧ ∃ answered', answered = .ok answered' ∧ answered'.input = client.input) wire := by
  cases frames with
  | error error => cases sendable
  | ok bytes =>
    have short : bytes.length ≤ maxResponseBytes := of_decide_eq_true sendable
    unfold Client.answer
    dsimp only
    rw [if_neg (by omega), Ensures.bind_iff]
    apply clock_frames before
    intro now
    exact ⟨rfl, _, rfl, rfl⟩

theorem collect_frames {timeout : Nat} {worker : Worker} (framed : Framed requests client.input wire) :
    Ensures orderlyWire (InTurn requests) (client.collect timeout worker) (KeepsFrames requests) wire := by
  refine Ensures.bind_iff.mpr ⟨inTurn_other framed.isPrefix (by simp), ?_⟩
  intro received after answered
  obtain ⟨orderly, same⟩ := answered
  cases same
  cases received with
  | response frames =>
    apply Ensures.bind_iff.mpr
    apply (answer_frames framed.isPrefix orderly).mono
    intro answered after holds
    obtain ⟨rfl, client', rfl, same⟩ := holds
    exact ⟨client', rfl, same ▸ framed⟩
  | empty => exact ⟨client, rfl, framed⟩
  | disconnected => cases orderly

theorem stepPending_frames {timeout : Nat} {worker : Worker} (pending : client.pending = some worker)
    (framed : Framed requests client.input wire) :
    Ensures orderlyWire (InTurn requests) (client.stepPending timeout worker)
      (KeepsFrames requests) wire := by
  refine Ensures.bind_iff.mpr ⟨inTurn_other framed.isPrefix (by simp), ?_⟩
  intro result after answered
  obtain ⟨orderly, happened⟩ := answered
  cases result with
  | eof => cases happened
  | error error => cases happened
  | bytes chunk =>
    simp [Wgd.Daemon.orderly, pending] at orderly
  | wouldBlock =>
    cases happened
    exact collect_frames framed

theorem request_frames {timeout stop : Nat} {serve : ServeState}
    (lines : ∀ request ∈ requests, newline ∉ lineBytes request) (pending : client.pending = none)
    (empty : client.output = []) (framed : Framed requests client.input wire)
    (found : client.input.findIdx? (· == 10) = some stop) :
    Ensures orderlyWire (InTurn requests) (client.request timeout serve stop)
      (fun result after => KeepsFrames requests result.2 after ∧
        after.dispatched.length = wire.dispatched.length + 1) wire := by
  obtain ⟨⟨left, whole, all⟩, bounded⟩ := framed
  have later : ∀ request ∈ left, newline ∉ lineBytes request := by
    intro request member
    exact lines request (whole ▸ List.mem_append_right _ member)
  obtain ⟨request, rest, rfl, line, others⟩ := first_line later all found
  have dispatched : Framed requests (client.input.drop (stop + 1))
      { wire with dispatched := wire.dispatched ++ [request] } := by
    refine ⟨⟨rest, by simpa using whole, others⟩, ?_⟩
    rw [List.length_drop]
    omega
  unfold Client.request
  rw [line, fromUTF8?_lineBytes]
  refine Ensures.bind_iff.mpr ⟨⟨⟨_, whole.symm⟩, ?_⟩, ?_⟩
  · intro other text control same
    cases same
    exact ⟨pending, empty⟩
  · intro reply after answered
    obtain ⟨orderly, same⟩ := answered
    obtain ⟨outcome, control⟩ := reply
    cases same
    apply Ensures.bind_iff.mpr
    apply clock_frames dispatched.isPrefix
    intro lastActivity
    cases outcome with
    | immediate frames =>
      apply Ensures.bind_iff.mpr
      apply (answer_frames dispatched.isPrefix orderly).mono
      intro answered after holds
      obtain ⟨rfl, client', rfl, same⟩ := holds
      exact ⟨⟨_, rfl, same ▸ dispatched⟩, by simp⟩
    | pending worker =>
      apply Ensures.bind_iff.mpr
      apply clock_frames dispatched.isPrefix
      intro now
      exact ⟨⟨_, rfl, dispatched⟩, by simp⟩

/-- What reading leaves: every frame is kept, and the first whole one is dispatched. -/
theorem receive_frames {timeout : Nat} {serve : ServeState} {chunk : List UInt8}
    (lines : ∀ request ∈ requests, newline ∉ lineBytes request) (pending : client.pending = none)
    (empty : client.output = []) (framed : Framed requests (client.input ++ chunk) wire) :
    Ensures orderlyWire (InTurn requests) (client.receive timeout serve chunk)
      (fun result after => KeepsFrames requests result.2 after ∧ (newline ∈ client.input ++ chunk →
        after.dispatched.length = wire.dispatched.length + 1)) wire := by
  unfold Client.receive
  dsimp only
  rw [if_neg (by have bounded := framed.bounded; omega)]
  split
  next stop found =>
    have served := @request_frames requests wire { client with input := client.input ++ chunk } timeout stop serve lines
      pending empty framed found
    apply served.mono
    intro result after holds
    exact ⟨holds.1, fun _ => holds.2⟩
  next found =>
    refine ⟨⟨_, rfl, framed⟩, ?_⟩
    intro member
    rw [List.findIdx?_eq_none_iff] at found
    have other := found newline member
    simp [newline] at other

theorem stepRequest_frames {timeout : Nat} {serve : ServeState}
    (lines : ∀ request ∈ requests, newline ∉ lineBytes request) (pending : client.pending = none)
    (empty : client.output = []) (framed : Framed requests client.input wire) :
    Ensures orderlyWire (InTurn requests) (client.stepRequest timeout serve)
      (fun result after => KeepsFrames requests result.2 after ∧ (newline ∈ client.input →
        after.dispatched.length = wire.dispatched.length + 1)) wire := by
  refine Ensures.bind_iff.mpr ⟨inTurn_other framed.isPrefix (by simp), ?_⟩
  intro result after answered
  obtain ⟨orderly, happened⟩ := answered
  cases result with
  | eof => cases happened
  | error error => cases happened
  | bytes chunk =>
    obtain ⟨-, -, arrived, same⟩ := happened
    have framed' : Framed requests (client.input ++ chunk) after := by
      obtain ⟨⟨left, whole, all⟩, -⟩ := framed
      refine ⟨⟨left, same ▸ whole, ?_⟩, ?_⟩
      · rw [List.append_assoc, ← arrived, all]
      · rw [List.length_append]
        simp only [Wgd.Daemon.orderly, Bool.and_eq_true, decide_eq_true_eq] at orderly
        exact orderly.2
    apply (receive_frames lines pending empty framed').mono
    intro result final holds
    refine ⟨holds.1, ?_⟩
    intro member
    rw [← same]
    exact holds.2 (List.mem_append_left _ member)
  | wouldBlock =>
    cases happened
    have framed' : Framed requests (client.input ++ []) wire := by rwa [List.append_nil]
    apply (receive_frames lines pending empty framed').mono
    intro result final holds
    rwa [List.append_nil] at holds

theorem sent_frames {timeout : Nat} (framed : Framed requests client.input wire) :
    Ensures orderlyWire (InTurn requests) (client.sent timeout)
      (fun stepped after => KeepsFrames requests stepped after ∧ after.dispatched = wire.dispatched) wire := by
  unfold Client.sent
  split
  · apply Ensures.bind_iff.mpr
    apply clock_frames framed.isPrefix
    intro now
    exact ⟨⟨_, rfl, framed⟩, rfl⟩
  · exact ⟨⟨_, rfl, framed⟩, rfl⟩

theorem flush_frames {timeout : Nat} (framed : Framed requests client.input wire) :
    Ensures orderlyWire (InTurn requests) (client.flush timeout)
      (fun stepped after => KeepsFrames requests stepped after ∧ after.dispatched = wire.dispatched) wire := by
  unfold Client.flush
  split
  · exact ⟨⟨_, rfl, framed⟩, rfl⟩
  · refine Ensures.bind_iff.mpr ⟨inTurn_other framed.isPrefix (by simp), ?_⟩
    intro result after answered
    obtain ⟨-, happened⟩ := answered
    cases result with
    | error error => cases happened
    | wouldBlock =>
      cases happened
      exact sent_frames framed
    | wrote count =>
      obtain ⟨some', -, same⟩ := happened
      cases same
      cases count with
      | zero => omega
      | succ count =>
        exact @sent_frames requests wire { client with written := client.written + (count + 1) } timeout framed

theorem work_frames {timeout : Nat} {serve : ServeState} (lines : ∀ request ∈ requests, newline ∉ lineBytes request)
    (framed : Framed requests client.input wire) :
    Ensures orderlyWire (InTurn requests) (client.work timeout serve)
      (fun result after => KeepsFrames requests result.2 after ∧
        (client.pending = none → client.output = [] → newline ∈ client.input →
          after.dispatched.length = wire.dispatched.length + 1)) wire := by
  unfold Client.work
  split
  next worker pending =>
    apply Ensures.bind_iff.mpr
    apply (stepPending_frames pending framed).mono
    intro worked after holds
    refine ⟨holds, ?_⟩
    intro idle
    rw [pending] at idle
    cases idle
  next pending =>
    split
    next empty =>
      apply (stepRequest_frames lines pending (List.isEmpty_iff.mp empty) framed).mono
      intro result after holds
      exact ⟨holds.1, fun _ _ => holds.2⟩
    next queued =>
      refine ⟨⟨_, rfl, framed⟩, ?_⟩
      intro _ empty
      exact absurd (List.isEmpty_iff.mpr empty) queued

/-- One step keeps the client and every frame, and dispatches one if there is a whole one and its turn. -/
theorem step_frames {timeout : Nat} {serve : ServeState} (lines : ∀ request ∈ requests, newline ∉ lineBytes request)
    (framed : Framed requests client.input wire) :
    Ensures orderlyWire (InTurn requests) (client.step timeout serve)
      (fun result after => KeepsFrames requests result.2 after ∧
        (client.pending = none → client.output = [] → newline ∈ client.input →
          after.dispatched.length = wire.dispatched.length + 1)) wire := by
  refine Ensures.bind_iff.mpr ⟨inTurn_other framed.isPrefix (by simp), ?_⟩
  intro now after answered
  obtain ⟨early, same⟩ := answered
  cases same
  rw [Ensures.done_iff, if_pos (of_decide_eq_true early), Ensures.bind_iff]
  apply (work_frames lines framed).mono
  intro result after holds
  obtain ⟨serve, worked⟩ := result
  obtain ⟨⟨client', rfl, framed'⟩, dispatches⟩ := holds
  apply Ensures.bind_iff.mpr
  apply (flush_frames framed').mono
  intro stepped final sent
  refine ⟨sent.1, ?_⟩
  intro idle empty whole
  rw [sent.2]
  exact dispatches idle empty whole

end Steps

/-! ### Whole streams -/

/-- Between two steps the client is still there, with all of its frames. -/
def Streaming (requests : List String) (phase : ClientPhase) (wire : Wire) : Prop :=
  ∃ serve client, phase = some (serve, client) ∧ Framed requests client.input wire

theorem Connects.streaming {requests : List String} {phase : ClientPhase} {wire : Wire}
    (connects : Connects requests phase wire) : Streaming requests phase wire := by
  obtain ⟨rfl, serve, client, rfl, fresh, -, -⟩ := connects
  exact ⟨serve, client, rfl, ⟨requests, rfl, by rw [fresh, List.nil_append]⟩, by simp [fresh]⟩

theorem client_obeys {requests : List String} (lines : ∀ request ∈ requests, newline ∉ lineBytes request) :
    (clientSession orderlyWire).Obeys (InTurn requests) (Streaming requests) := by
  constructor
  · intro phase wire after p streaming started
    obtain ⟨serve, client, rfl, framed⟩ := streaming
    obtain ⟨serve', client', same, rfl, rfl⟩ := started
    cases same
    have alone : ∀ s op reply after, (orderlyWire.after fun _ _ => False) s op reply after →
        orderlyWire s op reply after := by
      intro s op reply after answered
      obtain ⟨changed, changes, answered⟩ := answered
      cases changes with
      | refl => exact answered
      | tail _ change => cases change
    apply Ensures.narrower alone
    apply Ensures.bind_iff.mpr
    apply (step_frames lines framed).mono
    intro result after holds
    obtain ⟨serve, stepped⟩ := result
    obtain ⟨⟨client', rfl, framed'⟩, -⟩ := holds
    exact ⟨serve, client', rfl, framed'⟩
  · intro _ _ _ _ changed
    cases changed
  · intro _ _ _ died
    cases died

/-- The stream of a client is cut into its requests, whatever the reads and the workers: as long as
nothing arrives while a worker is pending, no read takes the buffer over its limit, and every request
gets a response that can be sent, the requests are dispatched in their order, each in its turn, the
client is kept, and once the stream is read every turn of the client dispatches the next one. -/
theorem orderly_stream_framed {requests : List String} {wire : Wire} {p : ServeProgram ClientPhase}
    (lines : ∀ request ∈ requests, newline ∉ lineBytes request)
    (reached : (clientSession orderlyWire).Reachable (Connects requests) (wire, p)) :
    wire.dispatched <+: requests ∧
    (∀ client request control, p.upcoming = some (.dispatch client request control) →
      client.pending = none ∧ client.output = []) ∧
    (∀ phase, p = .done phase → ∃ serve client, phase = some (serve, client) ∧
      (∃ left, requests = wire.dispatched ++ left ∧ client.input ++ wire.unread = left.flatMap frame) ∧
      (client.pending = none → client.output = [] → wire.unread = [] → wire.dispatched ≠ requests →
        ∀ result after, Completes orderlyWire (client.step ioTimeout serve) wire result after →
          after.dispatched = requests.take (wire.dispatched.length + 1))) := by
  have obeys := client_obeys lines
  have starts : ∀ phase wire, Connects requests phase wire → Streaming requests phase wire :=
    fun _ _ connects => connects.streaming
  have alone : ∀ {earlier later : Wire}, Relation.ReflTransGen (fun _ _ => False) earlier later → earlier = later := by
    intro earlier later changes
    cases changes with
    | refl => rfl
    | tail _ change => cases change
  refine ⟨?_, ?_, ?_⟩
  · cases p with
    | done phase =>
      obtain ⟨serve, client, rfl, framed⟩ := obeys.rest starts reached
      exact framed.isPrefix
    | call op next =>
      obtain ⟨earlier, changes, inTurn⟩ := obeys.upcoming starts reached rfl
      exact alone changes ▸ inTurn.1
  · intro client request control next
    obtain ⟨earlier, changes, inTurn⟩ := obeys.upcoming starts reached next
    exact inTurn.2 client request control rfl
  · intro phase same
    rw [same] at reached
    obtain ⟨serve, client, rfl, framed⟩ := obeys.rest starts reached
    refine ⟨serve, client, rfl, framed.left, ?_⟩
    intro idle empty exhausted more result after ran
    obtain ⟨left, whole, all⟩ := framed.left
    have complete : newline ∈ client.input := by
      rw [exhausted, List.append_nil] at all
      cases left with
      | nil => exact absurd (by rw [whole, List.append_nil]) more
      | cons request rest =>
        rw [all]
        simp [frame]
    obtain ⟨⟨client', -, framed'⟩, dispatches⟩ := (step_frames lines framed).completes ran
    rw [← dispatches idle empty complete]
    exact List.prefix_iff_eq_take.mp framed'.isPrefix

/-- Requests arrive one line at a time; with `eager` the next line begins to arrive while a worker is pending. -/
def arrivals (eager : Bool) (client : Client) (unread : List UInt8) : Nat :=
  if client.pending.isSome then eager.toNat else (unread.takeWhile (· != newline)).length + 1

/-- The first request is left to a worker, which answers before the next step. -/
def typing (eager : Bool) : Handler serveCommands Wire := fun wire op => match op with
  | .read client size =>
    let count := min size (arrivals eager client wire.unread)
    let chunk := wire.unread.take count
    if chunk = [] then (.wouldBlock, wire) else (.bytes chunk, { wire with unread := wire.unread.drop count })
  | .write _ bytes => (if bytes = [] then .wouldBlock else .wrote bytes.length, wire)
  | .dispatch _ request control =>
    let outcome := if wire.dispatched = [] then RequestOutcome.pending 0 else .immediate (.ok [newline])
    ((outcome, control), { wire with dispatched := wire.dispatched ++ [request] })
  | .deadlineClock client => (client.deadline - 1, wire)
  | .tryRecv _ => (.response (.ok [newline]), wire)
  | .accept => (.wouldBlock, wire)
  | .newClient => (.error "no client", wire)
  | .clock | .backgroundWork | .resident => ((0 : Nat), wire)
  | .leaseTokenIsLive _ => (false, wire)
  | .waitForIo _ => ((), wire)

theorem typing_faithful (eager : Bool) : (typing eager).Faithful id wireEnvironment := by
  intro wire op
  cases op with
  | read client size =>
    simp only [typing]
    split
    next => rfl
    next some' =>
      refine ⟨some', ?_, (List.take_append_drop _ _).symm, rfl⟩
      rw [List.length_take]
      omega
  | write client bytes =>
    simp only [typing]
    split
    next => rfl
    next some' => exact ⟨List.length_pos_iff.mpr some', Nat.le_refl _, rfl⟩
  | dispatch client request control => rfl
  | deadlineClock client => rfl
  | tryRecv worker => rfl
  | accept => rfl
  | newClient => rfl
  | clock => rfl
  | backgroundWork => rfl
  | resident => rfl
  | leaseTokenIsLive token => rfl
  | waitForIo clients => rfl

/-- So many turns of the client, and whether all of their commands meet a condition. -/
def typed (eager : Bool) (check : (op : ServeOp) → op.Reply → Bool) : Nat → ClientPhase × Wire → ClientPhase × Wire × Bool
  | turns + 1, (some (serve, client), wire) =>
    let (phase, wire', met) := typed eager check turns (interpret (typing eager) (clientTurn serve client) wire)
    (phase, wire', meets (typing eager) (fun _ op reply => check op reply) (clientTurn serve client) wire && met)
  | _, (phase, wire) => (phase, wire, true)

theorem typed_reachable {eager : Bool} {check : (op : ServeOp) → op.Reply → Bool} {requests : List String} (turns : Nat)
    {phase : ClientPhase} {wire : Wire}
    (reached : (clientSession (wireEnvironment.meeting fun _ op reply => check op reply = true)).Reachable
      (Connects requests) (wire, .done phase))
    (met : (typed eager check turns (phase, wire)).2.2 = true) :
    (clientSession (wireEnvironment.meeting fun _ op reply => check op reply = true)).Reachable (Connects requests)
      ((typed eager check turns (phase, wire)).2.1, .done (typed eager check turns (phase, wire)).1) := by
  induction turns generalizing phase wire with
  | zero => exact reached
  | succ turns ih =>
    cases phase with
    | none => exact reached
    | some open' =>
      obtain ⟨serve, client⟩ := open'
      obtain ⟨here, later⟩ := Bool.and_eq_true_iff.mp met
      have ran := interpret_meets (fun (_ : Wire) (op : serveCommands.Op) reply => check op reply = true)
        (fun _ op reply => check op reply) (typing_faithful eager) (fun _ _ _ holds => holds) here
      exact ih (reached.program ⟨serve, client, rfl, rfl, rfl⟩ ran) later

def accepted : ClientPhase := some (⟨⟨[], true, false⟩, 0⟩, ⟨501, 20, [], [], 0, 10000, none⟩)

def twoRequests : List String := ["connect", "status"]

def sentTwo : Wire := ⟨twoRequests.flatMap frame, []⟩

theorem accepted_connects : Connects twoRequests accepted sentTwo := ⟨rfl, _, _, rfl, rfl, rfl, rfl⟩

theorem orderly_stream_framed_two :
    ∃ wire p, (clientSession orderlyWire).Reachable (Connects twoRequests) (wire, p) ∧
      wire.dispatched = twoRequests ∧ wire.dispatched <+: twoRequests := by
  have met : (typed false orderly 3 (accepted, sentTwo)).2.2 = true := by decide +kernel
  have reached := typed_reachable 3 (.begin accepted_connects) met
  exact ⟨_, _, reached, by decide +kernel, (orderly_stream_framed (by decide +kernel) reached).1⟩

/-- The probe for a hang-up takes the first byte of a request that arrives while a worker is pending. -/
theorem probe_eats_request :
    ¬ ∀ requests wire p, (∀ request ∈ requests, newline ∉ lineBytes request ∧ (frame request).length ≤ maxRequestBytes) →
      (clientSession timelyWire).Reachable (Connects requests) (wire, p) → wire.dispatched <+: requests := by
  intro framed
  have met : (typed true inTime 3 (accepted, sentTwo)).2.2 = true := by decide +kernel
  have reached := typed_reachable 3 (.begin accepted_connects) met
  have wrong := framed twoRequests _ _ (by decide +kernel) reached
  exact absurd wrong (by decide +kernel)

end Wgd.Daemon
