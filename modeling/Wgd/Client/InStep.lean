import Wgd.Client.Session

/-! A session stays in step with its server: no request goes out on a transport on which an
earlier one has no answer yet. The errors that are not recognised break this. -/

set_option autoImplicit false

namespace Wgd.Client

open Wgd.Interaction Wgd.Net Wgd.Store

def isLeaseAcquire : PrivilegedRequest → Bool
  | .leaseAcquire _ => true
  | _ => false

/-- A lease is what was asked for last on the transport. -/
def Exchanges.acquires (exchanges : Exchanges) (transport : CommandSessionTransport) : Bool :=
  (exchanges.sent transport.handle).getLast?.any isLeaseAcquire

/-- The failures that the session recognises: those of a call on the transport, while it
does not ask for a lease. The stream may not end, and every line is a frame or blank. -/
def recognised (decode : List Char → Except String Frame) (exchanges : Exchanges) :
    (op : SessionOp) → op.Reply → Bool
  | .serialize _ _, .error _ => false
  | .writeAll transport _, .error _ | .flush transport, .error _ | .readLine transport, .error _ =>
    !exchanges.acquires transport
  | .readLine _, .ok line => match framedResponse decode (.ok line) with
    | some (.error _) => false
    | _ => true
  | _, _ => true

def recognisedTransports (decode : List Char → Except String Frame)
    (answers : PrivilegedRequest → PrivilegedResponse → Prop) : Environment sessionCommands Exchanges :=
  (transports decode answers).meeting fun exchanges op reply => recognised decode exchanges op reply = true

/-- A request begins only where every earlier one on its transport has been answered. -/
def BeginsInStep (exchanges : Exchanges) : SessionOp → Prop
  | .serialize transport _ => exchanges.InStep transport
  | _ => True

/-- What a caller gets is the server's answer to its own request. Otherwise it is an error, of
a transport that was given up or from the server's answer about the lease. -/
def Handed (answers : PrivilegedRequest → PrivilegedResponse → Prop) (state : CommandSessionState)
    (request : PrivilegedRequest) (result : Except AppError PrivilegedResponse) : Prop :=
  (∃ response, answers request response ∧ result = mapPrivilegedError response) ∨
    ∃ error, result = .error error ∧ (state.transport = none ∨
      ∃ token response, answers (.leaseAcquire token) response ∧ mapPrivilegedError response = .error error)

/-- The request is out and has no answer yet, as the only one on the transport. -/
structure Waits (exchanges : Exchanges) (transport : CommandSessionTransport) (request : PrivilegedRequest) : Prop where
  last : ∃ earlier, exchanges.sent transport.handle = earlier ++ [request] ∧
    exchanges.taken transport.handle = earlier.length
  opened : transport.handle < exchanges.opened

/-- Nothing has gone over a transport that is not open yet. -/
def Unopened (exchanges : Exchanges) : Prop :=
  ∀ handle, exchanges.opened ≤ handle → exchanges.sent handle = [] ∧ exchanges.taken handle = 0

/-- The session's transport, if there is one, is open and in step. -/
def Ready (state : CommandSessionState) (exchanges : Exchanges) : Prop :=
  Unopened exchanges ∧ ∀ transport, state.transport = some transport →
    transport.handle < exchanges.opened ∧ exchanges.InStep transport

def BetweenTurns (answers : PrivilegedRequest → PrivilegedResponse → Prop) : SessionPhase → Exchanges → Prop
  | .idle state last, exchanges => Ready state exchanges ∧
      ∀ request result, last = some (request, result) → Handed answers state request result
  | .acquiring _ state transport token _, exchanges => Unopened exchanges ∧ state.transport = some transport ∧
      Waits exchanges transport (.leaseAcquire token)
  | .reading state transport request, exchanges => Unopened exchanges ∧ state.transport = some transport ∧
      Waits exchanges transport request

variable {decode : List Char → Except String Frame} {answers : PrivilegedRequest → PrivilegedResponse → Prop}
  {exchanges : Exchanges} {state : CommandSessionState} {transport : CommandSessionTransport}
  {request : PrivilegedRequest}

/-! ### What is recognised -/

theorem startsWith_append {start text rest : String} (same : text = start ++ rest) : startsWith start text = true := by
  rw [startsWith, same, String.toList_append, List.isPrefixOf_iff_prefix]
  exact List.prefix_append _ _

/-- The steps of writing a request whose failure is told as one of the transport. -/
def WritingStep (step : String) : Prop :=
  ∃ start ∈ ["write request:", "write request delimiter:", "flush request:", "write request stdin:",
    "write request delimiter stdin:", "flush request stdin:"], step ++ ": " = start ++ " "

theorem writing_isTransportError {step : String} (writing : WritingStep step) (error : String) :
    isTransportError (.other s!"{step}: {error}") = true := by
  obtain ⟨start, listed, same⟩ := writing
  have text : toString step ++ toString ": " ++ toString error = start ++ (" " ++ error) := by
    rw [← String.append_assoc, ← same]
    rfl
  have starts := startsWith_append text
  simp only [List.mem_cons, List.not_mem_nil, or_false] at listed
  rcases listed with rfl | rfl | rfl | rfl | rfl | rfl <;> simp [isTransportError, starts]

theorem read_isTransportError (error : String) : isTransportError (.other s!"read response: {error}") = true := by
  have text : toString "read response: " ++ toString error = "read response:" ++ (" " ++ error) := by
    rw [← String.append_assoc]
    rfl
  simp [isTransportError, startsWith_append text]

/-! ### One request goes out -/

theorem Exchanges.send_sent (exchanges : Exchanges) (handle : Nat) (request : PrivilegedRequest) :
    (exchanges.send handle request).sent handle = exchanges.sent handle ++ [request] := Function.update_self _ _ _

theorem Exchanges.take_taken (exchanges : Exchanges) (handle : Nat) :
    (exchanges.take handle).taken handle = exchanges.taken handle + 1 := Function.update_self _ _ _

theorem Waits.acquires (waits : Waits exchanges transport request) :
    exchanges.acquires transport = isLeaseAcquire request := by
  obtain ⟨earlier, sent, -⟩ := waits.last
  simp [Exchanges.acquires, sent]

theorem Unopened.send (unopened : Unopened exchanges) (opened : transport.handle < exchanges.opened) :
    Unopened (exchanges.send transport.handle request) := by
  intro handle beyond
  have other : handle ≠ transport.handle := by
    intro same
    rw [same] at beyond
    exact absurd opened (Nat.not_lt.mpr beyond)
  dsimp only [Exchanges.send]
  rw [Function.update_of_ne other]
  exact unopened handle beyond

theorem Unopened.take (unopened : Unopened exchanges) (opened : transport.handle < exchanges.opened) :
    Unopened (exchanges.take transport.handle) := by
  intro handle beyond
  have other : handle ≠ transport.handle := by
    intro same
    rw [same] at beyond
    exact absurd opened (Nat.not_lt.mpr beyond)
  dsimp only [Exchanges.take]
  rw [Function.update_of_ne other]
  exact unopened handle beyond

/-- A call on the transport changes nothing, and unless a lease is asked for its failure is recognised. -/
def Quiet (exchanges : Exchanges) (transport : CommandSessionTransport) (outcome : Except AppError Unit)
    (after : Exchanges) : Prop :=
  after = exchanges ∧ ∀ error, outcome = .error error →
    isTransportError error = true ∧ exchanges.acquires transport = false

theorem calling_quiet {step : String} {p : SessionProgram (Except String Unit)} (writing : WritingStep step)
    (call : Ensures (recognisedTransports decode answers) BeginsInStep p (fun outcome after => after = exchanges ∧
      ∀ error, outcome = .error error → exchanges.acquires transport = false) exchanges) :
    Ensures (recognisedTransports decode answers) BeginsInStep (calling step p) (Quiet exchanges transport) exchanges := by
  rw [calling, Ensures.bind_iff]
  apply call.mono
  intro outcome after called
  refine ⟨called.1, ?_⟩
  intro error failed
  cases outcome with
  | ok value => cases failed
  | error text =>
    cases failed
    exact ⟨writing_isTransportError writing text, called.2 text rfl⟩

theorem writeAll_quiet {step : String} (writing : WritingStep step) (bytes : List UInt8) :
    Ensures (recognisedTransports decode answers) BeginsInStep (calling step (sessionCall (.writeAll transport bytes)))
      (Quiet exchanges transport) exchanges := by
  apply calling_quiet writing
  refine ⟨trivial, ?_⟩
  intro reply after answered
  refine ⟨answered.2, ?_⟩
  intro error failed
  cases failed
  simpa [recognised] using answered.1

theorem flush_quiet {step : String} (writing : WritingStep step) :
    Ensures (recognisedTransports decode answers) BeginsInStep (calling step (sessionCall (.flush transport)))
      (Quiet exchanges transport) exchanges := by
  apply calling_quiet writing
  refine ⟨trivial, ?_⟩
  intro reply after answered
  refine ⟨answered.2, ?_⟩
  intro error failed
  cases failed
  simpa [recognised] using answered.1

/-- After a request went out it waits, and a failure on the way is recognised. -/
structure Begun (transport : CommandSessionTransport) (request : PrivilegedRequest) (outcome : Except AppError Unit)
    (after : Exchanges) : Prop where
  unopened : Unopened after
  waits : Waits after transport request
  recognised : ∀ error, outcome = .error error → isTransportError error = true ∧ isLeaseAcquire request = false

theorem Quiet.begun {outcome : Except AppError Unit} {after : Exchanges} (quiet : Quiet exchanges transport outcome after)
    (unopened : Unopened exchanges) (waits : Waits exchanges transport request) : Begun transport request outcome after := by
  obtain ⟨rfl, recognised⟩ := quiet
  refine ⟨unopened, waits, ?_⟩
  intro error failed
  rw [← waits.acquires]
  exact recognised error failed

theorem writeRequest_begins {place : String} (request : PrivilegedRequest)
    (steps : WritingStep s!"write request{place}" ∧ WritingStep s!"write request delimiter{place}" ∧
      WritingStep s!"flush request{place}")
    (unopened : Unopened exchanges) (opened : transport.handle < exchanges.opened) (inStep : exchanges.InStep transport) :
    Ensures (recognisedTransports decode answers) BeginsInStep (writeRequest place transport request)
      (Begun transport request) exchanges := by
  have unopened' : Unopened (exchanges.send transport.handle request) := unopened.send opened
  have waits : Waits (exchanges.send transport.handle request) transport request :=
    ⟨⟨_, exchanges.send_sent _ _, inStep⟩, opened⟩
  rw [writeRequest, Ensures.attempt_iff, calling, Ensures.bind_iff]
  refine ⟨inStep, ?_⟩
  intro bytes begun answered
  obtain ⟨fine, rfl⟩ := answered
  cases bytes with
  | error error => cases fine
  | ok bytes =>
    simp only [Except.mapError, Program.pure_eq, Ensures.done_iff]
    rw [Ensures.attempt_iff]
    apply (writeAll_quiet steps.1 bytes).mono
    intro outcome written quiet
    cases outcome with
    | error error => exact quiet.begun unopened' waits
    | ok value =>
      rw [quiet.1]
      dsimp only
      rw [Ensures.attempt_iff]
      apply (writeAll_quiet steps.2.1 _).mono
      intro outcome delimited quiet
      cases outcome with
      | error error => exact quiet.begun unopened' waits
      | ok value =>
        rw [quiet.1]
        apply (flush_quiet steps.2.2).mono
        intro outcome after quiet
        exact quiet.begun unopened' waits

theorem writing_steps (kind : PrivilegedTransport) : let place := match kind with
      | .socket => ""
      | .stdio => " stdin"
    WritingStep s!"write request{place}" ∧ WritingStep s!"write request delimiter{place}" ∧
      WritingStep s!"flush request{place}" := by
  cases kind with
  | socket =>
    exact ⟨⟨"write request:", by simp, by decide⟩, ⟨"write request delimiter:", by simp, by decide⟩,
      ⟨"flush request:", by simp, by decide⟩⟩
  | stdio =>
    exact ⟨⟨"write request stdin:", by simp, by decide⟩, ⟨"write request delimiter stdin:", by simp, by decide⟩,
      ⟨"flush request stdin:", by simp, by decide⟩⟩

theorem sendOnTransport_begins (request : PrivilegedRequest) (unopened : Unopened exchanges)
    (opened : transport.handle < exchanges.opened) (inStep : exchanges.InStep transport) :
    Ensures (recognisedTransports decode answers) BeginsInStep (sendOnTransport transport request)
      (Begun transport request) exchanges := by
  have steps := writing_steps transport.kind
  rw [sendOnTransport]
  cases kind : transport.kind with
  | socket =>
    rw [kind] at steps
    exact writeRequest_begins request steps unopened opened inStep
  | stdio =>
    rw [kind] at steps
    exact writeRequest_begins request steps unopened opened inStep

/-! ### The answer -/

/-- The answer is the one that was waited for, or the failure is recognised. -/
def Read (exchanges : Exchanges) (answers : PrivilegedRequest → PrivilegedResponse → Prop)
    (transport : CommandSessionTransport) (request : PrivilegedRequest) :
    Option (Except AppError PrivilegedResponse) → Exchanges → Prop
  | none, after => after = exchanges
  | some (.error error), after => after = exchanges ∧ isTransportError error = true ∧ isLeaseAcquire request = false
  | some (.ok response), after => after = exchanges.take transport.handle ∧ answers request response

theorem readFramedResponse_reads (waits : Waits exchanges transport request) :
    Ensures (recognisedTransports decode answers) BeginsInStep (readFramedResponse decode transport)
      (Read exchanges answers transport request) exchanges := by
  obtain ⟨earlier, sent, taken⟩ := waits.last
  rw [readFramedResponse, Ensures.bind_iff]
  refine ⟨trivial, ?_⟩
  intro line after answered
  obtain ⟨fine, moved⟩ := answered
  cases line with
  | error error =>
    refine ⟨moved, read_isTransportError error, ?_⟩
    rw [← waits.acquires]
    simpa [recognised] using fine
  | ok line =>
    rw [Ensures.done_iff, Program.pure_eq, Ensures.done_iff]
    dsimp only [transports] at moved
    dsimp only [recognised] at fine
    cases outcome : framedResponse decode (.ok line) with
    | none =>
      rw [responseOf, outcome] at moved
      exact moved
    | some result =>
      rw [outcome] at fine
      rw [responseOf, outcome] at moved
      cases result with
      | error error => cases fine
      | ok response =>
        refine ⟨moved.1, moved.2 request ?_⟩
        rw [sent, taken, List.getElem?_append_right (Nat.le_refl _), Nat.sub_self]
        rfl

theorem Waits.taken (waits : Waits exchanges transport request) :
    (exchanges.take transport.handle).InStep transport := by
  obtain ⟨earlier, sent, taken⟩ := waits.last
  rw [Exchanges.InStep, exchanges.take_taken, taken]
  simp [Exchanges.take, sent]

/-! ### The session -/

/-- The session's transport is the one that waits, or there is none, or its failure is recognised. -/
def Sent (request : PrivilegedRequest) :
    CommandSessionState × Except AppError CommandSessionTransport → Exchanges → Prop
  | (state, .ok transport), after => Unopened after ∧ state.transport = some transport ∧ Waits after transport request
  | (state, .error error), after => Unopened after ∧
      (state.transport = none ∨ isTransportError error = true ∧ isLeaseAcquire request = false)

theorem sendOnSessionTransport_sends (client : PrivilegedClient) (request : PrivilegedRequest)
    (ready : Ready state exchanges) :
    Ensures (recognisedTransports decode answers) BeginsInStep (sendOnSessionTransport client state request)
      (Sent request) exchanges := by
  have write : ∀ exchanges : Exchanges, Unopened exchanges → ∀ transport : CommandSessionTransport,
      transport.handle < exchanges.opened → exchanges.InStep transport →
      Ensures (recognisedTransports decode answers) BeginsInStep (do
        let written ← sendOnTransport transport request
        return ({ state with transport := some transport }, written.map fun () => transport))
        (Sent request) exchanges := by
    intro exchanges unopened transport opened inStep
    rw [Ensures.bind_iff]
    apply (sendOnTransport_begins request unopened opened inStep).mono
    intro written after begun
    cases written with
    | ok value => exact ⟨begun.unopened, rfl, begun.waits⟩
    | error error => exact ⟨begun.unopened, .inr (begun.recognised error rfl)⟩
  rw [sendOnSessionTransport]
  cases held : state.transport with
  | some transport =>
    obtain ⟨opened, inStep⟩ := ready.2 transport held
    exact write exchanges ready.1 transport opened inStep
  | none =>
    dsimp only
    rw [openTransport, Ensures.bind_iff, Ensures.bind_iff]
    refine ⟨trivial, ?_⟩
    intro reply after answered
    have moved := answered.2
    cases reply with
    | error error =>
      cases moved
      exact ⟨ready.1, .inl held⟩
    | ok handle =>
      obtain ⟨rfl, rfl⟩ := moved
      obtain ⟨empty, untaken⟩ := ready.1 exchanges.opened (Nat.le_refl _)
      apply write
      · intro handle beyond
        exact ready.1 handle (Nat.le_of_succ_le beyond)
      · exact Nat.lt_succ_self _
      · simp [Exchanges.InStep, empty, untaken]

/-- What is handed out: an answer with the transport in step, or a recognised failure. -/
def Due (answers : PrivilegedRequest → PrivilegedResponse → Prop) (state : CommandSessionState)
    (request : PrivilegedRequest) (result : Except AppError PrivilegedResponse) (exchanges : Exchanges) : Prop :=
  (Ready state exchanges ∧ ∃ response, answers request response ∧ result = mapPrivilegedError response) ∨
    Unopened exchanges ∧ ∃ error, result = .error error ∧ (state.transport = none ∨ isTransportError error = true)

theorem handOut_between {result : Except AppError PrivilegedResponse} (due : Due answers state request result exchanges) :
    Ensures (recognisedTransports decode answers) BeginsInStep (handOut state request result) (BetweenTurns answers)
      exchanges := by
  have unopened : Unopened exchanges := by
    rcases due with ⟨ready, -⟩ | ⟨unopened, -⟩
    · exact ready.1
    · exact unopened
  have without : ∀ state : CommandSessionState, state.transport = none → Ready state exchanges := by
    intro state gone
    refine ⟨unopened, ?_⟩
    intro transport held
    cases gone.symm.trans held
  -- Whichever state is left behind, what is handed out fits it.
  have idle : ∀ left : CommandSessionState, Ready left exchanges → (left.transport = none ∨ left = state) →
      (left = state → ∀ error, result = .error error → isTransportError error = true → state.transport = none) →
      BetweenTurns answers (.idle left (some (request, result))) exchanges := by
    intro left ready which recognised
    refine ⟨ready, ?_⟩
    intro request' result' same
    cases same
    rcases due with ⟨-, answer⟩ | ⟨-, error, failed, gone⟩
    · exact .inl answer
    · refine .inr ⟨error, failed, .inl ?_⟩
      rcases which with none | kept
      · exact none
      · rw [kept]
        exact gone.elim id (recognised kept error failed)
  unfold handOut
  split
  · rename_i error transport held
    by_cases broken : isTransportError error = true
    · rw [if_pos broken, Ensures.bind_iff]
      refine ⟨trivial, ?_⟩
      intro _ after answered
      cases answered.2
      apply idle _ (without _ rfl) (.inl rfl)
      intro same
      rw [← same] at held
      cases held
    · rw [if_neg broken]
      rcases due with ⟨ready, answer⟩ | ⟨-, error', failed, gone | recognised⟩
      · apply idle state ready (.inr rfl)
        intro _ error' failed recognised
        cases failed
        exact absurd recognised broken
      · cases gone.symm.trans held
      · cases failed
        exact absurd recognised broken
  · rename_i apart
    have ready : Ready state exchanges := by
      rcases due with ⟨ready, -⟩ | ⟨-, error, failed, -⟩
      · exact ready
      · apply without
        cases held : state.transport with
        | none => rfl
        | some transport => exact absurd held (apart error transport failed)
    apply idle state ready (.inr rfl)
    intro _ error failed _
    cases held : state.transport with
    | none => rfl
    | some transport => exact absurd held (apart error transport failed)

theorem sendRequest_between (client : PrivilegedClient) (request : PrivilegedRequest) (ready : Ready state exchanges) :
    Ensures (recognisedTransports decode answers) BeginsInStep (sendRequest client state request) (BetweenTurns answers)
      exchanges := by
  rw [sendRequest, Ensures.bind_iff]
  apply (sendOnSessionTransport_sends client request ready).mono
  intro outcome after sent
  obtain ⟨state', outcome⟩ := outcome
  cases outcome with
  | ok transport => exact sent
  | error error =>
    apply handOut_between
    exact .inr ⟨sent.1, error, rfl, sent.2.imp_right And.left⟩

theorem sendWithCommandSession_between (client : PrivilegedClient) (request : PrivilegedRequest)
    (ready : Ready state exchanges) :
    Ensures (recognisedTransports decode answers) BeginsInStep (sendWithCommandSession client state request)
      (BetweenTurns answers) exchanges := by
  rw [sendWithCommandSession]
  split
  · exact sendRequest_between client request ready
  · rw [Ensures.bind_iff]
    refine ⟨trivial, ?_⟩
    intro token built answered
    cases answered.2
    rw [Ensures.done_iff, Ensures.bind_iff]
    apply (sendOnSessionTransport_sends client _ ready).mono
    intro outcome after sent
    obtain ⟨state', outcome⟩ := outcome
    cases outcome with
    | ok transport => exact sent
    | error error =>
      obtain ⟨unopened, gone | ⟨-, other⟩⟩ := sent
      · refine ⟨⟨unopened, ?_⟩, ?_⟩
        · intro transport held
          cases gone.symm.trans held
        · intro request' result same
          cases same
          exact .inr ⟨error, rfl, .inl gone⟩
      · cases other

theorem readTurn_between {phase : SessionPhase} (between : BetweenTurns answers phase exchanges) :
    Ensures (recognisedTransports decode answers) BeginsInStep (readTurn decode phase) (BetweenTurns answers)
      exchanges := by
  cases phase with
  | idle state last => exact between
  | acquiring client state transport token request =>
    obtain ⟨unopened, held, waits⟩ := between
    rw [readTurn, Ensures.bind_iff]
    apply (readFramedResponse_reads waits).mono
    intro outcome after read
    cases outcome with
    | none =>
      cases read
      exact ⟨unopened, held, waits⟩
    | some outcome =>
      cases outcome with
      | error error => cases read.2.2
      | ok response =>
        obtain ⟨rfl, answer⟩ := read
        have ready : ∀ lease, Ready { state with leaseToken := lease } (exchanges.take transport.handle) := by
          intro lease
          refine ⟨unopened.take waits.opened, ?_⟩
          intro other held'
          cases held.symm.trans held'
          exact ⟨waits.opened, waits.taken⟩
        dsimp only [Except.bind]
        cases mapped : mapPrivilegedError response with
        | error error =>
          refine ⟨ready state.leaseToken, ?_⟩
          intro request' result same
          cases same
          exact .inr ⟨error, rfl, .inr ⟨token, response, answer, mapped⟩⟩
        | ok granted => exact sendRequest_between client request (ready (some token))
  | reading state transport request =>
    obtain ⟨unopened, held, waits⟩ := between
    rw [readTurn, Ensures.bind_iff]
    apply (readFramedResponse_reads waits).mono
    intro outcome after read
    cases outcome with
    | none =>
      cases read
      exact ⟨unopened, held, waits⟩
    | some outcome =>
      apply handOut_between
      cases outcome with
      | error error =>
        obtain ⟨rfl, recognised, -⟩ := read
        exact .inr ⟨unopened, error, rfl, .inr recognised⟩
      | ok response =>
        obtain ⟨rfl, answer⟩ := read
        refine .inl ⟨⟨unopened.take waits.opened, ?_⟩, response, answer, rfl⟩
        intro other held'
        cases held.symm.trans held'
        exact ⟨waits.opened, waits.taken⟩

theorem commandSession_obeys (decode : List Char → Except String Frame)
    (answers : PrivilegedRequest → PrivilegedResponse → Prop) :
    (commandSession (recognisedTransports decode answers) decode).Obeys BeginsInStep (BetweenTurns answers) where
  program := by
    intro phase exchanges _ p between started
    obtain ⟨same, begun⟩ := started
    rw [same]
    have ensured : Ensures (recognisedTransports decode answers) BeginsInStep p (BetweenTurns answers) exchanges := by
      rcases begun with ⟨client, state, last, request, rfl, rfl⟩ | rfl
      · exact sendWithCommandSession_between client request between.1
      · exact readTurn_between between
    apply ensured.narrower
    intro before op reply after answered
    obtain ⟨changed, changes, answered⟩ := answered
    cases changes with
    | refl => exact answered
    | tail _ change => exact change.elim
  stable := fun _ _ _ _ changed => changed.elim
  death := fun _ _ _ died => died.elim

/-! ### A server in a script -/

def sampleLine : String := "\x7b\"kind\":\"bool\",\"value\":true\x7d\n"

/-- What `serde_json` makes of the one line the server of the script knows. -/
def sampleDecode (text : List Char) : Except String Frame :=
  if text = trim sampleLine.toList then .ok (.response (.bool true)) else .error "expected value at line 1 column 1"

def sampleAnswers (_request : PrivilegedRequest) (response : PrivilegedResponse) : Prop := response = .bool true

/-- Everything works and the server sends these lines, then it hangs up. -/
def serverScript : Handler sessionCommands (Exchanges × List String) := fun (exchanges, lines) op => match op with
  | .buildLeaseToken => ("lease", exchanges, lines)
  | .openTransport _ => (.ok exchanges.opened, { exchanges with opened := exchanges.opened + 1 }, lines)
  | .serialize transport request => (.ok [], exchanges.send transport.handle request, lines)
  | .writeAll _ _ | .flush _ => (.ok (), exchanges, lines)
  | .readLine transport => match lines with
    | [] => (.ok "", exchanges, [])
    | line :: rest => (.ok line,
        if (responseOf sampleDecode line).isSome then exchanges.take transport.handle else exchanges, rest)
  | .closeTransport _ => ((), exchanges, lines)

theorem framedResponse_sample {line : String} {response : PrivilegedResponse}
    (read : framedResponse sampleDecode (.ok line) = some (.ok response)) : response = .bool true := by
  dsimp only [framedResponse] at read
  split at read
  · cases read
  split at read
  · cases read
  split at read
  · cases read
  · cases read
  · cases read
    rename_i decoded
    rw [sampleDecode] at decoded
    split at decoded
    · cases decoded
      rfl
    · cases decoded

theorem serverScript_faithful : serverScript.Faithful Prod.fst (transports sampleDecode sampleAnswers) := by
  intro script op
  obtain ⟨exchanges, lines⟩ := script
  cases op with
  | openTransport kind => exact ⟨rfl, rfl⟩
  | readLine transport =>
    cases lines with
    | nil => rfl
    | cons line rest =>
      dsimp only [serverScript, transports]
      cases outcome : framedResponse sampleDecode (.ok line) with
      | none => simp [responseOf, outcome]
      | some result =>
        cases result with
        | error error => simp [responseOf, outcome]
        | ok response => simp [responseOf, outcome, sampleAnswers, framedResponse_sample outcome]
  | _ => rfl

def SessionOp.isRead : SessionOp → Bool
  | .readLine _ => true
  | _ => false

def sampleClient : PrivilegedClient := ⟨.socket, .never⟩

def firstRequest : PrivilegedRequest := .interfaceActive "wg-00000000"

def secondRequest : PrivilegedRequest := .interfaceActive "wg-00000001"

def sampleTransport : CommandSessionTransport := ⟨.socket, 0⟩

/-- The first request is on its way. -/
def requested : Exchanges := ⟨1, Function.update (fun _ => []) 0 [firstRequest], fun _ => 0⟩

/-- The first request is on its way, over a transport that may do anything else. -/
theorem requested_reading (env : Environment sessionCommands Exchanges)
    (works : ∀ script op, op.isRead = false → env script.1 op (serverScript script op).1 (serverScript script op).2.1) :
    (commandSession env sampleDecode).Reachable SessionBegins
      (requested, .done (.reading ⟨none, some sampleTransport⟩ sampleTransport firstRequest)) := by
  have start : (commandSession env sampleDecode).Reachable SessionBegins (.none, .done (.idle ⟨none, none⟩ none)) :=
    .begin ⟨rfl, rfl⟩
  have first := interpret_checked (fun _ op _ => !SessionOp.isRead op)
    (fun script op quiet => works script op (by simpa using quiet))
    (show meets serverScript _ (sendWithCommandSession sampleClient ⟨none, none⟩ firstRequest) (Exchanges.none, []) = true
      from rfl)
  exact start.program ⟨rfl, .inl ⟨sampleClient, _, _, firstRequest, rfl, rfl⟩⟩ first

/-- In a session whose failures are all recognised, every request begins on a transport that
is in step, and every caller gets the answer to its own request or learns that there is none. -/
theorem session_in_step {p : SessionProgram SessionPhase}
    (reached : (commandSession (recognisedTransports decode answers) decode).Reachable SessionBegins (exchanges, p)) :
    (∀ transport request, p.upcoming = some (.serialize transport request) → exchanges.InStep transport) ∧
      ∀ state request result, p = .done (.idle state (some (request, result))) → Handed answers state request result := by
  have obeys := commandSession_obeys decode answers
  have starts : ∀ phase exchanges, SessionBegins phase exchanges → BetweenTurns answers phase exchanges := by
    intro phase exchanges begins
    obtain ⟨rfl, rfl⟩ := begins
    refine ⟨⟨fun _ _ => ⟨rfl, rfl⟩, ?_⟩, ?_⟩
    · intro transport held
      cases held
    · intro request result none
      cases none
  constructor
  · intro transport request next
    obtain ⟨earlier, changes, inStep⟩ := obeys.upcoming starts reached next
    cases changes with
    | refl => exact inStep
    | tail _ change => exact change.elim
  · intro state request result ended
    rw [ended] at reached
    exact (obeys.rest starts reached).2 request result rfl

/-- After an answer the next request begins in step. -/
theorem session_in_step_answered : ∃ (exchanges : Exchanges) (p : SessionProgram SessionPhase)
    (transport : CommandSessionTransport) (request : PrivilegedRequest),
    p.upcoming = some (.serialize transport request) ∧ exchanges.sent transport.handle = [firstRequest] ∧
      exchanges.InStep transport := by
  have requesting := requested_reading (recognisedTransports sampleDecode sampleAnswers) (by
    intro script op quiet
    refine ⟨?_, serverScript_faithful script op⟩
    cases op with
    | readLine transport => cases quiet
    | _ => rfl)
  have turn := interpret_meets (fun exchanges op reply => recognised sampleDecode exchanges op reply = true)
    (fun script op reply => recognised sampleDecode script.1 op reply) serverScript_faithful (fun _ _ _ fine => fine)
    (show meets serverScript _ (readTurn sampleDecode (.reading ⟨none, some sampleTransport⟩ sampleTransport firstRequest))
      (requested, [sampleLine]) = true by decide +kernel)
  have answered := requesting.program ⟨rfl, .inr rfl⟩ turn
  have idle : (interpret serverScript (readTurn sampleDecode
      (.reading ⟨none, some sampleTransport⟩ sampleTransport firstRequest)) (requested, [sampleLine])).1 =
      .idle ⟨none, some sampleTransport⟩ (some (firstRequest, .ok (.bool true))) := by rfl
  rw [idle] at answered
  have next := answered.tail (.start ⟨rfl, .inl ⟨sampleClient, _, _, secondRequest, rfl, rfl⟩⟩)
  have inStep := (session_in_step next).1 sampleTransport secondRequest rfl
  exact ⟨_, sendWithCommandSession sampleClient ⟨none, some sampleTransport⟩ secondRequest, _, _, rfl, rfl, inStep⟩

/-- A server that hangs up without an answer is asked again on the same transport. -/
theorem closed_transport_reused : ¬ ∀ (decode : List Char → Except String Frame)
    (answers : PrivilegedRequest → PrivilegedResponse → Prop) (exchanges : Exchanges) (p : SessionProgram SessionPhase)
    (transport : CommandSessionTransport) (request : PrivilegedRequest),
    (commandSession (transports decode answers) decode).Reachable SessionBegins (exchanges, p) →
      p.upcoming = some (.serialize transport request) → exchanges.InStep transport := by
  intro kept
  have requesting := requested_reading (transports sampleDecode sampleAnswers)
    fun script op _ => serverScript_faithful script op
  have closed := requesting.program ⟨rfl, .inr rfl⟩ (interpret_completes serverScript_faithful (requested, [])
    (readTurn sampleDecode (.reading ⟨none, some sampleTransport⟩ sampleTransport firstRequest)))
  have idle : (interpret serverScript (readTurn sampleDecode
      (.reading ⟨none, some sampleTransport⟩ sampleTransport firstRequest)) (requested, [])).1 =
      .idle ⟨none, some sampleTransport⟩
        (some (firstRequest, .error (.other "privileged server closed connection before responding"))) := by rfl
  rw [idle] at closed
  have next := closed.tail (.start ⟨rfl, .inl ⟨sampleClient, _, _, secondRequest, rfl, rfl⟩⟩)
  have inStep := kept _ _ _ _ sampleTransport secondRequest next rfl
  cases inStep

end Wgd.Client
