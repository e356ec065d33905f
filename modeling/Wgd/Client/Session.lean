import Wgd.Client.Requests
import Wgd.Net.Text

/-! The command session of a client (`privileged_client/mod.rs`, `transport.rs`): requests
in turn on one transport, which is given up when an error says that it is broken. -/

set_option autoImplicit false

namespace Wgd.Client

open Wgd.Interaction Wgd.Net Wgd.Store

inductive PrivilegedTransport where
  | socket
  | stdio
  deriving DecidableEq, Repr

inductive PrivilegedAutostopMode where
  | never
  | command
  | timeout
  deriving DecidableEq, Repr

/-- The settings of a client that a session looks at. -/
structure PrivilegedClient where
  transport : PrivilegedTransport
  autostopMode : PrivilegedAutostopMode
  deriving DecidableEq, Repr

/-- An open transport; no two are the same. -/
structure CommandSessionTransport where
  kind : PrivilegedTransport
  handle : Nat
  deriving DecidableEq, Repr

structure CommandSessionState where
  leaseToken : Option String
  transport : Option CommandSessionTransport
  deriving DecidableEq, Repr

/-- One newline-delimited reply frame: a streamed log line or the final response. -/
inductive Frame where
  | log (line : String)
  | response (response : PrivilegedResponse)

inductive SessionOp where
  | buildLeaseToken
  | openTransport (kind : PrivilegedTransport)
  | serialize (transport : CommandSessionTransport) (request : PrivilegedRequest)
  | writeAll (transport : CommandSessionTransport) (bytes : List UInt8)
  | flush (transport : CommandSessionTransport)
  | readLine (transport : CommandSessionTransport)
  | closeTransport (transport : CommandSessionTransport)

/-- `readLine` answers a line with its newline, and the empty text at the end of the stream. -/
@[reducible] def SessionOp.Reply : SessionOp → Type
  | .buildLeaseToken => String
  | .openTransport _ => Except AppError Nat
  | .serialize _ _ => Except String (List UInt8)
  | .writeAll _ _ | .flush _ => Except String Unit
  | .readLine _ => Except String String
  | .closeTransport _ => Unit

abbrev sessionCommands : Commands := ⟨SessionOp, SessionOp.Reply⟩

abbrev SessionProgram (A : Type) := Program sessionCommands A

def sessionCall (op : SessionOp) : SessionProgram op.Reply := @Program.command sessionCommands op

/-- A call whose error is told with the step that failed. -/
def calling {A : Type} (step : String) (p : SessionProgram (Except String A)) : SessionProgram (Except AppError A) := do
  return (← p).mapError fun error => .other s!"{step}: {error}"

/-! ### One exchange -/

def startsWith (start text : String) : Bool := start.toList.isPrefixOf text.toList

/-- The errors after which the transport is given up, told by their texts. -/
def isTransportError : AppError → Bool
  | .other message =>
    startsWith "write request:" message || startsWith "write request delimiter:" message ||
      startsWith "flush request:" message || startsWith "read response:" message ||
      startsWith "write request stdin:" message || startsWith "write request delimiter stdin:" message ||
      startsWith "flush request stdin:" message || startsWith "read response stdout:" message ||
      message == "empty response from privileged server"
  | _ => false

/-- What both transports do before they read; `place` is what their error texts differ in. -/
def writeRequest (place : String) (transport : CommandSessionTransport) (request : PrivilegedRequest) :
    SessionProgram (Except AppError Unit) :=
  (calling "serialize request" (sessionCall (.serialize transport request))).attempt fun requestBytes =>
  (calling s!"write request{place}" (sessionCall (.writeAll transport requestBytes))).attempt fun () =>
  (calling s!"write request delimiter{place}" (sessionCall (.writeAll transport [10]))).attempt fun () =>
  calling s!"flush request{place}" (sessionCall (.flush transport))

/-- `send_on_stream` up to its first read. -/
def sendOnStream : CommandSessionTransport → PrivilegedRequest → SessionProgram (Except AppError Unit) := writeRequest ""

/-- `send_on_stdio_session` up to its first read. -/
def sendOnStdioSession : CommandSessionTransport → PrivilegedRequest → SessionProgram (Except AppError Unit) :=
  writeRequest " stdin"

def sendOnTransport (transport : CommandSessionTransport) (request : PrivilegedRequest) :
    SessionProgram (Except AppError Unit) :=
  match transport.kind with
  | .socket => sendOnStream transport request
  | .stdio => sendOnStdioSession transport request

section Reading

variable (decode : List Char → Except String Frame)

/-- What one line read makes of `read_framed_response`: nothing yet, or its result. -/
def framedResponse : Except String String → Option (Except AppError PrivilegedResponse)
  | .error error => some (.error (.other s!"read response: {error}"))
  | .ok line =>
    if line = "" then some (.error (.other "privileged server closed connection before responding"))
    else
      let trimmed := trim line.toList
      if trimmed.isEmpty then none
      else match decode trimmed with
        | .error error => some (.error (.other s!"decode response: {error}"))
        | .ok (.log _) => none
        | .ok (.response response) => some (.ok response)

/-- Once round the loop of `read_framed_response`. -/
def readFramedResponse (transport : CommandSessionTransport) :
    SessionProgram (Option (Except AppError PrivilegedResponse)) := do
  return framedResponse decode (← sessionCall (.readLine transport))

end Reading

/-! ### The session -/

def openTransport (client : PrivilegedClient) : SessionProgram (Except AppError CommandSessionTransport) := do
  match ← sessionCall (.openTransport client.transport) with
  | .ok handle => return .ok ⟨client.transport, handle⟩
  | .error error => return .error error

/-- `send_on_session_transport` up to its first read: the session with its transport, and
how far it came. -/
def sendOnSessionTransport (client : PrivilegedClient) (state : CommandSessionState) (request : PrivilegedRequest) :
    SessionProgram (CommandSessionState × Except AppError CommandSessionTransport) := do
  let opened ← match state.transport with
    | some transport => pure (.ok transport)
    | none => openTransport client
  match opened with
  | .error error => return (state, .error error)
  | .ok transport =>
    let written ← sendOnTransport transport request
    return ({ state with transport := some transport }, written.map fun () => transport)

/-- Where a session stands between two turns: with the last answer it has handed out, or
at the head of the read loop, for a lease first if it needs one. -/
inductive SessionPhase where
  | idle (state : CommandSessionState) (last : Option (PrivilegedRequest × Except AppError PrivilegedResponse))
  | acquiring (client : PrivilegedClient) (state : CommandSessionState) (transport : CommandSessionTransport)
      (token : String) (request : PrivilegedRequest)
  | reading (state : CommandSessionState) (transport : CommandSessionTransport) (request : PrivilegedRequest)

/-- The end of `send_with_command_session`: give the transport up if the error says so. -/
def handOut (state : CommandSessionState) (request : PrivilegedRequest) (response : Except AppError PrivilegedResponse) :
    SessionProgram SessionPhase :=
  match response, state.transport with
  | .error error, some transport =>
    if isTransportError error then do
      sessionCall (.closeTransport transport)
      return .idle { state with transport := none } (some (request, response))
    else return .idle state (some (request, response))
  | _, _ => return .idle state (some (request, response))

/-- The caller's own request, once there is a lease or none is needed. -/
def sendRequest (client : PrivilegedClient) (state : CommandSessionState) (request : PrivilegedRequest) :
    SessionProgram SessionPhase := do
  match ← sendOnSessionTransport client state request with
  | (state, .ok transport) => return .reading state transport request
  | (state, .error error) => handOut state request (.error error)

/-- `send_with_command_session`, from its start to the first read. An error of
`ensure_command_lease_in_session` is handed out as it is. -/
def sendWithCommandSession (client : PrivilegedClient) (state : CommandSessionState) (request : PrivilegedRequest) :
    SessionProgram SessionPhase :=
  if client.autostopMode ≠ .command ∨ state.leaseToken.isSome then sendRequest client state request
  else do
    let token ← sessionCall .buildLeaseToken
    match ← sendOnSessionTransport client state (.leaseAcquire token) with
    | (state, .ok transport) => return .acquiring client state transport token request
    | (state, .error error) => return .idle state (some (request, .error error))

/-- A turn of the read loop, and what follows once it has a result. -/
def readTurn (decode : List Char → Except String Frame) : SessionPhase → SessionProgram SessionPhase
  | .idle state last => return .idle state last
  | .acquiring client state transport token request => do
    match ← readFramedResponse decode transport with
    | none => return .acquiring client state transport token request
    | some outcome => match outcome.bind mapPrivilegedError with
      | .error error => return .idle state (some (request, .error error))
      | .ok _ => sendRequest client { state with leaseToken := some token } request
  | .reading state transport request => do
    match ← readFramedResponse decode transport with
    | none => return .reading state transport request
    | some outcome => handOut state request (outcome.bind mapPrivilegedError)

/-! ### The transports -/

/-- What was begun on each transport, and how many response frames were taken off it. -/
structure Exchanges where
  opened : Nat
  sent : Nat → List PrivilegedRequest
  taken : Nat → Nat

namespace Exchanges

def none : Exchanges := ⟨0, fun _ => [], fun _ => 0⟩

def send (exchanges : Exchanges) (handle : Nat) (request : PrivilegedRequest) : Exchanges :=
  { exchanges with sent := Function.update exchanges.sent handle (exchanges.sent handle ++ [request]) }

def take (exchanges : Exchanges) (handle : Nat) : Exchanges :=
  { exchanges with taken := Function.update exchanges.taken handle (exchanges.taken handle + 1) }

/-- Every request that was begun on the transport has got its one response frame. -/
def InStep (exchanges : Exchanges) (transport : CommandSessionTransport) : Prop :=
  exchanges.taken transport.handle = (exchanges.sent transport.handle).length

end Exchanges

/-- The response frame a line holds. -/
def responseOf (decode : List Char → Except String Frame) (line : String) : Option PrivilegedResponse :=
  match framedResponse decode (.ok line) with
  | some (.ok response) => some response
  | _ => none

/-- Any bytes may arrive and any call may fail. A server answers in order: its next response
frame on a transport is its answer to the next request of that transport. -/
def transports (decode : List Char → Except String Frame) (answers : PrivilegedRequest → PrivilegedResponse → Prop) :
    Environment sessionCommands Exchanges := fun exchanges op reply after => match op, reply with
  | .openTransport _, .ok handle => handle = exchanges.opened ∧ after = { exchanges with opened := exchanges.opened + 1 }
  | .serialize transport request, _ => after = exchanges.send transport.handle request
  | .readLine transport, .ok line => match responseOf decode line with
    | some response => after = exchanges.take transport.handle ∧
        ∀ request, (exchanges.sent transport.handle)[exchanges.taken transport.handle]? = some request →
          answers request response
    | none => after = exchanges
  | _, _ => after = exchanges

/-- One session: a caller's request begins when it is idle, and is carried through. -/
def commandSession (env : Environment sessionCommands Exchanges) (decode : List Char → Except String Frame) :
    Session sessionCommands Exchanges SessionPhase where
  env := env
  outside _ _ := False
  start phase exchanges after p := after = exchanges ∧
    ((∃ client state last request, phase = .idle state last ∧ p = sendWithCommandSession client state request) ∨
      p = readTurn decode phase)
  abandon _ _ _ := False

def SessionBegins (phase : SessionPhase) (exchanges : Exchanges) : Prop :=
  phase = .idle ⟨none, none⟩ none ∧ exchanges = .none

end Wgd.Client
