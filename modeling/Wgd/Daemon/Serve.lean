import Mathlib.Control.Monad.Basic
import Mathlib.Logic.Function.Basic
import Wgd.Interaction.Session

/-! The accept loop of the daemon (`privileged/socket.rs`). It reads one request from
each client in turn; the slow ones run on a worker thread, whose answer the loop
collects from a channel while it goes on serving the others. -/

set_option autoImplicit false

namespace Wgd.Daemon

open Wgd.Interaction

/-! Times in milliseconds. -/

def maxRequestBytes : Nat := 1024 * 1024
def maxResponseBytes : Nat := 2 * 1024 * 1024
def maxClients : Nat := 32
def ioTimeout : Nat := 10000
def pendingWorkerTimeout : Nat := 60000

/-- A worker thread with its channel. -/
abbrev Worker : Type := Nat

structure Client where
  peerUid : Nat
  peerGid : Nat
  input : List UInt8
  output : List UInt8
  written : Nat
  deadline : Nat
  /-- Set while a worker runs for this client's most recent request. -/
  pending : Option Worker
  deriving DecidableEq

structure ControlState where
  leases : List String
  allowShutdown : Bool
  shutdownRequested : Bool
  deriving DecidableEq

inductive ReadResult where
  /-- End of file: the client hung up. -/
  | eof
  | bytes (chunk : List UInt8)
  | wouldBlock
  | error (error : String)

inductive WriteResult where
  | wrote (count : Nat)
  | wouldBlock
  | error (error : String)

/-- What a worker's channel holds; a response comes with its encoding into frames. -/
inductive Received where
  | response (frames : Except String (List UInt8))
  | empty
  | disconnected

inductive RequestOutcome where
  | immediate (frames : Except String (List UInt8))
  | pending (worker : Worker)

inductive Accepted where
  | stream
  | wouldBlock
  | error (error : String)

/-- The daemon's calls, with the client each one is made for. -/
inductive ServeOp where
  | accept
  /-- Set the accepted stream up and ask for its peer. -/
  | newClient
  | clock
  | deadlineClock (client : Client)
  | read (client : Client) (size : Nat)
  | tryRecv (worker : Worker)
  | dispatch (client : Client) (request : String) (control : ControlState)
  | write (client : Client) (bytes : List UInt8)
  | backgroundWork
  | resident
  | leaseTokenIsLive (token : String)
  | waitForIo (clients : List Client)

@[reducible] def ServeOp.Reply : ServeOp → Type
  | .accept => Accepted
  | .newClient => Except String (Nat × Nat)
  | .clock | .deadlineClock _ | .backgroundWork | .resident => Nat
  | .read _ _ => ReadResult
  | .tryRecv _ => Received
  | .dispatch _ _ _ => RequestOutcome × ControlState
  | .write _ _ => WriteResult
  | .leaseTokenIsLive _ => Bool
  | .waitForIo _ => Unit

abbrev serveCommands : Commands := ⟨ServeOp, ServeOp.Reply⟩

abbrev ServeProgram (A : Type) := Program serveCommands A

def serveCall (op : ServeOp) : ServeProgram op.Reply := @Program.command serveCommands op

/-- What the loop keeps beside its clients. -/
structure ServeState where
  control : ControlState
  lastActivity : Nat
  deriving DecidableEq

/-! ### One client -/

namespace Client

/-- A response is queued, if it fits. -/
def answer (client : Client) (timeout : Nat) : Except String (List UInt8) → ServeProgram (Except String Client)
  | .error error => .done (.error error)
  | .ok frames =>
    if maxResponseBytes < frames.length then .done (.error "response too large")
    else do
      let now ← serveCall .clock
      return .ok { client with output := frames, deadline := now + timeout }

/-- Take the worker's response, if it is there. -/
def collect (client : Client) (timeout : Nat) (worker : Worker) : ServeProgram (Except String (Option Client)) := do
  match ← serveCall (.tryRecv worker) with
  | .response frames => do
    let answered ← answer { client with pending := none } timeout frames
    return answered.map some
  | .empty => return .ok (some client)
  | .disconnected => return .error "worker thread ended without producing a response"

/-- The client waits for its worker. It is not expected to send more, but it may
hang up, and the worker then keeps running on its own; `none` drops the client. -/
def stepPending (client : Client) (timeout : Nat) (worker : Worker) :
    ServeProgram (Except String (Option Client)) := do
  match ← serveCall (.read client 1) with
  | .eof => return .ok none
  | .error error => return .error error
  | .bytes _ | .wouldBlock => client.collect timeout worker

/-- A whole request line is dispatched. -/
def request (client : Client) (timeout : Nat) (serve : ServeState) (stop : Nat) :
    ServeProgram (ServeState × Except String (Option Client)) :=
  match String.fromUTF8? ⟨(client.input.take stop).toArray⟩ with
  | none => .done (serve, .error "invalid utf-8")
  | some line => do
    let (outcome, control) ← serveCall (.dispatch client line serve.control)
    let lastActivity ← serveCall .clock
    let serve := { serve with control := control, lastActivity := lastActivity }
    match outcome with
    | .immediate frames => do
      let answered ← client.answer timeout frames
      return (serve, answered.map fun client => some { client with input := client.input.drop (stop + 1) })
    | .pending worker => do
      let now ← serveCall .clock
      return (serve, .ok (some { client with
        pending := some worker
        deadline := now + pendingWorkerTimeout
        input := client.input.drop (stop + 1) }))

def receive (client : Client) (timeout : Nat) (serve : ServeState) (chunk : List UInt8) :
    ServeProgram (ServeState × Except String (Option Client)) :=
  let client := { client with input := client.input ++ chunk }
  if maxRequestBytes < client.input.length then .done (serve, .error "request too large")
  else match client.input.findIdx? (· == 10) with
    | some stop => client.request timeout serve stop
    | none => .done (serve, .ok (some client))

def stepRequest (client : Client) (timeout : Nat) (serve : ServeState) :
    ServeProgram (ServeState × Except String (Option Client)) := do
  match ← serveCall (.read client 8192) with
  | .eof => return (serve, .ok none)
  | .error error => return (serve, .error error)
  | .bytes chunk => client.receive timeout serve chunk
  | .wouldBlock => client.receive timeout serve []

/-- The queue once some of it is sent. -/
def sent (client : Client) (timeout : Nat) : ServeProgram (Except String (Option Client)) :=
  if client.written = client.output.length then do
    let now ← serveCall .clock
    return .ok (some { client with output := [], written := 0, deadline := now + timeout })
  else .done (.ok (some client))

/-- Send what is queued. -/
def flush (client : Client) (timeout : Nat) : ServeProgram (Except String (Option Client)) :=
  if client.output.isEmpty then .done (.ok (some client))
  else do
    match ← serveCall (.write client (client.output.drop client.written)) with
    | .error error => return .error error
    | .wrote 0 => return .ok none
    | .wouldBlock => sent client timeout
    | .wrote (count + 1) => sent { client with written := client.written + (count + 1) } timeout

/-- What the loop does with a client before it writes: nothing while a response is queued. -/
def work (client : Client) (timeout : Nat) (serve : ServeState) :
    ServeProgram (ServeState × Except String (Option Client)) :=
  match client.pending with
  | some worker => do
    let worked ← client.stepPending timeout worker
    return (serve, worked)
  | none =>
    if client.output.isEmpty then client.stepRequest timeout serve
    else .done (serve, .ok (some client))

/-- One turn of one client. The deadline is absolute, not an inactivity timer. -/
def step (client : Client) (timeout : Nat) (serve : ServeState) :
    ServeProgram (ServeState × Except String (Option Client)) := do
  let now ← serveCall (.deadlineClock client)
  if now < client.deadline then
    let (serve, worked) ← client.work timeout serve
    match worked with
    | .ok (some client) => do
      let sent ← client.flush timeout
      return (serve, sent)
    | closed => return (serve, closed)
  else return (serve, .error "client I/O deadline exceeded")

end Client

/-! ### The loop -/

/-- Up to so many waiting connections; those over the limit are dropped. -/
def acceptClients : Nat → List Client → ServeProgram (Except String (List Client))
  | 0, clients => .done (.ok clients)
  | n + 1, clients => do
    match ← serveCall .accept with
    | .wouldBlock => return .ok clients
    | .error error => return .error error
    | .stream =>
      if clients.length < maxClients then
        match ← serveCall .newClient with
        | .error error => return .error error
        | .ok (uid, gid) => do
          let now ← serveCall .clock
          acceptClients n (clients ++ [⟨uid, gid, [], [], 0, now + ioTimeout, none⟩])
      else acceptClients n clients

/-- Every client takes its turn; one that failed or hung up is dropped. -/
def retainClients (serve : ServeState) : List Client → ServeProgram (ServeState × List Client)
  | [] => .done (serve, [])
  | client :: rest => do
    let (serve, stepped) ← client.step ioTimeout serve
    let (serve, kept) ← retainClients serve rest
    match stepped with
    | .ok (some client) => return (serve, client :: kept)
    | .ok none | .error _ => return (serve, kept)

def pruneStaleLeases : List String → ServeProgram (List String)
  | [] => .done []
  | token :: rest => do
    let live ← serveCall (.leaseTokenIsLive token)
    let kept ← pruneStaleLeases rest
    return if live then token :: kept else kept

def shouldExitNow (control : ControlState) : ServeProgram (Bool × ControlState) :=
  if !control.allowShutdown || !control.shutdownRequested then .done (false, control)
  else do
    let leases ← pruneStaleLeases control.leases
    return (leases.isEmpty, { control with leases := leases })

def idleElapsed (lastActivity : Nat) : Option Nat → ServeProgram Bool
  | none => .done false
  | some timeout => do
    let now ← serveCall .clock
    return decide (timeout ≤ now - lastActivity)

/-- Nobody is connected, no thread is counted, and the daemon was told to go or is idle. -/
def mayExit (idleTimeout : Option Nat) (serve : ServeState) (clients : List Client) :
    ServeProgram (Bool × ServeState) :=
  if clients.isEmpty then do
    let background ← serveCall .backgroundWork
    if background = 0 then
      let resident ← serveCall .resident
      if resident = 0 then
        let (told, control) ← shouldExitNow serve.control
        let serve := { serve with control := control }
        if told then return (true, serve)
        else
          let idle ← idleElapsed serve.lastActivity idleTimeout
          return (idle, serve)
      else return (false, serve)
    else return (false, serve)
  else .done (false, serve)

/-- Between two iterations, or out of the loop. -/
inductive ServePhase where
  | serving (serve : ServeState) (clients : List Client)
  | returned (result : Except String Unit)
  deriving DecidableEq

/-- Once round the loop of `serve`. -/
def serveOnce (idleTimeout : Option Nat) (serve : ServeState) (clients : List Client) : ServeProgram ServePhase := do
  match ← acceptClients maxClients clients with
  | .error error => return .returned (.error error)
  | .ok clients =>
    let (serve, clients) ← retainClients serve clients
    let (exit, serve) ← mayExit idleTimeout serve clients
    if exit then return .returned (.ok ())
    else
      serveCall (.waitForIo clients)
      return .serving serve clients

/-! ### The workers -/

inductive WorkerStatus where
  | unborn
  | running
  /-- Its response is in the channel. -/
  | replied
  /-- It ended without a response. -/
  | vanished
  deriving DecidableEq

abbrev Workers : Type := Worker → WorkerStatus

inductive WorkerStep : Workers → Workers → Prop where
  | reply {workers : Workers} {worker : Worker} (running : workers worker = .running) :
      WorkerStep workers (Function.update workers worker .replied)
  | vanish {workers : Workers} {worker : Worker} (running : workers worker = .running) :
      WorkerStep workers (Function.update workers worker .vanished)

/-- The loop's calls leave the workers alone, but for a dispatch that spawns one.
Whatever else they answer is up to the clients, the clock and the other threads. -/
def serveEnvironment : Environment serveCommands Workers := fun workers op reply after =>
  match op, reply with
  | .dispatch _ _ _, (.pending worker, _) =>
    workers worker = .unborn ∧ after = Function.update workers worker .running
  | .tryRecv worker, .response _ => workers worker = .replied ∧ after = workers
  | .tryRecv worker, .disconnected => workers worker = .vanished ∧ after = workers
  | _, _ => after = workers

/-- `serve` goes round its loop while the workers run beside it. -/
def serveSession (idleTimeout : Option Nat) : Session serveCommands Workers ServePhase where
  env := serveEnvironment
  outside := WorkerStep
  start phase workers after p :=
    ∃ serve clients, phase = .serving serve clients ∧ after = workers ∧ p = serveOnce idleTimeout serve clients
  abandon _ _ _ := False

/-- The loop begins with no client and no worker. -/
def ServeBegins (phase : ServePhase) (workers : Workers) : Prop :=
  (∃ serve, phase = .serving serve []) ∧ ∀ worker, workers worker = .unborn

end Wgd.Daemon
