import Wgd.Daemon.Serve

/-! When the accept loop may return. It counts its clients, not the workers: as long
as no client is dropped while its worker runs, none is left behind. -/

set_option autoImplicit false

namespace Wgd.Daemon

open Wgd.Interaction

/-- Some worker is still in flight. -/
def InFlight (workers : Workers) : Prop := ∃ worker, workers worker = .running

/-- This client waits for a worker that is still in flight. -/
def Client.Waits (client : Client) (workers : Workers) : Prop :=
  ∃ worker, client.pending = some worker ∧ workers worker = .running

/-- A client whose worker runs neither hangs up, nor fails a read, nor reaches its
deadline, and while any worker runs no connection fails to be accepted or set up. -/
def Undisturbed : Workers → (op : serveCommands.Op) → serveCommands.Reply op → Prop
  | workers, .deadlineClock client, now => client.Waits workers → now < client.deadline
  | workers, .read client _, .eof => ¬ client.Waits workers
  | workers, .read client _, .error _ => ¬ client.Waits workers
  | workers, .accept, .error _ => ¬ InFlight workers
  | workers, .newClient, .error _ => ¬ InFlight workers
  | _, _, _ => True

/-- Every worker in flight is waited for, by a client with nothing left to send. -/
structure Awaited (clients : List Client) (workers : Workers) : Prop where
  waits : ∀ worker, workers worker = .running → ∃ client ∈ clients, client.pending = some worker
  quiet : ∀ client ∈ clients, client.pending.isSome = true → client.output = []

variable {clients others : List Client} {client : Client} {workers workers' : Workers} {worker : Worker}

theorem Awaited.nobody (awaited : Awaited [] workers) : ¬ InFlight workers := by
  rintro ⟨worker, running⟩
  obtain ⟨client, member, _⟩ := awaited.waits worker running
  cases member

/-- A client that waits for nothing running may leave. -/
theorem Awaited.drop (awaited : Awaited (client :: others) workers) (idle : ¬ client.Waits workers) :
    Awaited others workers where
  waits worker running := by
    obtain ⟨waiting, member, pending⟩ := awaited.waits worker running
    rcases List.mem_cons.mp member with rfl | member
    · exact absurd ⟨worker, pending, running⟩ idle
    · exact ⟨waiting, member, pending⟩
  quiet client member := awaited.quiet client (List.mem_cons_of_mem _ member)

theorem Awaited.add (awaited : Awaited others workers) (quiet : client.pending.isSome = true → client.output = []) :
    Awaited (client :: others) workers where
  waits worker running := by
    obtain ⟨waiting, member, pending⟩ := awaited.waits worker running
    exact ⟨waiting, List.mem_cons_of_mem _ member, pending⟩
  quiet waiting member := by
    rcases List.mem_cons.mp member with rfl | member
    · exact quiet
    · exact awaited.quiet waiting member

theorem WorkerStep.running (step : WorkerStep workers workers') (running : workers' worker = .running) :
    workers worker = .running := by
  cases step with
  | @reply done _ =>
    by_cases same : worker = done
    · simp [same] at running
    · simpa [Function.update_of_ne same] using running
  | @vanish done _ =>
    by_cases same : worker = done
    · simp [same] at running
    · simpa [Function.update_of_ne same] using running

/-- What holds of the workers in flight goes on holding while they end. -/
def Lasting (P : Workers → Prop) : Prop :=
  ∀ workers workers', (∀ worker, workers' worker = .running → workers worker = .running) → P workers → P workers'

theorem Lasting.steps {P : Workers → Prop} (lasting : Lasting P) (start : P workers)
    (steps : Relation.ReflTransGen WorkerStep workers workers') : P workers' := by
  induction steps with
  | refl => exact start
  | tail _ step ih => exact lasting _ _ (fun _ => step.running) ih

/-! ### The loop's side -/

/-- Every completed run ends so, whatever the workers do beside it. -/
abbrev Serves {A : Type} (p : ServeProgram A) (post : A → Workers → Prop) (workers : Workers) : Prop :=
  Ensures ((serveEnvironment.meeting Undisturbed).after WorkerStep) (always serveCommands fun _ => True) p post workers

/-- The clients that a turn leaves. -/
def keptBy : Except String (Option Client) → List Client
  | .ok (some client) => [client]
  | .ok none | .error _ => []

/-- A turn that leaves the client waiting for nothing. -/
theorem Awaited.free {worked : Except String (Option Client)} (awaited : Awaited others workers)
    (free : ∀ changed, worked = .ok (some changed) → changed.pending = none) :
    Awaited (keptBy worked ++ others) workers := by
  cases worked with
  | error _ => exact awaited
  | ok left =>
    cases left with
    | none => exact awaited
    | some changed =>
      apply awaited.add
      intro waiting
      simp [free changed rfl] at waiting

/-- The answered client after a further change that is not to its worker. -/
theorem Awaited.answered {answered : Except String Client} {f : Client → Client} (awaited : Awaited others workers)
    (free : ∀ changed, answered = .ok changed → changed.pending = none) (same : ∀ client, (f client).pending = client.pending) :
    Awaited (keptBy (answered.map fun client => some (f client)) ++ others) workers := by
  apply awaited.free
  intro changed done
  cases answered with
  | error _ => cases done
  | ok client =>
    cases done
    exact (same client).trans (free client rfl)

/-- A client is kept until its worker has ended. -/
theorem Awaited.ended (awaited : Awaited (client :: others) workers) (pending : client.pending = some worker)
    (ended : workers worker ≠ .running) : Awaited others workers := by
  apply awaited.drop
  rintro ⟨running, waiting, runs⟩
  cases pending.symm.trans waiting
  exact ended runs

/-- A worker that is spawned is waited for. -/
theorem Awaited.spawned (awaited : Awaited others workers) (pending : client.pending = some worker)
    (empty : client.output = []) : Awaited (client :: others) (Function.update workers worker .running) where
  waits running runs := by
    by_cases same : running = worker
    · subst same
      exact ⟨client, List.mem_cons_self, pending⟩
    · rw [Function.update_of_ne same] at runs
      obtain ⟨waiting, member, waits⟩ := awaited.waits running runs
      exact ⟨waiting, List.mem_cons_of_mem _ member, waits⟩
  quiet waiting member := by
    rcases List.mem_cons.mp member with rfl | member
    · exact fun _ => empty
    · exact awaited.quiet waiting member

/-! ### One client -/

/-- Between two iterations every worker is awaited; after the last there is none. -/
def Accounted : ServePhase → Workers → Prop
  | .serving _ clients, workers => Awaited clients workers
  | .returned _, workers => ¬ InFlight workers

end Wgd.Daemon
