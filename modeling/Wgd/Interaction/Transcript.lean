import Wgd.Interaction.Footprint

/-! What a finished run said: its calls in order, each with its reply. -/

set_option autoImplicit false

namespace Wgd.Interaction

variable {C : Commands} {A B E T : Type}

structure Exchange (C : Commands) where
  op : C.Op
  reply : C.Reply op

/-- The program issues these calls if it is given these replies, and ends with this result. -/
inductive Performs : Program C A → List (Exchange C) → A → Prop where
  | done (result : A) : Performs (.done result) [] result
  | call {op : C.Op} {next : C.Reply op → Program C A} {reply : C.Reply op} {log : List (Exchange C)} {result : A}
      (rest : Performs (next reply) log result) : Performs (.call op next) (⟨op, reply⟩ :: log) result

namespace Performs

variable {p : Program C A} {log : List (Exchange C)} {result : A}

@[simp] theorem done_iff {value : A} : Performs (.done value) log result ↔ log = [] ∧ value = result := by
  constructor
  · intro run
    cases run
    exact ⟨rfl, rfl⟩
  · intro same
    rw [same.1, same.2]
    exact .done result

@[simp] theorem pure_iff {value : A} :
    Performs (pure value : Program C A) log result ↔ log = [] ∧ value = result := done_iff

theorem call_iff {op : C.Op} {next : C.Reply op → Program C A} :
    Performs (.call op next) log result ↔ ∃ reply rest, log = ⟨op, reply⟩ :: rest ∧ Performs (next reply) rest result := by
  constructor
  · intro run
    cases run with
    | call rest => exact ⟨_, _, rfl, rest⟩
  · intro parts
    obtain ⟨reply, rest, same, run⟩ := parts
    rw [same]
    exact .call run

@[simp] theorem command_iff {op : C.Op} {reply : C.Reply op} :
    Performs (Program.command op) log reply ↔ log = [⟨op, reply⟩] := by
  rw [Program.command, call_iff]
  simp

theorem bind_iff {f : A → Program C B} {result : B} :
    Performs (p >>= f) log result ↔
      ∃ value first rest, log = first ++ rest ∧ Performs p first value ∧ Performs (f value) rest result := by
  induction p generalizing log with
  | done value => simp
  | call op next ih =>
    rw [Program.call_bind, call_iff]
    constructor
    · intro run
      obtain ⟨reply, tail, same, run⟩ := run
      obtain ⟨value, first, rest, split, begins, ends⟩ := (ih reply).mp run
      exact ⟨value, ⟨op, reply⟩ :: first, rest, by rw [same, split, List.cons_append], .call begins, ends⟩
    · intro run
      obtain ⟨value, first, rest, split, begins, ends⟩ := run
      obtain ⟨reply, tail, same, begins⟩ := call_iff.mp begins
      exact ⟨reply, tail ++ rest, by rw [split, same, List.cons_append], (ih reply).mpr ⟨value, tail, rest, rfl, begins, ends⟩⟩

/-- One command, and what follows it. -/
theorem command_bind {op : C.Op} {f : C.Reply op → Program C B} {result : B} :
    Performs (Program.command op >>= f) log result ↔
      ∃ reply rest, log = ⟨op, reply⟩ :: rest ∧ Performs (f reply) rest result := call_iff

/-- A fallible program fails as a whole, or goes on with its value. -/
theorem attempt_iff {p : Program C (Except E A)} {f : A → Program C (Except E B)} {result : Except E B} :
    Performs (p.attempt f) log result ↔
      (∃ error, Performs p log (.error error) ∧ result = .error error) ∨
        ∃ value first rest, log = first ++ rest ∧ Performs p first (.ok value) ∧ Performs (f value) rest result := by
  rw [Program.attempt, bind_iff]
  constructor
  · intro run
    obtain ⟨outcome, first, rest, split, begins, ends⟩ := run
    cases outcome with
    | error error =>
      obtain ⟨ended, same⟩ := done_iff.mp ends
      rw [ended, List.append_nil] at split
      exact .inl ⟨error, split ▸ begins, same.symm⟩
    | ok value => exact .inr ⟨value, first, rest, split, begins, ends⟩
  · intro run
    cases run with
    | inl failed =>
      obtain ⟨error, begins, same⟩ := failed
      exact ⟨.error error, log, [], (List.append_nil log).symm, begins, done_iff.mpr ⟨rfl, same.symm⟩⟩
    | inr went =>
      obtain ⟨value, first, rest, split, begins, ends⟩ := went
      exact ⟨.ok value, first, rest, split, begins, ends⟩

/-- The replies decide the run: none begins like another one and goes on differently. -/
theorem unique {log' more more' : List (Exchange C)} {result' : A} (first : Performs p log result)
    (second : Performs p log' result') (same : log ++ more = log' ++ more') : log = log' ∧ result = result' := by
  induction first generalizing log' with
  | done value =>
    obtain ⟨ended, rfl⟩ := done_iff.mp second
    exact ⟨ended.symm, rfl⟩
  | call run ih =>
    obtain ⟨reply, tail, rfl, others⟩ := call_iff.mp second
    rw [List.cons_append, List.cons_append, List.cons.injEq] at same
    cases same.1
    obtain ⟨rfl, rfl⟩ := ih others same.2
    exact ⟨rfl, rfl⟩

theorem issued {allowed : C.Op → Prop} {post : A → Prop} (run : Performs p log result) (issues : Issues allowed p post) :
    ∀ exchange ∈ log, allowed exchange.op := by
  induction run with
  | done value => simp
  | call run ih =>
    rw [List.forall_mem_cons]
    exact ⟨issues.1, ih (issues.2 _)⟩

end Performs

/-- The exchanges of a run that a handler answers. -/
def transcript (handler : Handler C T) : Program C A → T → List (Exchange C)
  | .done _, _ => []
  | .call op next, script => ⟨op, (handler script op).1⟩ :: transcript handler (next (handler script op).1) (handler script op).2

theorem transcript_performs (handler : Handler C T) (p : Program C A) (script : T) :
    Performs p (transcript handler p script) (interpret handler p script).1 := by
  induction p generalizing script with
  | done value => exact .done value
  | call op next ih => exact .call (ih _ _)

end Wgd.Interaction
