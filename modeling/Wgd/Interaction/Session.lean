import Wgd.Interaction.Rules

/-! A party that runs one program after another on a state it shares with
others, and that may die at any moment. -/

set_option autoImplicit false

namespace Wgd.Interaction

structure Session (C : Commands) (S Q : Type) where
  env : Environment C S
  /-- What others may do to the state, at any moment. -/
  outside : S → S → Prop
  /-- The programs that may be started in a phase; starting one may change the state. -/
  start : Q → S → S → Program C Q → Prop
  /-- How the party may die, and in which phase and state its successor begins. -/
  abandon : S → Q → S → Prop

namespace Session

variable {C : Commands} {S Q : Type}

inductive Step (M : Session C S Q) : S × Program C Q → S × Program C Q → Prop where
  | command {state after : S} {op : C.Op} {next : C.Reply op → Program C Q} {reply : C.Reply op}
      (answered : M.env state op reply after) : Step M (state, .call op next) (after, next reply)
  | start {state after : S} {phase : Q} {p : Program C Q} (started : M.start phase state after p) :
      Step M (state, .done phase) (after, p)
  | outside {state after : S} {p : Program C Q} (changed : M.outside state after) : Step M (state, p) (after, p)
  | abandon {state after : S} {p : Program C Q} {phase : Q} (died : M.abandon state phase after) :
      Step M (state, p) (after, .done phase)

/-- A configuration of some run that begins between two programs. -/
def Reachable (M : Session C S Q) (initial : Q → S → Prop) (config : S × Program C Q) : Prop :=
  ∃ phase state, initial phase state ∧ Relation.ReflTransGen M.Step (state, .done phase) config

namespace Reachable

variable {M : Session C S Q} {initial : Q → S → Prop} {state after : S} {phase : Q} {p rest : Program C Q}

theorem begin (first : initial phase state) : M.Reachable initial (state, .done phase) :=
  ⟨phase, state, first, .refl⟩

theorem tail {config config' : S × Program C Q} (reached : M.Reachable initial config) (step : M.Step config config') :
    M.Reachable initial config' := by
  obtain ⟨phase, state, first, run⟩ := reached
  exact ⟨phase, state, first, run.tail step⟩

/-- A running program may go on. -/
theorem runs {config config' : S × Program C Q} (reached : M.Reachable initial config)
    (run : Runs M.env config config') : M.Reachable initial config' := by
  induction run with
  | refl => exact reached
  | tail _ step ih =>
    cases step with
    | command answered => exact ih.tail (.command answered)

/-- A program that may be started may run. -/
theorem program (reached : M.Reachable initial (state, .done phase)) {begun : S} (started : M.start phase state begun p)
    (run : Runs M.env (begun, p) (after, rest)) : M.Reachable initial (after, rest) :=
  (reached.tail (.start started)).runs run

/-- So may a program in a script, for as many commands as the script goes on. -/
theorem scripted {T : Type} {handler : Handler C T} {view : T → S} (faithful : handler.Faithful view M.env) (script : T)
    (reached : M.Reachable initial (state, .done phase)) (started : M.start phase state (view script) p) (fuel : Nat) :
    M.Reachable initial (view (interpretFor handler fuel (script, p)).1, (interpretFor handler fuel (script, p)).2) :=
  reached.program started (interpretFor_runs faithful fuel script p)

theorem completed {T : Type} {handler : Handler C T} {view : T → S} (faithful : handler.Faithful view M.env) (script : T)
    (reached : M.Reachable initial (state, .done phase)) (started : M.start phase state (view script) p) {result : Q}
    (ends : (interpret handler p script).1 = result) :
    M.Reachable initial (view (interpret handler p script).2, .done result) :=
  ends ▸ reached.program started (interpret_completes faithful script p)

end Reachable

/-- An invariant of every moment and one of the moments between two programs. -/
structure Kept (M : Session C S Q) (inv : S → Prop) (between : Q → S → Prop) : Prop where
  program : ∀ phase state after p, between phase state → M.start phase state after p →
    Ensures (M.env.after M.outside) (always C inv) p between after
  moment : ∀ phase state, between phase state → inv state
  others : ∀ state after, inv state → M.outside state after → inv after
  stable : ∀ phase state after, between phase state → M.outside state after → between phase after
  death : ∀ state phase after, inv state → M.abandon state phase after → between phase after

variable {M : Session C S Q} {inv : S → Prop} {between : Q → S → Prop}

/-- What holds of every configuration: the running program ensures the rest,
from the last state in which the others had not yet interfered. -/
def Holds (M : Session C S Q) (inv : S → Prop) (between : Q → S → Prop) (config : S × Program C Q) : Prop :=
  ∃ earlier, Relation.ReflTransGen M.outside earlier config.1 ∧
    Ensures (M.env.after M.outside) (always C inv) config.2 between earlier

/-- What one interference keeps, any number of them keep. -/
theorem interference {P : S → Prop} (one : ∀ state after, P state → M.outside state after → P after)
    {state after : S} (start : P state) (changes : Relation.ReflTransGen M.outside state after) : P after := by
  induction changes with
  | refl => exact start
  | tail _ change ih => exact one _ _ ih change

theorem Holds.moment (kept : M.Kept inv between) {config : S × Program C Q}
    (holds : Holds M inv between config) : inv config.1 := by
  obtain ⟨earlier, changes, ensured⟩ := holds
  exact interference kept.others (ensured.now kept.moment) changes

theorem Holds.rest (kept : M.Kept inv between) {state : S} {phase : Q}
    (holds : Holds M inv between (state, .done phase)) : between phase state := by
  obtain ⟨earlier, changes, ensured⟩ := holds
  exact interference (kept.stable phase) ensured changes

theorem Holds.step (kept : M.Kept inv between) {config config' : S × Program C Q}
    (holds : Holds M inv between config) (step : M.Step config config') : Holds M inv between config' := by
  cases step with
  | command answered =>
    obtain ⟨earlier, changes, ensured⟩ := holds
    exact ⟨_, .refl, ensured.2 _ _ ⟨_, changes, answered⟩⟩
  | start started => exact ⟨_, .refl, kept.program _ _ _ _ (Holds.rest kept holds) started⟩
  | outside changed =>
    obtain ⟨earlier, changes, ensured⟩ := holds
    exact ⟨earlier, changes.tail changed, ensured⟩
  | abandon died => exact ⟨_, .refl, kept.death _ _ _ (Holds.moment kept holds) died⟩

theorem Holds.reachable (kept : M.Kept inv between) {initial : Q → S → Prop}
    (starts : ∀ phase state, initial phase state → between phase state) {config : S × Program C Q}
    (reached : M.Reachable initial config) : Holds M inv between config := by
  obtain ⟨phase, state, first, run⟩ := reached
  induction run with
  | refl => exact ⟨state, .refl, starts phase state first⟩
  | tail _ step ih => exact Holds.step kept ih step

/-- The invariant rule for every moment of every run. -/
theorem Kept.reachable (kept : M.Kept inv between) {initial : Q → S → Prop}
    (starts : ∀ phase state, initial phase state → between phase state) {config : S × Program C Q}
    (reached : M.Reachable initial config) : inv config.1 :=
  Holds.moment kept (Holds.reachable kept starts reached)

/-- The invariant rule for the moments between two programs. -/
theorem Kept.reachable_between (kept : M.Kept inv between) {initial : Q → S → Prop}
    (starts : ∀ phase state, initial phase state → between phase state) {state : S} {phase : Q}
    (reached : M.Reachable initial (state, .done phase)) : between phase state :=
  Holds.rest kept (Holds.reachable kept starts reached)

/-- Every program issues its commands only where they are permitted, and ends as the next one may begin. -/
structure Obeys (M : Session C S Q) (permits : S → C.Op → Prop) (between : Q → S → Prop) : Prop where
  program : ∀ phase state after p, between phase state → M.start phase state after p →
    Ensures (M.env.after M.outside) permits p between after
  stable : ∀ phase state after, between phase state → M.outside state after → between phase after
  death : ∀ state phase after, M.abandon state phase after → between phase after

/-- What is left of the running program obeys, from the last state in which the others had not yet interfered. -/
def Guarded (M : Session C S Q) (permits : S → C.Op → Prop) (between : Q → S → Prop) (config : S × Program C Q) : Prop :=
  ∃ earlier, Relation.ReflTransGen M.outside earlier config.1 ∧
    Ensures (M.env.after M.outside) permits config.2 between earlier

namespace Obeys

variable {permits : S → C.Op → Prop}

theorem step (obeys : M.Obeys permits between) {config config' : S × Program C Q} (guarded : Guarded M permits between config)
    (step : M.Step config config') : Guarded M permits between config' := by
  obtain ⟨earlier, changes, ensured⟩ := guarded
  cases step with
  | command answered => exact ⟨_, .refl, ensured.2 _ _ ⟨_, changes, answered⟩⟩
  | start started => exact ⟨_, .refl, obeys.program _ _ _ _ (interference (obeys.stable _) ensured changes) started⟩
  | outside changed => exact ⟨earlier, changes.tail changed, ensured⟩
  | abandon died => exact ⟨_, .refl, obeys.death _ _ _ died⟩

theorem reachable (obeys : M.Obeys permits between) {initial : Q → S → Prop}
    (starts : ∀ phase state, initial phase state → between phase state) {config : S × Program C Q}
    (reached : M.Reachable initial config) : Guarded M permits between config := by
  obtain ⟨phase, state, first, run⟩ := reached
  induction run with
  | refl => exact ⟨state, .refl, starts phase state first⟩
  | tail _ step ih => exact obeys.step ih step

/-- The rule for the command that comes next. -/
theorem upcoming (obeys : M.Obeys permits between) {initial : Q → S → Prop}
    (starts : ∀ phase state, initial phase state → between phase state) {state : S} {p : Program C Q} {op : C.Op}
    (reached : M.Reachable initial (state, p)) (next : p.upcoming = some op) :
    ∃ earlier, Relation.ReflTransGen M.outside earlier state ∧ permits earlier op := by
  obtain ⟨earlier, changes, ensured⟩ := obeys.reachable starts reached
  obtain ⟨rest, rfl⟩ := Program.upcoming_call next
  exact ⟨earlier, changes, ensured.1⟩

/-- The rule for the moments between two programs. -/
theorem rest (obeys : M.Obeys permits between) {initial : Q → S → Prop}
    (starts : ∀ phase state, initial phase state → between phase state) {state : S} {phase : Q}
    (reached : M.Reachable initial (state, .done phase)) : between phase state := by
  obtain ⟨earlier, changes, ensured⟩ := obeys.reachable starts reached
  exact interference (obeys.stable phase) ensured changes

end Obeys

end Session
end Wgd.Interaction
