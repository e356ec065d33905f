import Mathlib.Logic.Function.Basic
import Wgd.Interaction.Rules

/-! Several parties on one state, each with a program of its own, their commands in any order. -/

set_option autoImplicit false

namespace Wgd.Interaction

variable {C : Commands} {S A I : Type} [DecidableEq I]

/-- One command of one party. -/
inductive Interleaves (env : I → Environment C S) : S × (I → Program C A) → S × (I → Program C A) → Prop where
  | command {state after : S} {programs : I → Program C A} {party : I} {op : C.Op} {next : C.Reply op → Program C A}
      {reply : C.Reply op} (turn : programs party = .call op next) (answered : env party state op reply after) :
      Interleaves env (state, programs) (after, Function.update programs party (next reply))

/-- Any number of commands, in any order of the parties. -/
def Interleaved (env : I → Environment C S) : S × (I → Program C A) → S × (I → Program C A) → Prop :=
  Relation.ReflTransGen (Interleaves env)

/-- A permitted command of some party takes one state to the other. -/
def Moves (env : I → Environment C S) (permits : I → S → C.Op → Prop) (before after : S) : Prop :=
  ∃ party op reply, permits party before op ∧ env party before op reply after

/-- What a program ensures however the others move, it ensures still once they have moved. -/
theorem Ensures.yields {env : Environment C S} {rely : S → S → Prop} {permits : S → C.Op → Prop} {p : Program C A}
    {post : A → S → Prop} {state later : S} (permitted : ∀ op, permits state op → permits later op)
    (posted : ∀ result, post result state → post result later) (moved : rely state later)
    (ensured : Ensures (env.after rely) permits p post state) : Ensures (env.after rely) permits p post later := by
  cases p with
  | done result => exact posted result ensured
  | call op next =>
    constructor
    · exact permitted op ensured.1
    · intro reply after answered
      obtain ⟨changed, changes, answered⟩ := answered
      exact ensured.2 reply after ⟨changed, .head moved changes, answered⟩

section Kept

variable {env : I → Environment C S} {rely : I → S → S → Prop} {permits : I → S → C.Op → Prop} {post : I → A → S → Prop}

/-- Each party keeps to its permissions as long as the others do what it relies on. -/
structure Compatible (env : I → Environment C S) (rely : I → S → S → Prop) (permits : I → S → C.Op → Prop)
    (post : I → A → S → Prop) : Prop where
  permitted : ∀ party before after op, rely party before after → permits party before op → permits party after op
  posted : ∀ party before after result, rely party before after → post party result before → post party result after
  guarantees : ∀ mover other before after op reply, mover ≠ other → permits mover before op →
    env mover before op reply after → rely other before after

/-- The rule for parties side by side: what each one ensures while it can rely on the others holds of all of them. -/
theorem Interleaved.kept (compatible : Compatible env rely permits post) {programs rest : I → Program C A}
    {state later : S}
    (ensured : ∀ party, Ensures ((env party).after (rely party)) (permits party) (programs party) (post party) state)
    (run : Interleaved env (state, programs) (later, rest)) :
    (∀ party, Ensures ((env party).after (rely party)) (permits party) (rest party) (post party) later) ∧
      Relation.ReflTransGen (Moves env permits) state later := by
  generalize stop : (later, rest) = last at run
  induction run generalizing later rest with
  | refl =>
    cases stop
    exact ⟨ensured, .refl⟩
  | tail _ step ih =>
    cases step with
    | @command before after programs mover op next reply turn answered =>
      cases stop
      obtain ⟨here, moves⟩ := ih rfl
      have mine := here mover
      rw [turn] at mine
      constructor
      · intro party
        by_cases own : party = mover
        · subst own
          rw [Function.update_self]
          exact mine.2 reply later ⟨before, .refl, answered⟩
        · rw [Function.update_of_ne own]
          have moved := compatible.guarantees mover party before later op reply (Ne.symm own) mine.1 answered
          exact (here party).yields (fun op => compatible.permitted party before later op moved)
            (fun result => compatible.posted party before later result moved) moved
      · exact moves.tail ⟨mover, op, reply, mine.1, answered⟩

end Kept

/-! The parties of a script take their turns in a given order. -/

section Scripts

variable {T : Type}

/-- Whoever's turn it is issues its next command, if it has one. -/
def interleave (handler : I → Handler C T) : List I → T × (I → Program C A) → T × (I → Program C A)
  | [], config => config
  | party :: turns, (script, programs) => match programs party with
    | .done _ => interleave handler turns (script, programs)
    | .call op next => interleave handler turns
      ((handler party script op).2, Function.update programs party (next (handler party script op).1))

/-- Whether all commands of a scripted run meet a condition. -/
def interleaveMeets (handler : I → Handler C T) (check : I → T → (op : C.Op) → C.Reply op → Bool) :
    List I → T × (I → Program C A) → Bool
  | [], _ => true
  | party :: turns, (script, programs) => match programs party with
    | .done _ => interleaveMeets handler check turns (script, programs)
    | .call op next => check party script op (handler party script op).1 && interleaveMeets handler check turns
      ((handler party script op).2, Function.update programs party (next (handler party script op).1))

variable {env : I → Environment C S} {handler : I → Handler C T} {view : T → S}

theorem interleave_interleaved (faithful : ∀ party, (handler party).Faithful view (env party)) (turns : List I) (script : T)
    (programs : I → Program C A) :
    Interleaved env (view script, programs)
      (view (interleave handler turns (script, programs)).1, (interleave handler turns (script, programs)).2) := by
  induction turns generalizing script programs with
  | nil => exact .refl
  | cons party turns ih =>
    unfold interleave
    cases turn : programs party with
    | done result => exact ih script programs
    | call op next => exact .head (.command turn (faithful party script op)) (ih _ _)

theorem interleave_meeting (condition : I → S → (op : C.Op) → C.Reply op → Prop)
    (check : I → T → (op : C.Op) → C.Reply op → Bool) (faithful : ∀ party, (handler party).Faithful view (env party))
    (sound : ∀ party script op reply, check party script op reply = true → condition party (view script) op reply)
    {turns : List I} {script : T} {programs : I → Program C A}
    (met : interleaveMeets handler check turns (script, programs) = true) :
    Interleaved (fun party => (env party).meeting (condition party)) (view script, programs)
      (view (interleave handler turns (script, programs)).1, (interleave handler turns (script, programs)).2) := by
  induction turns generalizing script programs with
  | nil => exact .refl
  | cons party turns ih =>
    unfold interleave
    unfold interleaveMeets at met
    cases turn : programs party with
    | done result =>
      rw [turn] at met
      exact ih met
    | call op next =>
      rw [turn] at met
      obtain ⟨here, later⟩ := Bool.and_eq_true_iff.mp met
      exact .head (.command turn ⟨sound party script op _ here, faithful party script op⟩) (ih later)

end Scripts

end Wgd.Interaction
