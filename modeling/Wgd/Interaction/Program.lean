import Mathlib.Control.Basic

/-! Programs over an arbitrary set of commands. A program either has its result
or issues one command and goes on with the reply. Everything between two
commands is one moment of the shared state, so a crash or another party can
only come between commands. -/

set_option autoImplicit false

namespace Wgd.Interaction

/-- The commands a program may issue and the type of each one's reply. -/
structure Commands where
  Op : Type
  Reply : Op → Type

inductive Program (C : Commands) (A : Type) where
  | done (result : A)
  | call (op : C.Op) (next : C.Reply op → Program C A)

/-- Two families of commands side by side. -/
def Commands.sum (C D : Commands) : Commands where
  Op := C.Op ⊕ D.Op
  Reply := Sum.elim C.Reply D.Reply

variable {C D : Commands} {A B E I : Type}

namespace Program

def bind (p : Program C A) (f : A → Program C B) : Program C B :=
  match p with
  | .done result => f result
  | .call op next => .call op fun reply => (next reply).bind f

instance : Monad (Program C) where
  pure := .done
  bind := bind

@[simp] theorem pure_eq (result : A) : (pure result : Program C A) = .done result := rfl

@[simp] theorem done_bind (result : A) (f : A → Program C B) : (Program.done result >>= f) = f result := rfl

@[simp] theorem call_bind (op : C.Op) (next : C.Reply op → Program C A) (f : A → Program C B) :
    (Program.call op next >>= f) = .call op fun reply => next reply >>= f := rfl

theorem bind_done (p : Program C A) : (p >>= Program.done) = p := by
  induction p with
  | done result => rfl
  | call op next ih => simp only [call_bind, ih]

theorem bind_assoc' {F : Type} (p : Program C A) (f : A → Program C B) (g : B → Program C F) :
    (p >>= f >>= g) = (p >>= fun a => f a >>= g) := by
  induction p with
  | done result => rfl
  | call op next ih => simp only [call_bind, ih]

instance : LawfulMonad (Program C) :=
  LawfulMonad.mk' (Program C) bind_done (fun _ _ => rfl) bind_assoc'

def command (op : C.Op) : Program C (C.Reply op) := .call op .done

/-- Go on with the value of a fallible program, or hand its error on. -/
def attempt (p : Program C (Except E A)) (f : A → Program C (Except E B)) : Program C (Except E B) :=
  p >>= fun
    | .error error => .done (.error error)
    | .ok value => f value

/-- A fallible step for each item, up to the first error. -/
def forEach (body : I → Program C (Except E Unit)) : List I → Program C (Except E Unit)
  | [] => .done (.ok ())
  | item :: rest => (body item).attempt fun () => forEach body rest

/-- The command that comes next, if there is one. -/
def upcoming : Program C A → Option C.Op
  | .done _ => none
  | .call op _ => some op

theorem upcoming_call {p : Program C A} {op : C.Op} (first : p.upcoming = some op) :
    ∃ next : C.Reply op → Program C A, p = .call op next := by
  cases p with
  | done result => cases first
  | call op' next =>
    cases first
    exact ⟨next, rfl⟩

/-- A program of the first family among the commands of both. -/
def inl : Program C A → Program (C.sum D) A
  | .done result => .done result
  | .call op next => .call (Sum.inl op) fun reply => (next reply).inl

/-- A program of the second family among the commands of both. -/
def inr : Program D A → Program (C.sum D) A
  | .done result => .done result
  | .call op next => .call (Sum.inr op) fun reply => (next reply).inr

end Program

end Wgd.Interaction
