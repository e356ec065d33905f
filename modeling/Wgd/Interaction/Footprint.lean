import Mathlib.Data.List.Forall2
import Wgd.Interaction.Rules

/-! What a program can do whatever it is told: the commands it may issue and the
results it may have, without any state. -/

set_option autoImplicit false

namespace Wgd.Interaction

variable {C : Commands} {S A B E I : Type}

/-- Whatever the replies, only such commands are issued, and the result is such a one. -/
def Issues (allowed : C.Op → Prop) (p : Program C A) (post : A → Prop) : Prop :=
  match p with
  | .done result => post result
  | .call op next => allowed op ∧ ∀ reply, Issues allowed (next reply) post

/-- Some replies lead to this result. -/
def MayReturn : Program C A → A → Prop
  | .done value, result => value = result
  | .call _ next, result => ∃ reply, MayReturn (next reply) result

theorem mayReturn_interpret {T : Type} (handler : Handler C T) (p : Program C A) (script : T) :
    MayReturn p (interpret handler p script).1 := by
  induction p generalizing script with
  | done value => rfl
  | call op next ih => exact ⟨_, ih _ _⟩

/-- What holds of an outcome if its error is of a kind and, for a value, the rest is. -/
def Outcome (failed : E → Prop) (rest : A → Prop) : Except E A → Prop
  | .error error => failed error
  | .ok value => rest value

@[simp] theorem outcome_error {failed : E → Prop} {rest : A → Prop} {error : E} :
    Outcome failed rest (.error error) ↔ failed error := Iff.rfl

@[simp] theorem outcome_ok {failed : E → Prop} {rest : A → Prop} {value : A} :
    Outcome failed rest (.ok value) ↔ rest value := Iff.rfl

namespace Issues

variable {allowed : C.Op → Prop} {p : Program C A} {post : A → Prop}

@[simp] theorem done_iff {result : A} : Issues allowed (.done result) post ↔ post result := Iff.rfl

@[simp] theorem pure_iff {result : A} : Issues allowed (pure result : Program C A) post ↔ post result := Iff.rfl

theorem call_iff {op : C.Op} {next : C.Reply op → Program C A} :
    Issues allowed (.call op next) post ↔ allowed op ∧ ∀ reply, Issues allowed (next reply) post := Iff.rfl

theorem mono {post' : A → Prop} (weaker : ∀ result, post result → post' result) (issues : Issues allowed p post) :
    Issues allowed p post' := by
  induction p with
  | done result => exact weaker _ issues
  | call op next ih => exact ⟨issues.1, fun reply => ih reply (issues.2 reply)⟩

theorem relax {allowed' : C.Op → Prop} (weaker : ∀ op, allowed op → allowed' op) (issues : Issues allowed p post) :
    Issues allowed' p post := by
  induction p with
  | done result => exact issues
  | call op next ih => exact ⟨weaker _ issues.1, fun reply => ih reply (issues.2 reply)⟩

@[simp] theorem bind_iff {f : A → Program C B} {post : B → Prop} :
    Issues allowed (p >>= f) post ↔ Issues allowed p fun a => Issues allowed (f a) post := by
  induction p with
  | done result => exact Iff.rfl
  | call op next ih => simp only [Program.call_bind, call_iff, ih]

@[simp] theorem command_iff {op : C.Op} {post : C.Reply op → Prop} :
    Issues allowed (Program.command op) post ↔ allowed op ∧ ∀ reply, post reply := Iff.rfl

/-- The rule for one program after another. -/
theorem bind {f : A → Program C B} {mid : A → Prop} {post : B → Prop} (first : Issues allowed p mid)
    (rest : ∀ value, mid value → Issues allowed (f value) post) : Issues allowed (p >>= f) post :=
  bind_iff.mpr (first.mono rest)

/-- The rule for one fallible program after another. -/
theorem attempt {p : Program C (Except E A)} {f : A → Program C (Except E B)} {failed : E → Prop} {mid : A → Prop}
    {post : B → Prop} (first : Issues allowed p (Outcome failed mid))
    (rest : ∀ value, mid value → Issues allowed (f value) (Outcome failed post)) :
    Issues allowed (p.attempt f) (Outcome failed post) := by
  rw [Program.attempt, bind_iff]
  refine first.mono fun outcome holds => ?_
  cases outcome with
  | error error => exact holds
  | ok value => exact rest value holds

theorem forEach {body : I → Program C (Except E Unit)} {failed : E → Prop}
    (each : ∀ item, Issues allowed (body item) (Outcome failed fun _ => True)) (items : List I) :
    Issues allowed (Program.forEach body items) (Outcome failed fun _ => True) := by
  induction items with
  | nil => trivial
  | cons item rest ih => exact attempt (each item) fun _ _ => ih

theorem foldlM {f : B → I → Program C B} {items : List I}
    (each : ∀ item ∈ items, ∀ value, Issues allowed (f value item) fun _ => True) (value : B) :
    Issues allowed (items.foldlM f value) fun _ => True := by
  induction items generalizing value with
  | nil => trivial
  | cons item rest ih =>
    rw [List.foldlM_cons]
    apply bind (each item List.mem_cons_self value)
    intro value' _
    exact ih (fun other member => each other (List.mem_cons_of_mem _ member)) value'

theorem mapM {f : I → Program C A} {items : List I} {related : I → A → Prop}
    (each : ∀ item ∈ items, Issues allowed (f item) (related item)) :
    Issues allowed (items.mapM f) (List.Forall₂ related items) := by
  induction items with
  | nil => exact .nil
  | cons item rest ih =>
    rw [List.mapM_cons]
    apply bind (each item List.mem_cons_self)
    intro value first
    apply bind (ih fun other member => each other (List.mem_cons_of_mem _ member))
    intro values later
    exact .cons first later

theorem mapM_each {f : I → Program C A} {items : List I} {holds : A → Prop}
    (each : ∀ item ∈ items, Issues allowed (f item) holds) :
    Issues allowed (items.mapM f) fun results => ∀ result ∈ results, holds result := by
  apply (mapM each).mono
  intro results related
  induction related with
  | nil => simp
  | cons first _ ih =>
    rw [List.forall_mem_cons]
    exact ⟨first, ih fun item member => each item (List.mem_cons_of_mem _ member)⟩

theorem inl {D : Commands} {allowed : (C.sum D).Op → Prop} (issues : Issues (fun op => allowed (.inl op)) p post) :
    Issues allowed (p.inl : Program (C.sum D) A) post := by
  induction p with
  | done result => exact issues
  | call op next ih => exact ⟨issues.1, fun reply => ih reply (issues.2 reply)⟩

theorem inr {D : Commands} {q : Program D A} {allowed : (C.sum D).Op → Prop} (issues : Issues (fun op => allowed (.inr op)) q post) :
    Issues allowed (q.inr : Program (C.sum D) A) post := by
  induction q with
  | done result => exact issues
  | call op next ih => exact ⟨issues.1, fun reply => ih reply (issues.2 reply)⟩

/-- A condition that none of the commands breaks holds throughout. -/
theorem keeps {env : Environment C S} {kept : S → Prop} {state : S} (issues : Issues allowed p post)
    (stays : ∀ s op reply after, allowed op → kept s → env s op reply after → kept after) (start : kept state) :
    Ensures env (fun s op => kept s ∧ allowed op) p (fun result s => kept s ∧ post result) state := by
  induction p generalizing state with
  | done result => exact ⟨start, issues⟩
  | call op next ih =>
    exact ⟨⟨start, issues.1⟩, fun reply after answered =>
      ih reply (issues.2 reply) (stays _ _ _ _ issues.1 start answered)⟩

theorem any (p : Program C A) : Issues (fun _ => True) p fun _ => True := by
  induction p with
  | done result => trivial
  | call op next ih => exact ⟨trivial, ih⟩

/-- What holds whatever the replies is ensured in every environment. -/
theorem ensures {env : Environment C S} {state : S} (issues : Issues allowed p post) :
    Ensures env (fun _ op => allowed op) p (fun result _ => post result) state := by
  have kept := @keeps C S A allowed p post env (fun _ => True) state issues (fun _ _ _ _ _ _ _ => trivial) trivial
  exact (kept.mono fun _ _ holds => holds.2).relax fun _ _ permitted => permitted.2

/-- What every result is, a possible result is. -/
theorem mayReturn {result : A} (issues : Issues allowed p post) (possible : MayReturn p result) : post result := by
  induction p with
  | done value =>
    cases possible
    exact issues
  | call op next ih =>
    obtain ⟨reply, possible⟩ := possible
    exact ih reply (issues.2 reply) possible

end Issues
end Wgd.Interaction
