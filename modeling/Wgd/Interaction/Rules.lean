import Mathlib.Logic.Relation
import Wgd.Interaction.Program

/-! What a program ensures over a nondeterministic environment: a condition on
every command it issues, so also on every state it can be killed in, and one on
its end. -/

set_option autoImplicit false

namespace Wgd.Interaction

/-- The replies each command may get from a state, and the state it then leaves. -/
def Environment (C : Commands) (S : Type) : Type := S → (op : C.Op) → C.Reply op → S → Prop

variable {C D : Commands} {S A B E I : Type}

/-- One command of a running program. -/
inductive Advances (env : Environment C S) : S × Program C A → S × Program C A → Prop where
  | command {state after : S} {op : C.Op} {next : C.Reply op → Program C A} {reply : C.Reply op}
      (answered : env state op reply after) :
      Advances env (state, .call op next) (after, next reply)

/-- A running program may be stopped after any number of its commands. -/
def Runs (env : Environment C S) : S × Program C A → S × Program C A → Prop :=
  Relation.ReflTransGen (Advances env)

def Completes (env : Environment C S) (p : Program C A) (state : S) (result : A) (final : S) : Prop :=
  Runs env (state, p) (final, .done result)

/-- Whatever the replies, the program issues each command only where it is
permitted, and every completed run ends with `post`. -/
def Ensures (env : Environment C S) (permits : S → C.Op → Prop) (p : Program C A) (post : A → S → Prop)
    (state : S) : Prop :=
  match p with
  | .done result => post result state
  | .call op next => permits state op ∧
      ∀ reply after, env state op reply after → Ensures env permits (next reply) post after

/-- The permission for invariants: any command, but only in a state of this kind. -/
def always (C : Commands) (inv : S → Prop) : S → C.Op → Prop := fun state _ => inv state

theorem Runs.mono {env env' : Environment C S} (more : ∀ state op reply after, env state op reply after → env' state op reply after)
    {config config' : S × Program C A} (run : Runs env config config') : Runs env' config config' := by
  refine Relation.ReflTransGen.mono (fun _ _ step => ?_) _ _ run
  cases step with
  | command answered => exact .command (more _ _ _ _ answered)

variable {env : Environment C S} {permits : S → C.Op → Prop} {p : Program C A} {post : A → S → Prop} {state : S}

namespace Ensures

@[simp] theorem done_iff {result : A} : Ensures env permits (.done result) post state ↔ post result state := Iff.rfl

theorem call_iff {op : C.Op} {next : C.Reply op → Program C A} :
    Ensures env permits (.call op next) post state ↔ permits state op ∧
      ∀ reply after, env state op reply after → Ensures env permits (next reply) post after := Iff.rfl

theorem mono {post' : A → S → Prop} (weaker : ∀ result s, post result s → post' result s)
    (ensured : Ensures env permits p post state) : Ensures env permits p post' state := by
  induction p generalizing state with
  | done result => exact weaker _ _ ensured
  | call op next ih => exact ⟨ensured.1, fun reply after answered => ih reply (ensured.2 reply after answered)⟩

theorem relax {permits' : S → C.Op → Prop} (weaker : ∀ s op, permits s op → permits' s op)
    (ensured : Ensures env permits p post state) : Ensures env permits' p post state := by
  induction p generalizing state with
  | done result => exact ensured
  | call op next ih => exact ⟨weaker _ _ ensured.1, fun reply after answered => ih reply (ensured.2 reply after answered)⟩

theorem and {permits' : S → C.Op → Prop} {post' : A → S → Prop} (left : Ensures env permits p post state)
    (right : Ensures env permits' p post' state) :
    Ensures env (fun s op => permits s op ∧ permits' s op) p (fun result s => post result s ∧ post' result s) state := by
  induction p generalizing state with
  | done result => exact ⟨left, right⟩
  | call op next ih =>
    exact ⟨⟨left.1, right.1⟩, fun reply after answered =>
      ih reply (left.2 reply after answered) (right.2 reply after answered)⟩

/-- Fewer replies leave more ensured. -/
theorem narrower {env' : Environment C S} (fewer : ∀ s op reply after, env' s op reply after → env s op reply after)
    (ensured : Ensures env permits p post state) : Ensures env' permits p post state := by
  induction p generalizing state with
  | done result => exact ensured
  | call op next ih =>
    exact ⟨ensured.1, fun reply after answered => ih reply (ensured.2 reply after (fewer _ _ _ _ answered))⟩

theorem any (p : Program C A) (state : S) : Ensures env (fun _ _ => True) p (fun _ _ => True) state := by
  induction p generalizing state with
  | done result => trivial
  | call op next ih => exact ⟨trivial, fun reply after _ => ih reply after⟩

/-- The rule for one program after another. -/
@[simp] theorem bind_iff {f : A → Program C B} {post : B → S → Prop} :
    Ensures env permits (p >>= f) post state ↔
      Ensures env permits p (fun a s => Ensures env permits (f a) post s) state := by
  induction p generalizing state with
  | done result => exact Iff.rfl
  | call op next ih =>
    simp only [Program.call_bind, call_iff, ih]

@[simp] theorem command_iff {op : C.Op} {post : C.Reply op → S → Prop} :
    Ensures env permits (Program.command op) post state ↔ permits state op ∧
      ∀ reply after, env state op reply after → post reply after := Iff.rfl

/-- The rule for one fallible program after another. -/
@[simp] theorem attempt_iff {p : Program C (Except E A)} {f : A → Program C (Except E B)}
    {post : Except E B → S → Prop} :
    Ensures env permits (p.attempt f) post state ↔
      Ensures env permits p (fun outcome s => match outcome with
        | .error error => post (.error error) s
        | .ok value => Ensures env permits (f value) post s) state := by
  rw [Program.attempt, bind_iff]
  constructor <;>
  · refine mono fun outcome s ensured => ?_
    cases outcome <;> exact ensured

/-- The rule for fallible steps in turn, with an invariant on what is left. -/
theorem forEach (inv : List I → S → Prop) {body : I → Program C (Except E Unit)} {post : Except E Unit → S → Prop}
    (step : ∀ item rest s, inv (item :: rest) s → Ensures env permits (body item) (fun outcome s' => match outcome with
      | .error error => post (.error error) s'
      | .ok () => inv rest s') s)
    (finish : ∀ s, inv [] s → post (.ok ()) s) {items : List I} (start : inv items state) :
    Ensures env permits (Program.forEach body items) post state := by
  induction items generalizing state with
  | nil => exact finish state start
  | cons item rest ih =>
    rw [Program.forEach, attempt_iff]
    refine (step item rest state start).mono fun outcome s' reached => ?_
    cases outcome with
    | error error => exact reached
    | ok value => exact ih reached

/-- The rule for a loop over a list, with an invariant on what is left of it. -/
theorem foldlM (inv : List I → B → S → Prop) {f : B → I → Program C B}
    (step : ∀ item rest value s, inv (item :: rest) value s →
      Ensures env permits (f value item) (fun value' s' => inv rest value' s') s)
    {items : List I} {value : B} (start : inv items value state) :
    Ensures env permits (items.foldlM f value) (fun value' s' => inv [] value' s') state := by
  induction items generalizing value state with
  | nil => exact start
  | cons item rest ih =>
    rw [List.foldlM_cons, bind_iff]
    exact (step item rest value state start).mono fun value' s' kept => ih kept

/-- A condition that no command of the environment breaks holds throughout every program. -/
theorem unaffected {kept : S → Prop}
    (keeps : ∀ s op reply after, kept s → env s op reply after → kept after) (p : Program C A) (start : kept state) :
    Ensures env (always C kept) p (fun _ s => kept s) state := by
  induction p generalizing state with
  | done result => exact start
  | call op next ih => exact ⟨start, fun reply after answered => ih reply (keeps _ _ _ _ start answered)⟩

/-- Forward simulation: what a program ensures over an abstract environment it
ensures over every environment whose steps the abstract one can match. -/
theorem simulated {G : Type} {abstract : Environment C G} {allows : G → C.Op → Prop} {post : A → G → Prop}
    (related : G → S → Prop)
    (step : ∀ g s op reply after, related g s → allows g op → env s op reply after →
      ∃ g', abstract g op reply g' ∧ related g' after)
    (permit : ∀ g s op, related g s → allows g op → permits s op)
    {g : G} (start : related g state) (ensured : Ensures abstract allows p post g) :
    Ensures env permits p (fun result s => ∃ g', post result g' ∧ related g' s) state := by
  induction p generalizing g state with
  | done result => exact ⟨g, ensured, start⟩
  | call op next ih =>
    refine ⟨permit g state op start ensured.1, fun reply after answered => ?_⟩
    obtain ⟨g', matched, related'⟩ := step g state op reply after start ensured.1 answered
    exact ih reply related' (ensured.2 reply g' matched)

theorem runs {after : S} {rest : Program C A} (ensured : Ensures env permits p post state)
    (run : Runs env (state, p) (after, rest)) : Ensures env permits rest post after := by
  generalize start : (state, p) = first at run
  generalize stop : (after, rest) = last at run
  induction run generalizing after rest with
  | refl =>
    cases start
    cases stop
    exact ensured
  | tail earlier step ih =>
    cases step with
    | command answered =>
      cases stop
      exact (ih rfl).2 _ _ answered

theorem completes {result : A} {final : S} (ensured : Ensures env permits p post state)
    (completed : Completes env p state result final) : post result final :=
  ensured.runs completed

/-- What each permitted step does to the state, a whole run does. -/
theorem related {R : S → S → Prop} (refl : ∀ s, R s s) (trans : ∀ a b c, R a b → R b c → R a c)
    (step : ∀ s op reply after, permits s op → env s op reply after → R s after) {after : S} {rest : Program C A}
    (ensured : Ensures env permits p post state) (run : Runs env (state, p) (after, rest)) : R state after := by
  generalize start : (state, p) = first at run
  generalize stop : (after, rest) = last at run
  induction run generalizing after rest with
  | refl =>
    cases start
    cases stop
    exact refl state
  | tail earlier last ih =>
    cases last with
    | command answered =>
      cases stop
      subst start
      have here := ensured.runs earlier
      exact trans _ _ _ (ih rfl) (step _ _ _ _ here.1 answered)

/-- An invariant of every moment, also the one at which the program is killed. -/
theorem now {inv : S → Prop} (ensured : Ensures env (always C inv) p post state)
    (ends : ∀ result s, post result s → inv s) : inv state := by
  cases p with
  | done result => exact ends result state ensured
  | call op next => exact ensured.1

end Ensures

/-- Every command gets some reply in every state. -/
def Environment.Total (env : Environment C S) : Prop := ∀ state op, ∃ reply after, env state op reply after

/-- Where every command is answered, every program completes. -/
theorem Environment.Total.completes (total : env.Total) (p : Program C A) (state : S) :
    ∃ result final, Completes env p state result final := by
  induction p generalizing state with
  | done result => exact ⟨result, state, .refl⟩
  | call op next ih =>
    obtain ⟨reply, after, answered⟩ := total state op
    obtain ⟨result, final, completed⟩ := ih reply after
    exact ⟨result, final, .head (.command answered) completed⟩

/-! A scripted environment: what a program does against one handler can be evaluated. -/

section Scripts

variable {T : Type}

/-- One answer to every command, from a state of its own. -/
def Handler (C : Commands) (T : Type) : Type := T → (op : C.Op) → C.Reply op × T

/-- The handler answers as the environment may, seen through a view of its state. -/
def Handler.Faithful (handler : Handler C T) (view : T → S) (env : Environment C S) : Prop :=
  ∀ script op, env (view script) op (handler script op).1 (view (handler script op).2)

def interpret (handler : Handler C T) : Program C A → T → A × T
  | .done result, script => (result, script)
  | .call op next, script => interpret handler (next (handler script op).1) (handler script op).2

/-- The first commands of a run only, as when the program is killed there. -/
def interpretFor (handler : Handler C T) : Nat → T × Program C A → T × Program C A
  | 0, config => config
  | _ + 1, (script, .done result) => (script, .done result)
  | fuel + 1, (script, .call op next) => interpretFor handler fuel ((handler script op).2, next (handler script op).1)

variable {handler : Handler C T} {view : T → S}

theorem interpretFor_runs (faithful : handler.Faithful view env) (fuel : Nat) (script : T) (p : Program C A) :
    Runs env (view script, p) (view (interpretFor handler fuel (script, p)).1, (interpretFor handler fuel (script, p)).2) := by
  induction fuel generalizing script p with
  | zero => exact .refl
  | succ fuel ih =>
    cases p with
    | done result => exact .refl
    | call op next => exact .head (.command (faithful script op)) (ih _ _)

theorem interpret_completes (faithful : handler.Faithful view env) (script : T) (p : Program C A) :
    Completes env p (view script) (interpret handler p script).1 (view (interpret handler p script).2) := by
  induction p generalizing script with
  | done result => exact .refl
  | call op next ih => exact .head (.command (faithful script op)) (ih _ _)

/-- Only the steps that meet a condition on the state before them and the reply. -/
def Environment.meeting (env : Environment C S) (condition : S → (op : C.Op) → C.Reply op → Prop) : Environment C S :=
  fun state op reply final => condition state op reply ∧ env state op reply final

/-- Whether all commands of a scripted run meet a condition. -/
def meets (handler : Handler C T) (condition : T → (op : C.Op) → C.Reply op → Bool) : Program C A → T → Bool
  | .done _, _ => true
  | .call op next, script =>
    condition script op (handler script op).1 && meets handler condition (next (handler script op).1) (handler script op).2

/-- A scripted run whose commands are all checked is one of the environment. -/
theorem interpret_checked (check : T → (op : C.Op) → C.Reply op → Bool)
    (sound : ∀ script op, check script op (handler script op).1 = true →
      env (view script) op (handler script op).1 (view (handler script op).2)) {script : T} {p : Program C A}
    (met : meets handler check p script = true) :
    Completes env p (view script) (interpret handler p script).1 (view (interpret handler p script).2) := by
  induction p generalizing script with
  | done result => exact .refl
  | call op next ih =>
    obtain ⟨here, later⟩ := Bool.and_eq_true_iff.mp met
    exact .head (.command (sound script op here)) (ih _ later)

theorem interpret_meets (condition : S → (op : C.Op) → C.Reply op → Prop)
    (check : T → (op : C.Op) → C.Reply op → Bool) (faithful : handler.Faithful view env)
    (sound : ∀ script op reply, check script op reply = true → condition (view script) op reply) {script : T}
    {p : Program C A} (met : meets handler check p script = true) :
    Completes (env.meeting condition) p (view script) (interpret handler p script).1 (view (interpret handler p script).2) :=
  interpret_checked check (fun script op here => ⟨sound script op _ here, faithful script op⟩) met

end Scripts

/-! Environments built from others. -/

section Combinators

variable {G : Type}

/-- Others may change the state in any way `outside` allows before each command. -/
def Environment.after (env : Environment C S) (outside : S → S → Prop) : Environment C S :=
  fun state op reply final => ∃ changed, Relation.ReflTransGen outside state changed ∧ env changed op reply final

/-- A scripted run goes on after others have changed the state. -/
theorem interpretFor_after {T : Type} {env : Environment C S} {outside : S → S → Prop} {handler : Handler C T} {view : T → S}
    (faithful : handler.Faithful view env) {state : S} {script : T} (changes : Relation.ReflTransGen outside state (view script))
    {op : C.Op} {next : C.Reply op → Program C A} (fuel : Nat) :
    Runs (env.after outside) (state, .call op next)
      (view (interpretFor handler (fuel + 1) (script, .call op next)).1,
        (interpretFor handler (fuel + 1) (script, .call op next)).2) := by
  apply Relation.ReflTransGen.head (.command ⟨_, changes, faithful script op⟩)
  exact Runs.mono (fun state _ _ _ answered => ⟨state, .refl, answered⟩) (interpretFor_runs faithful fuel _ _)

theorem Environment.Total.after {env : Environment C S} (total : env.Total) (outside : S → S → Prop) :
    (env.after outside).Total := by
  intro state op
  obtain ⟨reply, final, answered⟩ := total state op
  exact ⟨reply, final, state, .refl, answered⟩

/-- Commands that have nothing to do with the state, whatever they answer. -/
def Environment.idle (C : Commands) (S : Type) : Environment C S := fun state _ _ final => final = state

/-- A ghost that only watches the commands and their replies. -/
def Environment.observe (env : Environment C S) (observer : G → (op : C.Op) → C.Reply op → G) :
    Environment C (S × G) :=
  fun state op reply final => env state.1 op reply final.1 ∧ final.2 = observer state.2 op reply

/-- What the ghost has noted by the end of a run is true of every step of it. -/
theorem Runs.noted {observer : G → (op : C.Op) → C.Reply op → G} (notes : G → (op : C.Op) → C.Reply op → Prop)
    (noted : ∀ ghost op reply, notes (observer ghost op reply) op reply)
    (lasting : ∀ ghost op reply op' reply', notes ghost op reply → notes (observer ghost op' reply') op reply)
    {state final : S × G} {p rest : Program C A} (run : Runs (env.observe observer) (state, p) (final, rest)) :
    Runs (env.meeting fun _ => notes final.2) (state.1, p) (final.1, rest) ∧
      ∀ op reply, notes state.2 op reply → notes final.2 op reply := by
  generalize start : (state, p) = first at run
  generalize stop : (final, rest) = last at run
  induction run using Relation.ReflTransGen.head_induction_on generalizing state p with
  | refl =>
    cases start
    cases stop
    exact ⟨.refl, fun _ _ same => same⟩
  | head step _ ih =>
    cases step with
    | @command _ after op next reply answered =>
      cases start
      cases stop
      obtain ⟨later, stays⟩ := ih rfl
      have here := noted state.2 op reply
      rw [← answered.2] at here
      refine ⟨.head (.command ⟨stays _ _ here, answered.1⟩) later, ?_⟩
      intro op reply before
      apply stays
      rw [answered.2]
      exact lasting _ _ _ _ _ before

/-- Two families of commands over one state. -/
def Environment.both (left : Environment C S) (right : Environment D S) : Environment (C.sum D) S :=
  fun state op => match op with
    | .inl op => left state op
    | .inr op => right state op

section Handlers

variable {T : Type} {view : T → S}

def Handler.observe (handler : Handler C T) (observer : G → (op : C.Op) → C.Reply op → G) : Handler C (T × G) :=
  fun script op => ((handler script.1 op).1, (handler script.1 op).2, observer script.2 op (handler script.1 op).1)

theorem Handler.Faithful.observe {handler : Handler C T} (faithful : handler.Faithful view env)
    (observer : G → (op : C.Op) → C.Reply op → G) :
    (handler.observe observer).Faithful (fun script => (view script.1, script.2)) (env.observe observer) :=
  fun script op => ⟨faithful script.1 op, rfl⟩

def Handler.both (left : Handler C T) (right : Handler D T) : Handler (C.sum D) T :=
  fun script op => match op with
    | .inl op => left script op
    | .inr op => right script op

theorem Handler.Faithful.both {left : Handler C T} {right : Handler D T} {leftEnv : Environment C S}
    {rightEnv : Environment D S} (first : left.Faithful view leftEnv) (second : right.Faithful view rightEnv) :
    (left.both right).Faithful view (leftEnv.both rightEnv)
  | script, .inl op => first script op
  | script, .inr op => second script op

/-- An environment some handler speaks for leaves no command unanswered. -/
theorem Handler.Faithful.total {handler : Handler C S} (faithful : handler.Faithful id env) : env.Total :=
  fun state op => ⟨_, _, faithful state op⟩

/-- Commands that have nothing to do with the state get one fixed reply each. -/
def Handler.fixed (replies : (op : C.Op) → C.Reply op) : Handler C T := fun script op => (replies op, script)

theorem Handler.fixed_faithful (replies : (op : C.Op) → C.Reply op) :
    (Handler.fixed replies : Handler C T).Faithful view (.idle C S) :=
  fun _ _ => rfl

end Handlers

variable {joint : Environment (C.sum D) S} {permits : S → (C.sum D).Op → Prop}

theorem Ensures.inl_iff {p : Program C A} :
    Ensures joint permits p.inl post state ↔
      Ensures (fun s op => joint s (.inl op)) (fun s op => permits s (.inl op)) p post state := by
  induction p generalizing state with
  | done result => exact Iff.rfl
  | call op next ih =>
    constructor
    · exact fun ensured => ⟨ensured.1, fun reply after answered => ih reply |>.mp (ensured.2 reply after answered)⟩
    · exact fun ensured => ⟨ensured.1, fun reply after answered => ih reply |>.mpr (ensured.2 reply after answered)⟩

theorem Ensures.inr_iff {p : Program D A} :
    Ensures joint permits p.inr post state ↔
      Ensures (fun s op => joint s (.inr op)) (fun s op => permits s (.inr op)) p post state := by
  induction p generalizing state with
  | done result => exact Iff.rfl
  | call op next ih =>
    constructor
    · exact fun ensured => ⟨ensured.1, fun reply after answered => ih reply |>.mp (ensured.2 reply after answered)⟩
    · exact fun ensured => ⟨ensured.1, fun reply after answered => ih reply |>.mpr (ensured.2 reply after answered)⟩

theorem Ensures.idle {permits : S → C.Op → Prop} (permitted : ∀ op, permits state op) (p : Program C A) :
    Ensures (.idle C S) permits p (fun _ final => final = state) state := by
  induction p with
  | done result => exact rfl
  | call op next ih => exact ⟨permitted op, fun reply after answered => answered ▸ ih reply⟩

end Combinators

end Wgd.Interaction
