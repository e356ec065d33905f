import Mathlib.Logic.Relation

/-! The loop that sweeps again while a restore keeps failing (`privileged/dns_watch.rs`),
and its callers. One flag keeps the loop single: a caller that finds it set returns
at once, and the loop clears it some steps after it has decided to stop. -/

set_option autoImplicit false

namespace Wgd.Dns

/-- Where the thread of a retry loop stands. -/
inductive RetryAt where
  | sleeping
  | sweeping
  /-- The sweep is over: how many records it left restorable, or its error. -/
  | swept (outcome : Except String Nat)
  /-- Out of the loop, with the flag still set. -/
  | stopping

/-- What the thread does next; `none` is its end. -/
inductive RetryAt.Next : RetryAt → Option RetryAt → Prop where
  | wake : Next .sleeping (some .sweeping)
  | sweep (outcome : Except String Nat) : Next .sweeping (some (.swept outcome))
  | stop : Next (.swept (.ok 0)) (some .stopping)
  | goOn {outcome : Except String Nat} (left : outcome ≠ .ok 0) : Next (.swept outcome) (some .sleeping)
  | clear : Next .stopping none

structure RetryState where
  /-- The `RETRY_ACTIVE` flag. -/
  retryActive : Bool
  /-- Callers that set the flag and have not spawned their loop yet. -/
  spawning : Nat
  loops : List RetryAt

namespace RetryState

/-- No caller yet. -/
def start : RetryState := ⟨false, 0, []⟩

inductive Event where
  /-- `ensure_retry_loop` finds the flag set and returns. -/
  | lose
  | win
  /-- `ensure_retry_loop` spawns the loop and returns. -/
  | spawn
  | loop

def Event.returns : Event → Bool
  | .lose | .spawn => true
  | .win | .loop => false

inductive Step : RetryState → Event → RetryState → Prop where
  | lose {n : Nat} {loops : List RetryAt} : Step ⟨true, n, loops⟩ .lose ⟨true, n, loops⟩
  | win {n : Nat} {loops : List RetryAt} : Step ⟨false, n, loops⟩ .win ⟨true, n + 1, loops⟩
  | spawn {active : Bool} {n : Nat} {loops : List RetryAt} :
      Step ⟨active, n + 1, loops⟩ .spawn ⟨active, n, .sleeping :: loops⟩
  | loop {active : Bool} {n : Nat} {before later : List RetryAt} {place : RetryAt} {next : Option RetryAt}
      (goes : place.Next next) :
      Step ⟨active, n, before ++ place :: later⟩ .loop ⟨active && next.isSome, n, before ++ next.toList ++ later⟩

/-- The states of all interleavings of any number of callers with the loop. -/
def Reachable : RetryState → Prop :=
  Relation.ReflTransGen (fun s s' => ∃ event, Step s event s') start

/-! ### The single loop -/

/-- The flag stands for exactly one loop, running or about to be spawned. -/
def Single (s : RetryState) : Prop :=
  s.spawning + s.loops.length = if s.retryActive then 1 else 0

theorem Single.step {s s' : RetryState} {event : Event} (single : Single s) (step : Step s event s') : Single s' := by
  unfold Single at *
  cases step with
  | lose => exact single
  | win =>
    simp only [Bool.false_eq_true, if_false] at single
    simp only [if_true]
    omega
  | spawn =>
    simp only [List.length_cons] at *
    omega
  | @loop active n before later place next goes =>
    -- the loop that takes the step is the only one, so the flag is its own
    cases active with
    | false => simp at single
    | true =>
      simp only [List.length_append, List.length_cons, if_true] at single
      cases next with
      | none =>
        simp only [Option.isSome_none, Bool.and_false, Bool.false_eq_true, if_false, Option.toList_none,
          List.append_nil, List.length_append]
        omega
      | some next =>
        simp only [Option.isSome_some, Bool.and_true, if_true, Option.toList_some, List.length_append,
          List.length_singleton]
        omega

theorem Reachable.single {s : RetryState} (reached : Reachable s) : Single s := by
  induction reached with
  | refl => rfl
  | tail _ taken ih =>
    obtain ⟨event, step⟩ := taken
    exact ih.step step

/-! ### Requests -/

/-- The thread may come to its end without starting another sweep. -/
inductive EndsUnswept : RetryAt → Prop where
  | ends {place : RetryAt} (last : place.Next none) : EndsUnswept place
  | step {place next : RetryAt} (goes : place.Next (some next)) (awake : place ≠ .sleeping)
      (later : EndsUnswept next) : EndsUnswept place

/-- Some loop is active and will start another complete sweep. -/
def Honoured (s : RetryState) : Prop := ∃ place ∈ s.loops, ¬ EndsUnswept place

/-- A loop that will surely sweep once more: it sleeps, or its last sweep left work. -/
def WillRepeat : RetryAt → Prop
  | .sleeping => True
  | .swept outcome => outcome ≠ .ok 0
  | .sweeping | .stopping => False

theorem endsUnswept_stopping : EndsUnswept .stopping := .ends .clear

theorem endsUnswept_finished : EndsUnswept (.swept (.ok 0)) := .step .stop (by simp) endsUnswept_stopping

theorem not_endsUnswept_sleeping : ¬ EndsUnswept .sleeping := by
  intro ends
  cases ends with
  | ends last => cases last
  | step _ awake _ => exact awake rfl

theorem not_endsUnswept_iff (place : RetryAt) : ¬ EndsUnswept place ↔ WillRepeat place := by
  cases place with
  | sleeping => exact iff_of_true not_endsUnswept_sleeping trivial
  | sweeping => exact iff_of_false (fun keeps => keeps (.step (.sweep (.ok 0)) (by simp) endsUnswept_finished)) id
  | stopping => exact iff_of_false (fun keeps => keeps endsUnswept_stopping) id
  | swept outcome =>
    constructor
    · rintro keeps rfl
      exact keeps endsUnswept_finished
    · intro left ends
      cases ends with
      | ends last => cases last
      | step goes _ later =>
        cases goes with
        | stop => exact left rfl
        | goOn _ => exact not_endsUnswept_sleeping later

theorem honoured_iff {s : RetryState} (single : Single s) (set : s.retryActive = true) :
    Honoured s ↔ s.loops = [.sleeping] ∨ ∃ outcome, outcome ≠ .ok 0 ∧ s.loops = [.swept outcome] := by
  unfold Single at single
  simp only [set, if_true] at single
  simp only [Honoured, not_endsUnswept_iff]
  cases running : s.loops with
  | nil => simp
  | cons place others =>
    have alone : others = [] := by
      rw [← List.length_eq_zero_iff]
      simp only [running, List.length_cons] at single
      omega
    cases place <;> simp [alone, WillRepeat]

/-- When a call returns, its request is sure of another sweep exactly if the call
spawned the loop itself, or found one that had not begun what may be its last sweep. -/
theorem retry_request_kept_iff {s s' : RetryState} {event : Event} (reached : Reachable s) (step : Step s event s')
    (returns : event.returns = true) :
    Honoured s' ↔ event = .spawn ∨ s.loops = [.sleeping] ∨
      ∃ outcome, outcome ≠ .ok 0 ∧ s.loops = [.swept outcome] := by
  cases step with
  | lose => simp [honoured_iff reached.single rfl]
  | spawn => simp [Honoured, not_endsUnswept_sleeping]
  | win => cases returns
  | loop => cases returns

theorem reachable_sleeping : Reachable ⟨true, 0, [.sleeping]⟩ := by
  have won : Reachable ⟨true, 1, []⟩ := Relation.ReflTransGen.single ⟨.win, .win⟩
  exact won.tail ⟨.spawn, .spawn⟩

/-- The loop has found nothing left to do and is about to clear the flag. -/
theorem reachable_stopping : Reachable ⟨true, 0, [.stopping]⟩ := by
  have awake : Reachable ⟨true, 0, [.sweeping]⟩ := reachable_sleeping.tail ⟨.loop, @Step.loop true 0 [] [] _ _ .wake⟩
  have swept : Reachable ⟨true, 0, [.swept (.ok 0)]⟩ := awake.tail ⟨.loop, @Step.loop true 0 [] [] _ _ (.sweep (.ok 0))⟩
  exact swept.tail ⟨.loop, @Step.loop true 0 [] [] _ _ .stop⟩

theorem sleeping_loop_keeps_request :
    Honoured ⟨true, 0, [.sleeping]⟩ ↔ Event.lose = .spawn ∨ [RetryAt.sleeping] = [.sleeping] ∨
      ∃ outcome, outcome ≠ .ok 0 ∧ [RetryAt.sleeping] = [.swept outcome] :=
  retry_request_kept_iff reachable_sleeping .lose rfl

/-- A request between the loop's last decision and its clearing of the flag is lost. -/
theorem stopping_loop_loses_request :
    ¬ ∀ s event s', Reachable s → Step s event s' → event.returns = true → Honoured s' := by
  intro kept
  obtain ⟨place, running, repeats⟩ := kept _ _ _ reachable_stopping .lose rfl
  cases List.mem_singleton.mp running
  exact repeats endsUnswept_stopping

end RetryState
end Wgd.Dns
