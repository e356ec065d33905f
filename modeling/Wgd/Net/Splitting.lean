import Wgd.Net.Display

/-! Texts cut at a separator: at the first, at the last, and at every one of them. -/

set_option autoImplicit false

namespace Wgd.Net

variable {separator : Char} {text before after : List Char}

theorem splitOnce_some (split : splitOnce separator text = some (before, after)) :
    text = before ++ separator :: after ∧ separator ∉ before := by
  induction text generalizing before with
  | nil => cases split
  | cons c rest ih =>
    by_cases here : c = separator
    · simp only [splitOnce, here, if_true, Option.some.injEq, Prod.mk.injEq] at split
      obtain ⟨rfl, rfl⟩ := split
      simp [here]
    · simp only [splitOnce, here, if_false, Option.map_eq_some_iff] at split
      obtain ⟨parts, split, same⟩ := split
      cases same
      obtain ⟨whole, absent⟩ := ih split
      rw [whole, List.mem_cons, not_or]
      exact ⟨rfl, fun same => here same.symm, absent⟩

theorem splitOnce_none (split : splitOnce separator text = none) : separator ∉ text := by
  intro member
  obtain ⟨before, after, whole, absent⟩ := List.eq_append_cons_of_mem member
  rw [whole, splitOnce_append absent] at split
  cases split

theorem splitOnce_eq_none (absent : separator ∉ text) : splitOnce separator text = none := by
  cases split : splitOnce separator text with
  | none => rfl
  | some parts =>
    have whole := (splitOnce_some split).1
    exact absurd (by simp [whole]) absent

theorem rsplitOnce_append (absent : separator ∉ after) :
    rsplitOnce separator (before ++ separator :: after) = some (before, after) := by
  have reversed : (before ++ separator :: after).reverse = after.reverse ++ separator :: before.reverse := by simp
  rw [rsplitOnce, reversed, splitOnce_append (by simpa using absent)]
  simp

theorem rsplitOnce_eq_none (absent : separator ∉ text) : rsplitOnce separator text = none := by
  rw [rsplitOnce, splitOnce_eq_none (by simpa using absent)]
  rfl

theorem rsplitOnce_some (split : rsplitOnce separator text = some (before, after)) :
    text = before ++ separator :: after ∧ separator ∉ after := by
  obtain ⟨⟨tail, head⟩, reversed, same⟩ := Option.map_eq_some_iff.mp split
  cases same
  obtain ⟨whole, absent⟩ := splitOnce_some reversed
  constructor
  · rw [← List.reverse_reverse text, whole]
    simp
  · simpa using absent

/-- A text with a separator in it has a last one. -/
theorem exists_last (member : separator ∈ text) : ∃ before after, text = before ++ separator :: after ∧ separator ∉ after := by
  obtain ⟨tail, head, whole, absent⟩ := List.eq_append_cons_of_mem (List.mem_reverse.mpr member)
  refine ⟨head.reverse, tail.reverse, ?_, by simpa using absent⟩
  rw [← List.reverse_reverse text, whole]
  simp

theorem splitAll_ne_nil : splitAll separator text ≠ [] := by
  cases text with
  | nil => simp [splitAll]
  | cons c rest =>
    simp only [splitAll]
    split
    · simp
    · split <;> simp

theorem splitAll_plain (absent : separator ∉ text) : splitAll separator text = [text] := by
  induction text with
  | nil => rfl
  | cons c rest ih =>
    rw [List.mem_cons, not_or] at absent
    simp [splitAll, Ne.symm absent.1, ih absent.2]

theorem splitAll_append :
    splitAll separator (before ++ separator :: after) = splitAll separator before ++ splitAll separator after := by
  induction before with
  | nil => simp [splitAll]
  | cons c rest ih =>
    by_cases here : c = separator
    · simp [splitAll, here, ih]
    · obtain ⟨part, others, shape⟩ := List.exists_cons_of_ne_nil (@splitAll_ne_nil separator rest)
      simp [splitAll, here, ih, shape]

end Wgd.Net
