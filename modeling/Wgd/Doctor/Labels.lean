import Wgd.Doctor.Redaction

/-! Where the labels of secrets are found in a line, and what is left to search after each. -/

set_option autoImplicit false

namespace Wgd.Doctor

open Wgd.Net

variable {text before after label rest more x : List Char} {length : Nat}

theorem forall_mem_of_all {p : Char → Prop} [DecidablePred p] {o : Option Char} (all : (o.all fun c => decide (p c)) = true) :
    ∀ c ∈ o, p c := by
  rintro c rfl
  simpa using all

/-! ### One label -/

theorem mem_labels_cons {label : List Char} (known : label ∈ labels) : ∃ tail, label = 'p' :: tail ∧ 'p' ∉ tail := by
  have all : ∀ label ∈ labels, label.head? = some 'p' ∧ 'p' ∉ label.tail := by decide +kernel
  obtain ⟨first, once⟩ := all label known
  cases label with
  | nil => cases first
  | cons c tail =>
    cases first
    exact ⟨tail, rfl, once⟩

/-- No label begins with another one. -/
theorem labels_apart {a b : List Char} (knownA : a ∈ labels) (knownB : b ∈ labels) (starts : a <+: b) : a = b := by
  have all : ∀ a ∈ labels, ∀ b ∈ labels, a.isPrefixOf b = true → a = b := by decide +kernel
  exact all a knownA b knownB (List.isPrefixOf_iff_prefix.mpr starts)

theorem labelLength_eq_some_iff : labelLength text = some length ↔
    ∃ label ∈ labels, label <+: toAsciiLowercase text ∧ label.length = length := by
  unfold labelLength
  constructor
  · intro found
    obtain ⟨label, here, same⟩ := Option.map_eq_some_iff.mp found
    have starts := List.find?_some here
    exact ⟨label, List.mem_of_find?_eq_some here, List.isPrefixOf_iff_prefix.mp starts, same⟩
  · intro some
    obtain ⟨label, known, starts, rfl⟩ := some
    cases here : labels.find? fun label => label.isPrefixOf (toAsciiLowercase text) with
    | none =>
      have absent := List.find?_eq_none.mp here label known
      exact absurd (List.isPrefixOf_iff_prefix.mpr starts) absent
    | some other =>
      have matched := List.find?_some here
      have otherStarts := List.isPrefixOf_iff_prefix.mp matched
      have otherKnown := List.mem_of_find?_eq_some here
      have same : other = label := by
        rcases List.prefix_or_prefix_of_prefix otherStarts starts with first | first
        · exact labels_apart otherKnown known first
        · exact (labels_apart known otherKnown first).symm
      rw [Option.map_some, same]

theorem labelLength_pos (found : labelLength text = some length) : 0 < length ∧ length ≤ text.length := by
  obtain ⟨label, known, starts, rfl⟩ := labelLength_eq_some_iff.mp found
  obtain ⟨tail, rfl, -⟩ := mem_labels_cons known
  have fits := starts.length_le
  simp only [toAsciiLowercase, List.length_map] at fits
  exact ⟨by simp, fits⟩

/-- A label in some letter case. -/
def IsLabel (label : List Char) : Prop := toAsciiLowercase label ∈ labels

instance : DecidablePred IsLabel := fun label => inferInstanceAs (Decidable (toAsciiLowercase label ∈ labels))

/-- What may stand between a label and its value, and has to. -/
structure Separators (separators : List Char) : Prop where
  some : separators ≠ []
  all : ∀ c ∈ separators, isSeparator c = true

theorem IsLabel.cons (isLabel : IsLabel label) : ∃ c tail, label = c :: tail ∧ c.toLower = 'p' ∧ ∀ d ∈ tail, d.toLower ≠ 'p' := by
  obtain ⟨tail, same, once⟩ := mem_labels_cons isLabel
  cases label with
  | nil => cases same
  | cons c tail' =>
    simp only [toAsciiLowercase, List.map_cons, List.cons.injEq] at same
    refine ⟨c, tail', rfl, same.1, ?_⟩
    intro d member low
    apply once
    rw [← same.2, ← low]
    exact List.mem_map_of_mem member

theorem IsLabel.length_le (isLabel : IsLabel label) : 10 ≤ label.length := by
  have all : ∀ label ∈ labels, 10 ≤ label.length := by decide +kernel
  simpa [toAsciiLowercase] using all _ isLabel

theorem labelLength_label (isLabel : IsLabel label) : labelLength (label ++ more) = some label.length := by
  rw [labelLength_eq_some_iff]
  exact ⟨_, isLabel, by simp [toAsciiLowercase], by simp [toAsciiLowercase]⟩

/-- A label begins with its only `p`. -/
theorem labelLength_none {c : Char} (other : c.toLower ≠ 'p') : labelLength (c :: rest) = none := by
  cases found : labelLength (c :: rest) with
  | none => rfl
  | some length =>
    obtain ⟨label, known, starts, -⟩ := labelLength_eq_some_iff.mp found
    obtain ⟨tail, rfl, -⟩ := mem_labels_cons known
    simp only [toAsciiLowercase, List.map_cons, List.cons_prefix_cons] at starts
    exact absurd starts.1.symm other

/-- A label that starts before another one ends before it. -/
theorem labelLength_before {c : Char} (isLabel : IsLabel label) (found : labelLength (c :: (x ++ (label ++ more))) = some length) :
    length ≤ x.length + 1 := by
  obtain ⟨first, known, starts, rfl⟩ := labelLength_eq_some_iff.mp found
  obtain ⟨tail, rfl, once⟩ := mem_labels_cons known
  obtain ⟨d, rest, rfl, low, -⟩ := isLabel.cons
  by_contra long
  apply once
  simp only [toAsciiLowercase, List.map_cons, List.map_append, List.cons_prefix_cons] at starts
  obtain ⟨-, left, whole⟩ := starts
  -- The other label's first letter would stand in the tail of this one.
  have inside : x.length < tail.length := by
    simp only [List.length_cons] at long
    omega
  have letter : tail[x.length]? = some 'p' := by
    rw [← List.getElem?_append_left inside, whole, List.getElem?_append_right (by simp)]
    simp [low]
  exact List.mem_of_getElem? letter

theorem labelLength_append {c : Char} (isLabel : IsLabel label) :
    labelLength (c :: (x ++ (label ++ more))) = labelLength (c :: (x ++ label)) := by
  have cut : toAsciiLowercase (c :: (x ++ (label ++ more))) = toAsciiLowercase (c :: (x ++ label)) ++ toAsciiLowercase more := by
    simp [toAsciiLowercase]
  cases found : labelLength (c :: (x ++ (label ++ more))) with
  | some length =>
    have short := labelLength_before isLabel found
    obtain ⟨first, known, starts, same⟩ := labelLength_eq_some_iff.mp found
    symm
    rw [labelLength_eq_some_iff]
    refine ⟨first, known, ?_, same⟩
    rw [cut] at starts
    apply List.prefix_of_prefix_length_le starts (List.prefix_append _ _)
    simp only [toAsciiLowercase, List.length_map, List.length_cons, List.length_append]
    omega
  | none =>
    cases other : labelLength (c :: (x ++ label)) with
    | none => rfl
    | some length =>
      obtain ⟨first, known, starts, same⟩ := labelLength_eq_some_iff.mp other
      have whole : labelLength (c :: (x ++ (label ++ more))) = some length := by
        rw [labelLength_eq_some_iff, cut]
        exact ⟨first, known, starts.trans (List.prefix_append _ _), same⟩
      rw [found] at whole
      cases whole

/-! ### The first label -/

theorem nextLabel_some (found : nextLabel text = some (before, label, after)) :
    text = before ++ (label ++ after) ∧ 0 < label.length := by
  induction text generalizing before with
  | nil => cases found
  | cons c rest ih =>
    simp only [nextLabel] at found
    cases here : labelLength (c :: rest) with
    | some length =>
      obtain ⟨positive, fits⟩ := labelLength_pos here
      rw [here] at found
      cases found
      rw [List.nil_append, List.take_append_drop, List.length_take]
      exact ⟨rfl, by omega⟩
    | none =>
      rw [here] at found
      obtain ⟨⟨first, label', after'⟩, later, same⟩ := Option.map_eq_some_iff.mp found
      cases same
      obtain ⟨whole, positive⟩ := ih later
      exact ⟨by rw [whole]; rfl, positive⟩

/-- What follows a label does not matter to the search. -/
theorem nextLabel_append (isLabel : IsLabel label) {found : List Char × List Char × List Char}
    (first : nextLabel (x ++ label) = some found) :
    nextLabel (x ++ (label ++ more)) = some (found.1, found.2.1, found.2.2 ++ more) := by
  induction x generalizing found with
  | nil =>
    obtain ⟨c, tail, rfl, -⟩ := isLabel.cons
    have here := @labelLength_label (c :: tail) more isLabel
    have alone := @labelLength_label (c :: tail) [] isLabel
    rw [List.append_nil] at alone
    simp only [List.nil_append, List.cons_append, nextLabel] at first here ⊢
    rw [alone] at first
    cases first
    rw [here]
    simp
  | cons c x ih =>
    simp only [List.cons_append, nextLabel] at first ⊢
    rw [labelLength_append isLabel]
    cases here : labelLength (c :: (x ++ label)) with
    | some length =>
      rw [here] at first
      cases first
      have fits := (labelLength_pos here).2
      have shape : c :: (x ++ (label ++ more)) = (c :: (x ++ label)) ++ more := by simp
      dsimp only
      rw [shape, List.take_append_of_le_length fits, List.drop_append_of_le_length fits]
    | none =>
      rw [here] at first
      obtain ⟨later, found', same⟩ := Option.map_eq_some_iff.mp first
      cases same
      dsimp only
      rw [ih found']
      rfl

theorem nextLabel_plain (plain : ∀ c ∈ x, c.toLower ≠ 'p') :
    nextLabel (x ++ rest) = (nextLabel rest).map fun found => (x ++ found.1, found.2) := by
  induction x with
  | nil => simp
  | cons c x ih =>
    rw [List.forall_mem_cons] at plain
    simp only [List.cons_append, nextLabel]
    rw [labelLength_none plain.1, ih plain.2]
    cases nextLabel rest <;> rfl

/-- There is a label, and the first one is this or comes to its end before it. -/
theorem nextLabel_cases (isLabel : IsLabel label) :
    nextLabel (x ++ label) = some (x, label, []) ∨
      ∃ before first rest, nextLabel (x ++ label) = some (before, first, rest ++ label) ∧ x = before ++ (first ++ rest) ∧
        0 < first.length := by
  induction x with
  | nil =>
    obtain ⟨c, tail, rfl, -⟩ := isLabel.cons
    have alone := @labelLength_label (c :: tail) [] isLabel
    rw [List.append_nil] at alone
    left
    rw [List.nil_append, nextLabel, alone]
    simp
  | cons c x ih =>
    simp only [List.cons_append, nextLabel]
    cases here : labelLength (c :: (x ++ label)) with
    | some length =>
      have long := (labelLength_pos here).1
      have whole : labelLength (c :: (x ++ (label ++ []))) = some length := by simpa using here
      have short := labelLength_before isLabel whole
      have shape : c :: (x ++ label) = (c :: x) ++ label := rfl
      have fits : length ≤ (c :: x).length := by simpa using short
      right
      refine ⟨[], (c :: x).take length, (c :: x).drop length, ?_, ?_, ?_⟩
      · dsimp only
        rw [shape, List.take_append_of_le_length fits, List.drop_append_of_le_length fits]
      · simp
      · rw [List.length_take]
        omega
    | none =>
      dsimp only
      rcases ih with reached | ⟨before, first, rest, found, rfl, positive⟩
      · left
        rw [reached]
        rfl
      · right
        exact ⟨c :: before, first, rest, by rw [found]; rfl, rfl, positive⟩

/-! ### Going on after a label -/

theorem redactSecrets_enough {fuel : Nat} {line : List Char} (enough : line.length ≤ fuel) :
    redactSecrets fuel line = redactSecretValues line := by
  induction fuel using Nat.strong_induction_on generalizing line with
  | _ fuel ih =>
    unfold redactSecretValues
    cases fuel with
    | zero =>
      rw [Nat.le_zero.mp enough]
    | succ fuel =>
      cases found : nextLabel line with
      | none =>
        cases line with
        | nil => simp [redactSecrets, found]
        | cons c rest => simp [redactSecrets, found]
      | some parts =>
        obtain ⟨before, label, rest⟩ := parts
        obtain ⟨whole, positive⟩ := nextLabel_some found
        have shorter : ((rest.dropWhile isSeparator).dropWhile fun c => !endsValue c).length < line.length := by
          have first := (List.dropWhile_suffix (l := rest.dropWhile isSeparator) fun c => !endsValue c).length_le
          have second := (List.dropWhile_suffix (l := rest) isSeparator).length_le
          rw [whole, List.length_append, List.length_append]
          omega
        obtain ⟨size, same⟩ := Nat.exists_eq_add_of_lt (Nat.zero_lt_of_lt shorter)
        have sized : line.length = size + 1 := by omega
        rw [sized]
        simp only [redactSecrets, found]
        rw [ih fuel (by omega) (by omega), ih size (by omega) (by omega)]

theorem redactSecretValues_none (none : nextLabel text = none) : redactSecretValues text = text := by
  cases text with
  | nil => rfl
  | cons c rest => simp [redactSecretValues, redactSecrets, none]

/-- The first label of a line is shown with its separators, and its value as it may be. -/
theorem redactSecretValues_some (found : nextLabel text = some (before, label, rest)) :
    redactSecretValues text = before ++ (label ++ (rest.takeWhile isSeparator ++
      (redactValue (rest.takeWhile isSeparator) ((rest.dropWhile isSeparator).takeWhile fun c => !endsValue c) ++
        redactSecretValues ((rest.dropWhile isSeparator).dropWhile fun c => !endsValue c)))) := by
  obtain ⟨whole, positive⟩ := nextLabel_some found
  have shorter : ((rest.dropWhile isSeparator).dropWhile fun c => !endsValue c).length < text.length := by
    have first := (List.dropWhile_suffix (l := rest.dropWhile isSeparator) fun c => !endsValue c).length_le
    have second := (List.dropWhile_suffix (l := rest) isSeparator).length_le
    rw [whole, List.length_append, List.length_append]
    omega
  have more := @redactSecrets_enough (text.length - 1) _ (Nat.le_sub_one_of_lt shorter)
  obtain ⟨size, same⟩ := Nat.exists_eq_add_of_lt (Nat.zero_lt_of_lt shorter)
  have sized : text.length = size + 1 := by omega
  unfold redactSecretValues
  rw [sized] at more ⊢
  simp only [redactSecrets, found]
  rw [Nat.add_sub_cancel] at more
  rw [more]
  simp [redactSecretValues]

/-- Text in which no label starts is shown as it is. -/
theorem redactSecretValues_plain (plain : ∀ c ∈ x, c.toLower ≠ 'p') : redactSecretValues (x ++ rest) = x ++ redactSecretValues rest := by
  have search := @nextLabel_plain rest x plain
  cases found : nextLabel rest with
  | none =>
    rw [found] at search
    rw [redactSecretValues_none search, redactSecretValues_none found]
  | some parts =>
    obtain ⟨before, label, after⟩ := parts
    rw [found] at search
    rw [redactSecretValues_some search, redactSecretValues_some found, List.append_assoc]

end Wgd.Doctor
