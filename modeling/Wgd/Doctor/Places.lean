import Wgd.Doctor.Pieces

/-! What becomes of a part of the report in its place: it is in a secret, or its token is masked. -/

set_option autoImplicit false

namespace Wgd.Doctor

open Wgd.Net

/-- A part that no value begins or ends in. -/
structure Solid (part : List Char) : Prop where
  filled : part ≠ []
  inner : ∀ c ∈ part, endsValue c = false
  apart : ∀ first separator rest, part = first ++ separator :: rest → isSeparator separator = true → rest ≠ [] →
    ∃ c, first.getLast? = some c ∧ isSeparator c = false ∧ c.toLower ≠ 'y'

variable {part mask before after head value left token : List Char} {fuel : Nat} {peer next : Bool}

/-! ### In the line -/

theorem IsLabel.last {label : List Char} (isLabel : IsLabel label) : ∃ init c, label = init ++ [c] ∧ c.toLower = 'y' := by
  have all : ∀ label ∈ labels, label.getLast? = some 'y' := by decide +kernel
  have last := all _ isLabel
  rw [toAsciiLowercase, List.getLast?_map, Option.map_eq_some_iff] at last
  obtain ⟨c, last, low⟩ := last
  obtain ⟨init, rfl⟩ := List.getLast?_eq_some_iff.mp last
  exact ⟨init, c, rfl, low⟩

/-- A part before or in a value ends before the value does. -/
theorem Solid.place (solid : Solid part) (whole : before ++ (part ++ after) = head ++ (value ++ left))
    (ended : ∀ c ∈ left.head?, endsValue c = true) :
    (∃ v, head ++ value = before ++ (part ++ v) ∧ after = v ++ left) ∨
      ∃ v, before = head ++ (value ++ v) ∧ left = v ++ (part ++ after) := by
  rw [← List.append_assoc head, List.append_eq_append_iff] at whole
  rcases whole with ⟨d, start, rest⟩ | ⟨v, start, rest⟩
  · left
    rcases List.append_eq_append_iff.mp rest with ⟨v, rfl, tail⟩ | ⟨q, inPart, tail⟩
    · exact ⟨v, start, tail⟩
    · cases q with
      | nil =>
        rw [List.append_nil] at inPart
        refine ⟨[], by rw [start, inPart, List.append_nil], by simpa using tail.symm⟩
      | cons c q =>
        -- The part would go on behind the value.
        have ends := ended c (by rw [tail]; rfl)
        have stays := solid.inner c (by rw [inPart]; simp)
        rw [ends] at stays
        cases stays
  · right
    exact ⟨v, by rw [start, List.append_assoc], rest⟩

/-- A part in or before a secret value begins in it or ends before it. -/
theorem Solid.whole (solid : Solid part) {label separators pre v : List Char} (isLabel : IsLabel label)
    (between : Separators separators)
    (same : pre ++ (label ++ separators) ++ value = before ++ (part ++ v)) :
    (∃ x, before = pre ++ (label ++ separators) ++ x ∧ value = x ++ (part ++ v)) ∨
      ∃ w, pre ++ (label ++ separators) = before ++ (part ++ w) ∧ v = w ++ value := by
  rcases List.append_eq_append_iff.mp same with ⟨x, start, rest⟩ | ⟨d, start, rest⟩
  · exact .inl ⟨x, start, rest⟩
  · rcases List.append_eq_append_iff.mp rest with ⟨w, rfl, tail⟩ | ⟨q, inPart, inValue⟩
    · exact .inr ⟨w, start, tail⟩
    · by_cases none : q = []
      · right
        subst none
        rw [List.append_nil] at inPart
        exact ⟨[], by rw [start, inPart, List.append_nil], inValue.symm⟩
      · rcases List.eq_nil_or_concat d with rfl | ⟨d, last, rfl⟩
        · left
          rw [List.append_nil] at start
          rw [List.nil_append] at inPart
          exact ⟨[], by rw [start, List.append_nil], by rw [inPart, inValue]; rfl⟩
        · -- The part would begin before a separator and end in the value.
          exfalso
          rw [List.concat_eq_append] at start inPart
          obtain ⟨init, separator, rfl⟩ := (List.eq_nil_or_concat separators).resolve_left between.some
          rw [List.concat_eq_append] at start between
          have cut : (pre ++ (label ++ init)) ++ [separator] = (before ++ d) ++ [last] := by simpa using start
          obtain ⟨tail, one⟩ := List.append_inj' cut rfl
          cases one
          rw [List.append_assoc, List.singleton_append] at inPart
          obtain ⟨c, lastOf, other, low⟩ := solid.apart d last q inPart (between.all _ (by simp)) none
          have ends : (pre ++ (label ++ init)).getLast? = some c := by
            rw [tail, List.getLast?_append, lastOf]
            rfl
          obtain ⟨start, letter, rfl, lowY⟩ := isLabel.last
          rcases List.eq_nil_or_concat init with rfl | ⟨init, separator', rfl⟩
          · rw [List.append_nil, ← List.append_assoc, List.getLast?_concat] at ends
            cases ends
            exact low lowY
          · rw [List.concat_eq_append, ← List.append_assoc, ← List.append_assoc, List.getLast?_concat] at ends
            cases ends
            have separates := between.all c (by simp)
            rw [other] at separates
            cases separates

variable (solid : Solid part) (letters : ∀ c ∈ part, isTokenChar c = true) (stop : ∀ c ∈ after.head?, isTokenChar c = false)
  (shows : ∀ token context, token <:+ before → (∀ c ∈ token, isTokenChar c = true) → redactToken (token ++ part) context = token ++ mask)

include solid letters stop shows

end Wgd.Doctor
