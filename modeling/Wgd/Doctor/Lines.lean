import Wgd.Doctor.Redaction
import Wgd.Net.Splitting

/-! A text that is treated line by line: what happens to one line, and around it. -/

set_option autoImplicit false

namespace Wgd.Doctor

open Wgd.Net

/-- The part of the last line. -/
def lineStart (text : List Char) : List Char := text.rtakeWhile (· ≠ '\n')

/-- The part of the first line. -/
def lineRest (text : List Char) : List Char := text.takeWhile (· ≠ '\n')

/-- Every line by itself, with a newline between them. -/
def byLine {A : Type} (each : List Char → List A) (newline : A) (text : List Char) : List A :=
  List.intercalate [newline] ((splitAll '\n' text).map each)

theorem redactReport_byLine (text : List Char) : redactReport text = byLine redactLine '\n' text := rfl

variable {A B : Type} {each : List Char → List A} {newline : A} {before after line : List Char}

/-! ### Cutting a text into lines -/

theorem unbroken (one : '\n' ∉ line) : ∀ c ∈ line, decide (c ≠ '\n') = true := by
  intro c member
  rw [decide_eq_true_eq]
  rintro rfl
  exact one member

/-- The text before a place is part of its line, or there are lines before it. -/
theorem lineStart_cases (before : List Char) : '\n' ∉ lineStart before ∧
    (before = lineStart before ∨ ∃ lines, before = lines ++ '\n' :: lineStart before) := by
  by_cases member : '\n' ∈ before
  · obtain ⟨lines, last, rfl, one⟩ := exists_last member
    have whole : lines ++ '\n' :: last = (lines ++ ['\n']) ++ last := by simp
    have plain : ∀ c ∈ last.reverse, decide (c ≠ '\n') = true := unbroken (by simpa using one)
    have start : lineStart (lines ++ '\n' :: last) = last := by
      rw [lineStart, List.rtakeWhile, whole, List.reverse_append, List.takeWhile_append_of_pos plain, List.reverse_concat]
      simp
    rw [start]
    exact ⟨one, .inr ⟨lines, rfl⟩⟩
  · have start : lineStart before = before := List.rtakeWhile_eq_self_iff.mpr (unbroken member)
    rw [start]
    exact ⟨member, .inl rfl⟩

theorem lineRest_cases (after : List Char) : '\n' ∉ lineRest after ∧
    (after = lineRest after ∨ ∃ lines, after = lineRest after ++ '\n' :: lines) := by
  by_cases member : '\n' ∈ after
  · obtain ⟨first, lines, rfl, one⟩ := List.eq_append_cons_of_mem member
    have rest : lineRest (first ++ '\n' :: lines) = first := by
      rw [lineRest, List.takeWhile_append_of_pos (unbroken one)]
      simp
    rw [rest]
    exact ⟨one, .inr ⟨lines, rfl⟩⟩
  · have rest : lineRest after = after := List.takeWhile_eq_self_iff.mpr (unbroken member)
    rw [rest]
    exact ⟨member, .inl rfl⟩

/-! ### Line by line -/

theorem intercalate_append {newline : A} {first second : List (List A)} (some : first ≠ []) (some' : second ≠ []) :
    List.intercalate [newline] (first ++ second) =
      List.intercalate [newline] first ++ newline :: List.intercalate [newline] second := by
  induction first with
  | nil => exact absurd rfl some
  | cons line rest ih =>
    cases rest with
    | nil => simp [List.intercalate_cons_of_ne_nil some']
    | cons next rest =>
      have later := ih (List.cons_ne_nil _ _)
      rw [List.cons_append] at later ⊢
      rw [List.cons_append, List.intercalate_cons_cons, List.intercalate_cons_cons, later]
      simp

theorem byLine_append : byLine each newline (before ++ '\n' :: after) =
    byLine each newline before ++ newline :: byLine each newline after := by
  unfold byLine
  rw [splitAll_append, List.map_append, intercalate_append]
  · simp [splitAll_ne_nil]
  · simp [splitAll_ne_nil]

theorem byLine_line (one : '\n' ∉ line) : byLine each newline line = each line := by
  unfold byLine
  rw [splitAll_plain one]
  simp

/-- The line of a place, and what becomes of the lines around it. -/
theorem byLine_frame (each : List Char → List A) (newline : A) (before after : List Char) :
    ∃ front back,
      (before = lineStart before ∧ front = [] ∨
        ∃ lines, before = lines ++ '\n' :: lineStart before ∧ front = byLine each newline lines ++ [newline]) ∧
      (after = lineRest after ∧ back = [] ∨
        ∃ lines, after = lineRest after ++ '\n' :: lines ∧ back = newline :: byLine each newline lines) ∧
      ∀ middle, '\n' ∉ middle → byLine each newline (before ++ (middle ++ after)) =
        front ++ (each (lineStart before ++ (middle ++ lineRest after)) ++ back) := by
  obtain ⟨oneBefore, start⟩ := lineStart_cases before
  obtain ⟨oneAfter, rest⟩ := lineRest_cases after
  have single : ∀ middle, '\n' ∉ middle → '\n' ∉ lineStart before ++ (middle ++ lineRest after) := by
    intro middle one
    simp only [List.mem_append, not_or]
    exact ⟨oneBefore, one, oneAfter⟩
  have ends : ∃ back, (after = lineRest after ∧ back = [] ∨
      ∃ lines, after = lineRest after ++ '\n' :: lines ∧ back = newline :: byLine each newline lines) ∧
      ∀ middle, '\n' ∉ middle → byLine each newline (lineStart before ++ (middle ++ after)) =
        each (lineStart before ++ (middle ++ lineRest after)) ++ back := by
    rcases rest with last | ⟨lines, whole⟩
    · refine ⟨[], .inl ⟨last, rfl⟩, fun middle one => ?_⟩
      have here := @byLine_line A each newline _ (single middle one)
      rw [← last] at here ⊢
      rw [here, List.append_nil]
    · refine ⟨_, .inr ⟨lines, whole, rfl⟩, fun middle one => ?_⟩
      have shape : lineStart before ++ (middle ++ after) = (lineStart before ++ (middle ++ lineRest after)) ++ '\n' :: lines := by
        rw [List.append_assoc, List.append_assoc, ← whole]
      rw [shape, byLine_append, byLine_line (single middle one)]
  obtain ⟨back, shape, line⟩ := ends
  rcases start with first | ⟨lines, whole⟩
  · refine ⟨[], back, .inl ⟨first, rfl⟩, shape, fun middle one => ?_⟩
    have here := line middle one
    rw [← first] at here ⊢
    exact here
  · refine ⟨_, back, .inr ⟨lines, whole, rfl⟩, shape, fun middle one => ?_⟩
    have cut : before ++ (middle ++ after) = lines ++ '\n' :: (lineStart before ++ (middle ++ after)) := by
      have tail := congrArg (fun text => text ++ (middle ++ after)) whole
      rw [tail, List.append_assoc, List.cons_append]
    rw [cut, byLine_append, line middle one]
    simp

end Wgd.Doctor
