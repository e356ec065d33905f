import Mathlib.Data.Bool.AllAny
import Wgd.Config.MtuOverride

/-! The managed block in a shell's start-up file (`completion.rs`), and the user's lines around it. -/

set_option autoImplicit false

namespace Wgd.Completion

open Wgd.Config Wgd.Net

def beginMarker : List Char := "# begin: wgd managed".toList

def endMarker : List Char := "# end: wgd managed".toList

inductive CompletionShell where
  | bash
  | zsh
  | fish

def shellQuote (path : List Char) : List Char :=
  if path.all fun c => c.isAlphanum || c ∈ ['/', '-', '_', '.'] then path
  else '\'' :: path.flatMap (fun c => if c = '\'' then ['\'', '\\', '\'', '\''] else [c]) ++ ['\'']

/-- The block with its lines, for the path of the program. -/
def renderManagedBlock (shell : CompletionShell) (bin : List Char) : List Char :=
  let quoted := shellQuote bin
  match shell with
  | .bash => unlines [beginMarker, "if [ -f ".toList ++ quoted ++ " ]; then".toList,
      "  eval \x22$(COMPLETE=bash ".toList ++ quoted ++ " 2>/dev/null)\x22".toList, "fi".toList, endMarker]
  | .zsh => unlines [beginMarker, "if [ -f ".toList ++ quoted ++ " ]; then".toList,
      "  eval \x22$(COMPLETE=zsh ".toList ++ quoted ++ " 2>/dev/null)\x22".toList, "fi".toList, endMarker]
  | .fish => unlines [beginMarker, "if test -f ".toList ++ quoted,
      "  COMPLETE=fish ".toList ++ quoted ++ " 2>/dev/null | source".toList, "end".toList, endMarker]

def isBegin (line : List Char) : Bool := trim line == beginMarker

def isEnd (line : List Char) : Bool := trim line == endMarker

/-- The lines that are not in a managed block. -/
def keptLines : (insideManaged : Bool) → List (List Char) → List (List Char)
  | _, [] => []
  | insideManaged, line :: rest =>
    if isBegin line then keptLines true rest
    else if insideManaged then keptLines (!isEnd line) rest
    else line :: keptLines false rest

/-- The kept lines as they are written back before the block. -/
def headText (kept : List (List Char)) : List Char :=
  let out := List.intercalate ['\n'] kept
  if out ≠ [] ∧ out.getLast? ≠ some '\n' then out ++ ['\n'] else out

def updateRcContents (existing managedBlock : List Char) : List Char :=
  headText (keptLines false (lines existing)) ++ managedBlock

/-! ### The user's lines -/

/-- The lines outside of the blocks, up to a marker that no block's end follows, and the lines behind it. -/
def userParts : (inside : Bool) → List (List Char) → List (List Char) × List (List Char)
  | _, [] => ([], [])
  | false, line :: rest =>
    if isBegin line then if rest.any isEnd then userParts true rest else ([], rest.filter fun line => !isBegin line)
    else (line :: (userParts false rest).1, (userParts false rest).2)
  | true, line :: rest => if isEnd line then userParts false rest else userParts true rest

/-- Every line that is in no block and no marker of one. -/
def userLines (text : List Char) : List (List Char) := (userParts false (lines text)).1 ++ (userParts false (lines text)).2

/-- The second of two edits undoes the first, and one block is left with all the lines of the user. -/
def KeepsUserLines (existing managedBlock managedBlock' : List Char) : Prop :=
  updateRcContents (updateRcContents existing managedBlock) managedBlock' = updateRcContents existing managedBlock' ∧
    ((lines (updateRcContents existing managedBlock')).filter isBegin).length = 1 ∧
    (userLines existing).Sublist (lines (updateRcContents existing managedBlock'))

variable {inside : Bool} {line : List Char} {first rest kept : List (List Char)} {text : List Char}

/-! ### Markers -/

theorem isBegin_not_isEnd (begins : isBegin line = true) : isEnd line = false := by
  rw [isBegin, beq_iff_eq] at begins
  rw [isEnd, begins]
  decide

/-- The loop keeps the lines of the user up to a marker without an end. -/
theorem keptLines_userParts : keptLines false rest = (userParts false rest).1 ∧
    keptLines true rest = if rest.any isEnd then (userParts true rest).1 else [] := by
  induction rest with
  | nil => exact ⟨rfl, rfl⟩
  | cons line rest ih =>
    obtain ⟨outside, inside⟩ := ih
    constructor
    · rw [keptLines, userParts]
      split
      next =>
        rw [inside]
        split <;> rfl
      next => rw [if_neg Bool.false_ne_true, outside]
    · rw [keptLines, List.any_cons, userParts]
      cases begins : isBegin line with
      | true =>
        rw [isBegin_not_isEnd begins, if_pos rfl, inside]
        simp
      | false =>
        cases ends : isEnd line with
        | true => simpa using outside
        | false => simpa using inside

theorem keptLines_userLines : keptLines false rest = (userParts false rest).1 := keptLines_userParts.1

/-- Whether a block is open behind the lines. -/
def endsInside : Bool → List (List Char) → Bool
  | inside, [] => inside
  | inside, line :: rest => endsInside (if isBegin line then true else inside && !isEnd line) rest

theorem keptLines_append : keptLines inside (first ++ rest) = keptLines inside first ++ keptLines (endsInside inside first) rest := by
  induction first generalizing inside with
  | nil => rfl
  | cons line first ih =>
    rw [List.cons_append, keptLines, keptLines, endsInside]
    cases begins : isBegin line with
    | true => simpa using ih
    | false =>
      cases inside with
      | true => simpa using ih
      | false => simpa using ih

theorem endsInside_append : endsInside inside (first ++ rest) = endsInside (endsInside inside first) rest := by
  induction first generalizing inside with
  | nil => rfl
  | cons line first ih => rw [List.cons_append, endsInside, endsInside, ih]

theorem keptLines_not_begin : ∀ line ∈ keptLines inside rest, isBegin line = false := by
  induction rest generalizing inside with
  | nil => simp [keptLines]
  | cons line rest ih =>
    rw [keptLines]
    split
    next => exact ih
    next other =>
      split
      · exact ih
      · rw [List.forall_mem_cons]
        exact ⟨by simpa using other, ih⟩

theorem keptLines_subset : ∀ line ∈ keptLines inside rest, line ∈ rest := by
  induction rest generalizing inside with
  | nil => simp [keptLines]
  | cons line rest ih =>
    rw [keptLines]
    split
    next => exact fun other member => List.mem_cons_of_mem _ (ih other member)
    next =>
      split
      · exact fun other member => List.mem_cons_of_mem _ (ih other member)
      · rw [List.forall_mem_cons]
        exact ⟨List.mem_cons_self, fun other member => List.mem_cons_of_mem _ (ih other member)⟩

/-- Lines without markers are kept outside of a block, all together. -/
theorem keptLines_plain (plain : ∀ line ∈ first, isBegin line = false) :
    keptLines false (first ++ rest) = first ++ keptLines false rest := by
  induction first with
  | nil => rfl
  | cons line first ih =>
    rw [List.forall_mem_cons] at plain
    rw [List.cons_append, keptLines, plain.1, ih plain.2]
    rfl

/-! ### The text before the block -/

/-- A last empty line is not written back. -/
def settled (kept : List (List Char)) : List (List Char) := if kept.getLast? = some [] then kept.dropLast else kept

theorem unlines_append : unlines (first ++ rest) = unlines first ++ unlines rest := List.flatMap_append

theorem intercalate_concat : List.intercalate ['\n'] (kept ++ [line]) = unlines kept ++ line := by
  induction kept with
  | nil => simp [unlines]
  | cons first kept ih =>
    rw [List.cons_append, List.intercalate_cons_of_ne_nil (by simp), ih, unlines_cons]
    simp

theorem unlines_end (text : List (List Char)) : unlines text = [] ∨ (unlines text).getLast? = some '\n' := by
  rcases List.eq_nil_or_concat text with rfl | ⟨init, last, rfl⟩
  · exact .inl rfl
  · right
    have ends : unlines (init ++ [last]) = (unlines init ++ last) ++ ['\n'] := by simp [unlines]
    rw [List.concat_eq_append, ends]
    exact List.getLast?_concat

theorem headText_eq (whole : ∀ line ∈ kept, '\n' ∉ line) : headText kept = unlines (settled kept) := by
  rcases List.eq_nil_or_concat kept with rfl | ⟨init, last, rfl⟩
  · rfl
  · rw [List.concat_eq_append] at whole ⊢
    by_cases empty : last = []
    · have settles : settled (init ++ [last]) = init := by
        rw [settled, List.getLast?_concat, empty, if_pos rfl, List.dropLast_concat]
      rw [headText, intercalate_concat, settles, empty, List.append_nil]
      rcases unlines_end init with none | newline
      · simp [none]
      · simp [newline]
    · have settles : settled (init ++ [last]) = init ++ [last] := by
        rw [settled, List.getLast?_concat, if_neg (by simpa using empty)]
      obtain ⟨start, c, rfl⟩ := (List.eq_nil_or_concat last).resolve_left empty
      rw [List.concat_eq_append] at whole settles ⊢
      have other : c ≠ '\n' := by
        rintro rfl
        exact whole (start ++ ['\n']) (by simp) (by simp)
      have ends : (unlines init ++ (start ++ [c])).getLast? = some c := by
        rw [← List.append_assoc]
        exact List.getLast?_concat
      rw [headText, intercalate_concat, settles, ends, if_pos ⟨by simp, by simpa using other⟩]
      simp [unlines]

theorem updateRcContents_eq (existing managedBlock : List Char) : updateRcContents existing managedBlock =
    unlines (settled (userParts false (lines existing)).1) ++ managedBlock := by
  have whole : ∀ line ∈ keptLines false (lines existing), '\n' ∉ line := fun line member =>
    lines_whole existing line (keptLines_subset line member)
  rw [updateRcContents, headText_eq whole, keptLines_userLines]

theorem lines_unlines_append (whole : ∀ line ∈ kept, '\n' ∉ line) (text : List Char) :
    lines (unlines kept ++ text) = kept.map chomp ++ lines text := by
  induction kept with
  | nil => rfl
  | cons line kept ih =>
    rw [List.forall_mem_cons] at whole
    rw [unlines_cons, List.append_assoc, List.cons_append, lines_append whole.1, ih whole.2, List.map_cons, List.cons_append]

/-! ### The second edit -/

/-- The empty line that is lost. -/
def lostLine (kept : List (List Char)) : List (List Char) := if kept.getLast? = some [] then [[]] else []

theorem settled_append_lost (kept : List (List Char)) : settled kept ++ lostLine kept = kept := by
  unfold settled lostLine
  split
  next ends => exact List.dropLast_append_getLast? _ ends
  next => exact List.append_nil _

theorem settled_subset : ∀ line ∈ settled kept, line ∈ kept := by
  intro line member
  rw [← settled_append_lost kept]
  exact List.mem_append_left _ member

theorem settled_length (kept : List (List Char)) : kept.length ≤ (settled kept).length + 1 := by
  unfold settled
  split
  · rw [List.length_dropLast]
    omega
  · omega

theorem isBegin_chomp (line : List Char) : isBegin (chomp line) = isBegin line := by
  rw [isBegin, trim_chomp, isBegin]

theorem chomp_eq_self_iff : chomp line = line ↔ line.getLast? ≠ some '\r' := by
  constructor
  · intro same ends
    have shorter := congrArg List.length same
    rw [chomp, if_pos ends, List.length_dropLast] at shorter
    have some : line ≠ [] := by
      rintro rfl
      cases ends
    have positive := List.length_pos_of_ne_nil some
    omega
  · exact fun plain => if_neg plain

theorem map_chomp_eq : kept.map chomp = kept ↔ ∀ line ∈ kept, line.getLast? ≠ some '\r' := by
  induction kept with
  | nil => simp
  | cons line kept ih => rw [List.map_cons, List.cons.injEq, ih, chomp_eq_self_iff, List.forall_mem_cons]

theorem lines_updateRcContents (existing managedBlock : List Char) : lines (updateRcContents existing managedBlock) =
    (settled (userParts false (lines existing)).1).map chomp ++ lines managedBlock := by
  rw [updateRcContents_eq, lines_unlines_append]
  intro line member
  rw [← keptLines_userLines] at member
  exact lines_whole existing line (keptLines_subset line (settled_subset line member))

theorem keptLines_updateRcContents (existing managedBlock : List Char) :
    keptLines false (lines (updateRcContents existing managedBlock)) =
      (settled (userParts false (lines existing)).1).map chomp ++ keptLines false (lines managedBlock) := by
  rw [lines_updateRcContents, keptLines_plain]
  intro line member
  obtain ⟨before, kept, rfl⟩ := List.mem_map.mp member
  rw [isBegin_chomp]
  rw [← keptLines_userLines] at kept
  exact keptLines_not_begin before (settled_subset before kept)

/-- Lines come out of a second edit as they are if nothing is cut off them, and nothing else is added. -/
theorem settled_again {added : List (List Char)} (other : added ≠ [[]]) : settled (kept.map chomp ++ added) = kept ↔
    added = [] ∧ (∀ line ∈ kept, line.getLast? ≠ some '\r') ∧ kept.getLast? ≠ some [] := by
  constructor
  · intro same
    have long := settled_length (kept.map chomp ++ added)
    rw [same, List.length_append, List.length_map] at long
    have whole := settled_append_lost (kept.map chomp ++ added)
    rw [same] at whole
    cases added with
    | cons line more =>
      -- The only line that can be taken off again is an empty one.
      exfalso
      have none : more = [] := by
        rw [← List.length_eq_zero_iff]
        rw [List.length_cons] at long
        omega
      subst none
      have ends : (kept.map chomp ++ [line]).getLast? = some line := List.getLast?_concat
      have empty : line ≠ [] := by
        rintro rfl
        exact other rfl
      have keeps : settled (kept.map chomp ++ [line]) = kept.map chomp ++ [line] := by
        rw [settled, ends, if_neg (by simpa using empty)]
      rw [keeps] at same
      have shorter := congrArg List.length same
      simp at shorter
    | nil =>
      rw [List.append_nil] at same whole
      have keeps : lostLine (kept.map chomp) = [] := by
        have sizes := congrArg List.length whole
        rw [List.length_append, List.length_map] at sizes
        rw [← List.length_eq_zero_iff]
        omega
      rw [keeps, List.append_nil] at whole
      refine ⟨rfl, map_chomp_eq.mp whole.symm, ?_⟩
      intro ends
      rw [whole] at ends
      rw [lostLine, if_pos ends] at keeps
      cases keeps
  · rintro ⟨rfl, plain, ends⟩
    rw [List.append_nil, map_chomp_eq.mpr plain, settled, if_neg ends]

theorem plain_settled : (∀ line ∈ settled kept, line.getLast? ≠ some '\r') ↔ ∀ line ∈ kept, line.getLast? ≠ some '\r' := by
  constructor
  · intro plain line member
    rw [← settled_append_lost kept, List.mem_append] at member
    cases member with
    | inl inside => exact plain line inside
    | inr lost =>
      unfold lostLine at lost
      split at lost
      · rw [List.mem_singleton.mp lost]
        exact fun ends => by cases ends
      · cases lost
  · exact fun plain line member => plain line (settled_subset line member)

theorem settled_empty : (settled kept).getLast? = some [] ↔ ∃ more, kept = more ++ [[], []] := by
  constructor
  · intro ends
    have whole := settled_append_lost kept
    obtain ⟨more, same⟩ := List.getLast?_eq_some_iff.mp ends
    rw [same] at whole
    have lost : lostLine kept = [[]] := by
      unfold lostLine
      split
      next => rfl
      next other =>
        rw [settled, if_neg other] at ends
        exact absurd ends other
    rw [lost] at whole
    exact ⟨more, by rw [← whole]; simp⟩
  · rintro ⟨more, rfl⟩
    have shape : more ++ [[], []] = (more ++ [[]]) ++ [[]] := by simp
    rw [shape, settled, List.getLast?_concat, if_pos rfl, List.dropLast_concat, List.getLast?_concat]

theorem update_update_iff {existing managedBlock managedBlock' : List Char} (other : keptLines false (lines managedBlock) ≠ [[]]) :
    updateRcContents (updateRcContents existing managedBlock) managedBlock' = updateRcContents existing managedBlock' ↔
      keptLines false (lines managedBlock) = [] ∧
        (∀ line ∈ (userParts false (lines existing)).1, line.getLast? ≠ some '\r') ∧
        ¬∃ more, (userParts false (lines existing)).1 = more ++ [[], []] := by
  have plain : ∀ text, ∀ line ∈ settled (userParts false (lines text)).1, '\n' ∉ line := by
    intro text line member
    rw [← keptLines_userLines] at member
    exact lines_whole text line (keptLines_subset line (settled_subset line member))
  have again := @settled_again (settled (userParts false (lines existing)).1) _ other
  rw [plain_settled, Ne, settled_empty] at again
  rw [← again, updateRcContents_eq, updateRcContents_eq existing managedBlock', List.append_cancel_right_eq,
    ← keptLines_updateRcContents, keptLines_userLines]
  exact ⟨unlines_inj (plain _) (plain _), fun same => by rw [same]⟩

/-! ### The block of the program -/

theorem lines_append_newline (text rest : List Char) : lines (text ++ '\n' :: rest) = lines (text ++ ['\n']) ++ lines rest := by
  induction size : text.length using Nat.strong_induction_on generalizing text with
  | _ length ih =>
    by_cases member : '\n' ∈ text
    · obtain ⟨first, more, rfl, whole⟩ := List.eq_append_cons_of_mem member
      rw [List.append_assoc, List.append_assoc, List.cons_append, List.cons_append, lines_append whole, lines_append whole,
        ih more.length (by rw [← size]; simp; omega) more rfl, List.cons_append]
    · rw [lines_append member, lines_append member]
      rfl

/-- A line that is no marker, by its first or its last character. -/
def isPlain (line : List Char) : Prop := isBegin line = false ∧ isEnd line = false

theorem plain_of_trim (other : (trim line).head? ≠ some '#' ∨ (trim line).getLast? ≠ some 'd') : isPlain line := by
  have markers : ∀ marker ∈ [beginMarker, endMarker], trim line ≠ marker := by
    intro marker member same
    have ends : ∀ marker ∈ [beginMarker, endMarker], marker.head? = some '#' ∧ marker.getLast? = some 'd' := by decide
    obtain ⟨first, last⟩ := ends marker member
    rw [same] at other
    exact other.elim (fun no => no first) (fun no => no last)
  constructor
  · exact beq_eq_false_iff_ne.mpr (markers _ (by simp))
  · exact beq_eq_false_iff_ne.mpr (markers _ (by simp))

/-- The text begins with a word that is not commented out. -/
def StartsPlain (text : List Char) : Prop :=
  ∃ spaces c more, text = spaces ++ c :: more ∧ (∀ space ∈ spaces, isWhitespace space = true) ∧ isWhitespace c = false ∧ c ≠ '#'

def EndsPlain (text : List Char) : Prop := ∃ more c, text = more ++ [c] ∧ isWhitespace c = false ∧ c ≠ 'd'

theorem StartsPlain.chomp {pre : List Char} (starts : StartsPlain pre) (more : List Char) : isPlain (chomp (pre ++ more)) := by
  obtain ⟨spaces, c, rest, rfl, blank, visible, other⟩ := starts
  apply plain_of_trim
  left
  rw [trim_chomp, List.append_assoc, List.cons_append, trim_append visible, List.dropWhile_eq_nil_iff.mpr blank]
  simpa using other

theorem EndsPlain.chomp {text : List Char} (ends : EndsPlain text) : isPlain (chomp text) := by
  obtain ⟨more, c, rfl, visible, other⟩ := ends
  apply plain_of_trim
  right
  rw [trim_chomp, trim_append visible, List.rdropWhile_nil, List.getLast?_concat]
  simpa using other

/-- Lines that a text with line breaks in it is part of. -/
theorem lines_broken {quoted : List Char} (broken : '\n' ∈ quoted) : ∃ first middle last earlier, quoted = earlier ++ '\n' :: last ∧
    ∀ pre post rest, '\n' ∉ pre → '\n' ∉ post →
      lines (pre ++ quoted ++ post ++ '\n' :: rest) = chomp (pre ++ first) :: (middle ++ chomp (last ++ post) :: lines rest) := by
  obtain ⟨first, tail, rfl, whole⟩ := List.eq_append_cons_of_mem broken
  have start : ∀ pre post rest, '\n' ∉ pre →
      lines (pre ++ (first ++ '\n' :: tail) ++ post ++ '\n' :: rest) = chomp (pre ++ first) :: lines (tail ++ post ++ '\n' :: rest) := by
    intro pre post rest before
    have shape : pre ++ (first ++ '\n' :: tail) ++ post ++ '\n' :: rest = (pre ++ first) ++ '\n' :: (tail ++ post ++ '\n' :: rest) := by
      simp
    rw [shape, lines_append]
    rw [List.mem_append, not_or]
    exact ⟨before, whole⟩
  by_cases more : '\n' ∈ tail
  · obtain ⟨middle, last, rfl, whole'⟩ := exists_last more
    refine ⟨first, lines (middle ++ ['\n']), last, first ++ '\n' :: middle, by simp, ?_⟩
    intro pre post rest before after
    have shape : middle ++ '\n' :: last ++ post ++ '\n' :: rest = middle ++ '\n' :: ((last ++ post) ++ '\n' :: rest) := by simp
    have single : '\n' ∉ last ++ post := by
      rw [List.mem_append, not_or]
      exact ⟨whole', after⟩
    rw [start pre post rest before, shape, lines_append_newline, lines_append single]
  · refine ⟨first, [], tail, first, rfl, ?_⟩
    intro pre post rest before after
    rw [start pre post rest before, lines_append]
    · rfl
    · rw [List.mem_append, not_or]
      exact ⟨more, after⟩

theorem keptLines_inside (plain : isPlain line) : keptLines true (line :: rest) = keptLines true rest := by
  rw [keptLines, plain.1, plain.2]
  rfl

theorem keptLines_outside (plain : isPlain line) : keptLines false (line :: rest) = line :: keptLines false rest := by
  rw [keptLines, plain.1]
  rfl

section Block

variable {quoted pre post pre' post' last' : List Char}

/-- What a block leaves outside of its markers is never an empty line alone: the text in it comes twice. -/
theorem keptLines_block (starts : StartsPlain pre) (starts' : StartsPlain pre') (closes : StartsPlain last')
    (whole : ∀ part ∈ [pre, post, pre', post', last'], '\n' ∉ part)
    (ends : '\n' ∈ quoted → EndsPlain (quoted ++ post)) (ends' : '\n' ∈ quoted → EndsPlain (quoted ++ post')) :
    keptLines false (lines (unlines [beginMarker, pre ++ quoted ++ post, pre' ++ quoted ++ post', last', endMarker])) ≠ [[]] := by
  have marker : isBegin (chomp beginMarker) = true := by decide
  have wholes : '\n' ∉ pre ∧ '\n' ∉ post ∧ '\n' ∉ pre' ∧ '\n' ∉ post' ∧ '\n' ∉ last' := by simpa using whole
  obtain ⟨wholePre, wholePost, wholePre', wholePost', wholeLast⟩ := wholes
  have closing : keptLines true (chomp last' :: lines (unlines [endMarker])) = [] := by
    have closes' := closes.chomp []
    rw [List.append_nil] at closes'
    rw [keptLines_inside closes']
    decide
  rw [unlines_cons, lines_append (by decide), keptLines, marker, if_pos rfl, unlines_cons, unlines_cons, unlines_cons]
  by_cases broken : '\n' ∈ quoted
  · obtain ⟨first, middle, last, earlier, same, cut⟩ := lines_broken broken
    have tail : ∀ post, EndsPlain (quoted ++ post) → EndsPlain (last ++ post) := by
      intro post ends
      obtain ⟨more, c, whole, visible, other⟩ := ends
      rcases List.eq_nil_or_concat (last ++ post) with none | ⟨init, d, some⟩
      · -- Otherwise the line break would be the last character.
        exfalso
        have split : quoted ++ post = earlier ++ ['\n'] := by
          rw [same, List.append_assoc, List.cons_append, none]
        rw [split] at whole
        obtain ⟨-, one⟩ := List.append_inj' whole rfl
        cases one
        cases visible
      · rw [List.concat_eq_append] at some
        have split : quoted ++ post = (earlier ++ '\n' :: init) ++ [d] := by
          rw [same, List.append_assoc, List.cons_append, some]
          simp
        rw [split] at whole
        obtain ⟨-, one⟩ := List.append_inj' whole rfl
        cases one
        exact ⟨init, _, some, visible, other⟩
    rw [cut pre post _ wholePre wholePost, cut pre' post' _ wholePre' wholePost', lines_append wholeLast,
      keptLines_inside (starts.chomp first), keptLines_append]
    cases endsInside true middle with
    | true =>
      rw [keptLines_inside (tail post (ends broken)).chomp, keptLines_inside (starts'.chomp first), keptLines_append]
      cases left : endsInside true middle with
      | true =>
        rw [keptLines_inside (tail post' (ends' broken)).chomp, closing, List.append_nil]
        intro twice
        have sizes := congrArg List.length twice
        rw [List.length_append, List.length_singleton] at sizes
        omega
      | false =>
        rw [keptLines_outside (tail post' (ends' broken)).chomp]
        intro once
        have sizes := congrArg List.length once
        have outside := closes.chomp []
        rw [List.append_nil] at outside
        rw [keptLines_outside outside] at sizes
        simp only [List.length_append, List.length_cons, List.length_nil] at sizes
        omega
    | false =>
      rw [keptLines_outside (tail post (ends broken)).chomp, keptLines_outside (starts'.chomp first)]
      intro once
      have sizes := congrArg List.length once
      simp only [List.length_append, List.length_cons, List.length_nil] at sizes
      omega
  · have single : '\n' ∉ pre ++ quoted ++ post := by simp [wholePre, wholePost, broken]
    have single' : '\n' ∉ pre' ++ quoted ++ post' := by simp [wholePre', wholePost', broken]
    have plain := starts.chomp (quoted ++ post)
    have plain' := starts'.chomp (quoted ++ post')
    rw [← List.append_assoc] at plain plain'
    rw [lines_append single, lines_append single', lines_append wholeLast, keptLines_inside plain, keptLines_inside plain', closing]
    exact (List.cons_ne_nil _ _).symm

end Block

theorem shellQuote_broken {bin : List Char} (broken : '\n' ∈ shellQuote bin) : ∃ more, shellQuote bin = more ++ ['\''] := by
  unfold shellQuote at broken ⊢
  split at broken
  next plain =>
    have absurd' := List.all_eq_true.mp plain _ broken
    exact absurd absurd' (by decide)
  next other =>
    rw [if_neg other]
    exact ⟨_, rfl⟩

theorem keptLines_renderManagedBlock (shell : CompletionShell) (bin : List Char) :
    keptLines false (lines (renderManagedBlock shell bin)) ≠ [[]] := by
  have word : ∀ more c, isWhitespace c = false → c ≠ 'd' → EndsPlain (shellQuote bin ++ (more ++ [c])) := by
    intro more c visible other
    exact ⟨shellQuote bin ++ more, c, by simp, visible, other⟩
  have bare : '\n' ∈ shellQuote bin → EndsPlain (shellQuote bin ++ []) := by
    intro broken
    obtain ⟨more, same⟩ := shellQuote_broken broken
    exact ⟨more, '\'', by rw [same, List.append_nil], by decide, by decide⟩
  cases shell with
  | bash =>
    exact keptLines_block ⟨[], 'i', _, rfl, List.all_iff_forall_prop.mp (by decide), by decide, by decide⟩
      ⟨[' ', ' '], 'e', _, rfl, List.all_iff_forall_prop.mp (by decide), by decide, by decide⟩
      ⟨[], 'f', _, rfl, List.all_iff_forall_prop.mp (by decide), by decide, by decide⟩ (by decide)
      (fun _ => word " ]; the".toList 'n' (by decide) (by decide)) (fun _ => word " 2>/dev/null)".toList '\x22' (by decide) (by decide))
  | zsh =>
    exact keptLines_block ⟨[], 'i', _, rfl, List.all_iff_forall_prop.mp (by decide), by decide, by decide⟩
      ⟨[' ', ' '], 'e', _, rfl, List.all_iff_forall_prop.mp (by decide), by decide, by decide⟩
      ⟨[], 'f', _, rfl, List.all_iff_forall_prop.mp (by decide), by decide, by decide⟩ (by decide)
      (fun _ => word " ]; the".toList 'n' (by decide) (by decide)) (fun _ => word " 2>/dev/null)".toList '\x22' (by decide) (by decide))
  | fish =>
    have block := @keptLines_block (shellQuote bin) "if test -f ".toList [] "  COMPLETE=fish ".toList " 2>/dev/null | source".toList
      "end".toList ⟨[], 'i', _, rfl, List.all_iff_forall_prop.mp (by decide), by decide, by decide⟩
      ⟨[' ', ' '], 'C', _, rfl, List.all_iff_forall_prop.mp (by decide), by decide, by decide⟩
      ⟨[], 'e', _, rfl, List.all_iff_forall_prop.mp (by decide), by decide, by decide⟩ (by decide) bare
      (fun _ => word " 2>/dev/null | sourc".toList 'e' (by decide) (by decide))
    rwa [List.append_nil] at block

/-! ### The user's lines -/

/-- When no line is lost and the edits agree: the first block has nothing outside of its markers and the
second one marker for its begin; the user's lines before an open block end in no carriage return of their
own and not in two empty lines; and a last empty line, and the lines behind a marker without an end, are found
among those of the block. -/
structure Keepable (existing managedBlock managedBlock' : List Char) : Prop where
  closed : (userParts false (lines managedBlock)).1 = []
  single : ((lines managedBlock').filter isBegin).length = 1
  plain : ∀ line ∈ (userParts false (lines existing)).1, line.getLast? ≠ some '\r'
  ended : ¬∃ more, (userParts false (lines existing)).1 = more ++ [[], []]
  found : (lostLine (userParts false (lines existing)).1 ++ (userParts false (lines existing)).2).Sublist (lines managedBlock')

theorem keepsUserLines_iff (existing : List Char) (shell shell' : CompletionShell) (bin bin' : List Char) :
    KeepsUserLines existing (renderManagedBlock shell bin) (renderManagedBlock shell' bin') ↔
      Keepable existing (renderManagedBlock shell bin) (renderManagedBlock shell' bin') := by
  have edits := @update_update_iff existing _ (renderManagedBlock shell' bin') (keptLines_renderManagedBlock shell bin)
  rw [keptLines_userLines] at edits
  generalize renderManagedBlock shell bin = block at edits ⊢
  generalize renderManagedBlock shell' bin' = block' at edits ⊢
  have begins : (lines (updateRcContents existing block')).filter isBegin = (lines block').filter isBegin := by
    rw [lines_updateRcContents, List.filter_append, List.filter_eq_nil_iff.mpr, List.nil_append]
    intro line member
    obtain ⟨before, kept, rfl⟩ := List.mem_map.mp member
    rw [isBegin_chomp]
    rw [← keptLines_userLines] at kept
    simp [keptLines_not_begin before (settled_subset before kept)]
  have sub : (∀ line ∈ (userParts false (lines existing)).1, line.getLast? ≠ some '\r') →
      ((userLines existing).Sublist (lines (updateRcContents existing block')) ↔
        (lostLine (userParts false (lines existing)).1 ++ (userParts false (lines existing)).2).Sublist (lines block')) := by
    intro plain
    have whole := settled_append_lost (userParts false (lines existing)).1
    rw [lines_updateRcContents, map_chomp_eq.mpr (plain_settled.mpr plain), userLines]
    nth_rewrite 1 [← whole]
    rw [List.append_assoc, List.append_sublist_append_left]
  unfold KeepsUserLines
  rw [edits, begins]
  constructor
  · rintro ⟨⟨closed, plain, ended⟩, single, found⟩
    exact ⟨closed, single, plain, ended, (sub plain).mp found⟩
  · rintro ⟨closed, single, plain, ended, found⟩
    exact ⟨⟨closed, plain, ended⟩, single, (sub plain).mpr found⟩

theorem keepsUserLines_plain : KeepsUserLines "export A=b\n".toList (renderManagedBlock .zsh "/opt/wgd".toList)
    (renderManagedBlock .fish "/usr/local/bin/wgd".toList) := by
  refine (keepsUserLines_iff _ .zsh .fish _ _).mpr ⟨by decide +kernel, by decide +kernel, by decide +kernel, ?_, by decide +kernel⟩
  have one : (userParts false (lines "export A=b\n".toList)).1 = ["export A=b".toList] := by decide +kernel
  rw [one]
  rintro ⟨more, same⟩
  have sizes := congrArg List.length same
  simp at sizes

/-- An empty line at the end is lost at each edit, and everything behind a marker without its end. -/
theorem not_keepsUserLines :
    (∃ shell bin, ¬KeepsUserLines "export A=b\n\n\n".toList (renderManagedBlock shell bin) (renderManagedBlock shell bin)) ∧
      updateRcContents "# begin: wgd managed\nexport A=b\n".toList (renderManagedBlock .zsh "/opt/wgd".toList) =
        renderManagedBlock .zsh "/opt/wgd".toList := by
  refine ⟨⟨.zsh, "/opt/wgd".toList, ?_⟩, by decide +kernel⟩
  intro keeps
  exact absurd keeps.1 (by decide +kernel)

end Wgd.Completion
