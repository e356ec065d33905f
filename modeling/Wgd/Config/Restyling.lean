import Mathlib.Data.List.DropRight
import Mathlib.Logic.Relation
import Wgd.Config.Sections
import Wgd.Net.Display

/-! What may be changed about the writing of a configuration without changing what is
read, and what the parser makes of every text that it accepts. -/

set_option autoImplicit false

namespace Wgd.Config

open Wgd.Net

/-- The text without any whitespace. -/
def unspaced (text : List Char) : List Char := text.filter fun c => !isWhitespace c

/-- Two ways to write a line: in letter case, whitespace and comment. -/
inductive SameLine : List Char → List Char → Prop where
  | spaces {line line' : List Char} (same : trim line = trim line') : SameLine line line'
  | comment (line comment : List Char) : SameLine (line ++ '#' :: comment) line
  | header {line line' : List Char} (opens : (unspaced line).head? = some '[')
      (same : toAsciiLowercase (unspaced line) = toAsciiLowercase (unspaced line')) : SameLine line line'
  | directive {key key' value value' : List Char} (plain : (unspaced key).head? ≠ some '[') (single : '=' ∉ key ∧ '=' ∉ key')
      (whole : '#' ∉ key ++ value ∧ '#' ∉ key' ++ value') (sameKey : lowerKey key = lowerKey key')
      (sameValue : trim value = trim value') : SameLine (key ++ '=' :: value) (key' ++ '=' :: value')

/-- Two ways to write a text; blank lines may come and go. -/
inductive Restyled : List (List Char) → List (List Char) → Prop where
  | line (before after : List (List Char)) {line line' : List Char} (same : SameLine line line') :
      Restyled (before ++ line :: after) (before ++ line' :: after)
  | blank (before after : List (List Char)) {line : List Char} (empty : trim line = []) :
      Restyled (before ++ line :: after) (before ++ after)

/-! ### Whitespace -/

theorem dropWhile_append_of_neg {A : Type} {p : A → Bool} (first : List A) {item : A} (stops : p item = false) (rest : List A) :
    (first ++ item :: rest).dropWhile p = first.dropWhile p ++ item :: rest := by
  rw [List.dropWhile_append]
  split
  next all => rw [List.dropWhile_cons_of_neg (by simp [stops]), List.isEmpty_iff.mp all, List.nil_append]
  next => rfl

theorem trim_eq (text : List Char) : trim text = (text.dropWhile isWhitespace).rdropWhile isWhitespace := rfl

theorem trim_append {key value : List Char} {c : Char} (stops : isWhitespace c = false) :
    trim (key ++ c :: value) = key.dropWhile isWhitespace ++ c :: value.rdropWhile isWhitespace := by
  rw [trim, dropWhile_append_of_neg key stops, List.rdropWhile, List.reverse_append, List.reverse_cons, List.append_assoc,
    List.singleton_append, dropWhile_append_of_neg _ stops]
  simp

theorem trim_cons {c : Char} (space : isWhitespace c = true) (text : List Char) : trim (c :: text) = trim text := by
  rw [trim, List.dropWhile_cons_of_pos space, trim]

theorem trim_concat {c : Char} (space : isWhitespace c = true) (text : List Char) : trim (text ++ [c]) = trim text := by
  rw [trim_eq, trim_eq, List.dropWhile_append]
  split
  next all =>
    rw [List.isEmpty_iff.mp all, List.dropWhile_cons_of_pos space]
    rfl
  next => exact List.rdropWhile_concat_pos _ _ _ space

theorem trim_dropWhile (text : List Char) : trim (text.dropWhile isWhitespace) = trim text := by
  rw [trim, trim, List.dropWhile_idempotent]

theorem trim_rdropWhile (text : List Char) : trim (text.rdropWhile isWhitespace) = trim text := by
  induction text using List.reverseRecOn with
  | nil => rfl
  | append_singleton text c ih =>
    by_cases space : isWhitespace c = true
    · rw [List.rdropWhile_concat_pos _ _ _ space, ih, trim_concat space]
    · rw [List.rdropWhile_concat_neg _ _ _ space]

theorem trim_idem (text : List Char) : trim (trim text) = trim text := by
  have whole := trim_rdropWhile (text.dropWhile isWhitespace)
  rwa [trim_dropWhile] at whole

theorem trim_plain {text : List Char} (plain : ∀ c ∈ text, isWhitespace c = false) : trim text = text := by
  have left : text.dropWhile isWhitespace = text := by
    cases text with
    | nil => rfl
    | cons c rest => exact List.dropWhile_cons_of_neg (by simp [plain c List.mem_cons_self])
  rw [trim_eq, left, List.rdropWhile_eq_self_iff]
  intro nonempty
  simp [plain _ (List.getLast_mem nonempty)]

theorem mem_of_mem_trim {text : List Char} {c : Char} (member : c ∈ trim text) : c ∈ text :=
  (List.dropWhile_suffix _).mem ((List.rdropWhile_prefix _ _).mem member)

/-! ### Comments -/

theorem isWhitespace_hash : isWhitespace '#' = false := by decide

theorem takeWhile_space {c : Char} (space : isWhitespace c = true) (rest : List Char) :
    (c :: rest).takeWhile (fun c => decide (c ≠ '#')) = c :: rest.takeWhile fun c => decide (c ≠ '#') := by
  have other : c ≠ '#' := by
    rintro rfl
    exact absurd space (by decide)
  simp [other]

theorem stripComment_dropWhile (line : List Char) : stripComment (line.dropWhile isWhitespace) = stripComment line := by
  induction line with
  | nil => rfl
  | cons c line ih =>
    by_cases space : isWhitespace c = true
    · rw [List.dropWhile_cons_of_pos space, ih, stripComment, stripComment, takeWhile_space space, trim_cons space]
    · rw [List.dropWhile_cons_of_neg space]

theorem stripComment_rdropWhile (line : List Char) : stripComment (line.rdropWhile isWhitespace) = stripComment line := by
  induction line using List.reverseRecOn with
  | nil => rfl
  | append_singleton line c ih =>
    by_cases space : isWhitespace c = true
    · rw [List.rdropWhile_concat_pos _ _ _ space, ih, stripComment, stripComment, List.takeWhile_append]
      split
      next all =>
        have whole : line.takeWhile (fun c => decide (c ≠ '#')) = line := (List.takeWhile_prefix _).eq_of_length all
        rw [takeWhile_space space, List.takeWhile_nil, trim_concat space, whole]
      next => rfl
    · rw [List.rdropWhile_concat_neg _ _ _ space]

/-- The whitespace around a line does not count. -/
theorem stripComment_trim (line : List Char) : stripComment (trim line) = stripComment line := by
  rw [trim_eq, stripComment_rdropWhile, stripComment_dropWhile]

theorem takeWhile_comment (line comment : List Char) :
    (line ++ '#' :: comment).takeWhile (fun c => decide (c ≠ '#')) = line.takeWhile fun c => decide (c ≠ '#') := by
  induction line with
  | nil => rfl
  | cons c line ih =>
    rw [List.cons_append, List.takeWhile_cons, List.takeWhile_cons, ih]

theorem stripComment_comment (line comment : List Char) : stripComment (line ++ '#' :: comment) = stripComment line := by
  rw [stripComment, takeWhile_comment, stripComment]

theorem stripComment_plain {line : List Char} (plain : '#' ∉ line) : stripComment line = trim line := by
  rw [stripComment, List.takeWhile_eq_self_iff.mpr]
  intro c member
  rw [decide_eq_true_eq]
  rintro rfl
  exact plain member

/-! ### Headers -/

theorem unspaced_trim (text : List Char) : unspaced (trim text) = unspaced text := by
  have left : ∀ text, unspaced (text.dropWhile isWhitespace) = unspaced text := by
    intro text
    induction text with
    | nil => rfl
    | cons c text ih =>
      by_cases space : isWhitespace c = true
      · rw [List.dropWhile_cons_of_pos space, ih]
        simp [unspaced, space]
      · rw [List.dropWhile_cons_of_neg space]
  rw [trim, unspaced, List.filter_reverse, ← unspaced, left, unspaced, List.filter_reverse, List.reverse_reverse, ← unspaced, left]

theorem unspaced_stripComment (line : List Char) :
    unspaced (stripComment line) = (unspaced line).takeWhile fun c => decide (c ≠ '#') := by
  rw [stripComment, unspaced_trim]
  induction line with
  | nil => rfl
  | cons c line ih =>
    by_cases hash : c = '#'
    · subst hash
      simp [unspaced, isWhitespace_hash]
    · rw [List.takeWhile_cons_of_pos (by simpa using hash)]
      by_cases space : isWhitespace c = true
      · simpa [unspaced, space] using ih
      · simp only [unspaced, List.filter_cons, space, Bool.not_false, if_true] at ih ⊢
        rw [List.takeWhile_cons_of_pos (by simpa using hash), ih]

theorem dropWhile_head (text : List Char) : (text.dropWhile isWhitespace).head? = (unspaced text).head? := by
  induction text with
  | nil => rfl
  | cons c text ih =>
    by_cases space : isWhitespace c = true
    · rw [List.dropWhile_cons_of_pos space, ih]
      simp [unspaced, space]
    · rw [List.dropWhile_cons_of_neg space]
      simp [unspaced, space]

theorem trim_head (text : List Char) : (trim text).head? = (unspaced text).head? := by
  rw [← trim_dropWhile, ← dropWhile_head]
  cases rest : text.dropWhile isWhitespace with
  | nil => rfl
  | cons c rest' =>
    have stops : isWhitespace c = false := by
      have first := List.head?_dropWhile_not isWhitespace text
      rw [rest] at first
      simpa using first
    have whole := @trim_append [] rest' c stops
    rw [List.nil_append] at whole
    rw [whole]
    rfl

/-- A header is told by its first character. -/
theorem head_stripComment (line : List Char) : (stripComment line).head? = some '[' ↔ (unspaced line).head? = some '[' := by
  rw [stripComment, trim_head, ← unspaced_trim, ← stripComment, unspaced_stripComment]
  cases unspaced line with
  | nil => simp
  | cons c rest =>
    by_cases hash : c = '#'
    · subst hash
      simp
    · rw [List.takeWhile_cons_of_pos (by simpa using hash)]
      rfl

/-! ### Letter case -/

theorem toLower_cases (c : Char) : c.toLower = c ∨ 65 ≤ c.toNat ∧ c.toNat ≤ 90 ∧ c.toLower.toNat = c.toNat + 32 := by
  unfold Char.toLower
  split
  next upper =>
    right
    have low : 65 ≤ c.val.toNat := upper.1
    have high : c.val.toNat ≤ 90 := upper.2
    refine ⟨low, high, ?_⟩
    show (c.val + ('a'.val - 'A'.val)).toNat = c.val.toNat + 32
    rw [UInt32.toNat_add]
    exact Nat.mod_eq_of_lt (show c.val.toNat + 32 < 2 ^ 32 by omega)
  next => exact .inl rfl

/-- No letter becomes anything but a letter, and nothing else changes. -/
theorem toLower_eq_iff {c d : Char} (other : d.toNat < 65 ∨ 90 < d.toNat ∧ d.toNat < 97) : c.toLower = d ↔ c = d := by
  obtain same | ⟨low, high, shifted⟩ := toLower_cases c
  · rw [same]
  · constructor
    · intro same
      rw [← same] at other
      omega
    · intro same
      rw [← same] at other
      omega

theorem lowercase_head {text : List Char} {d : Char} (other : d.toNat < 65 ∨ 90 < d.toNat ∧ d.toNat < 97) :
    (toAsciiLowercase text).head? = some d ↔ text.head? = some d := by
  cases text with
  | nil => simp [toAsciiLowercase]
  | cons c rest => simp [toAsciiLowercase, toLower_eq_iff other]

theorem lowercase_takeWhile (text : List Char) :
    (toAsciiLowercase text).takeWhile (fun c => decide (c ≠ '#')) = toAsciiLowercase (text.takeWhile fun c => decide (c ≠ '#')) := by
  unfold toAsciiLowercase
  rw [List.takeWhile_map]
  congr 1
  apply congrArg (fun p => List.takeWhile p text)
  funext c
  simp [toLower_eq_iff (show '#'.toNat < 65 ∨ _ from .inl (by decide))]

/-- The name between the brackets. -/
def bracketed (text : List Char) : Option String :=
  if text.head? = some '[' ∧ text.tail.getLast? = some ']' then some (String.ofList (toAsciiLowercase text.tail.dropLast))
  else none

theorem headerName_eq (line : List Char) : headerName line = bracketed (unspaced line) := by
  unfold headerName bracketed unspaced
  cases line.filter fun c => !isWhitespace c with
  | nil => rfl
  | cons c rest =>
    by_cases opens : c = '['
    · subst opens
      cases last : rest.getLast? with
      | none => simp [last]
      | some d =>
        by_cases closes : d = ']'
        · subst closes
          simp [last]
        · simp [last, closes]
    · simp [opens]

theorem bracketed_lowercase (text : List Char) : bracketed (toAsciiLowercase text) = bracketed text := by
  have opens : (toAsciiLowercase text).head? = some '[' ↔ text.head? = some '[' := lowercase_head (.inr (by decide))
  have closes : (toAsciiLowercase text).tail.getLast? = some ']' ↔ text.tail.getLast? = some ']' := by
    rw [toAsciiLowercase, ← List.map_tail, List.getLast?_map, Option.map_eq_some_iff]
    simp [toLower_eq_iff (show ']'.toNat < 65 ∨ 90 < ']'.toNat ∧ ']'.toNat < 97 from .inr (by decide))]
  have name : toAsciiLowercase (toAsciiLowercase text).tail.dropLast = toAsciiLowercase text.tail.dropLast := by
    simp [toAsciiLowercase, ← List.map_tail, ← List.map_dropLast]
  simp only [bracketed, opens, closes, name]

/-! ### What a restyled text says -/

theorem readLine_congr {line line' : List Char} (same : stripComment line = stripComment line') : readLine line = readLine line' := by
  unfold readLine
  rw [same]

theorem readLine_header {line : List Char} (opens : (unspaced line).head? = some '[') :
    readLine line = readHeader (stripComment line) := by
  have first := (head_stripComment line).mpr opens
  have some : (stripComment line).isEmpty = false := by
    cases whole : stripComment line with
    | nil => simp [whole] at first
    | cons c rest => rfl
  unfold readLine
  simp [some, first]

theorem readHeader_congr {line line' : List Char} (same : headerName line = headerName line') : readHeader line = readHeader line' := by
  unfold readHeader
  rw [same]

theorem readLine_directive {key value : List Char} (plain : (unspaced key).head? ≠ some '[') (single : '=' ∉ key)
    (uncommented : '#' ∉ key) : readLine (key ++ '=' :: value) = .directive (lowerKey key) (stripComment value) := by
  have whole : key.takeWhile (fun c => decide (c ≠ '#')) = key := by
    rw [List.takeWhile_eq_self_iff]
    intro c member
    rw [decide_eq_true_eq]
    rintro rfl
    exact uncommented member
  have stripped : stripComment (key ++ '=' :: value) =
      key.dropWhile isWhitespace ++ '=' :: (value.takeWhile fun c => decide (c ≠ '#')).rdropWhile isWhitespace := by
    rw [stripComment, List.takeWhile_append, whole, if_pos rfl, List.takeWhile_cons_of_pos (by decide), trim_append (by decide)]
  have first : (key.dropWhile isWhitespace ++
      '=' :: (value.takeWhile fun c => decide (c ≠ '#')).rdropWhile isWhitespace).head? ≠ some '[' := by
    rw [← dropWhile_head] at plain
    cases start : key.dropWhile isWhitespace with
    | nil => simp
    | cons c rest => simpa [start] using plain
  have absent : '=' ∉ key.dropWhile isWhitespace := fun member => single ((List.dropWhile_suffix _).mem member)
  unfold readLine
  dsimp only
  rw [stripped, if_neg (by simp), if_neg first, splitOnce_append absent]
  dsimp only
  rw [lowerKey, trim_dropWhile, trim_rdropWhile, lowerKey, stripComment]

/-- The writing of a line does not matter. -/
theorem readLine_same {line line' : List Char} (same : SameLine line line') : readLine line = readLine line' := by
  have bracket : ∀ text : List Char, (toAsciiLowercase text).head? = some '[' ↔ text.head? = some '[' :=
    fun _ => lowercase_head (.inr (by decide))
  cases same with
  | spaces same =>
    apply readLine_congr
    rw [← stripComment_trim, same, stripComment_trim]
  | comment => exact readLine_congr (stripComment_comment _ _)
  | header opens same =>
    have opens' : (unspaced line').head? = some '[' := by
      rw [← bracket, ← same, bracket]
      exact opens
    rw [readLine_header opens, readLine_header opens']
    apply readHeader_congr
    rw [headerName_eq, headerName_eq, unspaced_stripComment, unspaced_stripComment, ← bracketed_lowercase,
      ← lowercase_takeWhile, same, lowercase_takeWhile, bracketed_lowercase]
  | @directive key key' value value' plain single whole sameKey sameValue =>
    have plain' : (unspaced key').head? ≠ some '[' := by
      have lowered : toAsciiLowercase (trim key) = toAsciiLowercase (trim key') := by
        have texts := congrArg String.toList sameKey
        rwa [lowerKey, lowerKey, String.toList_ofList, String.toList_ofList] at texts
      rw [← trim_head, Ne, ← bracket, lowered, bracket, trim_head] at plain
      exact plain
    simp only [List.mem_append, not_or] at whole
    rw [readLine_directive plain single.1 whole.1.1, readLine_directive plain' single.2 whole.2.1, sameKey,
      stripComment_plain whole.1.2, stripComment_plain whole.2.2, sameValue]

variable {crates : Crates} {resolver : Resolver}

theorem runLines_restyled {text text' : List (List Char)} (restyled : Restyled text text') (state : ParseState) :
    runLines crates resolver state (text.map readLine) = runLines crates resolver state (text'.map readLine) := by
  cases restyled with
  | line before after same => rw [List.map_append, List.map_append, List.map_cons, List.map_cons, readLine_same same]
  | @blank before after line empty =>
    have blank : readLine line = .blank := by
      have none : stripComment line = [] := by
        rw [← stripComment_trim, empty]
        rfl
      unfold readLine
      rw [none]
      rfl
    rw [List.map_append, List.map_append, List.map_cons, blank]
    unfold runLines
    rw [List.foldlM_append, List.foldlM_append]
    rfl

/-- The parser reads a restyled text as it read the text before. -/
theorem parse_restyled {input input' : String} (restyled : Relation.EqvGen Restyled (lines input.toList) (lines input'.toList)) :
    (parseConnectionConfig crates resolver input).toOption = (parseConnectionConfig crates resolver input').toOption := by
  have same : ∀ {text text' : List (List Char)}, Relation.EqvGen Restyled text text' → ∀ state,
      runLines crates resolver state (text.map readLine) = runLines crates resolver state (text'.map readLine) := by
    intro text text' restyled
    induction restyled with
    | rel _ _ restyled => exact runLines_restyled restyled
    | refl _ => exact fun _ => rfl
    | symm _ _ _ ih => exact fun state => (ih state).symm
    | trans _ _ _ _ _ first second => exact fun state => (first state).trans (second state)
  rw [parseConnectionConfig_toOption, parseConnectionConfig_toOption, same restyled]

/-! ### Every accepted text -/

/-- The parser is sectional. Each line of an accepted text is one its section admits; there is
one peer for each header, from the directives up to the next header alone; the interface is
from the directives under its own headers; and the writing of the lines does not matter. -/
theorem parser_sectional (crates : Crates) (resolver : Resolver) :
    (∀ input config, parseConnectionConfig crates resolver input = .ok config →
      (∀ before rawLine after, lines input.toList = before ++ rawLine :: after →
        Admits (openAfter (before.map readLine)) (readLine rawLine)) ∧
      config.peers.length = ((lines input.toList).map readLine).count (.header .peer) ∧
      peersOf crates resolver 0 (peerSections ((lines input.toList).map readLine)) = some config.peers ∧
      ∃ fields, interfaceOf crates (interfaceDirectives ((lines input.toList).map readLine)) = some fields ∧
        finish fields config.peers = some config) ∧
    ∀ input input', Relation.EqvGen Restyled (lines input.toList) (lines input'.toList) →
      (parseConnectionConfig crates resolver input).toOption = (parseConnectionConfig crates resolver input').toOption := by
  constructor
  · intro input config accepted
    have whole := toOption_eq_some.mpr accepted
    have run := whole
    rw [parseConnectionConfig_toOption, Option.bind_eq_some_iff] at run
    obtain ⟨final, run, -⟩ := run
    rw [parseConnectionConfig_sectional, sectional] at whole
    split at whole
    · cases whole
    rw [Option.bind_eq_bind, Option.bind_eq_some_iff] at whole
    obtain ⟨fields, described, whole⟩ := whole
    rw [Option.bind_eq_bind, Option.bind_eq_some_iff] at whole
    obtain ⟨peers, built, finished⟩ := whole
    have own : config.peers = peers := by
      have same := finished
      unfold finish at same
      split at same
      · cases same
      · split at same
        · cases same
        · cases same
          rfl
    rw [own]
    refine ⟨?_, ?_, built, fields, described, finished⟩
    · intro before rawLine after split
      rw [split] at run
      exact runLines_admits run
    · rw [peersOf_length built, peerSections_length]
  · intro input input' restyled
    exact parse_restyled restyled

/-- The text of an error quotes the line as it is written. -/
theorem error_quotes_line :
    ¬ ∀ (crates : Crates) (resolver : Resolver) (input input' : String),
      Relation.EqvGen Restyled (lines input.toList) (lines input'.toList) →
        parseConnectionConfig crates resolver input = parseConnectionConfig crates resolver input' := by
  intro same
  have restyled : Relation.EqvGen Restyled (lines "[Foo]".toList) (lines " [Foo]".toList) := by
    apply Relation.EqvGen.rel
    exact .line [] [] (.spaces (by decide))
  have equal := same ⟨fun _ => .error "", fun _ => "", fun _ => none, fun _ => []⟩ (fun _ _ _ => .error "") "[Foo]" " [Foo]" restyled
  exact absurd equal (by decide +kernel)

end Wgd.Config
