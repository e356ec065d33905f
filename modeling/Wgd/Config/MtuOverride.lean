import Wgd.Config.Restyling
import Wgd.Net.Splitting

/-! The override rewrites a text line by line before the parser reads it. Both decide for
themselves which lines belong to the interface, and which of them set the MTU. -/

set_option autoImplicit false

namespace Wgd.Config

open Wgd.Net

/-! ### How the override reads a line -/

def opensHeader (line : List Char) : Bool := (trim line).head? = some '['

/-- The only spelling of the header that the override knows. -/
def isPlainHeader (line : List Char) : Bool := eqIgnoreAsciiCase (trim line) "[interface]".toList

def namesMtu (line : List Char) : Bool :=
  match splitOnce '=' (trim line) with
  | some (key, _) => eqIgnoreAsciiCase (trim key) "mtu".toList
  | none => false

/-- The line the override puts in, without its end. -/
def mtuLine (mtu : UInt16) : List Char := s!"MTU = {mtu}".toList

/-- Whether there is a line to be replaced. -/
def findsMtu : (inside : Bool) → List (List Char) → Bool
  | _, [] => false
  | inside, line :: rest =>
    if opensHeader line then findsMtu (isPlainHeader line) rest
    else inside && namesMtu line || findsMtu inside rest

/-- The lines of the new text. A directive that is `pending` goes below the first plain header. -/
def overridden (mtu : UInt16) : (pending inside : Bool) → List (List Char) → List (List Char)
  | _, _, [] => []
  | pending, inside, line :: rest =>
    if opensHeader line then
      if pending && isPlainHeader line then line :: mtuLine mtu :: overridden mtu false true rest
      else line :: overridden mtu pending (isPlainHeader line) rest
    else if inside && namesMtu line then mtuLine mtu :: overridden mtu pending inside rest
    else line :: overridden mtu pending inside rest

/-- The lines that stay as they are. -/
def keptLines : (inside : Bool) → List (List Char) → List (List Char)
  | _, [] => []
  | inside, line :: rest =>
    if opensHeader line then line :: keptLines (isPlainHeader line) rest
    else if inside && namesMtu line then keptLines inside rest
    else line :: keptLines inside rest

/-- The MTU that a line of the interface sets. -/
def mtuSetting : Line → Option UInt16
  | .directive key value => if key = "mtu" ∧ value ≠ [] then (parseMtu value).toOption else none
  | _ => none

/-- What sets the MTU in the new text, in order: the override's own line, or a directive it has not
recognised, with its value. -/
def mtuSettings : (pending inside interface : Bool) → List (List Char) → List (Option UInt16)
  | _, _, _, [] => []
  | pending, inside, interface, line :: rest =>
    if opensHeader line then
      (if pending && isPlainHeader line then [none] else []) ++
        mtuSettings (pending && !isPlainHeader line) (isPlainHeader line) (readLine line = .header .interface) rest
    else if inside && namesMtu line then none :: mtuSettings pending inside interface rest
    else
      (if interface then (mtuSetting (readLine line)).toList.map some else []) ++ mtuSettings pending inside interface rest

/-! ### The pass of the override -/

theorem mtuLine_newline (mtu : UInt16) : s!"MTU = {mtu}\n".toList = mtuLine mtu ++ ['\n'] := by
  simp [mtuLine, show (toString "\n").toList = ['\n'] from rfl]

theorem unlines_cons (line : List Char) (rest : List (List Char)) : unlines (line :: rest) = line ++ '\n' :: unlines rest := by
  simp [unlines]

theorem rewriteMtuLine_eq (mtu : UInt16) (rewrite : MtuRewrite) (line : List Char) :
    rewriteMtuLine mtu rewrite line =
      if opensHeader line then { rewrite with inInterface := isPlainHeader line, out := rewrite.out ++ line ++ ['\n'] }
      else if rewrite.inInterface && namesMtu line then
        { rewrite with found := true, out := rewrite.out ++ (mtuLine mtu ++ ['\n']) }
      else { rewrite with out := rewrite.out ++ line ++ ['\n'] } := by
  unfold rewriteMtuLine opensHeader namesMtu isPlainHeader
  dsimp only
  rw [mtuLine_newline]
  by_cases header : (trim line).head? = some '['
  · simp [header]
  · simp only [header, if_false, decide_false, Bool.false_eq_true]
    cases splitOnce '=' (trim line) with
    | none => simp
    | some parts => rfl

theorem isPlainHeader_opens {line : List Char} (plain : isPlainHeader line = true) : opensHeader line = true := by
  unfold isPlainHeader eqIgnoreAsciiCase at plain
  rw [decide_eq_true_eq] at plain
  unfold opensHeader
  rw [decide_eq_true_eq, ← lowercase_head (.inr (by decide)), plain]
  rfl

section Passes

variable {inside : Bool} {line : List Char} {rest : List (List Char)} {mtu : UInt16} {pending : Bool}

theorem findsMtu_header (header : opensHeader line = true) :
    findsMtu inside (line :: rest) = findsMtu (isPlainHeader line) rest := by
  rw [findsMtu, if_pos header]

theorem findsMtu_other (other : ¬opensHeader line = true) :
    findsMtu inside (line :: rest) = (inside && namesMtu line || findsMtu inside rest) := by
  rw [findsMtu, if_neg other]

theorem overridden_header (header : opensHeader line = true) :
    overridden mtu pending inside (line :: rest) =
      if pending && isPlainHeader line then line :: mtuLine mtu :: overridden mtu false true rest
      else line :: overridden mtu pending (isPlainHeader line) rest := by
  rw [overridden, if_pos header]

theorem overridden_other (other : ¬opensHeader line = true) :
    overridden mtu pending inside (line :: rest) =
      (if inside && namesMtu line then mtuLine mtu else line) :: overridden mtu pending inside rest := by
  rw [overridden, if_neg other]
  split <;> rfl

/-- The first pass replaces what it finds. -/
theorem foldl_rewriteMtuLine (mtu : UInt16) (texts : List (List Char)) (rewrite : MtuRewrite) :
    (texts.foldl (rewriteMtuLine mtu) rewrite).found = (rewrite.found || findsMtu rewrite.inInterface texts) ∧
      (texts.foldl (rewriteMtuLine mtu) rewrite).out = rewrite.out ++ unlines (overridden mtu false rewrite.inInterface texts) := by
  induction texts generalizing rewrite with
  | nil => simp [findsMtu, overridden, unlines]
  | cons line rest ih =>
    rw [List.foldl_cons, rewriteMtuLine_eq]
    by_cases header : opensHeader line = true
    · rw [if_pos header, findsMtu_header header, overridden_header header]
      obtain ⟨found, out⟩ := ih { rewrite with inInterface := isPlainHeader line, out := rewrite.out ++ line ++ ['\n'] }
      rw [found, out]
      simp [unlines_cons]
    · rw [if_neg header, findsMtu_other header, overridden_other header]
      by_cases replaced : (rewrite.inInterface && namesMtu line) = true
      · rw [if_pos replaced, if_pos replaced, replaced]
        obtain ⟨found, out⟩ := ih { rewrite with found := true, out := rewrite.out ++ (mtuLine mtu ++ ['\n']) }
        rw [found, out]
        simp [unlines_cons]
      · rw [if_neg replaced, if_neg replaced]
        obtain ⟨found, out⟩ := ih { rewrite with out := rewrite.out ++ line ++ ['\n'] }
        rw [found, out]
        simp [unlines_cons, Bool.eq_false_iff.mpr replaced]

/-- Without a line to replace, nothing changes. -/
theorem overridden_absent {texts : List (List Char)} (absent : findsMtu inside texts = false) :
    overridden mtu false inside texts = texts := by
  induction texts generalizing inside with
  | nil => rfl
  | cons line rest ih =>
    by_cases header : opensHeader line = true
    · rw [findsMtu_header header] at absent
      rw [overridden_header header, ih absent]
      rfl
    · rw [findsMtu_other header, Bool.or_eq_false_iff] at absent
      rw [overridden_other header, absent.1, ih absent.2]
      rfl

/-- The second pass puts the line in. -/
theorem insertMtu_eq {texts : List (List Char)} (absent : findsMtu inside texts = false) :
    insertMtu mtu texts = unlines (overridden mtu true inside texts) := by
  induction texts generalizing inside with
  | nil => rfl
  | cons line rest ih =>
    rw [insertMtu, mtuLine_newline, ← isPlainHeader]
    by_cases plain : isPlainHeader line = true
    · have header := isPlainHeader_opens plain
      rw [findsMtu_header header, plain] at absent
      rw [overridden_header header, plain, overridden_absent absent, if_pos rfl]
      simp [unlines]
    · rw [if_neg plain]
      by_cases header : opensHeader line = true
      · rw [findsMtu_header header] at absent
        rw [overridden_header header, ih absent, Bool.eq_false_iff.mpr plain]
        simp [unlines_cons]
      · rw [findsMtu_other header, Bool.or_eq_false_iff] at absent
        rw [overridden_other header, ih absent.2, absent.1]
        simp [unlines_cons]

end Passes

/-! ### Line ends -/

theorem lines_whole (text : List Char) : ∀ line ∈ lines text, '\n' ∉ line := by
  fun_induction lines text with
  | case1 => simp
  | case2 rest ih => simpa using ih
  | case3 rest ih => simpa using ih
  | case4 c rest plain none ends ih =>
    have other : '\n' ≠ c := fun same => plain same.symm
    simp [other]
  | case5 c rest plain none line others split ih =>
    rw [split, List.forall_mem_cons] at ih
    rw [List.forall_mem_cons, List.mem_cons, not_or]
    exact ⟨⟨fun same => plain same.symm, ih.1⟩, ih.2⟩

theorem chomp_eq (line : List Char) : chomp line = line ∨ line = chomp line ++ ['\r'] := by
  unfold chomp
  split
  next ends => exact .inr (List.dropLast_append_getLast? _ ends).symm
  next => exact .inl rfl

theorem trim_chomp (line : List Char) : trim (chomp line) = trim line := by
  obtain same | cut := chomp_eq line
  · rw [same]
  · rw [cut, trim_concat (by decide), ← cut]

@[simp] theorem opensHeader_chomp (line : List Char) : opensHeader (chomp line) = opensHeader line := by
  rw [opensHeader, trim_chomp, opensHeader]

@[simp] theorem isPlainHeader_chomp (line : List Char) : isPlainHeader (chomp line) = isPlainHeader line := by
  rw [isPlainHeader, trim_chomp, isPlainHeader]

@[simp] theorem namesMtu_chomp (line : List Char) : namesMtu (chomp line) = namesMtu line := by
  rw [namesMtu, trim_chomp, namesMtu]

theorem readLine_chomp (line : List Char) : readLine (chomp line) = readLine line := readLine_same (.spaces (trim_chomp line))

theorem mtuLine_eq (mtu : UInt16) : mtuLine mtu = "MTU ".toList ++ '=' :: (' ' :: Nat.toDigits 10 mtu.toNat) := by
  have digits : (toString mtu).toList = Nat.toDigits 10 mtu.toNat := by
    show (Nat.repr mtu.toNat).toList = _
    rw [Nat.repr, String.toList_ofList]
  simp [mtuLine, digits, show (toString "MTU = ").toList = "MTU = ".toList from rfl]

theorem not_mem_mtuLine {mtu : UInt16} {c : Char} (other : ∀ digit < 16, c ≠ Nat.digitChar digit) (apart : c ∉ "MTU = ".toList) :
    c ∉ mtuLine mtu := by
  have digits : c ∉ Nat.toDigits 10 mtu.toNat := not_mem_toDigits (by omega) (by omega) other
  rw [mtuLine_eq]
  simp only [List.mem_append, List.mem_cons, not_or] at apart ⊢
  simp_all

theorem newline_mtuLine (mtu : UInt16) : '\n' ∉ mtuLine mtu := not_mem_mtuLine (by decide) (by decide)

theorem chomp_mtuLine (mtu : UInt16) : chomp (mtuLine mtu) = mtuLine mtu := by
  have plain : '\r' ∉ mtuLine mtu := not_mem_mtuLine (by decide) (by decide)
  obtain same | cut := chomp_eq (mtuLine mtu)
  · exact same
  · rw [cut] at plain
    exact absurd (List.mem_append_right _ (List.mem_singleton_self _)) plain

theorem chomp_mem {line : List Char} {c : Char} (member : c ∈ chomp line) : c ∈ line := by
  obtain same | cut := chomp_eq line
  · rwa [same] at member
  · rw [cut]
    exact List.mem_append_left _ member

theorem findsMtu_chomp (inside : Bool) (texts : List (List Char)) : findsMtu inside (texts.map chomp) = findsMtu inside texts := by
  induction texts generalizing inside with
  | nil => rfl
  | cons line rest ih => simp only [List.map_cons, findsMtu, opensHeader_chomp, isPlainHeader_chomp, namesMtu_chomp, ih]

theorem overridden_chomp (mtu : UInt16) (pending inside : Bool) (texts : List (List Char)) :
    overridden mtu pending inside (texts.map chomp) = (overridden mtu pending inside texts).map chomp := by
  induction texts generalizing pending inside with
  | nil => rfl
  | cons line rest ih =>
    simp only [List.map_cons, overridden, opensHeader_chomp, isPlainHeader_chomp, namesMtu_chomp, ih]
    split
    · split <;> simp [chomp_mtuLine]
    · split <;> simp [chomp_mtuLine]

theorem overridden_whole {mtu : UInt16} {pending inside : Bool} {texts : List (List Char)} (whole : ∀ line ∈ texts, '\n' ∉ line) :
    ∀ line ∈ overridden mtu pending inside texts, '\n' ∉ line := by
  induction texts generalizing pending inside with
  | nil => simp [overridden]
  | cons line rest ih =>
    rw [List.forall_mem_cons] at whole
    rw [overridden]
    split
    · split
      · rw [List.forall_mem_cons, List.forall_mem_cons]
        exact ⟨whole.1, newline_mtuLine mtu, ih whole.2⟩
      · rw [List.forall_mem_cons]
        exact ⟨whole.1, ih whole.2⟩
    · split
      · rw [List.forall_mem_cons]
        exact ⟨newline_mtuLine mtu, ih whole.2⟩
      · rw [List.forall_mem_cons]
        exact ⟨whole.1, ih whole.2⟩

/-- The lines of the new text: the inserting pass has its lines cut once more. -/
def applied (mtu : UInt16) (texts : List (List Char)) : List (List Char) :=
  if findsMtu false texts then overridden mtu false false texts else (overridden mtu true false texts).map chomp

theorem applyMtuOverride_eq (text : String) (mtu : UInt16) :
    (applyMtuOverrideToConfText text mtu).toList = unlines (applied mtu (lines text.toList)) := by
  obtain ⟨found, out⟩ := foldl_rewriteMtuLine mtu (lines text.toList) ⟨false, false, []⟩
  unfold applyMtuOverrideToConfText applied
  dsimp only
  rw [String.toList_ofList, found, out, Bool.false_or, List.nil_append]
  by_cases finds : findsMtu false (lines text.toList) = true
  · rw [if_pos finds, if_pos finds]
  · rw [if_neg finds, if_neg finds]
    have absent := Bool.eq_false_iff.mpr finds
    rw [overridden_absent absent, lines_unlines (lines_whole _), ← overridden_chomp, insertMtu_eq]
    rw [findsMtu_chomp, absent]

theorem lines_applyMtuOverride (text : String) (mtu : UInt16) :
    lines (applyMtuOverrideToConfText text mtu).toList = (applied mtu (lines text.toList)).map chomp := by
  rw [applyMtuOverride_eq, lines_unlines]
  have whole := lines_whole text.toList
  unfold applied
  split
  · exact overridden_whole whole
  · intro line member
    obtain ⟨line', member', rfl⟩ := List.mem_map.mp member
    exact fun inside => overridden_whole whole line' member' (chomp_mem inside)

/-- What the new text says. -/
theorem said_applyMtuOverride (text : String) (mtu : UInt16) :
    (lines (applyMtuOverrideToConfText text mtu).toList).map readLine =
      (overridden mtu (!findsMtu false (lines text.toList)) false (lines text.toList)).map readLine := by
  have chomped : readLine ∘ chomp = readLine := funext readLine_chomp
  rw [lines_applyMtuOverride, List.map_map, chomped, applied]
  split
  next finds => rw [finds]; rfl
  next absent => rw [Bool.eq_false_iff.mpr absent, List.map_map, chomped]; rfl

/-! ### What the parser makes of the new text -/

variable {crates : Crates} {resolver : Resolver} {mtu : UInt16}

theorem opensHeader_iff {line : List Char} : opensHeader line = true ↔ (unspaced line).head? = some '[' := by
  rw [opensHeader, decide_eq_true_eq, trim_head]

theorem readLine_opens {line : List Char} (header : opensHeader line = true) :
    (∃ heading, readLine line = .header heading) ∨ readLine line = .unreadable := by
  rw [readLine_header (opensHeader_iff.mp header)]
  unfold readHeader
  split
  · exact .inl ⟨_, rfl⟩
  · split
    · exact .inl ⟨_, rfl⟩
    · exact .inr rfl

theorem readLine_other {line : List Char} (other : ¬opensHeader line = true) (heading : Heading) : readLine line ≠ .header heading := by
  rw [opensHeader_iff, ← head_stripComment] at other
  unfold readLine
  dsimp only
  rw [if_neg other]
  split
  · simp
  · split <;> simp

/-- The plain spelling is one the parser knows. -/
theorem readLine_plain {line : List Char} (plain : isPlainHeader line = true) : readLine line = .header .interface := by
  have opens := opensHeader_iff.mp (isPlainHeader_opens plain)
  unfold isPlainHeader eqIgnoreAsciiCase at plain
  rw [decide_eq_true_eq] at plain
  have same : SameLine (trim line) "[interface]".toList := by
    apply SameLine.header
    · rwa [unspaced_trim]
    · have spaceless : ∀ text, toAsciiLowercase (unspaced text) = unspaced (toAsciiLowercase text) := by
        intro text
        induction text with
        | nil => rfl
        | cons c text ih =>
          have space : isWhitespace c.toLower = isWhitespace c := by
            obtain same | ⟨low, high, shifted⟩ := toLower_cases c
            · rw [same]
            · unfold isWhitespace
              rw [shifted]
              grind
          simp only [toAsciiLowercase, unspaced, List.map_cons, List.filter_cons, space] at ih ⊢
          cases isWhitespace c <;> simp [ih]
      rw [spaceless, plain]
      rfl
  rw [← readLine_same (.spaces (trim_idem line)),
    readLine_same same]
  decide

/-- A directive has its separator before any comment. -/
theorem separator_of_directive {line : List Char} {key : String} {value : List Char} (means : readLine line = .directive key value) :
    '=' ∈ line.takeWhile fun c => decide (c ≠ '#') := by
  unfold readLine readHeader at means
  dsimp only at means
  split at means
  · cases means
  split at means
  · split at means
    · cases means
    · split at means <;> cases means
  · split at means
    · cases means
    next before after split =>
      apply mem_of_mem_trim
      show '=' ∈ stripComment line
      rw [(splitOnce_some split).1]
      simp

/-- Outside of headers the override and the parser recognise the same key. -/
theorem namesMtu_iff {line : List Char} (other : ¬opensHeader line = true) :
    namesMtu line = true ↔ ∃ value, readLine line = .directive "mtu" value := by
  have trimmed : readLine line = readLine (trim line) := readLine_same (.spaces (trim_idem line).symm)
  have first : (unspaced (trim line)).head? ≠ some '[' := by
    rw [unspaced_trim, Ne, ← opensHeader_iff]
    exact other
  rw [trimmed]
  unfold namesMtu
  cases split : splitOnce '=' (trim line) with
  | none =>
    apply iff_of_false (by simp)
    rintro ⟨value, means⟩
    exact splitOnce_none split ((List.takeWhile_prefix _).mem (separator_of_directive means))
  | some parts =>
    obtain ⟨key, value⟩ := parts
    obtain ⟨whole, single⟩ := splitOnce_some split
    rw [whole] at first ⊢
    dsimp only
    rw [eqIgnoreAsciiCase, decide_eq_true_eq]
    by_cases commented : '#' ∈ key
    · apply iff_of_false
      · intro named
        have spaced : '#' ∈ unspaced (trim key) := by
          rw [unspaced_trim]
          exact List.mem_filter.mpr ⟨commented, by decide⟩
        have inside : '#' ∈ toAsciiLowercase (trim key) := List.mem_map.mpr ⟨'#', (List.mem_filter.mp spaced).1, by decide⟩
        rw [named] at inside
        exact absurd inside (by decide)
      · rintro ⟨value', means⟩
        have separated := separator_of_directive means
        obtain ⟨before, after, cut, absent⟩ := List.eq_append_cons_of_mem commented
        rw [cut, List.append_assoc, List.cons_append, takeWhile_comment] at separated
        apply single
        rw [cut]
        exact List.mem_append_left _ ((List.takeWhile_prefix _).mem separated)
    · have plain : (unspaced key).head? ≠ some '[' := by
        rw [unspaced, List.filter_append] at first
        cases start : unspaced key with
        | nil => simp
        | cons c rest =>
          unfold unspaced at start
          simpa [start] using first
      rw [readLine_directive plain single commented]
      have same : lowerKey key = "mtu" ↔ toAsciiLowercase (trim key) = toAsciiLowercase "mtu".toList := by
        rw [lowerKey, ← String.toList_inj, String.toList_ofList]
        exact Iff.rfl
      simp [same]

theorem readLine_mtuLine (mtu : UInt16) : readLine (mtuLine mtu) = .directive "mtu" (Nat.toDigits 10 mtu.toNat) := by
  have digits : ∀ c ∈ Nat.toDigits 10 mtu.toNat, ∃ digit < 10, c = Nat.digitChar digit :=
    fun c member => digit_of_mem_toDigits (by omega) (by omega) member
  have spaceless : ∀ c ∈ Nat.toDigits 10 mtu.toNat, isWhitespace c = false := by
    intro c member
    obtain ⟨digit, small, rfl⟩ := digits c member
    have all : ∀ digit < 10, isWhitespace (Nat.digitChar digit) = false := by decide
    exact all digit small
  have plain : '#' ∉ ' ' :: Nat.toDigits 10 mtu.toNat := by
    rw [List.mem_cons, not_or]
    exact ⟨by decide, not_mem_toDigits (by omega) (by omega) (by decide)⟩
  rw [mtuLine_eq, readLine_directive (by decide) (by decide) (by decide), stripComment_plain plain, trim_cons (by decide),
    trim_plain spaceless]
  rfl

/-! ### Both texts side by side -/

def ParseState.withMtu (state : ParseState) (mtu : Option UInt16) : ParseState := { state with mtu := mtu }

@[simp] theorem withMtu_section (state : ParseState) (mtu : Option UInt16) : (state.withMtu mtu).section = state.section := rfl

@[simp] theorem withMtu_withMtu (state : ParseState) (first second : Option UInt16) :
    (state.withMtu first).withMtu second = state.withMtu second := rfl

theorem interfaceDirective_withMtu (state : ParseState) (before : Option UInt16) (key value : List Char) :
    (interfaceDirective crates (state.withMtu before) key value).toOption =
      (interfaceDirective crates state key value).toOption.map fun state' =>
        state'.withMtu (if String.ofList (toAsciiLowercase key) = "mtu" then state'.mtu else before) := by
  unfold interfaceDirective
  split
  next same =>
    rw [same]
    cases decodeKey32 crates "PrivateKey" value <;> rfl
  next same =>
    rw [same]
    cases (splitCsv value).mapM (parseIpnet crates) <;> rfl
  next same =>
    rw [same]
    cases (splitCsv value).mapM parseDnsEntry <;> rfl
  next same =>
    rw [same]
    cases parseMtu value <;> rfl
  all_goals first
    | rfl
    | next same =>
      rw [same]
      rfl

theorem peerDirective_withMtu (state : ParseState) (before : Option UInt16) (key value : List Char) :
    (peerDirective crates resolver (state.withMtu before) key value).toOption =
      (peerDirective crates resolver state key value).toOption.map fun state' => state'.withMtu before := by
  unfold peerDirective
  split
  · cases decodeKey32 crates "PublicKey" value <;> rfl
  · cases decodeKey32 crates "PresharedKey" value <;> rfl
  · cases (splitCsv value).mapM (parseIpnet crates) <;> rfl
  · show Except.toOption (parseEndpoint resolver state.endpoints value >>= _) = _
    cases parseEndpoint resolver state.endpoints value <;> rfl
  · cases parseU16 value <;> rfl
  · rfl

theorem flushed_withMtu (state : ParseState) (before : Option UInt16) :
    flushed (state.withMtu before) = (flushed state).map fun state' => state'.withMtu before := by
  unfold flushed flushSection
  rw [withMtu_section]
  cases state.section with
  | none => rfl
  | interface => rfl
  | peer =>
    dsimp only
    rw [flushPeer_toOption, flushPeer_toOption]
    show state.peer.finish.map _ = _
    cases state.peer.finish <;> rfl

/-- The MTU after a line: the one it sets, or the one before. -/
def mtuAfter (current : Section) (line : Line) (before : Option UInt16) : Option UInt16 :=
  if current = .interface then (mtuSetting line).or before else before

theorem applyLine_withMtu {state state' : ParseState} {rawLine : List Char} (before : Option UInt16)
    (read : applyLine crates resolver state (readLine rawLine) = some state') :
    applyLine crates resolver (state.withMtu before) (readLine rawLine) =
      some (state'.withMtu (mtuAfter state.section (readLine rawLine) before)) := by
  cases means : readLine rawLine with
  | blank =>
    rw [means] at read
    cases read
    simp [mtuAfter, mtuSetting, applyLine]
  | unreadable =>
    rw [means] at read
    cases read
  | header heading =>
    rw [means, applyLine, openSection_toOption, Option.map_eq_some_iff] at read
    obtain ⟨opened, flushes, rfl⟩ := read
    rw [applyLine, openSection_toOption, flushed_withMtu, flushes]
    simp [mtuAfter, mtuSetting, ParseState.withMtu]
  | directive key value =>
    have lowered := readLine_lowered means
    rw [means, applyLine] at read
    rw [applyLine]
    split at read
    next empty =>
      cases read
      simp [mtuAfter, mtuSetting, List.isEmpty_iff.mp empty]
    next valued =>
      rw [if_neg valued]
      rw [List.isEmpty_iff] at valued
      unfold applyDirective at read ⊢
      rw [withMtu_section]
      cases current : state.section with
      | none =>
        rw [current] at read
        cases read
      | peer =>
        rw [current] at read
        dsimp only at read ⊢
        rw [peerDirective_withMtu, read]
        simp [mtuAfter]
      | interface =>
        rw [current] at read
        dsimp only at read ⊢
        rw [interfaceDirective_withMtu, read, lowered]
        by_cases named : key = "mtu"
        · subst named
          have sets : ∃ value', parseMtu value = .ok value' ∧ state'.mtu = some value' := by
            have parsed : (parseMtu value >>= fun mtu => Except.ok { state with mtu := some mtu }).toOption = some state' := read
            cases result : parseMtu value with
            | error error =>
              rw [result] at parsed
              cases parsed
            | ok value' =>
              rw [result] at parsed
              cases parsed
              exact ⟨value', rfl, rfl⟩
          obtain ⟨value', parsed, set⟩ := sets
          simp [mtuAfter, mtuSetting, valued, parsed, set, Except.toOption]
        · simp [mtuAfter, mtuSetting, named]

theorem parseMtu_digits (valid : validateMtu mtu = .ok ()) : parseMtu (Nat.toDigits 10 mtu.toNat) = .ok mtu := by
  have read : parseU16 (Nat.toDigits 10 mtu.toNat) = some mtu := by
    rw [parseU16, parseUnsigned_toDigits mtu.toNat_lt, Option.map_some, UInt16.ofNat_toNat]
  unfold parseMtu
  rw [read]
  dsimp only
  rw [valid]
  rfl

/-- The override's line in a section of the interface. -/
theorem applyLine_mtuLine {state : ParseState} (valid : validateMtu mtu = .ok ()) (current : state.section = .interface) :
    applyLine crates resolver state (readLine (mtuLine mtu)) = some (state.withMtu (some mtu)) := by
  have valued : (Nat.toDigits 10 mtu.toNat).isEmpty = false := by
    rw [List.isEmpty_eq_false_iff]
    exact Nat.toDigits_ne_nil
  rw [readLine_mtuLine, applyLine, valued, if_neg (by decide), applyDirective, current]
  dsimp only
  show ((parseMtu (Nat.toDigits 10 mtu.toNat)) >>= _).toOption = _
  rw [parseMtu_digits valid]
  rfl

/-- A directive for the MTU does nothing else. -/
theorem applyLine_mtu {state state' : ParseState} {value : List Char} (current : state.section = .interface)
    (read : applyLine crates resolver state (.directive "mtu" value) = some state') : ∃ set, state' = state.withMtu set := by
  rw [applyLine] at read
  split at read
  · cases read
    exact ⟨state.mtu, rfl⟩
  · unfold applyDirective at read
    rw [current] at read
    have parsed : (parseMtu value >>= fun mtu => Except.ok { state with mtu := some mtu }).toOption = some state' := read
    cases result : parseMtu value with
    | error error =>
      rw [result] at parsed
      cases parsed
    | ok set =>
      rw [result] at parsed
      cases parsed
      exact ⟨some set, rfl⟩

/-- The MTU that the last of these sets. -/
def lastSetting (mtu : UInt16) (before : Option UInt16) (settings : List (Option UInt16)) : Option UInt16 :=
  settings.foldl (fun _ setting => some (setting.getD mtu)) before

theorem lastSetting_append (before : Option UInt16) (first second : List (Option UInt16)) :
    lastSetting mtu before (first ++ second) = lastSetting mtu (lastSetting mtu before first) second := List.foldl_append

/-- The run over the new text keeps up with the run over the old one, but for the MTU. -/
theorem runLines_overridden (valid : validateMtu mtu = .ok ()) {texts : List (List Char)} {pending inside : Bool}
    {state final : ParseState} {before : Option UInt16} (within : inside = true → state.section = .interface)
    (run : runLines crates resolver state (texts.map readLine) = some final) :
    runLines crates resolver (state.withMtu before) ((overridden mtu pending inside texts).map readLine) =
      some (final.withMtu (lastSetting mtu before (mtuSettings pending inside (state.section = .interface) texts))) := by
  induction texts generalizing pending inside state before with
  | nil =>
    cases run
    rfl
  | cons line rest ih =>
    rw [List.map_cons, runLines_cons, Option.bind_eq_some_iff] at run
    obtain ⟨state', read, run⟩ := run
    have stepped := applyLine_withMtu before read
    have moved := (applyLine_admits read).2
    by_cases header : opensHeader line = true
    · rw [overridden_header header, mtuSettings, if_pos header]
      obtain ⟨heading, means⟩ | bad := readLine_opens header
      · have kept : mtuAfter state.section (readLine line) before = before := by simp [means, mtuAfter, mtuSetting]
        have current : state'.section = heading.section := by rw [moved, means, sectionAfter]
        have flag : decide (readLine line = .header .interface) = decide (state'.section = .interface) := by
          rw [means, current]
          cases heading <;> decide
        rw [kept] at stepped
        rw [flag]
        by_cases plain : isPlainHeader line = true
        · have opened : state'.section = .interface := by rw [moved, readLine_plain plain, sectionAfter, Heading.section]
          by_cases inserts : pending = true
          · -- The directive goes below this header.
            rw [inserts, plain]
            simp only [Bool.and_self, if_true, List.map_cons, runLines_cons, stepped, Option.bind_some,
              applyLine_mtuLine valid (show (state'.withMtu before).section = .interface from opened), withMtu_withMtu]
            rw [lastSetting_append]
            exact ih (fun _ => opened) run
          · simp only [inserts, Bool.false_and, Bool.false_eq_true, if_false, List.map_cons, runLines_cons, stepped,
              Option.bind_some, List.nil_append, plain]
            exact ih (fun _ => opened) run
        · simp only [plain, Bool.and_false, Bool.false_eq_true, if_false, List.map_cons, runLines_cons, stepped, Option.bind_some,
            List.nil_append, Bool.not_false, Bool.and_true]
          exact ih (fun absurd => by simp at absurd) run
      · rw [bad] at read
        cases read
    · rw [overridden_other header, mtuSettings, if_neg header]
      have same : state'.section = state.section := by
        rw [moved]
        cases means : readLine line with
        | header heading => exact absurd means (readLine_other header heading)
        | _ => rfl
      by_cases replaced : (inside && namesMtu line) = true
      · rw [if_pos replaced, if_pos replaced, List.map_cons, runLines_cons]
        rw [Bool.and_eq_true] at replaced
        have current := within replaced.1
        obtain ⟨value, means⟩ := (namesMtu_iff header).mp replaced.2
        -- The line it replaces changes nothing but the MTU.
        have alone : ∃ set, state' = state.withMtu set := by
          rw [means] at read
          exact applyLine_mtu current read
        obtain ⟨set, alone⟩ := alone
        rw [applyLine_mtuLine valid (show (state.withMtu before).section = .interface from current), Option.bind_some,
          withMtu_withMtu]
        have next := @ih pending inside state' (some mtu) (fun _ => same.trans current) run
        rw [same, alone, withMtu_withMtu] at next
        exact next
      · rw [if_neg replaced, if_neg replaced, List.map_cons, runLines_cons, stepped, Option.bind_some, lastSetting_append]
        have after : mtuAfter state.section (readLine line) before = lastSetting mtu before
            (if decide (state.section = .interface) = true then (mtuSetting (readLine line)).toList.map some else []) := by
          unfold mtuAfter
          by_cases current : state.section = .interface
          · simp only [current, if_true, decide_true]
            cases mtuSetting (readLine line) <;> rfl
          · simp [current, lastSetting]
        have next := @ih pending inside state' (mtuAfter state.section (readLine line) before)
          (fun isInside => same.trans (within isInside)) run
        rw [same, after] at next
        rw [after]
        exact next

theorem lastSetting_none (settings : List (Option UInt16)) :
    lastSetting mtu none settings = settings.getLast?.map fun setting => setting.getD mtu := by
  induction settings using List.reverseRecOn with
  | nil => rfl
  | append_singleton settings setting _ => simp [lastSetting]

theorem finishParse_withMtu (state : ParseState) (before : Option UInt16) :
    (finishParse (state.withMtu before)).toOption =
      (finishParse state).toOption.map fun config => { config with mtu := before } := by
  have finishes : ∀ state : ParseState, finish (state.withMtu before).interface (state.withMtu before).peers =
      (finish state.interface state.peers).map fun config => { config with mtu := before } := by
    intro state
    show finish { state.interface with mtu := before } state.peers = _
    unfold finish
    cases state.interface.privateKey with
    | none => rfl
    | some privateKey =>
      dsimp only
      split <;> rfl
  rw [finishParse_toOption, finishParse_toOption, flushed_withMtu]
  cases flushed state with
  | none => rfl
  | some state => exact finishes state

/-- The new text is accepted, with the MTU that its last setting gives it. -/
theorem parse_overridden {text : String} {config : ConnectionConfig} (valid : validateMtu mtu = .ok ())
    (accepted : parseConnectionConfig crates resolver text = .ok config) :
    parseConnectionConfig crates resolver (applyMtuOverrideToConfText text mtu) = .ok { config with
      mtu := lastSetting mtu none (mtuSettings (!findsMtu false (lines text.toList)) false false (lines text.toList)) } := by
  rw [← toOption_eq_some, parseConnectionConfig_toOption, Option.bind_eq_some_iff] at accepted ⊢
  obtain ⟨final, run, finished⟩ := accepted
  have outside : false = true → ParseState.start.section = .interface := by
    intro absurd
    cases absurd
  rw [said_applyMtuOverride]
  refine ⟨_, @runLines_overridden crates resolver mtu valid _ _ _ .start final none outside run, ?_⟩
  rw [finishParse_withMtu, finished]
  rfl

/-! ### The override on its own output -/

theorem unlines_inj {first second : List (List Char)} (plain : ∀ line ∈ first, '\n' ∉ line) (plain' : ∀ line ∈ second, '\n' ∉ line)
    (same : unlines first = unlines second) : first = second := by
  induction first generalizing second with
  | nil =>
    cases second with
    | nil => rfl
    | cons line rest => simp [unlines] at same
  | cons line rest ih =>
    cases second with
    | nil => simp [unlines] at same
    | cons line' rest' =>
      rw [List.forall_mem_cons] at plain plain'
      have cut := congrArg (splitOnce '\n') same
      rw [unlines_cons, unlines_cons, splitOnce_append plain.1, splitOnce_append plain'.1] at cut
      simp only [Option.some.injEq, Prod.mk.injEq] at cut
      rw [cut.1, ih plain.2 plain'.2 cut.2]

theorem opensHeader_mtuLine (mtu : UInt16) : opensHeader (mtuLine mtu) = false := by
  rw [Bool.eq_false_iff]
  intro header
  obtain ⟨heading, means⟩ | bad := readLine_opens header
  · rw [readLine_mtuLine] at means
    cases means
  · rw [readLine_mtuLine] at bad
    cases bad

theorem namesMtu_mtuLine (mtu : UInt16) : namesMtu (mtuLine mtu) = true :=
  (namesMtu_iff (by simp [opensHeader_mtuLine])).mpr ⟨_, readLine_mtuLine mtu⟩

/-- What has been replaced is found again, and replaced by itself. -/
theorem overridden_again (inside : Bool) (texts : List (List Char)) :
    findsMtu inside (overridden mtu false inside texts) = findsMtu inside texts ∧
      overridden mtu false inside (overridden mtu false inside texts) = overridden mtu false inside texts := by
  induction texts generalizing inside with
  | nil => exact ⟨rfl, rfl⟩
  | cons line rest ih =>
    by_cases header : opensHeader line = true
    · obtain ⟨found, same⟩ := ih (isPlainHeader line)
      simp [overridden_header header, findsMtu_header header, found, same]
    · obtain ⟨found, same⟩ := ih inside
      rw [overridden_other header, findsMtu_other header]
      by_cases replaced : (inside && namesMtu line) = true
      · have other : ¬opensHeader (mtuLine mtu) = true := by simp [opensHeader_mtuLine]
        have within := (Bool.and_eq_true_iff.mp replaced).1
        rw [if_pos replaced, findsMtu_other other, overridden_other other, namesMtu_mtuLine, replaced, within]
        rw [within] at same
        simp [same]
      · rw [if_neg replaced, findsMtu_other header, overridden_other header, if_neg replaced, found, same]
        exact ⟨rfl, rfl⟩

/-- A line that has been put in is found, if a place for it was. -/
theorem overridden_inserted {inside : Bool} {texts : List (List Char)} (absent : findsMtu inside texts = false) :
    overridden mtu false inside (overridden mtu true inside texts) = overridden mtu true inside texts ∧
      (findsMtu inside (overridden mtu true inside texts) = false → overridden mtu true inside texts = texts) := by
  induction texts generalizing inside with
  | nil => exact ⟨rfl, fun _ => rfl⟩
  | cons line rest ih =>
    by_cases header : opensHeader line = true
    · rw [findsMtu_header header] at absent
      rw [overridden_header header]
      by_cases plain : isPlainHeader line = true
      · have other : ¬opensHeader (mtuLine mtu) = true := by simp [opensHeader_mtuLine]
        rw [plain] at absent
        rw [plain, Bool.and_self, if_pos rfl, overridden_absent absent, overridden_header header, findsMtu_header header, plain,
          findsMtu_other other, overridden_other other, overridden_absent absent, namesMtu_mtuLine]
        simp
      · obtain ⟨same, none⟩ := ih absent
        rw [Bool.eq_false_iff.mpr plain] at same none absent ⊢
        rw [Bool.and_false, if_neg (by decide), overridden_header header, findsMtu_header header, Bool.eq_false_iff.mpr plain,
          Bool.and_false, if_neg (by decide), same]
        exact ⟨rfl, fun missing => by rw [none missing]⟩
    · rw [findsMtu_other header, Bool.or_eq_false_iff] at absent
      obtain ⟨same, none⟩ := ih absent.2
      rw [overridden_other header, absent.1, if_neg (by decide), overridden_other header, findsMtu_other header, absent.1,
        if_neg (by decide), same]
      exact ⟨rfl, fun missing => by rw [none (by simpa using missing)]⟩

/-! ### When it agrees with the parser -/

/-- No carriage return is left at the end of the line. -/
def EndsPlain (line : List Char) : Prop := line.getLast? ≠ some '\r'

instance (line : List Char) : Decidable (EndsPlain line) := by
  unfold EndsPlain
  infer_instance

theorem chomp_eq_self_iff {line : List Char} : chomp line = line ↔ EndsPlain line := by
  unfold chomp EndsPlain
  split
  next ends =>
    apply iff_of_false _ (not_not.mpr ends)
    intro same
    have shorter := congrArg List.length (List.dropLast_append_getLast? _ ends)
    rw [same] at shorter
    simp at shorter
  next plain => exact iff_of_true rfl plain

theorem length_chomp_le (line : List Char) : (chomp line).length ≤ line.length := by
  obtain same | cut := chomp_eq line
  · rw [same]
  · have lengths := congrArg List.length cut
    rw [List.length_append, List.length_singleton] at lengths
    omega

theorem map_chomp_iff {texts : List (List Char)} : texts.map chomp = texts ↔ ∀ line ∈ texts, EndsPlain line := by
  induction texts with
  | nil => simp
  | cons line rest ih =>
    rw [List.map_cons, List.cons.injEq, chomp_eq_self_iff, ih]
    exact List.forall_mem_cons.symm

/-- The new lines end as those do that were kept. -/
theorem overridden_endsPlain (inside : Bool) (texts : List (List Char)) :
    (∀ line ∈ overridden mtu false inside texts, EndsPlain line) ↔ ∀ line ∈ keptLines inside texts, EndsPlain line := by
  have own : EndsPlain (mtuLine mtu) := chomp_eq_self_iff.mp (chomp_mtuLine mtu)
  induction texts generalizing inside with
  | nil => exact Iff.rfl
  | cons line rest ih =>
    by_cases header : opensHeader line = true
    · rw [overridden_header header, keptLines, if_pos header, Bool.false_and, if_neg (by decide), List.forall_mem_cons,
        List.forall_mem_cons]
      exact and_congr_right fun _ => ih _
    · rw [overridden_other header, keptLines, if_neg header, List.forall_mem_cons]
      split
      next => exact (and_iff_right own).trans (ih inside)
      next =>
        rw [List.forall_mem_cons]
        exact and_congr_right fun _ => ih inside

theorem mem_overridden_inserted {inside : Bool} {texts : List (List Char)} (absent : findsMtu inside texts = false) :
    (∀ line ∈ overridden mtu true inside texts, EndsPlain (chomp line)) ↔ ∀ line ∈ texts, EndsPlain (chomp line) := by
  have own : EndsPlain (chomp (mtuLine mtu)) := by
    rw [chomp_mtuLine]
    exact chomp_eq_self_iff.mp (chomp_mtuLine mtu)
  induction texts generalizing inside with
  | nil => exact Iff.rfl
  | cons line rest ih =>
    by_cases header : opensHeader line = true
    · rw [findsMtu_header header] at absent
      rw [overridden_header header]
      split
      next inserts =>
        rw [Bool.and_eq_true_iff.mp inserts |>.2] at absent
        rw [overridden_absent absent, List.forall_mem_cons, List.forall_mem_cons, List.forall_mem_cons]
        simp [own]
      next =>
        rw [List.forall_mem_cons, List.forall_mem_cons]
        exact and_congr_right fun _ => ih absent
    · rw [findsMtu_other header, Bool.or_eq_false_iff] at absent
      rw [overridden_other header, absent.1, if_neg (by decide), List.forall_mem_cons, List.forall_mem_cons]
      exact and_congr_right fun _ => ih absent.2

theorem applied_whole {texts : List (List Char)} (whole : ∀ line ∈ texts, '\n' ∉ line) : ∀ line ∈ applied mtu texts, '\n' ∉ line := by
  unfold applied
  split
  · exact overridden_whole whole
  · intro line member
    obtain ⟨line', member', rfl⟩ := List.mem_map.mp member
    exact fun inside => overridden_whole whole line' member' (chomp_mem inside)

/-- The override is settled when no line it writes ends in a carriage return. -/
theorem applied_settled_iff (texts : List (List Char)) :
    applied mtu ((applied mtu texts).map chomp) = applied mtu texts ↔
      if findsMtu false texts then ∀ line ∈ keptLines false texts, EndsPlain line else ∀ line ∈ texts, EndsPlain (chomp line) := by
  by_cases finds : findsMtu false texts = true
  · obtain ⟨found, same⟩ := @overridden_again mtu false texts
    have first : applied mtu texts = overridden mtu false false texts := by rw [applied, if_pos finds]
    rw [first, applied, findsMtu_chomp, found, if_pos finds, if_pos finds, overridden_chomp, same, map_chomp_iff,
      overridden_endsPlain]
  · have absent := Bool.eq_false_iff.mpr finds
    obtain ⟨same, none⟩ := @overridden_inserted mtu false texts absent
    have first : applied mtu texts = (overridden mtu true false texts).map chomp := by rw [applied, if_neg finds]
    rw [if_neg finds, ← @mem_overridden_inserted mtu false texts absent, first, applied, findsMtu_chomp, findsMtu_chomp]
    have settled : ((overridden mtu true false texts).map chomp).map chomp = (overridden mtu true false texts).map chomp ↔
        ∀ line ∈ overridden mtu true false texts, EndsPlain (chomp line) := by
      rw [map_chomp_iff, List.forall_mem_map]
    rw [← settled]
    split
    · rw [overridden_chomp, overridden_chomp, same]
    next missing =>
      -- Nothing was put in, and a second pass cuts the lines twice more.
      have unchanged := none (Bool.eq_false_iff.mpr missing)
      rw [overridden_chomp, overridden_chomp, unchanged, unchanged]
      constructor
      · intro thrice
        rw [List.map_map, List.map_map, List.map_inj_left] at thrice
        rw [List.map_map, List.map_inj_left]
        intro line member
        have back := congrArg List.length (thrice line member)
        have once := length_chomp_le (chomp (chomp line))
        obtain same | cut := chomp_eq (chomp line)
        · exact same
        · have shorter := congrArg List.length cut
          rw [List.length_append, List.length_singleton] at shorter
          simp only [Function.comp_apply] at back
          omega
      · intro twice
        rw [twice, twice]

/-- The settings of the new text end with the override's own, or with the same value; and the lines
that it keeps end in no carriage return, or in one at most where it puts a line in. -/
structure Overridable (text : String) (mtu : UInt16) : Prop where
  decided : ∃ last, (mtuSettings (!findsMtu false (lines text.toList)) false false (lines text.toList)).getLast? = some last ∧
    (last = none ∨ last = some mtu)
  ended : if findsMtu false (lines text.toList) then ∀ line ∈ keptLines false (lines text.toList), EndsPlain line
    else ∀ line ∈ lines text.toList, EndsPlain (chomp line)

theorem applyMtuOverride_twice_iff (text : String) (mtu : UInt16) :
    applyMtuOverrideToConfText (applyMtuOverrideToConfText text mtu) mtu = applyMtuOverrideToConfText text mtu ↔
      if findsMtu false (lines text.toList) then ∀ line ∈ keptLines false (lines text.toList), EndsPlain line
      else ∀ line ∈ lines text.toList, EndsPlain (chomp line) := by
  have whole := @applied_whole mtu _ (lines_whole text.toList)
  have whole' : ∀ line ∈ (applied mtu (lines text.toList)).map chomp, '\n' ∉ line := by
    intro line member
    obtain ⟨line', member', rfl⟩ := List.mem_map.mp member
    exact fun inside => whole line' member' (chomp_mem inside)
  rw [← @applied_settled_iff mtu, ← String.toList_inj, applyMtuOverride_eq, lines_applyMtuOverride, applyMtuOverride_eq]
  constructor
  · exact unlines_inj (@applied_whole mtu _ whole') whole
  · exact congrArg unlines

/-- The override agrees with the parser on an accepted text exactly if the text is overridable. -/
theorem mtu_override_agrees_iff {text : String} {config : ConnectionConfig} (valid : validateMtu mtu = .ok ())
    (accepted : parseConnectionConfig crates resolver text = .ok config) :
    (parseConnectionConfig crates resolver (applyMtuOverrideToConfText text mtu) = .ok { config with mtu := some mtu } ∧
      applyMtuOverrideToConfText (applyMtuOverrideToConfText text mtu) mtu = applyMtuOverrideToConfText text mtu) ↔
      Overridable text mtu := by
  have decided : parseConnectionConfig crates resolver (applyMtuOverrideToConfText text mtu) =
      .ok { config with mtu := some mtu } ↔
      ∃ last, (mtuSettings (!findsMtu false (lines text.toList)) false false (lines text.toList)).getLast? = some last ∧
        (last = none ∨ last = some mtu) := by
    rw [parse_overridden valid accepted, lastSetting_none]
    cases (mtuSettings (!findsMtu false (lines text.toList)) false false (lines text.toList)).getLast? with
    | none => simp
    | some last => cases last <;> simp
  rw [decided, applyMtuOverride_twice_iff]
  exact ⟨fun both => ⟨both.1, both.2⟩, fun both => ⟨both.decided, both.ended⟩⟩

/-- One key and one network are enough here. -/
def oneCrates : Crates :=
  ⟨fun _ => .ok (List.replicate 32 0), fun _ => "", fun _ => IpNet.new (.v4 0x0a010002) 32, fun _ => []⟩

def oneConfig (mtu : Option UInt16) : ConnectionConfig :=
  ⟨Vector.replicate 32 0, [⟨.v4 0x0a010002, 32, by decide⟩], [], mtu, [], [], [], [],
    [⟨Vector.replicate 32 0, none, [⟨.v4 0x0a010002, 32, by decide⟩], none, none, none⟩]⟩

/-- The header of the interface as it is written, and the rest of the text. -/
def textWith (header : String) : String :=
  header ++ "\nPrivateKey = k\nAddress = 10.1.0.2/32\nMTU = 1400\n[Peer]\nPublicKey = k\nAllowedIPs = 10.1.0.2/32\n"

theorem mtu_override_agrees_plain :
    parseConnectionConfig oneCrates (fun _ _ _ => .error "") (applyMtuOverrideToConfText (textWith "[Interface]") 1300) =
      .ok (oneConfig (some 1300)) := by
  have accepted : parseConnectionConfig oneCrates (fun _ _ _ => .error "") (textWith "[Interface]") = .ok (oneConfig (some 1400)) := by
    decide +kernel
  have agrees := (@mtu_override_agrees_iff _ _ 1300 _ _ rfl accepted).mpr ⟨⟨none, by decide +kernel, .inl rfl⟩, by decide +kernel⟩
  exact agrees.1

/-- A header with a comment is one the parser knows and the override does not. -/
theorem mtu_override_misses_header :
    ¬ ∀ (crates : Crates) (resolver : Resolver) (text : String) (config : ConnectionConfig) (mtu : UInt16),
      validateMtu mtu = .ok () → parseConnectionConfig crates resolver text = .ok config →
        parseConnectionConfig crates resolver (applyMtuOverrideToConfText text mtu) = .ok { config with mtu := some mtu } ∧
          applyMtuOverrideToConfText (applyMtuOverrideToConfText text mtu) mtu = applyMtuOverrideToConfText text mtu := by
  intro agrees
  have accepted : parseConnectionConfig oneCrates (fun _ _ _ => .error "") (textWith "[Interface] # home") =
      .ok (oneConfig (some 1400)) := by decide +kernel
  have both := agrees oneCrates (fun _ _ _ => .error "") (textWith "[Interface] # home") (oneConfig (some 1400)) 1300 rfl accepted
  have kept : parseConnectionConfig oneCrates (fun _ _ _ => .error "") (applyMtuOverrideToConfText (textWith "[Interface] # home") 1300) =
      .ok (oneConfig (some 1400)) := by decide +kernel
  rw [kept] at both
  exact absurd both.1 (by decide +kernel)

end Wgd.Config
