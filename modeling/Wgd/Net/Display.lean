import Mathlib.Tactic.IntervalCases
import Wgd.Net.IpNet

/-! What an address or a network prints reads back as the same address or network. -/

set_option autoImplicit false

namespace Wgd.Net

/-! ### Numbers -/

theorem toDigit_digitChar {radix digit : Nat} (small : radix ≤ 16) (inside : digit < radix) :
    toDigit radix (Nat.digitChar digit) = some digit := by
  have bound : digit < 16 := by omega
  interval_cases digit <;> simp [toDigit, inside, Nat.digitChar]

theorem readDigits_append {radix maxDigits limit value count value' count' : Nat} {text : List Char}
    (reads : readDigits radix maxDigits limit value count text = some (value', count', [])) (rest : List Char) :
    readDigits radix maxDigits limit value count (text ++ rest) =
      readDigits radix maxDigits limit value' count' rest := by
  induction text generalizing value count with
  | nil =>
    simp only [readDigits, Option.some.injEq, Prod.mk.injEq, and_true] at reads
    rw [List.nil_append, reads.1, reads.2]
  | cons c text ih =>
    rw [List.cons_append]
    simp only [readDigits] at reads ⊢
    cases digit : toDigit radix c with
    | none => simp [digit] at reads
    | some digit =>
      simp only [digit] at reads ⊢
      split at reads
      next fits =>
        rw [if_pos fits]
        exact ih reads
      next => cases reads

/-- The printed digits of a number are read to its value, and to their end. -/
theorem readDigits_toDigits {radix maxDigits limit : Nat} (large : 1 < radix) (small : radix ≤ 16) (number : Nat)
    (fits : number < limit) (short : (Nat.toDigits radix number).length ≤ maxDigits) :
    readDigits radix maxDigits limit 0 0 (Nat.toDigits radix number) =
      some (number, (Nat.toDigits radix number).length, []) := by
  induction number using Nat.strong_induction_on with
  | _ number ih =>
    by_cases single : number < radix
    · rw [Nat.toDigits_of_lt_base single] at short ⊢
      simp only [List.length_singleton] at short
      simp [readDigits, toDigit_digitChar small single, fits, short]
    · rw [Nat.toDigits_of_base_le large (by omega), List.length_append, List.length_singleton] at short
      have smaller : number / radix < number := Nat.div_lt_self (by omega) large
      have before := ih (number / radix) smaller (by omega) (by omega)
      have last : number % radix < radix := Nat.mod_lt _ (by omega)
      have value : number / radix * radix + number % radix = number := by
        rw [Nat.mul_comm]
        exact Nat.div_add_mod number radix
      rw [Nat.toDigits_of_base_le large (by omega), readDigits_append before]
      simp only [readDigits, toDigit_digitChar small last, value, fits, short, and_self, if_true, List.length_append,
        List.length_singleton]

/-- The text does not go on with a digit. -/
def Ends (radix : Nat) (rest : List Char) : Prop := ∀ c ∈ rest.head?, toDigit radix c = none

theorem readDigits_ends {radix maxDigits limit value count : Nat} {rest : List Char} (ends : Ends radix rest) :
    readDigits radix maxDigits limit value count rest = some (value, count, rest) := by
  cases rest with
  | nil => rfl
  | cons c rest =>
    have none : toDigit radix c = none := ends c rfl
    simp [readDigits, none]

theorem toDigits_head_ne_zero {radix number : Nat} (large : 1 < radix) (small : radix ≤ 16)
    (long : 1 < (Nat.toDigits radix number).length) : (Nat.toDigits radix number).head? ≠ some '0' := by
  induction number using Nat.strong_induction_on with
  | _ number ih =>
    by_cases single : number < radix
    · rw [Nat.toDigits_of_lt_base single] at long
      exact absurd long (by simp)
    · have smaller : number / radix < number := Nat.div_lt_self (by omega) large
      rw [Nat.toDigits_of_base_le large (by omega), List.head?_append_of_ne_nil _ Nat.toDigits_ne_nil]
      by_cases one : number / radix < radix
      · have positive : 0 < number / radix := Nat.div_pos (by omega) (by omega)
        rw [Nat.toDigits_of_lt_base one]
        have bound : number / radix < 16 := by omega
        generalize number / radix = digit at positive bound
        interval_cases digit <;> simp [Nat.digitChar]
      · apply ih _ smaller
        rw [Nat.toDigits_of_base_le large (by omega), List.length_append, List.length_singleton]
        have nonempty := @Nat.length_toDigits_pos radix (number / radix / radix)
        omega

theorem readNumber_toDigits {radix maxDigits limit number : Nat} {allowZeroPrefix : Bool} {rest : List Char}
    (large : 1 < radix) (small : radix ≤ 16) (fits : number < limit)
    (short : (Nat.toDigits radix number).length ≤ maxDigits) (ends : Ends radix rest) :
    readNumber radix maxDigits limit allowZeroPrefix (Nat.toDigits radix number ++ rest) = some (number, rest) := by
  have reads := readDigits_append (readDigits_toDigits large small number fits short) rest
  rw [readDigits_ends ends] at reads
  have nonempty := @Nat.length_toDigits_pos radix number
  have plain : ¬(!allowZeroPrefix && (Nat.toDigits radix number ++ rest).head? = some '0' &&
      decide (1 < (Nat.toDigits radix number).length)) = true := by
    rw [List.head?_append_of_ne_nil _ Nat.toDigits_ne_nil]
    intro zeroes
    simp only [Bool.and_eq_true, decide_eq_true_eq] at zeroes
    exact toDigits_head_ne_zero large small zeroes.2 zeroes.1.2
  simp only [readNumber, reads, Option.bind_eq_bind, Option.bind_some]
  rw [if_neg (by omega), if_neg plain]

/-! ### IPv4 -/

theorem ends_of_char {radix : Nat} {c : Char} {rest : List Char} (other : toDigit radix c = none) :
    Ends radix (c :: rest) := by
  intro c' first
  cases first
  exact other

theorem ends_nil {radix : Nat} : Ends radix [] := by
  intro c first
  cases first

theorem readOctet {octet : Nat} {rest : List Char} (fits : octet < 256) (ends : Ends 10 rest) :
    readNumber 10 3 256 false (Nat.toDigits 10 octet ++ rest) = some (octet, rest) := by
  apply readNumber_toDigits (by omega) (by omega) fits _ ends
  rw [Nat.length_toDigits_le_iff (by omega) (by omega)]
  omega

theorem ofOctets (bits : BitVec 32) :
    BitVec.ofNat 32 (((bits.toNat >>> 24 % 256 * 256 + bits.toNat >>> 16 % 256) * 256 + bits.toNat >>> 8 % 256) * 256 +
      bits.toNat >>> 0 % 256) = bits := by
  apply BitVec.eq_of_toNat_eq
  have bound := bits.isLt
  simp only [BitVec.toNat_ofNat, Nat.shiftRight_eq_div_pow]
  omega

theorem readIpv4Addr_showIpv4 (bits : BitVec 32) {rest : List Char} (ends : Ends 10 rest) :
    readIpv4Addr (showIpv4 bits ++ rest) = some (bits, rest) := by
  have octet : ∀ shift, bits.toNat >>> shift % 256 < 256 := fun shift => Nat.mod_lt _ (by omega)
  have dot : ∀ {text : List Char}, Ends 10 ('.' :: text) := ends_of_char (by decide)
  simp only [readIpv4Addr, showIpv4, readSeparator, readGivenChar, List.append_assoc, List.cons_append,
    readOctet (octet 24) dot, readOctet (octet 16) dot, readOctet (octet 8) dot, readOctet (octet 0) ends,
    Option.bind_eq_bind, Option.bind_some, if_true, Nat.one_ne_zero, if_false, ofOctets, OfNat.ofNat_ne_zero]

/-! ### IPv6 -/

theorem readDigits_suffix {radix maxDigits limit value count value' count' : Nat} {text rest : List Char}
    (reads : readDigits radix maxDigits limit value count text = some (value', count', rest)) : rest <:+ text := by
  induction text generalizing value count with
  | nil =>
    simp only [readDigits, Option.some.injEq, Prod.mk.injEq] at reads
    exact reads.2.2 ▸ List.suffix_refl _
  | cons c text ih =>
    simp only [readDigits] at reads
    split at reads
    · simp only [Option.some.injEq, Prod.mk.injEq] at reads
      exact reads.2.2 ▸ List.suffix_refl _
    · split at reads
      · exact (ih reads).trans (List.suffix_cons c text)
      · cases reads

theorem readNumber_suffix {radix maxDigits limit number : Nat} {allowZeroPrefix : Bool} {text rest : List Char}
    (reads : readNumber radix maxDigits limit allowZeroPrefix text = some (number, rest)) : rest <:+ text := by
  simp only [readNumber, Option.bind_eq_bind, Option.bind_eq_some_iff] at reads
  obtain ⟨⟨value, count, left⟩, digits, reads⟩ := reads
  dsimp only at reads
  split at reads
  · cases reads
  split at reads
  · cases reads
  cases reads
  exact readDigits_suffix digits

/-- An IPv4 address has a dot in it. -/
theorem readIpv4Addr_eq_none {text : List Char} (plain : '.' ∉ text) : readIpv4Addr text = none := by
  cases octet : readNumber 10 3 256 false text with
  | none => simp [readIpv4Addr, readSeparator, octet]
  | some first =>
    obtain ⟨value, rest⟩ := first
    have left : '.' ∉ rest := fun member => plain ((readNumber_suffix octet).subset member)
    have undotted : readGivenChar '.' rest = none := by
      cases rest with
      | nil => rfl
      | cons c rest =>
        have other : c ≠ '.' := by
          intro same
          exact left (same ▸ List.mem_cons_self)
        simp [readGivenChar, other]
    simp [readIpv4Addr, readSeparator, octet, undotted]

/-- Groups as they are read, each but the first one of all after a colon. -/
def groupsFrom : Nat → List Nat → List Char
  | _, [] => []
  | 0, group :: rest => Nat.toDigits 16 group ++ groupsFrom 1 rest
  | index + 1, group :: rest => ':' :: Nat.toDigits 16 group ++ groupsFrom (index + 2) rest

theorem groupsFrom_succ (index : Nat) (groups : List Nat) :
    groupsFrom (index + 1) groups = groups.flatMap fun group => ':' :: Nat.toDigits 16 group := by
  induction groups generalizing index with
  | nil => rfl
  | cons group rest ih => simp [groupsFrom, ih]

theorem showGroups_eq (groups : List Nat) : showGroups groups = groupsFrom 0 groups := by
  cases groups with
  | nil => rfl
  | cons group rest =>
    rw [groupsFrom, groupsFrom_succ, showGroups, List.map_cons]
    induction rest generalizing group with
    | nil => simp [List.intercalate]
    | cons next rest ih =>
      rw [List.map_cons, List.intercalate_cons_cons, ih]
      simp

theorem digit_of_mem_toDigits {radix number : Nat} {c : Char} (large : 1 < radix) (small : radix ≤ 16)
    (member : c ∈ Nat.toDigits radix number) : ∃ digit < radix, c = Nat.digitChar digit := by
  induction number using Nat.strong_induction_on with
  | _ number ih =>
    by_cases single : number < radix
    · rw [Nat.toDigits_of_lt_base single, List.mem_singleton] at member
      exact ⟨number, single, member⟩
    · rw [Nat.toDigits_of_base_le large (by omega), List.mem_append, List.mem_singleton] at member
      cases member with
      | inl before => exact ih _ (Nat.div_lt_self (by omega) large) before
      | inr last => exact ⟨number % radix, Nat.mod_lt _ (by omega), last⟩

theorem not_mem_toDigits {radix number : Nat} {c : Char} (large : 1 < radix) (small : radix ≤ 16)
    (other : ∀ digit < 16, c ≠ Nat.digitChar digit) : c ∉ Nat.toDigits radix number := by
  intro member
  obtain ⟨digit, inside, same⟩ := digit_of_mem_toDigits large small member
  exact other digit (by omega) same

theorem not_mem_groupsFrom {index : Nat} {groups : List Nat} {c : Char} (other : ∀ digit < 16, c ≠ Nat.digitChar digit)
    (colon : c ≠ ':') : c ∉ groupsFrom index groups := by
  have plain : ∀ group, c ∉ Nat.toDigits 16 group := fun group => not_mem_toDigits (by omega) (by omega) other
  cases groups with
  | nil => simp [groupsFrom]
  | cons group rest =>
    cases index with
    | zero =>
      rw [groupsFrom, groupsFrom_succ]
      simp [plain, colon]
    | succ index =>
      rw [groupsFrom_succ]
      simp [plain, colon]

/-- What follows an address: nothing, or a character that could not be part of it. -/
def Closes (rest : List Char) : Prop :=
  '.' ∉ rest ∧ (rest = [] ∨ ∃ c more, rest = c :: more ∧ c ≠ ':' ∧ toDigit 16 c = none)

/-- The text of the groups is over: at the end of the address, or at a double colon. -/
def Over (rest : List Char) : Prop := Closes rest ∨ '.' ∉ rest ∧ ∃ more, rest = ':' :: ':' :: more

theorem closes_nil : Closes [] := ⟨by simp, .inl rfl⟩

theorem Closes.ends {rest : List Char} (closes : Closes rest) : Ends 16 rest := by
  obtain ⟨-, rfl | ⟨c, more, rfl, -, other⟩⟩ := closes
  · exact ends_nil
  · exact ends_of_char other

theorem Ends.decimal {rest : List Char} (ends : Ends 16 rest) : Ends 10 rest := by
  intro c first
  have none := ends c first
  simp only [toDigit, Option.filter_eq_none_iff] at none ⊢
  intro digit value small
  have large := none digit value
  simp only [decide_eq_true_eq] at large small
  omega

theorem Over.undotted {rest : List Char} (past : Over rest) : '.' ∉ rest := by
  cases past with
  | inl closes => exact closes.1
  | inr colons => exact colons.1

theorem Over.group {rest : List Char} (past : Over rest) (index : Nat) :
    readSeparator ':' index (readNumber 16 4 0x10000 true) rest = none := by
  rcases past with ⟨-, rfl | ⟨c, more, rfl, uncolon, other⟩⟩ | ⟨-, more, rfl⟩
  · cases index with
    | zero => rfl
    | succ index => rfl
  · have none : readNumber 16 4 0x10000 true (c :: more) = none := by
      simp [readNumber, readDigits, other]
    cases index with
    | zero => exact none
    | succ index => simp [readSeparator, readGivenChar, uncolon]
  · have colon : readNumber 16 4 0x10000 true (':' :: more) = none := by
      simp [readNumber, readDigits, toDigit]
    have colons : readNumber 16 4 0x10000 true (':' :: ':' :: more) = none := by
      simp [readNumber, readDigits, toDigit]
    cases index with
    | zero => exact colons
    | succ index => simp [readSeparator, readGivenChar, colon]

theorem readSeparator_ipv4_none {index : Nat} {text : List Char} (plain : '.' ∉ text) :
    readSeparator ':' index readIpv4Addr text = none := by
  cases index with
  | zero => exact readIpv4Addr_eq_none plain
  | succ index =>
    cases text with
    | nil => rfl
    | cons c text =>
      have left : '.' ∉ text := fun member => plain (List.mem_cons_of_mem _ member)
      by_cases colon : c = ':'
      · simp [readSeparator, readGivenChar, colon, readIpv4Addr_eq_none left]
      · simp [readSeparator, readGivenChar, colon]

theorem groupsFrom_append_ends {index : Nat} {groups : List Nat} {rest : List Char} (past : Over rest) :
    Ends 16 (groupsFrom (index + 1) groups ++ rest) := by
  cases groups with
  | nil =>
    rcases past with closes | ⟨-, more, rfl⟩
    · exact closes.ends
    · exact ends_of_char (by decide)
  | cons group groups => exact ends_of_char (by decide)

theorem undotted {index : Nat} {groups : List Nat} {rest : List Char} (past : Over rest) :
    '.' ∉ groupsFrom index groups ++ rest := by
  rw [List.mem_append, not_or]
  exact ⟨not_mem_groupsFrom (by decide) (by decide), past.undotted⟩

theorem readGroups_groupsFrom {left index : Nat} {groups : List Nat} {rest : List Char}
    (few : groups.length ≤ left) (small : ∀ group ∈ groups, group < 0x10000) (past : Over rest) :
    readGroups left index (groupsFrom index groups ++ rest) = (groups, false, rest) := by
  induction groups generalizing left index with
  | nil =>
    cases left with
    | zero => cases index <;> rfl
    | succ left =>
      have empty : groupsFrom index [] = [] := by cases index <;> rfl
      rw [empty, List.nil_append, readGroups, past.group index, readSeparator_ipv4_none past.undotted]
      simp
  | cons group groups ih =>
    cases left with
    | zero => simp at few
    | succ left =>
      have digits : readSeparator ':' index (readNumber 16 4 0x10000 true) (groupsFrom index (group :: groups) ++ rest) =
          some (group, groupsFrom (index + 1) groups ++ rest) := by
        have number : readNumber 16 4 0x10000 true (Nat.toDigits 16 group ++ (groupsFrom (index + 1) groups ++ rest)) =
            some (group, groupsFrom (index + 1) groups ++ rest) := by
          apply readNumber_toDigits (by omega) (by omega) (small group List.mem_cons_self) _ (groupsFrom_append_ends past)
          rw [Nat.length_toDigits_le_iff (by omega) (by omega)]
          exact small group List.mem_cons_self
        cases index with
        | zero => simpa [readSeparator, groupsFrom] using number
        | succ index => simpa [readSeparator, readGivenChar, groupsFrom] using number
      have later := @ih left (index + 1) (by simpa using few) (fun other member => small other (List.mem_cons_of_mem _ member))
      rw [readGroups, readSeparator_ipv4_none (undotted past), digits]
      simp [later]

/-- A run of zero groups. -/
def ZeroRun (groups : List Nat) (run : Nat × Nat) : Prop :=
  run.1 + run.2 ≤ groups.length ∧ ∀ i, run.1 ≤ i → i < run.1 + run.2 → groups[i]? = some 0

/-- A run that reaches up to a zero group goes on with it, or a new one begins there. -/
theorem ZeroRun.extend {groups : List Nat} {run : Nat × Nat} {index : Nat} (zeros : ZeroRun groups run)
    (reaches : run.2 = 0 ∨ run.1 + run.2 = index) (here : groups[index]? = some 0) :
    ZeroRun groups (if run.2 = 0 then (index, 1) else (run.1, run.2 + 1)) ∧
      (if run.2 = 0 then (index, 1) else (run.1, run.2 + 1)).1 +
        (if run.2 = 0 then (index, 1) else (run.1, run.2 + 1)).2 = index + 1 := by
  obtain ⟨inside, -⟩ := List.getElem?_eq_some_iff.mp here
  split
  next =>
    refine ⟨⟨inside, ?_⟩, rfl⟩
    intro i low high
    have same : i = index := by
      dsimp only at low high
      omega
    rw [same]
    exact here
  next running =>
    have reached := reaches.resolve_left running
    dsimp only
    refine ⟨⟨by dsimp only; omega, ?_⟩, by omega⟩
    intro i low high
    by_cases earlier : i < run.1 + run.2
    · exact zeros.2 i low earlier
    · have same : i = index := by
        dsimp only at low high
        omega
      rw [same]
      exact here

theorem longestZeros_run {groups before rest : List Nat} {index : Nat} {current longest : Nat × Nat}
    (all : groups = before ++ rest) (place : index = before.length) (zeros : ZeroRun groups current)
    (reaches : current.2 = 0 ∨ current.1 + current.2 = index) (found : ZeroRun groups longest) :
    ZeroRun groups (longestZeros rest index current longest) := by
  induction rest generalizing before index current longest with
  | nil => exact found
  | cons group rest ih =>
    have all' : groups = (before ++ [group]) ++ rest := by simp [all]
    have place' : index + 1 = (before ++ [group]).length := by simp [place]
    cases group with
    | zero =>
      have here : groups[index]? = some 0 := by simp [all, place]
      obtain ⟨extended, reaches'⟩ := zeros.extend reaches here
      simp only [longestZeros]
      apply ih all' place' extended (.inr reaches')
      by_cases longer : longest.2 < (if current.2 = 0 then (index, 1) else (current.1, current.2 + 1)).2
      · rw [if_pos longer]
        exact extended
      · rw [if_neg longer]
        exact found
    | succ group => exact ih all' place' ⟨by simp, by simp⟩ (.inl rfl) found

/-- The groups around a run of zeros. -/
theorem ZeroRun.split {groups : List Nat} {run : Nat × Nat} (zeros : ZeroRun groups run) :
    groups.take run.1 ++ List.replicate run.2 0 ++ groups.drop (run.1 + run.2) = groups := by
  apply List.ext_getElem?
  intro i
  have fits := zeros.1
  by_cases first : i < run.1
  · rw [List.append_assoc, List.getElem?_append_left (by simp; omega), List.getElem?_take_of_lt first]
  · by_cases middle : i < run.1 + run.2
    · rw [List.append_assoc, List.getElem?_append_right (by simp; omega), List.getElem?_append_left (by simp; omega),
        zeros.2 i (by omega) middle, List.getElem?_replicate_of_lt (by simp; omega)]
    · rw [List.getElem?_append_right (by simp; omega), List.getElem?_drop]
      congr 1
      simp
      omega

theorem segments_length (bits : BitVec 128) : (segments bits).length = 8 := by simp [segments]

theorem segments_small (bits : BitVec 128) : ∀ group ∈ segments bits, group < 0x10000 := by
  intro group member
  obtain ⟨i, -, rfl⟩ := List.mem_map.mp member
  exact Nat.mod_lt _ (by omega)

/-- Dropping sixteen bits less appends one segment. -/
theorem shift_step (number shift : Nat) : number >>> (shift + 16) * 0x10000 + number >>> shift % 0x10000 = number >>> shift := by
  have halves := Nat.div_add_mod (number >>> shift) 0x10000
  rw [Nat.shiftRight_add, Nat.shiftRight_eq_div_pow (number >>> shift) 16, Nat.mul_comm]
  exact halves

theorem ofGroups_segments (bits : BitVec 128) : ofGroups (segments bits) = bits := by
  apply BitVec.eq_of_toNat_eq
  have top : bits.toNat >>> 128 = 0 := Nat.shiftRight_eq_zero _ _ bits.isLt
  have steps := shift_step bits.toNat
  simp only [ofGroups, segments, List.range, List.range.loop, List.map_cons, List.map_nil, List.foldl_cons, List.foldl_nil,
    BitVec.toNat_ofNat]
  have first := steps 112
  rw [top] at first
  rw [first, steps 96, steps 80, steps 64, steps 48, steps 32, steps 16, steps 0]
  exact Nat.mod_eq_of_lt bits.isLt

theorem readGroups_over {left index : Nat} {rest : List Char} (past : Over rest) :
    readGroups left index rest = ([], false, rest) := by
  cases left with
  | zero => rfl
  | succ left =>
    rw [readGroups, past.group index, readSeparator_ipv4_none past.undotted]
    simp

variable {rest : List Char}

theorem readIpv6Addr_groups {groups : List Nat} (eight : groups.length = 8) (small : ∀ group ∈ groups, group < 0x10000)
    (closes : Closes rest) : readIpv6Addr (showGroups groups ++ rest) = some (ofGroups groups, rest) := by
  have reads := @readGroups_groupsFrom 8 0 groups rest (by omega) small (.inl closes)
  simp [readIpv6Addr, showGroups_eq, reads, eight]

theorem readIpv6Addr_compressed {head tail : List Nat} {zeros : Nat} (eight : head.length + zeros + tail.length = 8)
    (some' : 0 < zeros) (smallHead : ∀ group ∈ head, group < 0x10000) (smallTail : ∀ group ∈ tail, group < 0x10000)
    (closes : Closes rest) :
    readIpv6Addr (showGroups head ++ ':' :: ':' :: (showGroups tail ++ rest)) =
      some (ofGroups (head ++ List.replicate zeros 0 ++ tail), rest) := by
  have undotted' : '.' ∉ groupsFrom 0 tail := not_mem_groupsFrom (by decide) (by decide)
  have overColons : Over (':' :: ':' :: (groupsFrom 0 tail ++ rest)) := .inr ⟨by simp [undotted', closes.1], _, rfl⟩
  have readsHead := @readGroups_groupsFrom 8 0 head _ (by omega) smallHead overColons
  have readsTail := @readGroups_groupsFrom (8 - (head.length + 1)) 0 tail rest (by omega) smallTail (.inl closes)
  have missing : 8 - head.length - tail.length = zeros := by omega
  have short : head.length ≠ 8 := by omega
  simp only [readIpv6Addr, showGroups_eq, readsHead, short, if_false, Bool.false_eq_true, readGivenChar, if_true,
    Option.bind_eq_bind, Option.bind_some, readsTail, missing]

theorem readIpv6Addr_mapped (bits : BitVec 32) (closes : Closes rest) :
    readIpv6Addr ("::ffff:".toList ++ (showIpv4 bits ++ rest)) =
      some (ofGroups (List.replicate 5 0 ++ [0xffff, bits.toNat / 0x10000, bits.toNat % 0x10000]), rest) := by
  have address : readIpv4Addr (showIpv4 bits ++ rest) = some (bits, rest) :=
    readIpv4Addr_showIpv4 bits closes.ends.decimal
  generalize showIpv4 bits ++ rest = written at address
  have colons : readGroups 8 0 ("::ffff:".toList ++ written) = ([], false, "::ffff:".toList ++ written) := by
    simp [readGroups, readSeparator, readIpv4Addr, readNumber, readDigits, toDigit]
  have unread : readIpv4Addr ("ffff:".toList ++ written) = none := rfl
  have group : readNumber 16 4 0x10000 true ("ffff:".toList ++ written) = some (0xffff, ':' :: written) := rfl
  have last : readGroups 6 1 (':' :: written) = ([bits.toNat / 0x10000, bits.toNat % 0x10000], true, rest) := by
    simp [readGroups, readSeparator, readGivenChar, address]
  have tail : readGroups 7 0 ("ffff:".toList ++ written) =
      ([0xffff, bits.toNat / 0x10000, bits.toNat % 0x10000], true, rest) := by
    rw [readGroups, readSeparator, if_pos rfl, unread, readSeparator, if_pos rfl, group]
    simp [last]
  have shape : "::ffff:".toList ++ written = ':' :: ':' :: ("ffff:".toList ++ written) := rfl
  generalize "ffff:".toList ++ written = text at tail shape
  rw [readIpv6Addr, colons, shape]
  simp [readGivenChar, tail]

theorem readIpv6Addr_showIpv6 (bits : BitVec 128) (closes : Closes rest) :
    readIpv6Addr (showIpv6 bits ++ rest) = some (bits, rest) := by
  have eight := segments_length bits
  have small := segments_small bits
  have again := ofGroups_segments bits
  unfold showIpv6
  dsimp only
  split
  next mapped =>
    -- The last two of the eight groups are the octets of the IPv4 address.
    have whole : segments bits = List.replicate 5 0 ++
        [0xffff, (bits.setWidth 32).toNat / 0x10000, (bits.setWidth 32).toNat % 0x10000] := by
      rw [← List.take_append_drop 6 (segments bits), mapped]
      simp [segments, List.range, List.range.loop, Nat.shiftRight_eq_div_pow]
      omega
    rw [List.append_assoc, readIpv6Addr_mapped _ closes, ← whole, again]
  next =>
    have none : ZeroRun (segments bits) (0, 0) := ⟨by simp, by simp⟩
    have run : ZeroRun (segments bits) (longestZeros (segments bits) 0 (0, 0) (0, 0)) :=
      @longestZeros_run _ [] _ _ _ _ rfl rfl none (.inl rfl) none
    split
    next long =>
      have fits := run.1
      have parts := run.split
      rw [List.append_assoc, List.cons_append, List.cons_append,
        @readIpv6Addr_compressed _ _ _ (longestZeros (segments bits) 0 (0, 0) (0, 0)).2, parts, again]
      · simp
        omega
      · omega
      · intro group member
        exact small group (List.mem_of_mem_take member)
      · intro group member
        exact small group (List.mem_of_mem_drop member)
      · exact closes
    next => rw [readIpv6Addr_groups eight small closes, again]

/-! ### Addresses and networks -/

theorem readIpv4Addr_showIpv6 (bits : BitVec 128) : readIpv4Addr (showIpv6 bits) = none := by
  have plain : ∀ groups, '.' ∉ showGroups groups := by
    intro groups
    rw [showGroups_eq]
    exact not_mem_groupsFrom (by decide) (by decide)
  unfold showIpv6
  dsimp only
  split
  next => rfl
  next =>
    split
    next => exact readIpv4Addr_eq_none (by simp [plain])
    next => exact readIpv4Addr_eq_none (plain _)

theorem parseIpAddr_toText (ip : IpAddr) : parseIpAddr ip.toText.toList = some ip := by
  cases ip with
  | v4 bits =>
    have reads := readIpv4Addr_showIpv4 bits (@ends_nil 10)
    rw [List.append_nil] at reads
    simp [parseIpAddr, IpAddr.toText, readIpAddr, reads]
  | v6 bits =>
    have reads := @readIpv6Addr_showIpv6 [] bits closes_nil
    rw [List.append_nil] at reads
    simp [parseIpAddr, IpAddr.toText, readIpAddr, readIpv4Addr_showIpv6, reads]

theorem not_mem_showIpv4 {bits : BitVec 32} {c : Char} (other : ∀ digit < 16, c ≠ Nat.digitChar digit) (dot : c ≠ '.') :
    c ∉ showIpv4 bits := by
  have plain : ∀ octet, c ∉ Nat.toDigits 10 octet := fun octet => not_mem_toDigits (by omega) (by omega) other
  simp [showIpv4, plain, dot]

theorem not_mem_showIpv6 {bits : BitVec 128} {c : Char} (other : ∀ digit < 16, c ≠ Nat.digitChar digit) (dot : c ≠ '.')
    (colon : c ≠ ':') : c ∉ showIpv6 bits := by
  have plain : ∀ groups, c ∉ showGroups groups := by
    intro groups
    rw [showGroups_eq]
    exact not_mem_groupsFrom other colon
  unfold showIpv6
  dsimp only
  split
  next =>
    have letter : c ≠ 'f' := other 15 (by omega)
    rw [List.mem_append, not_or]
    exact ⟨by simp [letter, colon], not_mem_showIpv4 other dot⟩
  next =>
    split
    next => simp [plain, colon]
    next => exact plain _

theorem not_mem_toText {ip : IpAddr} {c : Char} (other : ∀ digit < 16, c ≠ Nat.digitChar digit) (dot : c ≠ '.')
    (colon : c ≠ ':') : c ∉ ip.toText.toList := by
  cases ip with
  | v4 bits => simpa [IpAddr.toText] using not_mem_showIpv4 other dot
  | v6 bits => simpa [IpAddr.toText] using not_mem_showIpv6 other dot colon

theorem splitOnce_append {separator : Char} {before after : List Char} (absent : separator ∉ before) :
    splitOnce separator (before ++ separator :: after) = some (before, after) := by
  induction before with
  | nil => simp [splitOnce]
  | cons c before ih =>
    rw [List.mem_cons, not_or] at absent
    simp [splitOnce, Ne.symm absent.1, ih absent.2]

theorem foldDigits {limit number : Nat} (fits : number < limit) :
    (Nat.toDigits 10 number).foldlM (fun value c => (toDigit 10 c).bind fun digit =>
      if value * 10 + digit < limit then some (value * 10 + digit) else none) 0 = some number := by
  induction number using Nat.strong_induction_on with
  | _ number ih =>
    by_cases single : number < 10
    · rw [Nat.toDigits_of_lt_base single]
      simp [toDigit_digitChar (show 10 ≤ 16 by omega) single, fits]
    · have last : number % 10 < 10 := Nat.mod_lt _ (by omega)
      have value : number / 10 * 10 + number % 10 = number := by omega
      rw [Nat.toDigits_of_base_le (by omega) (by omega), List.foldlM_append, ih (number / 10) (by omega) (by omega)]
      simp [toDigit_digitChar (show 10 ≤ 16 by omega) last, value, fits]

theorem parseUnsigned_toDigits {limit number : Nat} (fits : number < limit) :
    parseUnsigned limit (Nat.toDigits 10 number) = some number := by
  have unsigned : '+' ∉ Nat.toDigits 10 number := not_mem_toDigits (by omega) (by omega) (by decide)
  have folds := foldDigits fits
  obtain ⟨c, rest, shape⟩ := List.exists_cons_of_ne_nil (@Nat.toDigits_ne_nil number 10)
  rw [shape] at folds unsigned ⊢
  have other : c ≠ '+' := by
    intro same
    exact unsigned (same ▸ List.mem_cons_self)
  unfold parseUnsigned
  dsimp only
  split
  next same =>
    cases same
    exact absurd rfl other
  next => simpa using folds

theorem IpNet.toText_toList (net : IpNet) :
    net.toText.toList = net.addr.toText.toList ++ '/' :: Nat.toDigits 10 net.prefixLen := by
  have plain : ∀ text : String, toString text = text := fun _ => rfl
  simp [IpNet.toText, plain]

theorem parseCidr_toText (net : IpNet) : parseCidr net.toText = some (net.addr, net.prefixLen) := by
  have slash : '/' ∉ net.addr.toText.toList := not_mem_toText (by decide) (by decide) (by decide)
  have small : net.prefixLen < 256 := by
    have valid := net.valid
    cases shape : net.addr with
    | v4 bits =>
      rw [shape, IpAddr.hostPrefix] at valid
      omega
    | v6 bits =>
      rw [shape, IpAddr.hostPrefix] at valid
      omega
  simp [parseCidr, net.toText_toList, splitOnce_append slash, parseIpAddr_toText, parseUnsigned_toDigits small]

theorem colon_mem_toText (net : IpNet) : ':' ∈ net.toText.toList ↔ net.addr.isIpv6 = true := by
  have digits : ':' ∉ Nat.toDigits 10 net.prefixLen := not_mem_toDigits (by omega) (by omega) (by decide)
  rw [net.toText_toList, List.mem_append, List.mem_cons]
  cases net.addr with
  | v4 bits =>
    have plain : ':' ∉ showIpv4 bits := not_mem_showIpv4 (by decide) (by decide)
    simp [IpAddr.toText, IpAddr.isIpv6, plain, digits]
  | v6 bits =>
    have separated : ∀ first second rest, ':' ∈ showGroups (first :: second :: rest) := by
      intro first second rest
      simp [showGroups_eq, groupsFrom]
    have written : ':' ∈ showIpv6 bits := by
      unfold showIpv6
      dsimp only
      split
      next => simp
      next =>
        split
        next => simp
        next => exact separated _ _ _
    simp [IpAddr.toText, IpAddr.isIpv6, written]

end Wgd.Net
