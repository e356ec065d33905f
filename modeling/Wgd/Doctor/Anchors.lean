import Wgd.Doctor.Redaction
import Wgd.Net.Display
import Wgd.Net.Splitting

/-! What masking a line leaves in place: whatever is in no token, but for the stars that
masking puts in. -/

set_option autoImplicit false

namespace Wgd.Doctor

open Wgd.Net

/-- A character of a token or of a mask. -/
def Maskable (c : Char) : Prop := isTokenChar c = true ∨ c = '*'

def isAnchor (c : Char) : Bool := !isTokenChar c && c != '*'

variable {token core masked addr text : List Char} {endpoint : Bool}

theorem not_anchor {c : Char} (maskable : Maskable c) : isAnchor c = false := by
  rcases maskable with inToken | rfl
  · simp [isAnchor, inToken]
  · rfl

theorem maskable_digit {number : Nat} {c : Char} (member : c ∈ Nat.toDigits 10 number) : Maskable c := by
  obtain ⟨digit, small, rfl⟩ := digit_of_mem_toDigits (by omega) (by omega) member
  have all : ∀ digit < 10, isTokenChar (Nat.digitChar digit) = true := by decide
  exact .inl (all digit small)

/-- All its characters are maskable. -/
def AllMaskable (text : List Char) : Prop := ∀ c ∈ text, Maskable c

theorem AllMaskable.append {first second : List Char} (a : AllMaskable first) (b : AllMaskable second) :
    AllMaskable (first ++ second) := by
  intro c member
  cases List.mem_append.mp member with
  | inl before => exact a c before
  | inr after => exact b c after

theorem AllMaskable.cons {c : Char} (first : isTokenChar c = true) (rest : AllMaskable text) : AllMaskable (c :: text) := by
  intro d member
  cases member with
  | head => exact .inl first
  | tail _ member => exact rest d member

theorem AllMaskable.mono {first second : List Char} (all : AllMaskable second) (sub : first ⊆ second) : AllMaskable first :=
  fun c member => all c (sub member)

theorem AllMaskable.stars (count : Nat) : AllMaskable (List.replicate count '*') := by
  intro c member
  exact .inr (List.eq_of_mem_replicate member)

/-! ### Addresses -/

theorem maskIpv4Addr_maskable (all : AllMaskable addr) (masks : maskIpv4Addr addr = some masked) : AllMaskable masked := by
  obtain ⟨bits, -, rfl⟩ := Option.map_eq_some_iff.mp masks
  split
  · exact all
  · intro c member
    simp only [maskOctets, List.append_assoc, List.mem_append] at member
    rcases member with first | dots | last
    · exact maskable_digit first
    · have each : ∀ c ∈ ".*.*.".toList, Maskable c := by
        intro c member
        have cases' : c = '.' ∨ c = '*' := by
          have only : ∀ c ∈ ".*.*.".toList, c = '.' ∨ c = '*' := List.all_iff_forall_prop.mp (by decide)
          exact only c member
        rcases cases' with rfl | rfl
        · exact .inl rfl
        · exact .inr rfl
      exact each c dots
    · exact maskable_digit last

theorem maskGroups_maskable (all : AllMaskable addr) : AllMaskable (maskGroups addr) := by
  unfold maskGroups
  refine ((all.mono (List.take_subset _ _)).append ?_).append (all.mono (List.drop_subset _ _))
  intro c member
  obtain ⟨d, -, rfl⟩ := List.mem_map.mp member
  split
  · exact .inl rfl
  · exact .inr rfl

theorem maskIpAddr_maskable (all : AllMaskable addr) (masks : maskIpAddr addr = some masked) : AllMaskable masked := by
  unfold maskIpAddr at masks
  split at masks
  next v4 =>
    cases masks
    exact maskIpv4Addr_maskable all v4
  next =>
    obtain ⟨bits, -, masks⟩ := Option.bind_eq_some_iff.mp masks
    dsimp only at masks
    split at masks
    · cases masks
      exact all
    · split at masks
      next head tail split =>
        have whole := (rsplitOnce_some split).1
        have allHead : AllMaskable head := all.mono (by rw [whole]; exact List.subset_append_left _ _)
        have allTail : AllMaskable tail := all.mono (by rw [whole]; simp)
        split at masks
        · obtain ⟨tail', masksTail, same⟩ := Option.bind_eq_some_iff.mp masks
          cases same
          exact allHead.append ((maskIpv4Addr_maskable allTail masksTail).cons rfl)
        · cases masks
          exact maskGroups_maskable all
      next =>
        cases masks
        exact maskGroups_maskable all

/-- Both parts of a text that is cut at a separator. -/
theorem AllMaskable.cut {separator : Char} {before after : List Char} (all : AllMaskable text)
    (whole : text = before ++ separator :: after) : AllMaskable before ∧ AllMaskable after := by
  rw [whole] at all
  exact ⟨all.mono (List.subset_append_left _ _), all.mono fun c member => by simp [member]⟩

theorem splitCidr_maskable {cidr : List Char} (all : AllMaskable core) (split : splitCidr core = some (addr, cidr)) :
    AllMaskable addr ∧ AllMaskable cidr := by
  unfold splitCidr at split
  split at split
  next before length slash =>
    obtain ⟨allBefore, allLength⟩ := all.cut (splitOnce_some slash).1
    split at split
    · cases split
      exact ⟨allBefore, allLength.cons rfl⟩
    · cases split
  next =>
    cases split
    exact ⟨all, by simp [AllMaskable]⟩

theorem splitZone_maskable (all : AllMaskable addr) : AllMaskable (splitZone addr).1 ∧ AllMaskable (splitZone addr).2 := by
  unfold splitZone
  split
  next before after percent =>
    obtain ⟨allBefore, allAfter⟩ := all.cut (splitOnce_some percent).1
    exact ⟨allBefore, allAfter.cons rfl⟩
  next => exact ⟨all, by simp [AllMaskable]⟩

theorem splitPort_maskable (all : AllMaskable addr) : AllMaskable (splitPort addr).1 ∧ AllMaskable (splitPort addr).2 := by
  unfold splitPort
  split
  next before after colon =>
    obtain ⟨allBefore, allAfter⟩ := all.cut (rsplitOnce_some colon).1
    split
    · exact ⟨allBefore, allAfter.cons rfl⟩
    · exact ⟨all, by simp [AllMaskable]⟩
  next => exact ⟨all, by simp [AllMaskable]⟩

theorem splitHostPort_maskable (all : AllMaskable core) :
    AllMaskable (splitHostPort core).1 ∧ AllMaskable (splitHostPort core).2 := by
  unfold splitHostPort
  split
  next before after colon =>
    obtain ⟨allBefore, allAfter⟩ := all.cut (rsplitOnce_some colon).1
    split
    · exact ⟨allBefore, allAfter.cons rfl⟩
    · exact ⟨all, by simp [AllMaskable]⟩
  next => exact ⟨all, by simp [AllMaskable]⟩

theorem maskIpToken_maskable (all : AllMaskable core) (masks : maskIpToken core = some masked) : AllMaskable masked := by
  unfold maskIpToken at masks
  split at masks
  next rest =>
    have allRest : AllMaskable rest := all.mono (List.subset_cons_self _ _)
    obtain ⟨⟨inner, after⟩, split, masks⟩ := Option.bind_eq_some_iff.mp masks
    obtain ⟨allInner, allAfter⟩ := allRest.cut (splitOnce_some split).1
    obtain ⟨shown, masksInner, same⟩ := Option.bind_eq_some_iff.mp masks
    cases same
    exact ((maskIpAddr_maskable allInner masksInner).cons rfl).append (allAfter.cons rfl)
  next =>
    obtain ⟨⟨addr, cidr⟩, slash, masks⟩ := Option.bind_eq_some_iff.mp masks
    obtain ⟨allAddr, allCidr⟩ := splitCidr_maskable all slash
    obtain ⟨allUnzoned, allZone⟩ := splitZone_maskable allAddr
    obtain ⟨allHost, allPort⟩ := splitPort_maskable allUnzoned
    obtain ⟨shown, masksAddr, same⟩ := Option.bind_eq_some_iff.mp masks
    cases same
    exact (((maskIpAddr_maskable allHost masksAddr).append allPort).append allZone).append allCidr

/-! ### Tokens -/

theorem maskDomainToken_maskable (all : AllMaskable core) (masks : maskDomainToken core endpoint = some masked) :
    AllMaskable masked := by
  obtain ⟨allHost, allPort⟩ := splitHostPort_maskable all
  unfold maskDomainToken at masks
  dsimp only at masks
  split at masks
  · cases masks
    exact (((allHost.mono (List.take_subset _ _)).append (AllMaskable.stars _)).append
      (allHost.mono (List.drop_subset _ _))).append allPort
  · cases masks

theorem maskCore_maskable (all : AllMaskable core) (masks : maskCore core endpoint = some masked) : AllMaskable masked := by
  unfold maskCore at masks
  cases ip : maskIpToken core with
  | some shown =>
    rw [ip] at masks
    cases masks
    exact maskIpToken_maskable all ip
  | none =>
    rw [ip] at masks
    exact maskDomainToken_maskable all masks

theorem redactPlainToken_maskable (all : AllMaskable token) : AllMaskable (redactPlainToken token endpoint) := by
  unfold redactPlainToken
  split
  · exact ((all.mono (List.take_subset _ _)).append (AllMaskable.stars _)).append (all.mono (List.drop_subset _ _))
  · have allCore : AllMaskable (token.rdropWhile (· = '.')) := all.mono (List.rdropWhile_prefix _ _).subset
    dsimp only
    split
    next masked masks => exact (maskCore_maskable allCore masks).append (all.mono (List.drop_subset _ _))
    next =>
      have allOpened := allCore.mono (List.dropWhile_suffix (· = '[')).subset
      split
      · split
        next masked masks =>
          have allInner := allOpened.mono (List.rdropWhile_prefix (· = ']') _).subset
          exact (((allCore.mono (List.take_subset _ _)).append (maskCore_maskable allInner masks)).append
            (allOpened.mono (List.drop_subset _ _))).append (all.mono (List.drop_subset _ _))
        next => exact all
      · exact all

theorem redactTokenWithContext_maskable {fuel : Nat} (all : AllMaskable token) :
    AllMaskable (redactTokenWithContext fuel token endpoint) := by
  induction fuel generalizing token endpoint with
  | zero => exact all
  | succ fuel ih =>
    unfold redactTokenWithContext
    split
    next key value equals =>
      obtain ⟨allKey, allValue⟩ := all.cut (splitOnce_some equals).1
      split
      · exact allKey.append ((ih allValue).cons rfl)
      · exact redactPlainToken_maskable all
    next => exact redactPlainToken_maskable all

/-! ### Lines -/

theorem anchors_of_maskable (all : AllMaskable text) : text.filter isAnchor = [] := by
  rw [List.filter_eq_nil_iff]
  intro c member
  simp [not_anchor (all c member)]

theorem redactTokens_anchors {peer : Bool} {line : List Char} (inToken : ∀ c ∈ token, isTokenChar c = true) :
    (redactTokens peer token endpoint line).filter isAnchor = line.filter isAnchor := by
  have redacted : ∀ context, (redactToken token context).filter isAnchor = [] := fun context =>
    anchors_of_maskable (redactTokenWithContext_maskable fun c member => .inl (inToken c member))
  induction line generalizing token endpoint with
  | nil =>
    unfold redactTokens
    split
    · rfl
    · exact redacted _
  | cons c rest ih =>
    have next : ∀ context, (redactTokens peer [] context rest).filter isAnchor = rest.filter isAnchor := fun context =>
      ih (by simp) fun context => anchors_of_maskable (redactTokenWithContext_maskable (by simp [AllMaskable]))
    unfold redactTokens
    split
    next more =>
      have longer : ∀ d ∈ token ++ [c], isTokenChar d = true := by
        intro d member
        cases List.mem_append.mp member with
        | inl before => exact inToken d before
        | inr last => exact List.mem_singleton.mp last ▸ more
      rw [ih longer fun context => anchors_of_maskable (redactTokenWithContext_maskable fun d member => .inl (longer d member)),
        List.filter_cons_of_neg (by simp [not_anchor (.inl more)])]
    next =>
      split
      · rw [List.filter_cons, List.filter_cons, next]
      · rw [List.filter_append, redacted, List.nil_append, List.filter_cons, List.filter_cons, next]

/-- Whatever is no part of a token or a mask stays where it is in the line. -/
theorem redactLine_anchors (line : List Char) :
    (redactLine line).filter isAnchor = (redactSecretValues line).filter isAnchor := by
  unfold redactLine
  dsimp only
  exact redactTokens_anchors (by simp)

end Wgd.Doctor
