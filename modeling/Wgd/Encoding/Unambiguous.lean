import Mathlib.Data.List.Basic

/-! Codes whose words can be written one after the other: where a word ends is
decided by the word itself, not by what follows. -/

set_option autoImplicit false

namespace Wgd.Encoding

variable {S A B : Type}

/-- The words of two valid values, whatever follows them, differ unless the values are the same. -/
def Unambiguous (valid : A → Prop) (encode : A → List S) : Prop :=
  ∀ a b rest rest', valid a → valid b → encode a ++ rest = encode b ++ rest' → a = b ∧ rest = rest'

namespace Unambiguous

variable {valid : A → Prop} {encode : A → List S}

theorem injective (code : Unambiguous valid encode) {a b : A} (first : valid a) (second : valid b)
    (same : encode a = encode b) : a = b :=
  (code a b [] [] first second (by rw [same])).1

/-- Words of one length. -/
theorem of_length {length : Nat} (fixed : ∀ a, valid a → (encode a).length = length)
    (injective : ∀ a b, valid a → valid b → encode a = encode b → a = b) : Unambiguous valid encode := by
  intro a b rest rest' first second same
  obtain ⟨words, rests⟩ := List.append_inj same ((fixed a first).trans (fixed b second).symm)
  exact ⟨injective a b first second words, rests⟩

/-- A value behind an injective view has the word of its view. -/
theorem comap (code : Unambiguous valid encode) {view : B → A} (injective : ∀ b b', view b = view b' → b = b') :
    Unambiguous (fun b => valid (view b)) fun b => encode (view b) := by
  intro b b' rest rest' first second same
  obtain ⟨views, rests⟩ := code _ _ _ _ first second same
  exact ⟨injective b b' views, rests⟩

theorem weaken {valid' : A → Prop} (code : Unambiguous valid encode) (stronger : ∀ a, valid' a → valid a) :
    Unambiguous valid' encode :=
  fun a b rest rest' first second => code a b rest rest' (stronger a first) (stronger b second)

/-- The words of two lists of one length. -/
theorem flatMap (code : Unambiguous valid encode) {items items' : List A} {rest rest' : List S}
    (length : items.length = items'.length) (first : ∀ a ∈ items, valid a) (second : ∀ a ∈ items', valid a)
    (same : items.flatMap encode ++ rest = items'.flatMap encode ++ rest') : items = items' ∧ rest = rest' := by
  induction items generalizing items' with
  | nil =>
    cases items' with
    | nil => exact ⟨rfl, same⟩
    | cons other others => cases length
  | cons item items ih =>
    cases items' with
    | nil => cases length
    | cons other others =>
      rw [List.forall_mem_cons] at first second
      rw [List.flatMap_cons, List.flatMap_cons, List.append_assoc, List.append_assoc] at same
      obtain ⟨rfl, later⟩ := code _ _ _ _ first.1 second.1 same
      obtain ⟨rfl, rests⟩ := ih (Nat.succ.inj length) first.2 second.2 later
      exact ⟨rfl, rests⟩

/-- A list after the number of its items. -/
theorem counted {bound : Nat} {count : Nat → List S} (counts : Unambiguous (· < bound) count) (code : Unambiguous valid encode) :
    Unambiguous (fun items : List A => items.length < bound ∧ ∀ a ∈ items, valid a)
      fun items => count items.length ++ items.flatMap encode := by
  intro items items' rest rest' first second same
  dsimp only at same
  rw [List.append_assoc, List.append_assoc] at same
  obtain ⟨length, same⟩ := counts _ _ _ _ first.1 second.1 same
  exact code.flatMap length first.2 second.2 same

/-- A flag, and a value if there is one. -/
theorem flagged (code : Unambiguous valid encode) {absent present : S} (apart : absent ≠ present) {word : Option A → List S}
    (none : word none = [absent]) (some : ∀ a, word (some a) = present :: encode a) :
    Unambiguous (fun value => ∀ a, value = Option.some a → valid a) word := by
  intro value value' rest rest' first second same
  cases value with
  | none =>
    cases value' with
    | none =>
      rw [none] at same
      exact ⟨rfl, (List.cons.inj same).2⟩
    | some b =>
      rw [none, some] at same
      exact absurd (List.cons.inj same).1 apart
  | some a =>
    cases value' with
    | none =>
      rw [none, some] at same
      exact absurd (List.cons.inj same).1.symm apart
    | some b =>
      rw [some, some] at same
      obtain ⟨rfl, rests⟩ := code _ _ _ _ (first a rfl) (second b rfl) (List.cons.inj same).2
      exact ⟨rfl, rests⟩

end Unambiguous
end Wgd.Encoding
