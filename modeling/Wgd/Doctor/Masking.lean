import Wgd.Doctor.Addresses
import Wgd.Doctor.Places

/-! Keys and addresses that stand by themselves in a report. -/

set_option autoImplicit false

namespace Wgd.Doctor

open Wgd.Net

variable {before after key token addr shown lead close : List Char} {context : Bool} {bits : BitVec 32}

/-! ### Keys -/

theorem IsWgKey.parts (isKey : isWgKey key = true) : ∃ body, key = body ++ ['='] ∧ body.length = 43 ∧ ∀ c ∈ body, isKeyChar c = true := by
  simp only [isWgKey, Bool.and_eq_true, beq_iff_eq, List.all_eq_true] at isKey
  obtain ⟨⟨length, last⟩, letters⟩ := isKey
  obtain ⟨body, rfl⟩ := List.getLast?_eq_some_iff.mp last
  have size : body.length = 43 := by simpa using length
  refine ⟨body, rfl, size, ?_⟩
  rwa [List.take_append_of_le_length (Nat.le_of_eq size.symm), List.take_of_length_le (Nat.le_of_eq size)] at letters

end Wgd.Doctor
