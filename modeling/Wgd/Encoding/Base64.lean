/-! Base64 with the standard alphabet and padding: three bytes are four letters. -/

set_option autoImplicit false

namespace Wgd.Encoding.Base64

def alphabet : List Char := "ABCDEFGHIJKLMNOPQRSTUVWXYZabcdefghijklmnopqrstuvwxyz0123456789+/".toList

/-- The letter of six bits. -/
def letter (sextet : Nat) : Char := alphabet.getD sextet 'A'

def sextet (c : Char) : Option Nat := alphabet.findIdx? (· == c)

def encode : List UInt8 → List Char
  | [] => []
  | [a] =>
    let bits := a.toNat * 16
    [letter (bits / 64), letter (bits % 64), '=', '=']
  | [a, b] =>
    let bits := (a.toNat * 256 + b.toNat) * 4
    [letter (bits / 4096), letter (bits / 64 % 64), letter (bits % 64), '=']
  | a :: b :: c :: rest =>
    let bits := (a.toNat * 256 + b.toNat) * 256 + c.toNat
    letter (bits / 262144) :: letter (bits / 4096 % 64) :: letter (bits / 64 % 64) :: letter (bits % 64) :: encode rest

/-- Padding stands at the end only, and the bits it cuts off are zero. -/
def decode : List Char → Option (List UInt8)
  | [] => some []
  | p :: q :: r :: s :: rest =>
    if s = '=' then
      if rest ≠ [] then none
      else if r = '=' then do
        let bits := (← sextet p) * 64 + (← sextet q)
        if bits % 16 = 0 then some [UInt8.ofNat (bits / 16)] else none
      else do
        let bits := ((← sextet p) * 64 + (← sextet q)) * 64 + (← sextet r)
        if bits % 4 = 0 then some [UInt8.ofNat (bits / 1024), UInt8.ofNat (bits / 4 % 256)] else none
    else do
      let bits := (((← sextet p) * 64 + (← sextet q)) * 64 + (← sextet r)) * 64 + (← sextet s)
      let bytes ← decode rest
      some (UInt8.ofNat (bits / 65536) :: UInt8.ofNat (bits / 256 % 256) :: UInt8.ofNat (bits % 256) :: bytes)
  | _ => none

theorem sextet_letter {value : Nat} (small : value < 64) : sextet (letter value) = some value := by
  have all : ∀ value < 64, sextet (letter value) = some value := by decide +kernel
  exact all value small

theorem letter_ne_pad {value : Nat} (small : value < 64) : letter value ≠ '=' := by
  have all : ∀ value < 64, letter value ≠ '=' := by decide +kernel
  exact all value small

theorem letter_mem {value : Nat} (small : value < 64) : letter value ∈ alphabet := by
  have all : ∀ value < 64, letter value ∈ alphabet := by decide +kernel
  exact all value small

theorem byte_eq {byte : UInt8} {value : Nat} (same : value = byte.toNat) : UInt8.ofNat value = byte := by
  rw [same, UInt8.ofNat_toNat]

/-- Bytes are read back from their letters. -/
theorem decode_encode (bytes : List UInt8) : decode (encode bytes) = some bytes := by
  induction bytes using encode.induct with
  | case1 => rfl
  | case2 a =>
    have bound := a.toNat_lt
    have zero : a.toNat * 16 / 64 * 64 + a.toNat * 16 % 64 = a.toNat * 16 := by omega
    simp only [encode, decode, sextet_letter (show a.toNat * 16 / 64 < 64 by omega),
      sextet_letter (show a.toNat * 16 % 64 < 64 by omega), if_true, ne_eq, not_true_eq_false, if_false,
      Option.bind_eq_bind, Option.bind_some, zero]
    rw [if_pos (by omega), byte_eq (show a.toNat * 16 / 16 = a.toNat by omega)]
  | case3 a b =>
    have boundA := a.toNat_lt
    have boundB := b.toNat_lt
    generalize pair : (a.toNat * 256 + b.toNat) * 4 = bits
    have small : bits / 4096 < 64 := by omega
    have low : bits % 64 < 64 := by omega
    have middle : bits / 64 % 64 < 64 := by omega
    have whole : (bits / 4096 * 64 + bits / 64 % 64) * 64 + bits % 64 = bits := by omega
    simp only [encode, decode, pair, sextet_letter small, sextet_letter middle, sextet_letter low, letter_ne_pad low,
      if_true, ne_eq, not_true_eq_false, if_false, Option.bind_eq_bind, Option.bind_some, whole]
    rw [if_pos (by omega), byte_eq (show bits / 1024 = a.toNat by omega), byte_eq (show bits / 4 % 256 = b.toNat by omega)]
  | case4 a b c rest ih =>
    have boundA := a.toNat_lt
    have boundB := b.toNat_lt
    have boundC := c.toNat_lt
    generalize group : (a.toNat * 256 + b.toNat) * 256 + c.toNat = bits
    have small : bits / 262144 < 64 := by omega
    have second : bits / 4096 % 64 < 64 := by omega
    have third : bits / 64 % 64 < 64 := by omega
    have low : bits % 64 < 64 := by omega
    have whole : ((bits / 262144 * 64 + bits / 4096 % 64) * 64 + bits / 64 % 64) * 64 + bits % 64 = bits := by omega
    simp only [encode, decode, group, sextet_letter small, sextet_letter second, sextet_letter third, sextet_letter low,
      letter_ne_pad low, if_false, Option.bind_eq_bind, Option.bind_some, whole, ih]
    rw [byte_eq (show bits / 65536 = a.toNat by omega), byte_eq (show bits / 256 % 256 = b.toNat by omega),
      byte_eq (show bits % 256 = c.toNat by omega)]

end Wgd.Encoding.Base64
