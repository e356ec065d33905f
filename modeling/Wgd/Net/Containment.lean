import Mathlib.Algebra.Group.Nat.Defs
import Mathlib.Data.Set.Basic
import Wgd.Net.IpNet

/-! The addresses of a subnet: the containment that is computed on prefixes is the
inclusion of these sets. -/

set_option autoImplicit false

namespace Wgd.Net

/-- Masking keeps the leading bits. -/
theorem getLsbD_mask {width : Nat} (bits : BitVec width) (length i : Nat) :
    (if length = 0 then 0 else if width ≤ length then bits
      else bits &&& (BitVec.allOnes width <<< (width - length))).getLsbD i =
      (decide (width ≤ i + length) && bits.getLsbD i) := by
  by_cases inside : i < width
  · split
    next none =>
      have low : ¬width ≤ i + length := by omega
      simp [low]
    next =>
      split
      next all =>
        have high : width ≤ i + length := by omega
        simp [high]
      next =>
        rw [BitVec.getLsbD_and, BitVec.getLsbD_shiftLeft, BitVec.getLsbD_allOnes, Bool.and_comm]
        congr 1
        by_cases high : width ≤ i + length
        · have place : i - (width - length) < width := by omega
          have shifted : ¬i < width - length := by omega
          simp [inside, high, place, shifted]
        · have shifted : i < width - length := by omega
          simp [high, shifted]
  · rw [BitVec.getLsbD_of_ge _ _ (by omega), BitVec.getLsbD_of_ge _ _ (by omega), Bool.and_false]

/-- The leading bits agree. -/
def SamePrefix {width : Nat} (length : Nat) (x y : BitVec width) : Prop :=
  ∀ i, width ≤ i + length → x.getLsbD i = y.getLsbD i

theorem mask_eq_iff {width : Nat} {x y : BitVec width} {length : Nat} :
    ((if length = 0 then 0 else if width ≤ length then x else x &&& (BitVec.allOnes width <<< (width - length))) =
      if length = 0 then 0 else if width ≤ length then y else y &&& (BitVec.allOnes width <<< (width - length))) ↔
      SamePrefix length x y := by
  constructor
  · intro same i high
    have bit := congrArg (fun bits => bits.getLsbD i) same
    simpa only [getLsbD_mask, high, decide_true, Bool.true_and] using bit
  · intro same
    apply BitVec.eq_of_getLsbD_eq
    intro i inside
    rw [getLsbD_mask, getLsbD_mask]
    by_cases high : width ≤ i + length
    · rw [same i high]
    · simp [high]

/-- Both addresses belong to one family and their leading bits agree. -/
def SameNetwork (length : Nat) : IpAddr → IpAddr → Prop
  | .v4 x, .v4 y => SamePrefix length x y
  | .v6 x, .v6 y => SamePrefix length x y
  | _, _ => False

theorem macosNetworkBase_eq_iff {x y : IpAddr} {length : Nat} :
    macosNetworkBase x length = macosNetworkBase y length ↔ SameNetwork length x y := by
  cases x with
  | v4 x =>
    cases y with
    | v4 y =>
      simp only [macosNetworkBase, IpAddr.v4.injEq]
      exact mask_eq_iff
    | v6 y => simp [macosNetworkBase, SameNetwork]
  | v6 x =>
    cases y with
    | v4 y => simp [macosNetworkBase, SameNetwork]
    | v6 y =>
      simp only [macosNetworkBase, IpAddr.v6.injEq]
      exact mask_eq_iff

/-- A longer common prefix is a shorter one as well. -/
theorem networkBase_shorter {x y : IpAddr} {short long : Nat} (le : short ≤ long)
    (same : macosNetworkBase x long = macosNetworkBase y long) : macosNetworkBase x short = macosNetworkBase y short := by
  rw [macosNetworkBase_eq_iff] at same ⊢
  cases x with
  | v4 x =>
    cases y with
    | v4 y =>
      intro i high
      exact same i (by omega)
    | v6 y => exact same
  | v6 x =>
    cases y with
    | v4 y => exact same
    | v6 y =>
      intro i high
      exact same i (by omega)

def addresses (subnet : Subnet) : Set IpAddr :=
  {ip | macosNetworkBase ip subnet.2 = macosNetworkBase subnet.1 subnet.2}

theorem mem_addresses {subnet : Subnet} {ip : IpAddr} :
    ip ∈ addresses subnet ↔ macosNetworkBase ip subnet.2 = macosNetworkBase subnet.1 subnet.2 := Iff.rfl

/-- Two networks that share an address are nested. -/
theorem addresses_nested {a b : Subnet} {ip : IpAddr} (inA : ip ∈ addresses a) (inB : ip ∈ addresses b) :
    addresses a ⊆ addresses b ∨ addresses b ⊆ addresses a := by
  by_cases shorter : a.2 ≤ b.2
  · right
    intro other member
    exact (networkBase_shorter shorter (member.trans inB.symm)).trans inA
  · left
    intro other member
    exact (networkBase_shorter (by omega) (member.trans inA.symm)).trans inB

theorem addresses_networkBase (ip : IpAddr) (length : Nat) :
    addresses (macosNetworkBase ip length, length) = addresses (ip, length) := by
  ext other
  rw [mem_addresses, mem_addresses, macosNetworkBase_idem]

/-! ### First and last address -/

namespace IpNet

variable {net other : IpNet} {ip : IpAddr}

def addresses (net : IpNet) : Set IpAddr := Net.addresses (net.addr, net.prefixLen)

/-- The addresses that begin with the bits of a network. -/
def range (net : IpNet) : Set IpAddr := {ip | SameNetwork net.prefixLen ip net.addr}

/-- The subnet of a network. -/
def subnet (net : IpNet) : Subnet := (net.addr, net.prefixLen)

end IpNet
end Wgd.Net
