import Mathlib.Data.List.Dedup
import Mathlib.Data.List.Sort
import Wgd.Net.Text

/-! IP addresses as the standard library reads and prints them, and the network
arithmetic of `userspace_helper/macos/net.rs`. -/

set_option autoImplicit false

namespace Wgd.Net

inductive IpAddr where
  | v4 (bits : BitVec 32)
  | v6 (bits : BitVec 128)
  deriving DecidableEq, Repr

def IpAddr.isIpv6 : IpAddr → Bool
  | .v4 _ => false
  | .v6 _ => true

/-- The prefix length of a single host. -/
def IpAddr.hostPrefix : IpAddr → Nat
  | .v4 _ => 32
  | .v6 _ => 128

/-! ### Reading -/

def readGivenChar (expected : Char) : List Char → Option (List Char)
  | c :: rest => if c = expected then some rest else none
  | [] => none

/-- The digits of a number: its value, how many there were, and the text after them. -/
def readDigits (radix maxDigits limit : Nat) : Nat → Nat → List Char → Option (Nat × Nat × List Char)
  | value, count, [] => some (value, count, [])
  | value, count, c :: rest =>
    match toDigit radix c with
    | none => some (value, count, c :: rest)
    | some digit =>
      if value * radix + digit < limit ∧ count + 1 ≤ maxDigits then
        readDigits radix maxDigits limit (value * radix + digit) (count + 1) rest
      else none

def readNumber (radix maxDigits limit : Nat) (allowZeroPrefix : Bool) (text : List Char) :
    Option (Nat × List Char) := do
  let (value, count, rest) ← readDigits radix maxDigits limit 0 0 text
  if count = 0 then none
  else if !allowZeroPrefix && text.head? = some '0' && 1 < count then none
  else some (value, rest)

/-- Every item but the first is preceded by the separator. -/
def readSeparator {A : Type} (separator : Char) (index : Nat) (inner : List Char → Option (A × List Char))
    (text : List Char) : Option (A × List Char) :=
  if index = 0 then inner text else readGivenChar separator text >>= inner

def readIpv4Addr (text : List Char) : Option (BitVec 32 × List Char) := do
  let octet := readNumber 10 3 256 false
  let (a, text) ← readSeparator '.' 0 octet text
  let (b, text) ← readSeparator '.' 1 octet text
  let (c, text) ← readSeparator '.' 2 octet text
  let (d, text) ← readSeparator '.' 3 octet text
  some (BitVec.ofNat 32 (((a * 256 + b) * 256 + c) * 256 + d), text)

/-- At most `left` further 16-bit groups, the last two of which may be written as
an IPv4 address. The flag says that they were. -/
def readGroups : (left : Nat) → (index : Nat) → List Char → List Nat × Bool × List Char
  | 0, _, text => ([], false, text)
  | left + 1, index, text =>
    match if left = 0 then none else readSeparator ':' index readIpv4Addr text with
    | some (address, rest) => ([address.toNat / 0x10000, address.toNat % 0x10000], true, rest)
    | none =>
      match readSeparator ':' index (readNumber 16 4 0x10000 true) text with
      | none => ([], false, text)
      | some (group, rest) =>
        let (groups, ipv4, rest) := readGroups left (index + 1) rest
        (group :: groups, ipv4, rest)

def ofGroups (groups : List Nat) : BitVec 128 :=
  BitVec.ofNat 128 (groups.foldl (fun value group => value * 0x10000 + group) 0)

def readIpv6Addr (text : List Char) : Option (BitVec 128 × List Char) :=
  let (head, headIpv4, rest) := readGroups 8 0 text
  if head.length = 8 then some (ofGroups head, rest)
  else if headIpv4 then none
  else do
    let rest ← readGivenChar ':' rest
    let rest ← readGivenChar ':' rest
    -- The `::` stands for at least one zero group.
    let (tail, _, rest) := readGroups (8 - (head.length + 1)) 0 rest
    some (ofGroups (head ++ List.replicate (8 - head.length - tail.length) 0 ++ tail), rest)

def readIpAddr (text : List Char) : Option (IpAddr × List Char) :=
  match readIpv4Addr text with
  | some (bits, rest) => some (.v4 bits, rest)
  | none => (readIpv6Addr text).map fun (bits, rest) => (.v6 bits, rest)

/-- `str::parse::<IpAddr>`. -/
def parseIpAddr (text : List Char) : Option IpAddr :=
  match readIpAddr text with
  | some (ip, []) => some ip
  | _ => none

/-! ### Printing -/

def showIpv4 (bits : BitVec 32) : List Char :=
  let value := bits.toNat
  let octet (shift : Nat) := Nat.toDigits 10 ((value >>> shift) % 256)
  octet 24 ++ '.' :: octet 16 ++ '.' :: octet 8 ++ '.' :: octet 0

/-- The first longest run of zero groups, as its start and its length. -/
def longestZeros : List Nat → (index : Nat) → (current longest : Nat × Nat) → Nat × Nat
  | [], _, _, longest => longest
  | 0 :: rest, index, current, longest =>
    let current := if current.2 = 0 then (index, 1) else (current.1, current.2 + 1)
    longestZeros rest (index + 1) current (if longest.2 < current.2 then current else longest)
  | _ :: rest, index, _, longest => longestZeros rest (index + 1) (0, 0) longest

def showGroups (groups : List Nat) : List Char :=
  List.intercalate [':'] (groups.map (Nat.toDigits 16))

def segments (bits : BitVec 128) : List Nat :=
  (List.range 8).map fun i => (bits.toNat >>> (16 * (7 - i))) % 0x10000

def showIpv6 (bits : BitVec 128) : List Char :=
  let groups := segments bits
  if groups.take 6 = [0, 0, 0, 0, 0, 0xffff] then
    "::ffff:".toList ++ showIpv4 (bits.setWidth 32)
  else
    let (start, length) := longestZeros groups 0 (0, 0) (0, 0)
    if 1 < length then showGroups (groups.take start) ++ ':' :: ':' :: showGroups (groups.drop (start + length))
    else showGroups groups

def IpAddr.toText : IpAddr → String
  | .v4 bits => String.ofList (showIpv4 bits)
  | .v6 bits => String.ofList (showIpv6 bits)

example : (parseIpAddr "fd00:0:0:0:0:0:0:1".toList).map IpAddr.toText = some "fd00::1" := by decide

/-! ### Networks -/

/-- Mask an address down to its network base for the given prefix length. -/
def macosNetworkBase (ip : IpAddr) (prefixLength : Nat) : IpAddr :=
  match ip with
  | .v4 bits =>
    .v4 (if prefixLength = 0 then 0 else if 32 ≤ prefixLength then bits
      else bits &&& (BitVec.allOnes 32 <<< (32 - prefixLength)))
  | .v6 bits =>
    .v6 (if prefixLength = 0 then 0 else if 128 ≤ prefixLength then bits
      else bits &&& (BitVec.allOnes 128 <<< (128 - prefixLength)))

/-- An address and a prefix length, as the source's `(IpAddr, u8)`. -/
abbrev Subnet := IpAddr × Nat

/-- True when `route` is equal to, or fully inside, the connected subnet `local`. -/
def macosSubnetContains (connected route : Subnet) : Bool :=
  if route.2 < connected.2 then false
  else match connected.1, route.1 with
    | .v4 _, .v4 _ | .v6 _, .v6 _ =>
      macosNetworkBase route.1 connected.2 = macosNetworkBase connected.1 connected.2
    | _, _ => false

/-- The order of `(IpAddr, u8)`: IPv4 before IPv6, then by address, then by length. -/
def subnetLe (a b : Subnet) : Prop :=
  match a.1, b.1 with
  | .v4 x, .v4 y => x.toNat < y.toNat ∨ (x = y ∧ a.2 ≤ b.2)
  | .v6 x, .v6 y => x.toNat < y.toNat ∨ (x = y ∧ a.2 ≤ b.2)
  | .v4 _, .v6 _ => True
  | .v6 _, .v4 _ => False

instance : DecidableRel subnetLe := fun a b => by
  unfold subnetLe
  split <;> infer_instance

/-- The subnets of the connected interfaces, sorted and without repetition; a
failed read counts as none. -/
def macosLocalConnectedSubnets (byDevice : Option (List (String × Subnet))) : List Subnet :=
  (((byDevice.getD []).map Prod.snd).insertionSort subnetLe).dedup

def parseCidr (value : String) : Option Subnet := do
  let (ip, length) ← splitOnce '/' value.toList
  let ip ← parseIpAddr ip
  let length ← parseUnsigned 256 length
  some (ip, length)

end Wgd.Net
