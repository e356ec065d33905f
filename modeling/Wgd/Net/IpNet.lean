import Wgd.Net.Address

/-! Networks in CIDR form, as the `ipnet` values of the configuration. -/

set_option autoImplicit false

namespace Wgd.Net

/-- An address with a prefix length its family has. Host bits may be set. -/
structure IpNet where
  addr : IpAddr
  prefixLen : Nat
  valid : prefixLen ≤ addr.hostPrefix
  deriving DecidableEq, Repr

theorem hostPrefix_networkBase (ip : IpAddr) (length : Nat) :
    (macosNetworkBase ip length).hostPrefix = ip.hostPrefix := by
  cases ip <;> rfl

theorem macosNetworkBase_idem (ip : IpAddr) (length : Nat) :
    macosNetworkBase (macosNetworkBase ip length) length = macosNetworkBase ip length := by
  cases ip with
  | v4 bits =>
    simp only [macosNetworkBase]
    split_ifs
    · rfl
    · rfl
    · rw [BitVec.and_assoc, BitVec.and_self]
  | v6 bits =>
    simp only [macosNetworkBase]
    split_ifs
    · rfl
    · rfl
    · rw [BitVec.and_assoc, BitVec.and_self]

/-- The order of the addresses of one family. -/
def IpAddr.notAbove : IpAddr → IpAddr → Bool
  | .v4 x, .v4 y => x ≤ y
  | .v6 x, .v6 y => x ≤ y
  | _, _ => false

namespace IpNet

/-- `IpNet::new`, an error for a prefix length that is too long. -/
def new (addr : IpAddr) (prefixLen : Nat) : Option IpNet :=
  if valid : prefixLen ≤ addr.hostPrefix then some ⟨addr, prefixLen, valid⟩ else none

def network (net : IpNet) : IpAddr := macosNetworkBase net.addr net.prefixLen

/-- The same network with its host bits cleared. -/
def trunc (net : IpNet) : IpNet :=
  ⟨net.network, net.prefixLen, by rw [network, hostPrefix_networkBase]; exact net.valid⟩

theorem trunc_idem (net : IpNet) : net.trunc.trunc = net.trunc := by
  simp only [trunc, network, macosNetworkBase_idem]

/-- The address and the prefix length, as `Display` prints them. -/
def toText (net : IpNet) : String := s!"{net.addr.toText}/{net.prefixLen}"

/-- The last address, with all host bits set. -/
def broadcast (net : IpNet) : IpAddr :=
  match net.addr with
  | .v4 bits => .v4 (bits ||| (BitVec.allOnes 32 >>> net.prefixLen))
  | .v6 bits => .v6 (bits ||| (BitVec.allOnes 128 >>> net.prefixLen))

/-- Whether the other network lies completely inside this one, from its first address to its last. -/
def contains (net other : IpNet) : Bool :=
  net.network.notAbove other.network && other.broadcast.notAbove net.broadcast

end IpNet
end Wgd.Net
