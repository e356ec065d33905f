import Wgd.Links.BypassLinks

/-! What a userspace helper is started with: its identity, its tunnel's
configuration and the links it has to honour. -/

set_option autoImplicit false

namespace Wgd.Helper

open Wgd.Net Wgd.Links

/-- An opaque connection id, a UUID. -/
structure ConnectionId where
  uuid : BitVec 128
  deriving DecidableEq, Repr

/-- The lowercase hexadecimal digits of a UUID, without hyphens. -/
def ConnectionId.simple (id : ConnectionId) : List Char :=
  (List.range 32).map fun i => Nat.digitChar ((id.uuid.toNat >>> (4 * (31 - i))) % 16)

/-- `wg-` and the first eight hexadecimal digits of the id. -/
def ConnectionId.interfaceName (id : ConnectionId) : String :=
  String.ofList ("wg-".toList ++ id.simple.take 8)

/-- Kernel start time of a process; with its pid it names one process instance. -/
structure ProcessStart where
  sec : Nat
  usec : Nat
  deriving DecidableEq, Repr

/-- Who a helper is, as far as the custody record is concerned. -/
structure DnsCustodyIdentity where
  connectionId : ConnectionId
  interface : String
  helperPid : Nat
  helperStart : ProcessStart
  deriving DecidableEq, Repr

/-- `active`: the dynamic store key carries the tunnel DNS. `shadow`: `networksetup` does. -/
inductive StoreKeyMode where
  | shadow
  | active
  deriving DecidableEq, Repr

/-- Inputs captured at connect that the reconciler replays on every change. -/
structure MacosReconcileInputs where
  interface : String
  endpoint : IpAddr
  endpointIsIpv6 : Bool
  endpointNeedsPin : Bool
  allowedIps : List String
  dnsServers : List String
  hasIpv4Address : Bool
  hasIpv6Address : Bool
  custody : Option DnsCustodyIdentity
  dnsMode : StoreKeyMode
  bypassLinks : List BypassLink
  deriving DecidableEq, Repr

end Wgd.Helper
