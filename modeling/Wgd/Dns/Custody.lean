import Wgd.Helper.Inputs

/-! On-disk DNS custody records (`dns_custody.rs`) and the comparison of DNS
server lists behind every decision about a stray (`macos_dns.rs`). -/

set_option autoImplicit false

namespace Wgd.Dns

open Wgd.Net Wgd.Helper

/-- A setting of `networksetup`: a list, or `none` for Empty (DHCP). -/
abbrev Setting := Option (List String)

/-- Schema version written by this build. -/
def dnsCustodyVersion : Nat := 1

structure DnsCustodyService where
  service : String
  originalDnsServers : Setting
  originalSearchDomains : Setting
  deriving DecidableEq, Repr

structure DnsCustodyRecord where
  version : Nat
  connectionId : ConnectionId
  interface : String
  helperPid : Nat
  helperStart : ProcessStart
  tunnelDns : List String
  services : List DnsCustodyService
  deriving DecidableEq, Repr

/-- The record of a helper for the services it owns. -/
def recordOf (identity : DnsCustodyIdentity) (tunnelDns : List String) (services : List DnsCustodyService) :
    DnsCustodyRecord where
  version := dnsCustodyVersion
  connectionId := identity.connectionId
  interface := identity.interface
  helperPid := identity.helperPid
  helperStart := identity.helperStart
  tunnelDns := tunnelDns
  services := services

/-- Result of reading one record file. -/
inductive RecordRead where
  | record (record : DnsCustodyRecord)
  | unsupportedVersion (version : Nat)
  | corrupt (reason : String)
  deriving DecidableEq, Repr

/-- Two entries of a list as addresses; one that does not parse equals nothing. -/
def sameAddress (a b : String) : Bool :=
  match parseIpAddr (trim a.toList), parseIpAddr (trim b.toList) with
  | some a, some b => a = b
  | _, _ => false

/-- Whether a service's live DNS equals an expected tunnel DNS list, as addresses and in order. -/
def dnsListsEqual (live : Setting) (expected : List String) : Bool :=
  match live with
  | none => false
  | some live =>
    if expected.isEmpty || live.length != expected.length then false
    else (live.zip expected).all fun (a, b) => sameAddress a b

/-- The tunnel's own list, as long as its entries are addresses, equals itself. -/
theorem dnsListsEqual_self {expected : List String} (nonempty : expected ≠ [])
    (addresses : ∀ server ∈ expected, (parseIpAddr (trim server.toList)).isSome) :
    dnsListsEqual (some expected) expected = true := by
  have zipped : (expected.zip expected).all (fun pair => sameAddress pair.1 pair.2) = true := by
    rw [List.all_eq_true]
    intro pair member
    obtain ⟨i, bound, rfl⟩ := List.mem_iff_getElem.mp member
    simp only [List.length_zip, Nat.min_self] at bound
    have parsed := addresses expected[i] (List.getElem_mem bound)
    simp only [List.getElem_zip, sameAddress]
    obtain ⟨ip, found⟩ := Option.isSome_iff_exists.mp parsed
    simp only [found, decide_true]
  simp only [dnsListsEqual, List.isEmpty_iff, nonempty, bne_self_eq_false, Bool.or_false, if_false]
  exact zipped

end Wgd.Dns
