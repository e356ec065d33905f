import Wgd.Dns.Convergence
import Wgd.Interaction.Footprint
import Wgd.Routes.Script

/-! A tick that cannot read its surroundings, after a pass that worked. -/

set_option autoImplicit false

namespace Wgd.Helper

open Wgd.Net Wgd.Interaction Wgd.Routes Wgd.Dns

/-- What there is around a host for its helpers to read. -/
structure Surroundings where
  /-- The connected subnets of the other devices, as `ifconfig` lists them. -/
  connected : List (String × Subnet)
  /-- The default gateway of IPv4, or of IPv6. -/
  gateway : Bool → Option String
  primaryService : Option String

variable {around : Surroundings}

/-! ### Routes -/

/-- What a route command may answer in these surroundings, where some may fail. -/
def AnswersRoute (around : Surroundings) (mayFail : RouteOp → Bool) : (op : RouteOp) → op.Reply → Prop
  | .macosConnectedSubnetsByDevice _, some connected => connected = around.connected
  | .macosConnectedSubnetsByDevice tunnel, none => mayFail (.macosConnectedSubnetsByDevice tunnel) = true
  | .getMacosDefaultGateway isIpv6, .ok gateway =>
    gateway = around.gateway isIpv6 ∨ gateway = none ∧ mayFail (.getMacosDefaultGateway isIpv6) = true
  | .getMacosDefaultGateway isIpv6, .error _ => mayFail (.getMacosDefaultGateway isIpv6) = true
  | .routeAdd route kind ifscope, .error _ => mayFail (.routeAdd route kind ifscope) = true
  | .routeDelete route kind ifscope, .error _ => mayFail (.routeDelete route kind ifscope) = true
  | .ifconfig arguments, .error _ => mayFail (.ifconfig arguments) = true
  | _, _ => True

instance (around : Surroundings) (mayFail : RouteOp → Bool) (op : RouteOp) (reply : op.Reply) :
    Decidable (AnswersRoute around mayFail op reply) := by
  unfold AnswersRoute
  split <;> infer_instance

/-- The kernel in these surroundings. -/
def routesIn (around : Surroundings) (mayFail : RouteOp → Bool) : Environment routeCommands Kernel :=
  (kernelEnvironment false around.connected).meeting fun _ op reply => AnswersRoute around mayFail op reply

variable {inputs : MacosReconcileInputs} {kernel : Kernel} {mayFail : RouteOp → Bool}

/-- The route commands work in the surroundings as they are. -/
def routesWork (around : Surroundings) : Environment routeCommands Kernel := routesIn around fun _ => false

/-- What a DNS command may answer in these surroundings, where some may fail. -/
def AnswersDns (around : Surroundings) (mayFail : DnsOp → Bool) : (op : DnsOp) → op.Reply → Prop
  | .macosPrimaryService, primary =>
    primary = around.primaryService ∨ primary = none ∧ mayFail .macosPrimaryService = true
  | .macosConnectedSubnetsByDevice _, some connected => connected = around.connected
  | .macosConnectedSubnetsByDevice tunnel, none => mayFail (.macosConnectedSubnetsByDevice tunnel) = true
  | _, _ => True

instance (around : Surroundings) (mayFail : DnsOp → Bool) (op : DnsOp) (reply : op.Reply) :
    Decidable (AnswersDns around mayFail op reply) := by
  unfold AnswersDns
  split <;> infer_instance

/-- The host in these surroundings. -/
def dnsIn (around : Surroundings) (mayFail : DnsOp → Bool) : Environment dnsCommands Host :=
  (hostEnvironment mayFail).meeting fun _ op reply => AnswersDns around mayFail op reply

/-- The DNS commands work in the surroundings as they are. -/
def dnsWorks (around : Surroundings) : Environment dnsCommands Host := dnsIn around fun _ => false

/-- The services a host's helper owns. -/
def ownedBy (host : Host) : List String := host.memory.services.map MacosDnsServiceState.service

variable {host after : Host} {fails : DnsOp → Bool}

section Sparing

variable {targets : List String} {service : String}

def Spares (targets : List String) (op : DnsOp) : Prop := ∀ service ∈ targets, op ≠ .retainServices service

end Sparing

/-- A DNS server of the tunnel lies in a connected subnet. -/
def collides (around : Surroundings) (inputs : MacosReconcileInputs) : Bool :=
  (macosDnsServerInLocalSubnet inputs.dnsServers (macosLocalConnectedSubnets (some around.connected))).isSome

/-- The services of a host, as a snapshot has them. -/
def servicesOf (host : Host) : List String := (host.listed.insertionSort (· ≤ ·)).dedup

/-- The services to own. -/
def wanted (around : Surroundings) (inputs : MacosReconcileInputs) (host : Host) : List String :=
  (dnsDecision dnsPolicy ⟨around.primaryService, servicesOf host, []⟩ (collides around inputs)).targets

structure Carries (around : Surroundings) (inputs : MacosReconcileInputs) (host : Host) : Prop where
  owned : ∀ service, service ∈ ownedBy host ↔ service ∈ wanted around inputs host
  shows : ∀ service ∈ wanted around inputs host, host.dns service = some inputs.dnsServers

/-- The settings are the same, except that the primary service may have lost search domains. -/
structure Reasserted (around : Surroundings) (before after : Host) : Prop where
  dns : after.dns = before.dns
  search : ∀ service, after.search service = before.search service ∨
    around.primaryService = some service ∧ after.search service = none

theorem Reasserted.refl : Reasserted around host host := ⟨rfl, fun _ => .inl rfl⟩

/-- A host on which such reads fail. -/
def readDns (around : Surroundings) (fails : DnsOp → Bool) : Handler dnsCommands Host := fun host op =>
  match op with
  | .macosConnectedSubnetsByDevice tunnel =>
    (if fails (.macosConnectedSubnetsByDevice tunnel) then none else some around.connected, host)
  | op => Dns.answer fails ⟨true, around.primaryService, around.connected⟩ host op

/-- On a LAN, where Wi-Fi is primary. -/
def atHome : Surroundings where
  connected := [("en0", (.v4 0xc0a80100#32, 24))]
  gateway := fun _ => none
  primaryService := some "Wi-Fi"

/-- The laptop's services; Wi-Fi shows these servers. -/
def laptop (servers : List String) : Host :=
  { exampleHost with dns := fun service => if service = "Wi-Fi" then some servers else none }

end Wgd.Helper
