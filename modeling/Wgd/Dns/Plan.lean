import Mathlib.Data.List.Basic
import Wgd.Dns.Custody

/-! The pure decisions of the DNS reconciler (`userspace_helper/macos/dns_plan.rs`). -/

set_option autoImplicit false

namespace Wgd.Dns

open Wgd.Net

/-- A snapshot of the host's DNS-relevant environment. -/
structure MacosDnsFingerprint where
  /-- The service that currently owns global resolution. -/
  primaryService : Option String
  /-- All current service names, sorted and without repetition. -/
  services : List String
  /-- The DNS servers each service shows. -/
  observed : List (String × Setting)
  deriving DecidableEq, Repr

/-- `MacosDnsFingerprint::default`. -/
def MacosDnsFingerprint.default : MacosDnsFingerprint := ⟨none, [], []⟩

inductive DnsPolicy where
  | allServices
  | primaryOnly
  deriving DecidableEq, Repr

/-- The active targeting policy, `DNS_POLICY`. -/
def dnsPolicy : DnsPolicy := .primaryOnly

inductive DnsDecision where
  /-- Own exactly these services. -/
  | apply (targets : List String)
  /-- A tunnel DNS server is unreachable: restore every owned service. -/
  | restoreAll
  /-- No settled primary service: change nothing. -/
  | hold
  deriving DecidableEq, Repr

def DnsDecision.targets : DnsDecision → List String
  | .apply targets => targets
  | .restoreAll | .hold => []

def dnsDecision (policy : DnsPolicy) (fp : MacosDnsFingerprint) (collision : Bool) : DnsDecision :=
  if collision then .restoreAll
  else match policy with
    | .allServices => .apply fp.services
    | .primaryOnly => match fp.primaryService with
      | some primary => if fp.services.contains primary then .apply [primary] else .hold
      | none => .hold

/-- A tunnel DNS server whose address falls inside a directly-connected subnet. -/
def macosDnsServerInLocalSubnet (dnsServers : List String) (localSubnets : List Subnet) :
    Option (IpAddr × Subnet) :=
  dnsServers.findSome? fun server => do
    let ip ← parseIpAddr server.toList
    let subnet ← localSubnets.find? fun connected => macosSubnetContains connected (ip, ip.hostPrefix)
    some (ip, subnet)

structure DnsActions where
  /-- Targets not owned yet: capture their original configuration. -/
  capture : List String
  /-- Owned services no longer targeted but still present. -/
  restore : List String
  /-- Owned services that have vanished. -/
  drop : List String
  /-- Targets whose observed DNS is not the tunnel's. -/
  apply : List String
  deriving DecidableEq, Repr

def DnsActions.none : DnsActions := ⟨[], [], [], []⟩

def showsTunnel (tunnelDns : List String) (fp : MacosDnsFingerprint) (service : String) : Bool :=
  ((fp.observed.find? fun entry => entry.1 == service).bind fun entry => entry.2) == some tunnelDns

def planDnsActions (tunnelDns : List String) (fp : MacosDnsFingerprint) (owned targets : List String) :
    DnsActions where
  capture := targets.filter fun service => !owned.contains service
  restore := owned.filter fun service => !targets.contains service && fp.services.contains service
  drop := owned.filter fun service => !targets.contains service && !fp.services.contains service
  apply := targets.filter fun service => !showsTunnel tunnelDns fp service

/-- Whether a reconcile must act even though the observed fingerprint is unchanged. -/
def dnsReconcileForced (collisionPresent : Bool) (owned targets : List String) : Bool :=
  let mustPullBack := collisionPresent && !owned.isEmpty
  let mustReassert := !collisionPresent && targets.any fun target => !owned.contains target
  mustPullBack || mustReassert

section

variable {tunnelDns owned targets : List String} {fp : MacosDnsFingerprint} {service : String}

@[simp] theorem mem_capture :
    service ∈ (planDnsActions tunnelDns fp owned targets).capture ↔ service ∈ targets ∧ service ∉ owned := by
  simp [planDnsActions]

@[simp] theorem mem_restore :
    service ∈ (planDnsActions tunnelDns fp owned targets).restore ↔
      service ∈ owned ∧ service ∉ targets ∧ service ∈ fp.services := by
  simp [planDnsActions]

@[simp] theorem mem_drop :
    service ∈ (planDnsActions tunnelDns fp owned targets).drop ↔
      service ∈ owned ∧ service ∉ targets ∧ service ∉ fp.services := by
  simp [planDnsActions]

@[simp] theorem mem_apply :
    service ∈ (planDnsActions tunnelDns fp owned targets).apply ↔
      service ∈ targets ∧ showsTunnel tunnelDns fp service = false := by
  simp [planDnsActions]

end

/-- The decision targets at most the primary service, and only one that is listed. -/
theorem mem_targets {fp : MacosDnsFingerprint} {collision : Bool} {service : String}
    (member : service ∈ (dnsDecision dnsPolicy fp collision).targets) :
    fp.primaryService = some service ∧ service ∈ fp.services ∧
      (dnsDecision dnsPolicy fp collision).targets = [service] := by
  cases collision with
  | true => simp [dnsDecision, DnsDecision.targets] at member
  | false =>
    cases primary : fp.primaryService with
    | none => simp [dnsDecision, dnsPolicy, primary, DnsDecision.targets] at member
    | some name =>
      by_cases listed : name ∈ fp.services
      · simp_all [dnsDecision, dnsPolicy, DnsDecision.targets]
      · simp [dnsDecision, dnsPolicy, primary, listed, DnsDecision.targets] at member

theorem targets_nodup {fp : MacosDnsFingerprint} {collision : Bool} :
    (dnsDecision dnsPolicy fp collision).targets.Nodup := by
  cases targets : (dnsDecision dnsPolicy fp collision).targets with
  | nil => exact List.nodup_nil
  | cons service rest =>
    have only := (mem_targets (targets ▸ List.mem_cons_self)).2.2
    rw [← targets, only]
    exact List.nodup_singleton service

/-- A plan is empty exactly when every target is owned and shows the tunnel's
DNS and nothing else is owned. -/
theorem planDnsActions_eq_none {tunnelDns owned targets : List String} {fp : MacosDnsFingerprint} :
    planDnsActions tunnelDns fp owned targets = .none ↔
      (∀ service ∈ targets, service ∈ owned ∧ showsTunnel tunnelDns fp service = true) ∧
        ∀ service ∈ owned, service ∈ targets := by
  simp only [planDnsActions, DnsActions.none, DnsActions.mk.injEq, List.filter_eq_nil_iff]
  constructor
  · rintro ⟨capture, restore, drop, apply⟩
    refine ⟨fun service member => ⟨by simpa using capture service member, by simpa using apply service member⟩,
      fun service member => ?_⟩
    have restored := restore service member
    have dropped := drop service member
    simp only [Bool.and_eq_true, Bool.not_eq_true', List.contains_eq_mem, decide_eq_false_iff_not,
      decide_eq_true_eq, not_and] at restored dropped
    exact Decidable.byContradiction fun absent => dropped absent (restored absent)
  · rintro ⟨held, needed⟩
    refine ⟨fun service member => ?_, fun service member => ?_, fun service member => ?_, fun service member => ?_⟩
    · simp [(held service member).1]
    · simp [needed service member]
    · simp [needed service member]
    · simp [(held service member).2]

end Wgd.Dns
