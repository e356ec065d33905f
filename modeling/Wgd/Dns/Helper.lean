import Mathlib.Data.List.Dedup
import Mathlib.Data.List.Sort
import Mathlib.Data.String.Basic
import Wgd.Dns.Host

/-! The helper's side of DNS (`userspace_helper/macos/dns.rs`): taking services
over at connect, reconciling them while the tunnel is up, and putting them back. -/

set_option autoImplicit false

namespace Wgd.Dns

open Wgd.Net Wgd.Helper Wgd.Interaction

def issue (op : DnsOp) : DnsProgram op.Reply := @Program.command dnsCommands op

/-- The rule for one command. -/
theorem issue_iff {S : Type} {env : Environment dnsCommands S} {permits : S → DnsOp → Prop} {op : DnsOp}
    {post : op.Reply → S → Prop} {state : S} :
    Ensures env permits (issue op) post state ↔ permits state op ∧
      ∀ reply after, env state op reply after → post reply after := Iff.rfl

/-- What the helper keeps for its reconcile ticks, apart from the state behind its mutexes. -/
structure MacosCleanupState where
  /-- Whether the helper owns a key in the dynamic store. -/
  dnsStoreKey : Bool
  reconcile : MacosReconcileInputs
  deriving DecidableEq, Repr

/-- Put a service back to a recorded original. -/
def restoreService (service : String) (dnsServers searchDomains : Setting) : DnsProgram (Except String Unit) :=
  (issue (.setDnsServers service dnsServers)).attempt fun () => issue (.setSearchDomains service searchDomains)

def restoreMacosDnsService (state : MacosDnsServiceState) : DnsProgram (Except String Unit) :=
  restoreService state.service state.dnsServers state.searchDomains

/-- Write the custody record for the services this helper owns, or delete it when
none are left. Best-effort: a failure is only logged. -/
def persistDnsCustody (services : List MacosDnsServiceState) (inputs : MacosReconcileInputs) : DnsProgram Unit :=
  match inputs.custody with
  | none => .done ()
  | some identity =>
    if inputs.dnsServers.isEmpty then .done ()
    else if services.isEmpty then do
      let _ ← issue (.removeRecord identity.interface)
      return ()
    else do
      let record := recordOf identity inputs.dnsServers (services.map MacosDnsServiceState.toCustody)
      -- Record first, then sentinel.
      let _ ← (issue (.writeRecord record)).attempt fun () => issue .ensureWatchSentinel
      return ()

/-- One restore of a list, with the failures so far. -/
def restoreOne (failed : List (MacosDnsServiceState × String)) (state : MacosDnsServiceState) :
    DnsProgram (List (MacosDnsServiceState × String)) := do
  match ← restoreMacosDnsService state with
  | .ok () => return failed
  | .error error => return failed ++ [(state, error)]

/-- Restore every service in reverse order, then settle the custody record: deleted
when all restores worked, otherwise rewritten with the services that failed. -/
def restoreMacosDnsServices (services : List MacosDnsServiceState) (inputs : MacosReconcileInputs) :
    DnsProgram (List (MacosDnsServiceState × String)) := do
  let failed ← services.reverse.foldlM restoreOne []
  persistDnsCustody (failed.map Prod.fst) inputs
  if failed.length < services.length then issue .flushResolverCache
  return failed

/-- Read the DNS each listed service shows; a failed read counts as nothing set. -/
def observeService (observed : List (String × Setting)) (service : String) : DnsProgram (List (String × Setting)) := do
  match ← issue (.getDnsServers service) with
  | .ok servers => return observed ++ [(service, servers)]
  | .error _ => return observed ++ [(service, none)]

/-- Snapshot the DNS-relevant environment. A failed or empty listing is a degraded
read, not a host without services, and aborts the snapshot. -/
def macosCurrentDnsFingerprint : DnsProgram (Except String MacosDnsFingerprint) :=
  (issue .listNetworkServices).attempt fun listing =>
    if listing.isEmpty then .done (.error "networksetup -listallnetworkservices returned no services")
    else do
      let services := (listing.insertionSort (· ≤ ·)).dedup
      let observed ← services.foldlM observeService []
      let primaryService ← issue .macosPrimaryService
      return .ok ⟨primaryService, services, observed⟩

/-- Read a service's configuration for later restore. A service that already shows
the tunnel's DNS is a leak of an earlier run and gets an empty original. -/
def captureMacosDnsService (service : String) (tunnelDns : List String) :
    DnsProgram (Except String MacosDnsServiceState) :=
  (issue (.getDnsServers service)).attempt fun dns =>
    if dns = some tunnelDns then .done (.ok ⟨service, none, none⟩)
    else (issue (.getSearchDomains service)).attempt fun search => .done (.ok ⟨service, dns, search⟩)

/-- Assert the tunnel's DNS on a service. -/
def assertTunnelDns (inputs : MacosReconcileInputs) (service : String) : DnsProgram (Except String Unit) :=
  (issue (.setDnsServers service (some inputs.dnsServers))).attempt fun () => issue (.setSearchDomains service none)

/-! ### Connect -/

/-- Capture, record and take over one target. -/
def takeService (inputs : MacosReconcileInputs) (service : String) : DnsProgram (Except String Unit) :=
  (captureMacosDnsService service inputs.dnsServers).attempt fun state => do
    issue (.pushService state)
    -- Write-ahead: the record must list the service before its DNS changes.
    persistDnsCustody (← issue .dnsState).services inputs
    assertTunnelDns inputs service

/-- Apply the tunnel's DNS to the targets of the current decision. Returns the
fingerprint seen after applying, so that the first tick is a no-op. -/
def configureMacosDns (inputs : MacosReconcileInputs) (localSubnets : List Subnet) :
    DnsProgram (Except String MacosDnsFingerprint) :=
  if inputs.dnsServers.isEmpty then .done (.ok .default)
  else macosCurrentDnsFingerprint.attempt fun fingerprint =>
    let collision := macosDnsServerInLocalSubnet inputs.dnsServers localSubnets
    let decision := dnsDecision dnsPolicy fingerprint collision.isSome
    (Program.forEach (takeService inputs) decision.targets).attempt fun () => do
      match ← macosCurrentDnsFingerprint with
      | .ok observed => return .ok observed
      | .error _ => return .ok fingerprint

/-! ### Reconcile -/

/-- (a) Capture the original of a service about to be owned: how many captures
worked, and the services whose capture failed. -/
def captureTarget (inputs : MacosReconcileInputs) (progress : Nat × List String) (service : String) :
    DnsProgram (Nat × List String) := do
  match ← captureMacosDnsService service inputs.dnsServers with
  | .ok state =>
    issue (.pushService state)
    return (progress.1 + 1, progress.2)
  | .error _ => return (progress.1, progress.2 ++ [service])

/-- (b) Release a service that is no longer targeted; a failed restore keeps it for a retry. -/
def releaseService (restored : Nat) (service : String) : DnsProgram Nat := do
  let dns ← issue .dnsState
  match dns.services.find? fun state => state.service == service with
  | none =>
    issue (.retainServices service)
    return restored
  | some state =>
    match ← restoreMacosDnsService state with
    | .ok () =>
      issue (.retainServices service)
      return restored + 1
    | .error _ => return restored

/-- Forget a service that has vanished from the host. -/
def dropService (dropped : Nat) (service : String) : DnsProgram Nat := do
  issue (.retainServices service)
  return dropped + 1

/-- (c) Assert the tunnel's DNS on a drifted target, unless its original could not be captured. -/
def reassertService (inputs : MacosReconcileInputs) (captureFailed : List String) (applied : Nat) (service : String) :
    DnsProgram Nat := do
  if captureFailed.contains service then return applied
  else match ← assertTunnelDns inputs service with
    | .ok () => return applied + 1
    | .error _ => return applied

/-- Bring the record in line with the owned services, if they changed. -/
def recordOwned (inputs : MacosReconcileInputs) (changes : Nat) : DnsProgram Unit := do
  if 0 < changes then persistDnsCustody (← issue .dnsState).services inputs

/-- Carry a plan out: capture, release and drop, record, then write. Returns how
many services were applied or restored. -/
def applyDnsActions (inputs : MacosReconcileInputs) (actions : DnsActions) : DnsProgram Nat := do
  let (captured, captureFailed) ← actions.capture.foldlM (captureTarget inputs) (0, [])
  let restored ← actions.restore.foldlM releaseService 0
  let dropped ← actions.drop.foldlM dropService 0
  -- The owned set is on disk before any DNS is written.
  recordOwned inputs (captured + restored + dropped)
  let applied ← actions.apply.foldlM (reassertService inputs captureFailed) 0
  return applied + restored

/-- Remember what the host shows now; after a change that takes a new snapshot. -/
def rememberFingerprint (fingerprint : MacosDnsFingerprint) (changed : Nat) : DnsProgram Unit := do
  if 0 < changed then
    match ← macosCurrentDnsFingerprint with
    | .ok observed => issue (.storeFingerprint observed)
    | .error _ => issue (.storeFingerprint fingerprint)
  else issue (.storeFingerprint fingerprint)

/-- Active mode: only the collision rule is left to reconcile. -/
def reconcileDnsStoreKey (state : MacosCleanupState) : DnsProgram Bool := do
  if state.dnsStoreKey then
    let connected ← issue (.macosConnectedSubnetsByDevice state.reconcile.interface)
    let collision := macosDnsServerInLocalSubnet state.reconcile.dnsServers (macosLocalConnectedSubnets connected)
    issue (.keySetWanted collision.isNone)
  else return false

/-- What a tick does once it has its snapshot and the collision verdict. -/
def reconcileServices (state : MacosCleanupState) (fingerprint : MacosDnsFingerprint) (collision : Bool) :
    DnsProgram Bool := do
  let inputs := state.reconcile
  let dns ← issue .dnsState
  let owned := dns.services.map MacosDnsServiceState.service
  let decision := dnsDecision dnsPolicy fingerprint collision
  if decision = .hold then return false
  else if fingerprint = dns.fingerprint ∧ dnsReconcileForced collision owned decision.targets = false then return false
  else
    let changed ← applyDnsActions inputs (planDnsActions inputs.dnsServers fingerprint owned decision.targets)
    rememberFingerprint fingerprint changed
    if state.dnsStoreKey then let _ ← issue .keyIntact
    return true

/-- Re-apply DNS when the host's DNS environment changed. -/
def macosReconcileDns (state : MacosCleanupState) : DnsProgram Bool := do
  let inputs := state.reconcile
  if inputs.dnsServers.isEmpty then return false
  else if inputs.dnsMode = .active then reconcileDnsStoreKey state
  else match ← macosCurrentDnsFingerprint with
    | .error _ => return false
    | .ok fingerprint =>
      let connected ← issue (.macosConnectedSubnetsByDevice inputs.interface)
      let collision := macosDnsServerInLocalSubnet inputs.dnsServers (macosLocalConnectedSubnets connected)
      if state.dnsStoreKey then let _ ← issue (.keySetWanted collision.isNone)
      reconcileServices state fingerprint collision.isSome

/-! ### Restores that work -/

/-- No write of a setting reports an error. -/
def WritesWork {S : Type} (env : Environment dnsCommands S) : Prop :=
  ∀ state service setting error after, ¬env state (.setDnsServers service setting) (.error error) after ∧
    ¬env state (.setSearchDomains service setting) (.error error) after

section Working

variable {S : Type} {env : Environment dnsCommands S} {state : S}

theorem restoreService_works (works : WritesWork env) (service : String) (dnsServers searchDomains : Setting) :
    Ensures env (fun _ _ => True) (restoreService service dnsServers searchDomains) (fun outcome _ => outcome = .ok ())
      state := by
  rw [restoreService, Ensures.attempt_iff, issue_iff]
  refine ⟨trivial, ?_⟩
  intro reply after answered
  cases reply with
  | error error => exact absurd answered (works state service dnsServers error after).1
  | ok value =>
    dsimp only
    rw [issue_iff]
    refine ⟨trivial, ?_⟩
    intro reply final answered
    cases reply with
    | error error => exact absurd answered (works after service searchDomains error final).2
    | ok value => rfl

theorem restoreMacosDnsServices_works (works : WritesWork env) (services : List MacosDnsServiceState)
    (inputs : MacosReconcileInputs) :
    Ensures env (fun _ _ => True) (restoreMacosDnsServices services inputs) (fun failed _ => failed = []) state := by
  rw [restoreMacosDnsServices, Ensures.bind_iff]
  apply Ensures.mono _ (Ensures.foldlM (fun _ failed _ => failed = []) _ rfl)
  · intro failed after none
    rw [none, Ensures.bind_iff]
    apply Ensures.mono _ (Ensures.any _ _)
    intro written settled _
    split
    · exact ⟨trivial, fun _ _ _ => rfl⟩
    · rfl
  · intro owner rest failed after none
    rw [none, restoreOne, Ensures.bind_iff]
    apply Ensures.mono _ (restoreService_works works _ _ _)
    intro outcome done worked
    rw [worked]
    rfl

end Working

end Wgd.Dns
