import Wgd.Dns.Helper

/-! The daemon's side of DNS custody (`privileged/dns_sweep.rs`): restore the DNS of
helpers that died without a teardown. -/

set_option autoImplicit false

namespace Wgd.Dns

open Wgd.Net Wgd.Helper Wgd.Interaction

/-- A custody record with the verdict on its helper. -/
structure RecordState where
  record : DnsCustodyRecord
  helperLive : Bool
  deriving DecidableEq, Repr

/-- The DNS list of one stored connection. -/
structure StoredDns where
  servers : List String
  helperLive : Bool
  deriving DecidableEq, Repr

inductive Action where
  | skipLive (interface : String)
  | restore (interface service : String) (servers searchDomains : Setting)
  /-- Someone changed the DNS after the crash: leave it, forget the service. -/
  | serviceChanged (interface service : String)
  /-- Not in the current location's listing: keep it recorded. -/
  | serviceAbsent (interface service : String)
  /-- No record, but the DNS exactly matches a stored tunnel's list. -/
  | clearStray (service : String) (servers : List String)
  deriving DecidableEq, Repr

/-- The live DNS of a service, if the listing has it. -/
def liveOf (liveDns : List (String × Setting)) (service : String) : Option Setting :=
  (liveDns.find? fun entry => entry.1 == service).map Prod.snd

def planService (record : DnsCustodyRecord) (liveDns : List (String × Setting)) (entry : DnsCustodyService) : Action :=
  match liveOf liveDns entry.service with
  | none => .serviceAbsent record.interface entry.service
  | some live =>
    if dnsListsEqual live record.tunnelDns then
      .restore record.interface entry.service entry.originalDnsServers entry.originalSearchDomains
    else .serviceChanged record.interface entry.service

def planRecord (liveDns : List (String × Setting)) (state : RecordState) : List Action :=
  if state.helperLive then [.skipLive state.record.interface]
  else state.record.services.map (planService state.record liveDns)

def planStray (records : List RecordState) (stored : List StoredDns) (entry : String × Setting) : Option Action :=
  if records.any fun state => state.record.services.any fun recorded => recorded.service == entry.1 then none
  else do
    let live ← entry.2
    let ownedByLiveTunnel := stored.any fun dns => dns.helperLive && dnsListsEqual (some live) dns.servers
    let matchesDeadTunnel := stored.any fun dns => !dns.helperLive && dnsListsEqual (some live) dns.servers
    if matchesDeadTunnel && !ownedByLiveTunnel then some (.clearStray entry.1 live) else none

/-- Decide what a sweep does, from the current listing with the live DNS of each service. -/
def planDnsSweep (records : List RecordState) (liveDns : List (String × Setting)) (stored : List StoredDns) :
    List Action :=
  records.flatMap (planRecord liveDns) ++ liveDns.filterMap (planStray records stored)

/-- What one sweep did. -/
structure SweepSummary where
  restored : Nat
  cleared : Nat
  skippedLive : Nat
  /-- Some restore or clear failed; the record stays for a retry. -/
  failed : Nat
  /-- The connections whose crashed helper left a record behind. -/
  died : List (ConnectionId × String)
  /-- The services restored for each of them. -/
  restoredBy : List (ConnectionId × String × List String)
  deriving DecidableEq, Repr

inductive Scope where
  | all
  | interface (name : String)
  deriving DecidableEq, Repr

def Scope.includes : Scope → String → Bool
  | .all, _ => true
  | .interface name, stem => stem == name

/-! ### Reading -/

/-- Parse one record file and ask whether its helper is alive. A file that is not a
record of its own interface is moved out of the way; one from a newer schema is left. -/
def readRecordState (scope : Scope) (states : List (String × RecordState)) (path : String) :
    DnsProgram (List (String × RecordState)) := do
  if scope.includes path = false then return states
  else match ← issue (.readRecord path) with
    | .ok (.record record) =>
      if record.interface = path then
        let live ← issue (.helperIsLive record.interface (some record.helperPid) (some record.helperStart))
        return states ++ [(path, ⟨record, live⟩)]
      else
        let _ ← issue (.quarantineRecord path)
        return states
    | .ok (.unsupportedVersion _) => return states
    | .ok (.corrupt _) | .error _ =>
      let _ ← issue (.quarantineRecord path)
      return states

def readRecordStates (scope : Scope) : DnsProgram (Except String (List (String × RecordState))) :=
  (issue .recordPaths).attempt fun paths => do
    let states ← paths.foldlM (readRecordState scope) []
    return .ok states

def storedDns (stored : List StoredDns) (connection : StoredConnection) : DnsProgram (List StoredDns) := do
  if connection.dnsServers.isEmpty then return stored
  else
    let live ← issue (.helperIsLive connection.interface none none)
    return stored ++ [⟨connection.dnsServers.map IpAddr.toText, live⟩]

/-- DNS lists of every stored connection that has one. -/
def storedDnsLists : DnsProgram (List StoredDns) := do
  match ← issue .loadAllConnections with
  | .ok connections => connections.foldlM storedDns []
  | .error _ => return []

def readLiveDns (live : List (String × Setting)) :
    List String → DnsProgram (Except String (List (String × Setting)))
  | [] => .done (.ok live)
  | service :: rest =>
    (issue (.getDnsServers service)).attempt fun dns => readLiveDns (live ++ [(service, dns)]) rest

/-- Live DNS of every current service. A failed listing or read aborts the sweep. -/
def snapshotLiveDns : DnsProgram (Except String (List (String × Setting))) :=
  (issue .listNetworkServices).attempt fun services =>
    if services.isEmpty then .done (.error "networksetup -listallnetworkservices returned no services")
    else readLiveDns [] services

/-! ### Executing -/

/-- The summary so far, what stays recorded and what was restored, by interface and service. -/
structure SweepProgress where
  summary : SweepSummary
  pending : List (String × String)
  restoredServices : List (String × String)
  deriving DecidableEq, Repr

def SweepProgress.start : SweepProgress := ⟨⟨0, 0, 0, 0, [], []⟩, [], []⟩

def runAction (progress : SweepProgress) (action : Action) : DnsProgram SweepProgress := do
  let summary := progress.summary
  match action with
  | .skipLive _ => return { progress with summary := { summary with skippedLive := summary.skippedLive + 1 } }
  | .restore interface service servers searchDomains =>
    match ← restoreService service servers searchDomains with
    | .ok () => return { progress with
        summary := { summary with restored := summary.restored + 1 }
        restoredServices := progress.restoredServices ++ [(interface, service)] }
    | .error _ => return { progress with
        summary := { summary with failed := summary.failed + 1 }
        pending := (interface, service) :: progress.pending }
  | .serviceChanged _ _ => return progress
  | .serviceAbsent interface service => return { progress with pending := (interface, service) :: progress.pending }
  | .clearStray service _ =>
    match ← issue (.setDnsServers service none) with
    | .ok () => return { progress with summary := { summary with cleared := summary.cleared + 1 } }
    | .error _ => return { progress with summary := { summary with failed := summary.failed + 1 } }

/-- Delete a record with nothing left to do, or rewrite it with what is still pending. -/
def settleRecord (path : String) (record : DnsCustodyRecord) (keep : List DnsCustodyService) :
    DnsProgram (Except String Unit) :=
  if keep.isEmpty then issue (.removeRecord path)
  else if keep.length ≠ record.services.length then issue (.writeRecord { record with services := keep })
  else .done (.ok ())

/-- The runtime files of a helper that is dead are dropped. -/
def removeIfDeadLocked (record : DnsCustodyRecord) : DnsProgram Unit := do
  let live ← issue (.helperIsLive record.interface (some record.helperPid) (some record.helperStart))
  if live then return () else issue (.removeStaleRuntimeFiles record.interface)

def restoredOf (progress : SweepProgress) (record : DnsCustodyRecord) : List String :=
  (progress.restoredServices.filter fun restored => restored.1 == record.interface).map Prod.snd

def keepOf (progress : SweepProgress) (record : DnsCustodyRecord) : List DnsCustodyService :=
  record.services.filter fun entry => progress.pending.contains (record.interface, entry.service)

def settleState (progress : SweepProgress) (summary : SweepSummary) (entry : String × RecordState) :
    DnsProgram SweepSummary := do
  let (path, state) := entry
  let record := state.record
  if state.helperLive then return summary
  else
    let restored := restoredOf progress record
    let settled ← settleRecord path record (keepOf progress record)
    removeIfDeadLocked record
    return { summary with
      failed := if settled.isOk then summary.failed else summary.failed + 1
      died := summary.died ++ [(record.connectionId, record.interface)]
      restoredBy := if restored.isEmpty then summary.restoredBy
        else summary.restoredBy ++ [(record.connectionId, record.interface, restored)] }

/-- Apply the planned actions, then settle each dead record. -/
def execute (actions : List Action) (states : List (String × RecordState)) : DnsProgram SweepSummary := do
  let progress ← actions.foldlM runAction .start
  states.foldlM (settleState progress) progress.summary

/-- The stored lists a sweep of this scope looks at. -/
def sweepStored : Scope → DnsProgram (List StoredDns)
  | .all => storedDnsLists
  | .interface _ => .done []

/-- The listing with live DNS, where something may have to be done. -/
def sweepLive (states : List (String × RecordState)) (stored : List StoredDns) :
    DnsProgram (Except String (List (String × Setting))) :=
  if states.any (fun entry => !entry.2.helperLive) || stored.any fun dns => !dns.helperLive then snapshotLiveDns
  else .done (.ok [])

/-- One sweep, under the system network mutation lock. -/
def sweepLocked (scope : Scope) : DnsProgram (Except String SweepSummary) :=
  (readRecordStates scope).attempt fun states => do
    let states := states.insertionSort fun a b => a.2.record.interface ≤ b.2.record.interface
    let stored ← sweepStored scope
    (sweepLive states stored).attempt fun liveDns => do
      let summary ← execute (planDnsSweep (states.map Prod.snd) liveDns stored) states
      if 0 < summary.restored + summary.cleared then issue .flushResolverCache
      return .ok summary

end Wgd.Dns
