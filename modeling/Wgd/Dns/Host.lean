import Mathlib.Data.List.AList
import Mathlib.Logic.Function.Basic
import Wgd.Dns.Plan
import Wgd.Interaction.Session

/-! The commands behind the DNS code of the helper and the daemon, and the host
they act on: the settings `networksetup` manages, the custody directory, and the
state the helper keeps behind its mutex. -/

set_option autoImplicit false

namespace Wgd.Dns

open Wgd.Net Wgd.Helper Wgd.Interaction

/-- An owned service with the original configuration to restore. -/
structure MacosDnsServiceState where
  service : String
  dnsServers : Setting
  searchDomains : Setting
  deriving DecidableEq, Repr

/-- DNS state the reconciler keeps in sync with the active LAN. -/
structure MacosDnsState where
  services : List MacosDnsServiceState
  fingerprint : MacosDnsFingerprint
  deriving DecidableEq, Repr

/-- The persisted form of an owned service. -/
def MacosDnsServiceState.toCustody (state : MacosDnsServiceState) : DnsCustodyService :=
  ⟨state.service, state.dnsServers, state.searchDomains⟩

/-- A stored connection, as far as the sweep looks at it. -/
structure StoredConnection where
  id : ConnectionId
  interface : String
  dnsServers : List IpAddr
  deriving DecidableEq, Repr

inductive DnsOp where
  | listNetworkServices
  | getDnsServers (service : String)
  | getSearchDomains (service : String)
  | setDnsServers (service : String) (servers : Setting)
  | setSearchDomains (service : String) (domains : Setting)
  | flushResolverCache
  | macosPrimaryService
  | macosConnectedSubnetsByDevice (tunnelInterface : String)
  -- the custody directory
  | writeRecord (record : DnsCustodyRecord)
  | removeRecord (interface : String)
  | ensureWatchSentinel
  | recordPaths
  | readRecord (path : String)
  | quarantineRecord (path : String)
  -- the key in the dynamic store
  | keyStart (wanted : Bool)
  | keySetWanted (wanted : Bool)
  | keyIntact
  | keyRemove
  -- the state behind the helper's mutex
  | dnsState
  | pushService (state : MacosDnsServiceState)
  | retainServices (without : String)
  | storeFingerprint (fingerprint : MacosDnsFingerprint)
  -- other helpers and connections
  | helperIsLive (interface : String) (pid : Option Nat) (start : Option ProcessStart)
  | loadAllConnections
  | removeStaleRuntimeFiles (interface : String)
  deriving DecidableEq, Repr

@[reducible] def DnsOp.Reply : DnsOp → Type
  | .listNetworkServices | .recordPaths => Except String (List String)
  | .getDnsServers _ | .getSearchDomains _ => Except String Setting
  | .setDnsServers _ _ | .setSearchDomains _ _ | .writeRecord _ | .removeRecord _ | .ensureWatchSentinel
  | .quarantineRecord _ => Except String Unit
  | .flushResolverCache | .keyRemove | .pushService _ | .retainServices _ | .storeFingerprint _
  | .removeStaleRuntimeFiles _ => Unit
  | .macosPrimaryService => Option String
  | .macosConnectedSubnetsByDevice _ => Option (List (String × Subnet))
  | .readRecord _ => Except String RecordRead
  | .keyStart _ | .keySetWanted _ => Bool
  | .keyIntact => Option Bool
  | .dnsState => MacosDnsState
  | .helperIsLive _ _ _ => Bool
  | .loadAllConnections => Except String (List StoredConnection)

abbrev dnsCommands : Commands := ⟨DnsOp, DnsOp.Reply⟩

abbrev DnsProgram (A : Type) := Program dnsCommands A

structure Host where
  dns : String → Setting
  search : String → Setting
  listed : List String
  /-- The files of the custody directory, by interface. -/
  records : AList fun _ : String => RecordRead
  memory : MacosDnsState
  /-- The verdict on the helper of an interface. -/
  live : String → Bool
  connections : List StoredConnection

namespace Host

def setDns (host : Host) (service : String) (servers : Setting) : Host :=
  { host with dns := Function.update host.dns service servers }

def setSearch (host : Host) (service : String) (domains : Setting) : Host :=
  { host with search := Function.update host.search service domains }

/-- Replace the file at a path, or remove it. -/
def putRecord (host : Host) (path : String) (file : Option RecordRead) : Host :=
  { host with records := match file with
    | some file => host.records.insert path file
    | none => host.records.erase path }

theorem lookup_putRecord (host : Host) (path : String) (file : Option RecordRead) :
    (host.putRecord path file).records.lookup path = file := by
  cases file with
  | none => exact AList.lookup_erase _ _
  | some file => exact AList.lookup_insert _

theorem lookup_putRecord_of_ne (host : Host) {path other : String} (file : Option RecordRead) (different : other ≠ path) :
    (host.putRecord path file).records.lookup other = host.records.lookup other := by
  cases file with
  | none => exact AList.lookup_erase_ne different
  | some file => exact AList.lookup_insert_ne different

def setServices (host : Host) (services : List MacosDnsServiceState) : Host :=
  { host with memory := { host.memory with services := services } }

end Host

/-- The services left after `retain(|s| s.service != without)`. -/
def retained (without : String) (services : List MacosDnsServiceState) : List MacosDnsServiceState :=
  services.filter fun state => state.service != without

/-- What each command answers and does. `mayFail` says which commands can report
an error. A `networksetup` command that fails changes nothing; a failed write or
removal of a record may have happened all the same, since its error can come
from the final directory sync. -/
def hostEnvironment (mayFail : DnsOp → Bool) : Environment dnsCommands Host :=
  fun host op reply final => match op, reply with
  | .listNetworkServices, .ok services => services = host.listed ∧ final = host
  | .listNetworkServices, .error _ => mayFail .listNetworkServices ∧ final = host
  | .getDnsServers service, .ok servers => servers = host.dns service ∧ final = host
  | .getDnsServers service, .error _ => mayFail (.getDnsServers service) ∧ final = host
  | .getSearchDomains service, .ok domains => domains = host.search service ∧ final = host
  | .getSearchDomains service, .error _ => mayFail (.getSearchDomains service) ∧ final = host
  | .setDnsServers service servers, .ok () => final = host.setDns service servers
  | .setDnsServers service servers, .error _ => mayFail (.setDnsServers service servers) ∧ final = host
  | .setSearchDomains service domains, .ok () => final = host.setSearch service domains
  | .setSearchDomains service domains, .error _ => mayFail (.setSearchDomains service domains) ∧ final = host
  | .writeRecord record, .ok () => final = host.putRecord record.interface (some (.record record))
  | .writeRecord record, .error _ => mayFail (.writeRecord record) ∧
      (final = host ∨ final = host.putRecord record.interface (some (.record record)))
  | .removeRecord interface, .ok () => final = host.putRecord interface none
  | .removeRecord interface, .error _ => mayFail (.removeRecord interface) ∧
      (final = host ∨ final = host.putRecord interface none)
  | .ensureWatchSentinel, .ok () => final = host
  | .ensureWatchSentinel, .error _ => mayFail .ensureWatchSentinel ∧ final = host
  | .recordPaths, .ok paths => paths.Perm host.records.keys ∧ final = host
  | .recordPaths, .error _ => mayFail .recordPaths ∧ final = host
  | .readRecord path, .ok file => host.records.lookup path = some file ∧ final = host
  | .readRecord path, .error _ => (mayFail (.readRecord path) ∨ host.records.lookup path = none) ∧ final = host
  | .quarantineRecord path, .ok () => final = host.putRecord path none
  | .quarantineRecord path, .error _ => mayFail (.quarantineRecord path) ∧ final = host
  | .dnsState, state => state = host.memory ∧ final = host
  | .pushService state, () => final = host.setServices (host.memory.services ++ [state])
  | .retainServices without, () => final = host.setServices (retained without host.memory.services)
  | .storeFingerprint fingerprint, () => final = { host with memory := { host.memory with fingerprint } }
  | .helperIsLive interface _ _, verdict => verdict = host.live interface ∧ final = host
  | .loadAllConnections, .ok connections => connections = host.connections ∧ final = host
  | .loadAllConnections, .error _ => mayFail .loadAllConnections ∧ final = host
  | .flushResolverCache, () | .keyRemove, () | .removeStaleRuntimeFiles _, () => final = host
  | .macosPrimaryService, _ | .macosConnectedSubnetsByDevice _, _ | .keyStart _, _ | .keySetWanted _, _
  | .keyIntact, _ => final = host

/-- Every command but the writing of a record can fail. -/
def recordsWork : DnsOp → Bool
  | .writeRecord _ => false
  | _ => true

end Wgd.Dns
