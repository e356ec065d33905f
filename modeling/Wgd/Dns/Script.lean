import Wgd.Dns.Runs

/-! Scripted hosts: what the programs do in one fixed environment can be evaluated. -/

set_option autoImplicit false

namespace Wgd.Dns

open Wgd.Net Wgd.Helper Wgd.Interaction
open Wgd.Routes (RouteOp routeCommands)

/-- What the host answers to one command beyond its own state. -/
structure Cue where
  /-- The command fails, if it can. -/
  fails : Bool
  primaryService : Option String
  /-- The device and prefix of the connected networks. -/
  connected : List (String × Subnet)

/-- Everything works, and the named service is the primary one. -/
def Cue.working (primaryService : Option String) : Cue := ⟨false, primaryService, []⟩

/-- A fallible command: an error without effect, or its value and effect. -/
def outcome {A : Type} (fails : Bool) (host : Host) (value : A) (after : Host) : Except String A × Host :=
  if fails then (.error "scripted", host) else (.ok value, after)

def answer (mayFail : DnsOp → Bool) (cue : Cue) (host : Host) (op : DnsOp) : op.Reply × Host :=
  let fails := cue.fails && mayFail op
  match op with
  | .listNetworkServices => outcome fails host host.listed host
  | .getDnsServers service => outcome fails host (host.dns service) host
  | .getSearchDomains service => outcome fails host (host.search service) host
  | .setDnsServers service servers => outcome fails host () (host.setDns service servers)
  | .setSearchDomains service domains => outcome fails host () (host.setSearch service domains)
  | .writeRecord record => outcome fails host () (host.putRecord record.interface (some (.record record)))
  | .removeRecord interface => outcome fails host () (host.putRecord interface none)
  | .ensureWatchSentinel => outcome fails host () host
  | .recordPaths => outcome fails host host.records.keys host
  | .readRecord path => match host.records.lookup path with
    | some file => outcome fails host file host
    | none => (.error "not found", host)
  | .quarantineRecord path => outcome fails host () (host.putRecord path none)
  | .loadAllConnections => outcome fails host host.connections host
  | .dnsState => (host.memory, host)
  | .pushService state => ((), host.setServices (host.memory.services ++ [state]))
  | .retainServices without => ((), host.setServices (retained without host.memory.services))
  | .storeFingerprint fingerprint => ((), { host with memory := { host.memory with fingerprint } })
  | .helperIsLive interface _ _ => (host.live interface, host)
  | .macosPrimaryService => (cue.primaryService, host)
  | .macosConnectedSubnetsByDevice _ => (some cue.connected, host)
  | .keyStart _ | .keySetWanted _ => (false, host)
  | .keyIntact => (none, host)
  | .flushResolverCache | .keyRemove | .removeStaleRuntimeFiles _ => ((), host)

theorem outcome_cases {A : Type} {fails : Bool} {host after : Host} {value : A} (P : Except String A → Host → Prop)
    (works : P (.ok value) after) (failed : fails = true → P (.error "scripted") host) :
    P (outcome fails host value after).1 (outcome fails host value after).2 := by
  rw [outcome]
  cases fails with
  | false => exact works
  | true => exact failed rfl

theorem answer_faithful (mayFail : DnsOp → Bool) (cue : Cue) (host : Host) (op : DnsOp) :
    hostEnvironment mayFail host op (answer mayFail cue host op).1 (answer mayFail cue host op).2 := by
  have allowed : ∀ op, (cue.fails && mayFail op) = true → mayFail op = true :=
    fun _ both => (Bool.and_eq_true_iff.mp both).2
  cases op with
  | listNetworkServices =>
    exact outcome_cases (hostEnvironment mayFail host .listNetworkServices) ⟨rfl, rfl⟩ fun failed => ⟨allowed _ failed, rfl⟩
  | getDnsServers service =>
    exact outcome_cases (hostEnvironment mayFail host (.getDnsServers service)) ⟨rfl, rfl⟩ fun failed => ⟨allowed _ failed, rfl⟩
  | getSearchDomains service =>
    exact outcome_cases (hostEnvironment mayFail host (.getSearchDomains service)) ⟨rfl, rfl⟩
      fun failed => ⟨allowed _ failed, rfl⟩
  | setDnsServers service servers =>
    exact outcome_cases (hostEnvironment mayFail host (.setDnsServers service servers)) rfl
      fun failed => ⟨allowed _ failed, rfl⟩
  | setSearchDomains service domains =>
    exact outcome_cases (hostEnvironment mayFail host (.setSearchDomains service domains)) rfl
      fun failed => ⟨allowed _ failed, rfl⟩
  | writeRecord record =>
    exact outcome_cases (hostEnvironment mayFail host (.writeRecord record)) rfl
      fun failed => ⟨allowed _ failed, .inl rfl⟩
  | removeRecord interface =>
    exact outcome_cases (hostEnvironment mayFail host (.removeRecord interface)) rfl
      fun failed => ⟨allowed _ failed, .inl rfl⟩
  | ensureWatchSentinel =>
    exact outcome_cases (hostEnvironment mayFail host .ensureWatchSentinel) rfl fun failed => ⟨allowed _ failed, rfl⟩
  | recordPaths =>
    exact outcome_cases (hostEnvironment mayFail host .recordPaths) ⟨.refl _, rfl⟩ fun failed => ⟨allowed _ failed, rfl⟩
  | quarantineRecord path =>
    exact outcome_cases (hostEnvironment mayFail host (.quarantineRecord path)) rfl
      fun failed => ⟨allowed _ failed, rfl⟩
  | loadAllConnections =>
    exact outcome_cases (hostEnvironment mayFail host .loadAllConnections) ⟨rfl, rfl⟩
      fun failed => ⟨allowed _ failed, rfl⟩
  | readRecord path =>
    simp only [answer]
    cases found : host.records.lookup path with
    | none => exact ⟨.inr found, rfl⟩
    | some file =>
      exact outcome_cases (hostEnvironment mayFail host (.readRecord path)) ⟨found, rfl⟩
        fun failed => ⟨.inl (allowed _ failed), rfl⟩
  | dnsState | helperIsLive => exact ⟨rfl, rfl⟩
  | _ => exact rfl

theorem hostEnvironment_total (mayFail : DnsOp → Bool) : (hostEnvironment mayFail).Total :=
  Handler.Faithful.total (answer_faithful mayFail (.working none))

/-- A host that follows one cue after another. -/
def scripted (mayFail : DnsOp → Bool) (cues : Nat → Cue) : Handler dnsCommands (Host × Nat) :=
  fun script op => ((answer mayFail (cues script.2) script.1 op).1,
    (answer mayFail (cues script.2) script.1 op).2, script.2 + 1)

theorem scripted_faithful (mayFail : DnsOp → Bool) (cues : Nat → Cue) :
    (scripted mayFail cues).Faithful Prod.fst (hostEnvironment mayFail) :=
  fun script op => answer_faithful mayFail (cues script.2) script.1 op

/-- Route commands that all work, on a host with one gateway. -/
def routesWork : (op : RouteOp) → op.Reply
  | .routeAdd _ _ _ | .routeDelete _ _ _ => .ok true
  | .routeGet _ => none
  | .getMacosDefaultGateway _ => .ok (some "192.168.1.1")
  | .macosConnectedSubnetsByDevice _ => some []
  | .ifconfig _ => .ok ()

section Helpers

variable {G : Type} (mayFail : DnsOp → Bool) (cues : Nat → Cue) (observer : G → (op : DnsOp) → op.Reply → G)

/-- A helper's commands on a scripted host under observation. -/
def helperScript : Handler helperCommands ((Host × Nat) × G) :=
  (Handler.fixed routesWork : Handler routeCommands _).both ((scripted mayFail cues).observe observer)

theorem helperScript_faithful :
    (helperScript mayFail cues observer).Faithful (fun script => (script.1.1, script.2))
      ((Environment.idle routeCommands (Host × G)).both ((hostEnvironment mayFail).observe observer)) := by
  have fixed : (Handler.fixed routesWork : Handler routeCommands ((Host × Nat) × G)).Faithful
      (fun script => (script.1.1, script.2)) (.idle routeCommands (Host × G)) := Handler.fixed_faithful _
  exact fixed.both ((scripted_faithful mayFail cues).observe observer)

end Helpers

/-! ### A laptop on which the programs can be run -/

def exampleIdentity : DnsCustodyIdentity where
  connectionId := ⟨0x7f#128⟩
  interface := "wg-00000000"
  helperPid := 4242
  helperStart := ⟨1700000000, 5⟩

/-- A helper that promotes one DNS server and has no routes to install. -/
def exampleArgs : HelperArgs where
  interface := "utun7"
  config := ⟨[], ["10.64.0.1"], none, [], .v4 0xcb007107#32⟩
  connectionId := some ⟨0x7f#128⟩
  custody := some exampleIdentity
  dnsMode := .shadow
  bypassLinks := []

/-- A host with two services, one of them with DNS of its own. -/
def exampleHost : Host where
  dns := fun service => if service = "Wi-Fi" then some ["192.168.1.1"] else none
  search := fun service => if service = "Wi-Fi" then some ["lan"] else none
  listed := ["Wi-Fi", "Ethernet"]
  records := ∅
  memory := ⟨[], .default⟩
  live := fun _ => false
  connections := []

end Wgd.Dns
