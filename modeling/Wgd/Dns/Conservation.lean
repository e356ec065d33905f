import Wgd.Dns.Script

/-! One helper from its connect to its teardown leaves the DNS of every service as
it found it, whatever fails in between and however often the services change hands. -/

set_option autoImplicit false

namespace Wgd.Dns

open Wgd.Helper Wgd.Interaction
open Wgd.Routes (routeCommands MacosRoutingState)

/-- What an observer of the helper's commands knows of each service. -/
structure Ledger where
  /-- The helper has saved an original for it. -/
  taken : String → Bool
  /-- The helper has put its servers back and is about to let it go. -/
  returning : String → Bool

namespace Ledger

def start : Ledger := ⟨fun _ => false, fun _ => false⟩

def observe (tunnelDns : List String) (ledger : Ledger) : (op : DnsOp) → op.Reply → Ledger
  | .pushService state, () => {
      taken := Function.update ledger.taken state.service true
      returning := Function.update ledger.returning state.service false }
  | .setDnsServers service servers, .ok () => { ledger with
      returning := Function.update ledger.returning service (servers != some tunnelDns) }
  | .setSearchDomains service _, .error _ => { ledger with
      returning := Function.update ledger.returning service false }
  | _, _ => ledger

end Ledger

/-- The host under observation; `mayFail` says which commands can report an error. -/
def ledgerHost (mayFail : DnsOp → Bool) (args : HelperArgs) : Environment dnsCommands (Host × Ledger) :=
  (hostEnvironment mayFail).observe (Ledger.observe args.inputs.dnsServers)

/-- Others overwrite servers of owned services only, and not while the helper is
letting the service go. Services may join the listing but do not leave it. -/
structure OthersOverwrite (before after : Host × Ledger) : Prop where
  ledger : after.2 = before.2
  memory : after.1.memory = before.1.memory
  search : after.1.search = before.1.search
  listed : before.1.listed ⊆ after.1.listed
  dns : ∀ service, after.1.dns service ≠ before.1.dns service →
    (∃ owner ∈ before.1.memory.services, owner.service = service) ∧ before.2.returning service = false

/-- Both settings of a service are as they were first. -/
def InPlace (first host : Host) (service : String) : Prop :=
  host.dns service = first.dns service ∧ host.search service = first.search service

/-- The original of a service on the host as it was first. -/
def Host.original (first : Host) (service : String) : MacosDnsServiceState :=
  ⟨service, first.dns service, first.search service⟩

/-- How the host stands to the protocol's state and to what it was first. -/
structure Conserved (args : HelperArgs) (first : Host) (custodian : Custodian) (state : Host × Ledger) : Prop where
  proper : Proper args.inputs custodian.owned
  memory : state.1.memory.services = custodian.owned
  listing : custodian.listing ⊆ state.1.listed
  listed : ∀ owner ∈ custodian.owned, owner.service ∈ custodian.listing
  taken : ∀ owner ∈ custodian.owned, state.2.taken owner.service = true
  saved : ∀ owner ∈ custodian.owned, first.dns owner.service ≠ some args.inputs.dnsServers →
    owner = first.original owner.service
  /-- Whoever is not owned is as it was first. -/
  free : ∀ service, (∀ owner ∈ custodian.owned, owner.service ≠ service) →
    (state.2.taken service = true → first.dns service ≠ some args.inputs.dnsServers) → InPlace first state.1 service
  shown : ∀ service servers, custodian.shown = some (service, servers) →
    (∀ owner ∈ custodian.owned, owner.service ≠ service) →
    first.dns service ≠ some args.inputs.dnsServers → servers = first.dns service
  fresh : ∀ captured, custodian.fresh = some captured → (∀ owner ∈ custodian.owned, owner.service ≠ captured.service) →
    first.dns captured.service ≠ some args.inputs.dnsServers → captured = first.original captured.service
  original : ∀ captured, custodian.fresh = some captured → captured.dnsServers ≠ some args.inputs.dnsServers
  half : ∀ service, custodian.half = some service → service ∉ custodian.back ∧ state.2.returning service = true ∧
    (first.dns service ≠ some args.inputs.dnsServers → state.1.dns service = first.dns service)
  back : ∀ service ∈ custodian.back, state.2.returning service = true ∧
    (first.dns service ≠ some args.inputs.dnsServers → InPlace first state.1 service)

namespace Conserved

variable {args : HelperArgs} {first host : Host} {ledger : Ledger} {custodian next : Custodian}
  {service : String}

/-- Commands that change neither the memory nor a setting. -/
theorem same {host' : Host} (conserved : Conserved args first custodian (host, ledger))
    (memory : host'.memory.services = host.memory.services) (listed : host'.listed = host.listed)
    (dns : host'.dns = host.dns) (search : host'.search = host.search) (owned : next.owned = custodian.owned)
    (listing : next.listing = custodian.listing) (back : next.back = custodian.back)
    (half : next.half = custodian.half ∨ next.half = none) (shown : next.shown = custodian.shown)
    (fresh : next.fresh = custodian.fresh) : Conserved args first next (host', ledger) where
  proper := owned ▸ conserved.proper
  memory := by rw [memory, owned]; exact conserved.memory
  listing := by rw [listing, listed]; exact conserved.listing
  listed := by rw [listing, owned]; exact conserved.listed
  taken := owned ▸ conserved.taken
  saved := owned ▸ conserved.saved
  free := by unfold InPlace; rw [owned, dns, search]; exact conserved.free
  shown := by rw [shown, owned]; exact conserved.shown
  fresh := by rw [fresh, owned]; exact conserved.fresh
  original := by rw [fresh]; exact conserved.original
  half := by
    rw [dns, back]
    intro service here
    rcases half with kept | cleared
    · exact conserved.half service (kept ▸ here)
    · exact nomatch cleared ▸ here
  back := by unfold InPlace; rw [back, dns, search]; exact conserved.back

section Steps

variable (conserved : Conserved args first custodian (host, ledger))
include conserved

theorem list (stepped : discipline args.inputs custodian .listNetworkServices (.ok host.listed) next) :
    Conserved args first next (host, ledger) := by
  cases stepped
  exact { conserved with
    listing := List.Subset.refl _
    listed := fun owner owns => conserved.listing (conserved.listed owner owns) }

/-- A service that is not owned still shows its original. -/
theorem getDns (stepped : discipline args.inputs custodian (.getDnsServers service) (.ok (host.dns service)) next) :
    Conserved args first next (host, ledger) := by
  cases stepped
  refine { conserved with shown := ?_, fresh := ?_, original := ?_ }
  · intro other servers read unowned differs
    cases read
    exact (conserved.free _ unowned fun _ => differs).1
  · intro captured fresh unowned differs
    simp only at fresh
    split at fresh
    · cases fresh
      rename_i stray
      have original : host.dns service = first.dns service := (conserved.free _ unowned fun _ => differs).1
      exact absurd (original ▸ stray) differs
    · exact nomatch fresh
  · intro captured fresh
    simp only at fresh
    split at fresh
    · cases fresh
      exact nofun
    · exact nomatch fresh

theorem getSearch (allowed : allows args.inputs custodian (.getSearchDomains service))
    (stepped : discipline args.inputs custodian (.getSearchDomains service) (.ok (host.search service)) next) :
    Conserved args first next (host, ledger) := by
  cases stepped
  obtain ⟨servers, shown, foreign⟩ := allowed
  refine { conserved with fresh := ?_, original := ?_ }
  · intro captured fresh unowned differs
    simp only [shown, Option.map_some, Option.some.injEq] at fresh
    subst fresh
    have search : host.search service = first.search service := (conserved.free service unowned fun _ => differs).2
    have dns : servers = first.dns service := conserved.shown service servers shown unowned differs
    rw [Host.original, search, dns]
  · intro captured fresh
    simp only [shown, Option.map_some, Option.some.injEq] at fresh
    subst fresh
    exact foreign

theorem setDns {servers : Setting} (allowed : allows args.inputs custodian (.setDnsServers service servers))
    (stepped : discipline args.inputs custodian (.setDnsServers service servers) (.ok ()) next) :
    Conserved args first next
      (host.setDns service servers, ledger.observe args.inputs.dnsServers (.setDnsServers service servers) (.ok ())) := by
  cases stepped
  obtain ⟨⟨owner, owns, rfl, -⟩, kind⟩ := allowed
  refine { conserved with free := ?_, half := ?_, back := ?_ }
  · intro other unowned spared
    have apart : other ≠ owner.service := fun same => unowned owner owns same.symm
    have place := conserved.free other unowned spared
    simpa [InPlace, Host.setDns, Function.update_of_ne apart] using place
  · intro other here
    simp only at here
    split at here
    · exact nomatch here
    · rename_i restoring
      cases here
      obtain ⟨original, member, named, rfl⟩ := kind.resolve_left restoring
      refine ⟨by simp, by simpa [Ledger.observe] using restoring, fun differs => ?_⟩
      have saved := conserved.saved original member (named ▸ differs)
      rw [saved, named]
      simp [Host.setDns, Host.original]
  · intro other back
    obtain ⟨earlier, apart⟩ := List.mem_filter.mp back
    have different : other ≠ owner.service := by simpa using apart
    have before := conserved.back other earlier
    simpa [InPlace, Host.setDns, Ledger.observe, Function.update_of_ne different] using before

theorem setSearch {domains : Setting} (allowed : allows args.inputs custodian (.setSearchDomains service domains))
    (stepped : discipline args.inputs custodian (.setSearchDomains service domains) (.ok ()) next) :
    Conserved args first next (host.setSearch service domains, ledger) := by
  cases stepped
  obtain ⟨⟨owner, owns, rfl, -⟩, kind⟩ := allowed
  have elsewhere : ∀ other, other ≠ owner.service → InPlace first host other →
      InPlace first (host.setSearch owner.service domains) other := by
    intro other apart place
    simpa [InPlace, Host.setSearch, Function.update_of_ne apart] using place
  refine { conserved with free := ?_, half := nofun, back := ?_ }
  · intro other unowned spared
    exact elsewhere other (fun same => unowned owner owns same.symm) (conserved.free other unowned spared)
  · intro other back
    rcases kind with ⟨writing, waiting, -⟩ | ⟨restoring, original, member, named, rfl⟩
    · simp only [if_neg writing, List.mem_filter, bne_iff_ne] at back
      obtain ⟨returning, place⟩ := conserved.back other back.1
      exact ⟨returning, fun differs => elsewhere other back.2 (place differs)⟩
    · simp only [if_pos restoring, List.mem_cons] at back
      obtain ⟨-, returning, dns⟩ := conserved.half _ restoring
      by_cases same : other = owner.service
      · subst same
        refine ⟨returning, fun differs => ⟨dns differs, ?_⟩⟩
        have saved := conserved.saved original member (named ▸ differs)
        rw [saved, named]
        simp [Host.setSearch, Host.original]
      · obtain ⟨returning', place⟩ := conserved.back other (back.resolve_left same)
        exact ⟨returning', fun differs => elsewhere other same (place differs)⟩

/-- A restore that fails halfway leaves the service to the helper. -/
theorem setSearch_fails {domains : Setting} {error : String}
    (allowed : allows args.inputs custodian (.setSearchDomains service domains))
    (stepped : discipline args.inputs custodian (.setSearchDomains service domains) (.error error) next) :
    Conserved args first next
      (host, ledger.observe args.inputs.dnsServers (.setSearchDomains service domains) (.error error)) := by
  cases stepped
  have waiting : service ∉ custodian.back := by
    rcases allowed.2 with ⟨-, waiting, -⟩ | ⟨restoring, -⟩
    · exact waiting
    · exact (conserved.half service restoring).1
  refine { conserved with half := nofun, back := ?_ }
  intro other back
  have different : other ≠ service := fun same => waiting (same ▸ back)
  simpa [Ledger.observe, Function.update_of_ne different] using conserved.back other back

theorem push {captured : MacosDnsServiceState} (allowed : allows args.inputs custodian (.pushService captured))
    (stepped : discipline args.inputs custodian (.pushService captured) () next) :
    Conserved args first next (host.setServices (host.memory.services ++ [captured]),
      ledger.observe args.inputs.dnsServers (.pushService captured) ()) := by
  cases stepped
  obtain ⟨-, fresh, listed, new, -⟩ := allowed
  have memory : host.memory.services = custodian.owned := conserved.memory
  refine {
    proper := conserved.proper.push new (conserved.original captured fresh)
    memory := ?_
    listing := conserved.listing
    listed := ?_
    taken := ?_
    saved := ?_
    free := ?_
    shown := ?_
    fresh := nofun
    original := nofun
    half := nofun
    back := ?_ }
  · rw [Host.setServices, memory]
  · intro owner owns
    rcases List.mem_append.mp owns with earlier | now
    · exact conserved.listed owner earlier
    · rw [List.mem_singleton.mp now]
      exact listed
  · intro owner owns
    rcases List.mem_append.mp owns with earlier | now
    · have apart : owner.service ≠ captured.service := new owner earlier
      simpa [Ledger.observe, Function.update_of_ne apart] using conserved.taken owner earlier
    · simp [Ledger.observe, List.mem_singleton.mp now]
  · intro owner owns differs
    rcases List.mem_append.mp owns with earlier | now
    · exact conserved.saved owner earlier differs
    · rw [List.mem_singleton.mp now] at differs ⊢
      exact conserved.fresh captured fresh new differs
  · intro other unowned spared
    have apart : other ≠ captured.service := fun same =>
      unowned captured (List.mem_append_right _ List.mem_cons_self) same.symm
    refine conserved.free other (fun owner owns => unowned owner (List.mem_append_left _ owns)) fun taken => ?_
    exact spared (by simpa [Ledger.observe, Function.update_of_ne apart] using taken)
  · intro other servers shown unowned
    exact conserved.shown other servers shown fun owner owns => unowned owner (List.mem_append_left _ owns)
  · intro other back
    obtain ⟨earlier, apart⟩ := List.mem_filter.mp back
    have different : other ≠ captured.service := by simpa using apart
    have before := conserved.back other earlier
    simpa [InPlace, Host.setServices, Ledger.observe, Function.update_of_ne different] using before

/-- Only a service that has been put back is let go. -/
theorem retain {without : String} (allowed : allows args.inputs custodian (.retainServices without))
    (stepped : discipline args.inputs custodian (.retainServices without) () next) :
    Conserved args first next (host.setServices (retained without host.memory.services), ledger) := by
  cases stepped
  have memory : host.memory.services = custodian.owned := conserved.memory
  refine { conserved with
    proper := conserved.proper.subset (retained_subset _ _)
    memory := ?_
    listed := ?_
    taken := ?_
    saved := ?_
    free := ?_
    shown := nofun
    fresh := nofun
    original := nofun }
  · rw [Host.setServices, memory]
  · intro owner owns
    exact conserved.listed owner (retained_subset _ _ owns)
  · intro owner owns
    exact conserved.taken owner (retained_subset _ _ owns)
  · intro owner owns
    exact conserved.saved owner (retained_subset _ _ owns)
  · intro other unowned spared
    by_cases held : ∃ owner ∈ custodian.owned, owner.service = other
    · obtain ⟨owner, owns, rfl⟩ := held
      have gone : owner.service = without := by
        by_contra stays
        exact unowned owner (mem_retained.mpr ⟨owns, stays⟩) rfl
      rcases allowed with back | vanished | absent
      · exact (conserved.back _ (gone ▸ back)).2 (spared (conserved.taken owner owns))
      · exact absurd (gone ▸ conserved.listed owner owns) vanished
      · exact absurd gone (absent owner owns)
    · exact conserved.free other (fun owner owns named => held ⟨owner, owns, named⟩) spared

end Steps

theorem step {mayFail : DnsOp → Bool} {state after : Host × Ledger} {op : DnsOp} {reply : op.Reply}
    (conserved : Conserved args first custodian state) (allowed : allows args.inputs custodian op)
    (answered : ledgerHost mayFail args state op reply after) :
    ∃ next, discipline args.inputs custodian op reply next ∧ Conserved args first next after := by
  obtain ⟨host, ledger⟩ := state
  obtain ⟨host', ledger'⟩ := after
  obtain ⟨done, watched⟩ := answered
  dsimp only at done watched
  subst watched
  cases op with
  | listNetworkServices =>
    cases reply with
    | error error => obtain ⟨-, rfl⟩ := done; exact ⟨_, rfl, conserved⟩
    | ok services => obtain ⟨rfl, rfl⟩ := done; exact ⟨_, rfl, conserved.list rfl⟩
  | getDnsServers service =>
    cases reply with
    | error error => obtain ⟨-, rfl⟩ := done; exact ⟨_, rfl, conserved⟩
    | ok servers => obtain ⟨rfl, rfl⟩ := done; exact ⟨_, rfl, conserved.getDns rfl⟩
  | getSearchDomains service =>
    cases reply with
    | error error => obtain ⟨-, rfl⟩ := done; exact ⟨_, rfl, conserved⟩
    | ok domains => obtain ⟨rfl, rfl⟩ := done; exact ⟨_, rfl, conserved.getSearch allowed rfl⟩
  | setDnsServers service servers =>
    cases reply with
    | error error =>
      obtain ⟨-, rfl⟩ := done
      exact ⟨_, rfl, conserved.same rfl rfl rfl rfl rfl rfl rfl (.inr rfl) rfl rfl⟩
    | ok value => cases done; exact ⟨_, rfl, conserved.setDns allowed rfl⟩
  | setSearchDomains service domains =>
    cases reply with
    | error error => obtain ⟨-, rfl⟩ := done; exact ⟨_, rfl, conserved.setSearch_fails allowed rfl⟩
    | ok value => cases done; exact ⟨_, rfl, conserved.setSearch allowed rfl⟩
  | pushService captured => cases done; exact ⟨_, rfl, conserved.push allowed rfl⟩
  | retainServices without => cases done; exact ⟨_, rfl, conserved.retain allowed rfl⟩
  | dnsState => obtain ⟨rfl, rfl⟩ := done; exact ⟨_, ⟨conserved.memory, rfl⟩, conserved⟩
  | writeRecord record =>
    cases reply with
    | error error =>
      obtain ⟨-, rfl | rfl⟩ := done <;>
        exact ⟨_, rfl, conserved.same rfl rfl rfl rfl rfl rfl rfl (.inl rfl) rfl rfl⟩
    | ok value => cases done; exact ⟨_, rfl, conserved.same rfl rfl rfl rfl rfl rfl rfl (.inl rfl) rfl rfl⟩
  | removeRecord interface =>
    cases reply with
    | error error =>
      obtain ⟨-, rfl | rfl⟩ := done <;>
        exact ⟨_, rfl, conserved.same rfl rfl rfl rfl rfl rfl rfl (.inl rfl) rfl rfl⟩
    | ok value => cases done; exact ⟨_, rfl, conserved.same rfl rfl rfl rfl rfl rfl rfl (.inl rfl) rfl rfl⟩
  | storeFingerprint fingerprint =>
    cases done
    exact ⟨_, rfl, conserved.same rfl rfl rfl rfl rfl rfl rfl (.inl rfl) rfl rfl⟩
  | ensureWatchSentinel =>
    cases reply with
    | error error => obtain ⟨-, rfl⟩ := done; exact ⟨_, rfl, conserved⟩
    | ok value => cases done; exact ⟨_, rfl, conserved⟩
  | recordPaths | readRecord _ | quarantineRecord _ | helperIsLive _ _ _ | loadAllConnections
  | removeStaleRuntimeFiles _ => exact absurd allowed id
  | _ =>
    cases done
    exact ⟨_, rfl, conserved⟩

theorem others {state after : Host × Ledger} (conserved : Conserved args first custodian state)
    (changed : OthersOverwrite state after) : Conserved args first custodian after := by
  obtain ⟨host, ledger⟩ := state
  obtain ⟨host', ledger'⟩ := after
  obtain ⟨rfl, memory, search, listed, dns⟩ := changed
  dsimp only at memory search listed dns
  have spared : ∀ service, ledger'.returning service = true → host'.dns service = host.dns service := by
    intro service returning
    by_contra different
    exact Bool.noConfusion (returning.symm.trans (dns service different).2)
  refine { conserved with memory := memory ▸ conserved.memory, listing := ?_, free := ?_, half := ?_, back := ?_ }
  · exact fun service member => listed (conserved.listing member)
  · intro service unowned exempt
    have same : host'.dns service = host.dns service := by
      by_contra different
      obtain ⟨⟨owner, owns, named⟩, -⟩ := dns service different
      have memory : host.memory.services = custodian.owned := conserved.memory
      exact unowned owner (memory ▸ owns) named
    simpa [InPlace, same, search] using conserved.free service unowned exempt
  · intro service half
    obtain ⟨waiting, returning, place⟩ := conserved.half service half
    exact ⟨waiting, returning, by rw [spared service returning]; exact place⟩
  · intro service back
    obtain ⟨returning, place⟩ := conserved.back service back
    exact ⟨returning, by rw [InPlace, spared service returning, search]; exact place⟩

theorem tracks (mayFail : DnsOp → Bool) :
    Tracks args.inputs (discipline args.inputs) (ledgerHost mayFail args) OthersOverwrite (Conserved args first) where
  step := fun _ _ _ _ _ conserved allowed answered => conserved.step allowed answered
  others := fun _ _ _ conserved changed => conserved.others changed

theorem start (nothing : first.memory.services = []) : Conserved args first .start (first, .start) where
  proper := .nil
  memory := nothing
  listing := nofun
  listed := nofun
  taken := nofun
  saved := nofun
  free := fun _ _ _ => ⟨rfl, rfl⟩
  shown := nofun
  fresh := nofun
  original := nofun
  half := nofun
  back := nofun

end Conserved

/-- Everything can fail but the writes of a setting. -/
def writesWork : DnsOp → Bool
  | .setDnsServers _ _ | .setSearchDomains _ _ => false
  | _ => true

theorem Conserved.tracks_reliably {args : HelperArgs} {first : Host} :
    Tracks args.inputs (reliableDiscipline args.inputs) (ledgerHost writesWork args) OthersOverwrite
      (Conserved args first) where
  step := by
    intro custodian state op reply after conserved allowed answered
    obtain ⟨next, stepped, conserved'⟩ := conserved.step allowed answered
    refine ⟨next, ⟨stepped, ?_⟩, conserved'⟩
    cases op with
    | setDnsServers service servers =>
      cases reply with
      | error error => exact nomatch answered.1.1
      | ok value => trivial
    | setSearchDomains service domains =>
      cases reply with
      | error error => exact nomatch answered.1.1
      | ok value => trivial
    | _ => trivial
  others := (Conserved.tracks writesWork).others

/-- A helper's life under observation. -/
def ledgerSession (mayFail : DnsOp → Bool) (args : HelperArgs) : Session helperCommands (Host × Ledger) HelperPhase :=
  helperSession args (ledgerHost mayFail args) OthersOverwrite

theorem ledgerSession_total (mayFail : DnsOp → Bool) (args : HelperArgs) :
    ((ledgerSession mayFail args).env.after OthersOverwrite).Total := by
  apply Environment.Total.after
  intro state op
  cases op with
  | inl op => exact ⟨routesWork op, state, rfl⟩
  | inr op =>
    obtain ⟨reply, after, answered⟩ := hostEnvironment_total mayFail state.1 op
    exact ⟨reply, (after, _), answered, rfl⟩

/-- After any number of ticks, a teardown in which every write works completes, and
leaves every service with the DNS it had before the connect, unless the helper
captured it while it showed the tunnel's own list. -/
theorem dns_conserved {args : HelperArgs} {first : Host} (nothing : first.memory.services = [])
    {state : Host × Ledger} {cleanup : MacosCleanupState} {routing : MacosRoutingState}
    (reached : (ledgerSession (fun _ => true) args).Reachable
      (fun phase state => phase = .ready ∧ state = (first, .start)) (state, .done (.up cleanup routing))) :
    let env := (ledgerSession writesWork args).env.after OthersOverwrite
    (∃ final, Completes env (teardownProgram cleanup routing) state .down final) ∧
      ∀ final, Completes env (teardownProgram cleanup routing) state .down final → ∀ service,
        (final.2.taken service = true → first.dns service ≠ some args.config.dnsServers) →
        InPlace first final.1 service := by
  intro env
  have starts : ∀ phase state, phase = HelperPhase.ready ∧ state = (first, Ledger.start) →
      TrackedAtRest args (Conserved args first) phase state := by
    rintro phase _ ⟨rfl, rfl⟩
    exact ⟨.start, phaseAtRest_start args, .start nothing⟩
  obtain ⟨custodian, ⟨same, atRest⟩, conserved⟩ := (Conserved.tracks fun _ => true).kept.reachable_between starts reached
  have ensured := Conserved.tracks_reliably.ensures conserved (teardown_restores routing same atRest)
  constructor
  · obtain ⟨phase, final, completed⟩ :=
      (ledgerSession_total writesWork args).completes (teardownProgram cleanup routing) state
    obtain ⟨-, ⟨rfl, -⟩, -⟩ := ensured.completes completed
    exact ⟨final, completed⟩
  · intro final completed service differs
    obtain ⟨last, ⟨-, restored⟩, conserved'⟩ := ensured.completes completed
    by_cases held : ∃ owner ∈ last.owned, owner.service = service
    · obtain ⟨owner, owns, rfl⟩ := held
      exact (conserved'.back _ (restored owner owns)).2 (differs (conserved'.taken owner owns))
    · exact conserved'.free service (fun owner owns named => held ⟨owner, owns, named⟩) differs

/-- A connect and the teardown after it, without a tick in between. -/
theorem dns_conserved_at_once :
    let connected := interpret
      (helperScript (fun _ => true) (fun _ => .working (some "Wi-Fi")) (Ledger.observe exampleArgs.inputs.dnsServers))
      (connectProgram exampleArgs) ((exampleHost, 0), Ledger.start)
    let env := (ledgerSession writesWork exampleArgs).env.after OthersOverwrite
    let teardown := teardownProgram ⟨false, exampleArgs.inputs⟩ ⟨[], ⟨[], none⟩, []⟩
    (∃ final, Completes env teardown (connected.2.1.1, connected.2.2) .down final) ∧
      ∀ final, Completes env teardown (connected.2.1.1, connected.2.2) .down final → ∀ service,
        (final.2.taken service = true → exampleHost.dns service ≠ some exampleArgs.config.dnsServers) →
        InPlace exampleHost final.1 service := by
  intro connected
  have up : connected.1 = .up ⟨false, exampleArgs.inputs⟩ ⟨[], ⟨[], none⟩, []⟩ := by decide +kernel
  have first : (ledgerSession (fun _ => true) exampleArgs).Reachable
      (fun phase state => phase = .ready ∧ state = (exampleHost, .start)) ((exampleHost, .start), .done .ready) :=
    .begin ⟨rfl, rfl⟩
  have faithful := helperScript_faithful (fun _ => true) (fun _ => .working (some "Wi-Fi"))
    (Ledger.observe exampleArgs.inputs.dnsServers)
  exact dns_conserved rfl (first.completed faithful ((exampleHost, 0), .start) ⟨rfl, .connect⟩ up)

end Wgd.Dns
