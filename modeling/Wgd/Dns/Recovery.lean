import Wgd.Dns.Conservation
import Wgd.Dns.SweepEffect
import Wgd.Dns.WriteAhead

/-! A helper that is killed, and the sweep that finds its record: what of the user's
DNS comes back. -/

set_option autoImplicit false

namespace Wgd.Dns

open Wgd.Net Wgd.Helper Wgd.Interaction
open Wgd.Routes (routeCommands MacosRoutingState)

/-- Nobody else edits DNS or records, and no service leaves the listing. -/
structure NobodyEdits (before after : Host × Ledger) : Prop where
  ledger : after.2 = before.2
  memory : after.1.memory = before.1.memory
  dns : after.1.dns = before.1.dns
  search : after.1.search = before.1.search
  records : after.1.records = before.1.records
  listed : before.1.listed ⊆ after.1.listed

/-- The service was not captured while it showed the tunnel's list. -/
def Spared (args : HelperArgs) (first : Host) (ledger : Ledger) (service : String) : Prop :=
  ledger.taken service = true → first.dns service ≠ some args.inputs.dnsServers

/-- What the record on disk says, for the sweep that may come. -/
structure Filed (args : HelperArgs) (identity : DnsCustodyIdentity) (first : Host) (custodian : Custodian)
    (state : Host × Ledger) : Prop where
  files : OnlyRecord identity.interface state.1
  entries : ∀ record, state.1.records.lookup identity.interface = some (.record record) →
    record.tunnelDns = args.inputs.dnsServers ∧ ∀ entry ∈ record.services,
      state.2.taken entry.service = true ∧ entry.service ∈ state.1.listed ∧
        (first.dns entry.service ≠ some args.inputs.dnsServers → entry = (first.original entry.service).toCustody)
  disk : custodian.filed ≠ [] → OnDisk state.1 identity.interface custodian.filed
  unfiled : ∀ service, (∀ entry ∈ custodian.filed, entry.service ≠ service) → Spared args first state.2 service →
    InPlace first state.1 service

variable {args : HelperArgs} {identity : DnsCustodyIdentity} {first host host' : Host} {ledger ledger' : Ledger}
  {custodian next : Custodian}

namespace Filed

/-- Steps that leave settings and records alone; services may be taken. -/
theorem same (filed : Filed args identity first custodian (host, ledger)) (records : host'.records = host.records)
    (listed : host.listed ⊆ host'.listed) (dns : host'.dns = host.dns) (search : host'.search = host.search)
    (taken : ∀ service, ledger.taken service = true → ledger'.taken service = true) (same : next.filed = custodian.filed) :
    Filed args identity first next (host', ledger') where
  files := by rw [OnlyRecord, records]; exact filed.files
  entries := by
    intro record found
    rw [records] at found
    obtain ⟨tunnel, each⟩ := filed.entries record found
    exact ⟨tunnel, fun entry member => ⟨taken _ (each entry member).1, listed (each entry member).2.1, (each entry member).2.2⟩⟩
  disk := by rw [OnDisk, same, records]; exact filed.disk
  unfiled := by
    intro service absent spared
    rw [InPlace, dns, search]
    exact filed.unfiled service (same ▸ absent) fun held => spared (taken service held)

/-- Only a service in the record is written to. -/
theorem written (lawful : Lawful args.inputs custodian) (recorded : args.custody = some identity) {service : String}
    (covered : custodian.Covers args.inputs service) : ∃ entry ∈ custodian.filed, entry.service = service := by
  obtain ⟨owner, owns, named, listed⟩ := covered
  have recording : Recording args.inputs :=
    ⟨by simp [HelperArgs.inputs, recorded], lawful.promoting (List.ne_nil_of_mem owns)⟩
  exact ⟨owner.toCustody, listed recording, named⟩

theorem setting (filed : Filed args identity first custodian (host, ledger)) (lawful : Lawful args.inputs custodian)
    (recorded : args.custody = some identity) {service : String} (covered : custodian.Covers args.inputs service) (records : host'.records = host.records)
    (listed : host'.listed = host.listed) (taken : ledger'.taken = ledger.taken) (same : next.filed = custodian.filed)
    (others : ∀ other, other ≠ service → host'.dns other = host.dns other ∧ host'.search other = host.search other) :
    Filed args identity first next (host', ledger') := by
  obtain ⟨entry, listedEntry, named⟩ := written lawful recorded covered
  refine ⟨?_, ?_, ?_, ?_⟩
  · rw [OnlyRecord, records]; exact filed.files
  · rw [records, listed, taken]; exact filed.entries
  · rw [OnDisk, same, records]; exact filed.disk
  · intro other absent spared
    have apart : other ≠ service := by
      rintro rfl
      exact absent entry (same ▸ listedEntry) named
    obtain ⟨dns, search⟩ := others other apart
    rw [InPlace, dns, search]
    exact filed.unfiled other (same ▸ absent) (by rw [Spared, ← taken]; exact spared)

end Filed

/-- Whatever a rewritten record leaves out is in place. -/
theorem Conserved.accounted (conserved : Conserved args first custodian (host, ledger))
    {services : List MacosDnsServiceState} (accounted : custodian.Accounted services) {service : String}
    (absent : ∀ owner ∈ services, owner.service ≠ service) (spared : Spared args first ledger service) :
    InPlace first host service := by
  by_cases held : ∃ owner ∈ custodian.owned, owner.service = service
  · obtain ⟨owner, owns, rfl⟩ := held
    have back := (accounted.2 owner owns).resolve_left fun listed => absent owner listed rfl
    exact (conserved.back _ back).2 (spared (conserved.taken owner owns))
  · exact conserved.free service (fun owner owns named => held ⟨owner, owns, named⟩) spared

theorem Filed.write (filed : Filed args identity first custodian (host, ledger))
    (conserved : Conserved args first custodian (host, ledger)) (recorded : args.custody = some identity)
    {record : DnsCustodyRecord} (allowed : allows args.inputs custodian (.writeRecord record))
    (stepped : discipline args.inputs custodian (.writeRecord record) (.ok ()) next) :
    Filed args identity first next (host.putRecord record.interface (some (.record record)), ledger) := by
  cases stepped
  obtain ⟨identity', services, custody, accounted, rfl⟩ := allowed
  cases recorded.symm.trans custody
  refine ⟨?_, ?_, ?_, ?_⟩
  · intro path file found
    by_cases here : path = identity.interface
    · subst here
      cases (Host.lookup_putRecord _ _ _).symm.trans found
      exact ⟨rfl, _, rfl, rfl⟩
    · exact filed.files path file ((Host.lookup_putRecord_of_ne _ _ here).symm.trans found)
  · intro record found
    cases (Host.lookup_putRecord _ _ _).symm.trans found
    refine ⟨rfl, fun entry member => ?_⟩
    obtain ⟨owner, listed, rfl⟩ := List.mem_map.mp member
    have owns := accounted.1 listed
    refine ⟨conserved.taken owner owns, conserved.listing (conserved.listed owner owns), fun differs => ?_⟩
    have saved := conserved.saved owner owns differs
    exact congrArg MacosDnsServiceState.toCustody saved
  · exact fun _ => ⟨_, Host.lookup_putRecord _ _ _, rfl⟩
  · intro service absent spared
    refine conserved.accounted accounted (fun owner listed => ?_) spared
    exact absent _ (List.mem_map_of_mem listed)

theorem Filed.remove (filed : Filed args identity first custodian (host, ledger))
    (conserved : Conserved args first custodian (host, ledger)) (recorded : args.custody = some identity)
    {interface : String} (allowed : allows args.inputs custodian (.removeRecord interface))
    (removed : host' = host ∨ host' = host.putRecord interface none) :
    Filed args identity first { custodian with filed := [] } (host', ledger) := by
  obtain ⟨⟨identity', custody, rfl⟩, accounted⟩ := allowed
  cases recorded.symm.trans custody
  have all : ∀ service, Spared args first ledger service → InPlace first host service :=
    fun service => conserved.accounted accounted nofun
  rcases removed with rfl | rfl
  · exact ⟨filed.files, filed.entries, fun some => absurd rfl some, fun service _ => all service⟩
  · refine ⟨?_, ?_, fun some => absurd rfl some, fun service _ => all service⟩
    · intro path file found
      by_cases here : path = identity.interface
      · rw [here, Host.lookup_putRecord] at found
        exact nomatch found
      · exact filed.files path file ((Host.lookup_putRecord_of_ne _ _ here).symm.trans found)
    · intro record found
      rw [Host.lookup_putRecord] at found
      exact nomatch found

/-- How a host that may be swept stands to the protocol's state. -/
structure Recoverable (args : HelperArgs) (identity : DnsCustodyIdentity) (first : Host) (custodian : Custodian)
    (state : Host × Ledger) : Prop where
  lawful : Lawful args.inputs custodian
  conserved : Conserved args first custodian state
  filed : Filed args identity first custodian state

theorem Recoverable.step {state after : Host × Ledger} {op : DnsOp} {reply : op.Reply}
    (recorded : args.custody = some identity) (recoverable : Recoverable args identity first custodian state)
    (allowed : allows args.inputs custodian op) (answered : ledgerHost recordsWork args state op reply after) :
    ∃ next, discipline args.inputs custodian op reply next ∧ Recoverable args identity first next after := by
  obtain ⟨next, stepped, conserved⟩ := recoverable.conserved.step allowed answered
  refine ⟨next, stepped, recoverable.lawful.step reply allowed stepped, conserved, ?_⟩
  obtain ⟨host, ledger⟩ := state
  obtain ⟨host', ledger'⟩ := after
  obtain ⟨done, watched⟩ := answered
  dsimp only at done watched
  subst watched
  have filed := recoverable.filed
  have keep : ∀ next : Custodian, next.filed = custodian.filed → Filed args identity first next (host, ledger) :=
    fun next same => filed.same rfl (List.Subset.refl _) rfl rfl (fun _ => id) same
  cases op with
  | setDnsServers service servers =>
    cases reply with
    | error error => obtain ⟨-, rfl⟩ := done; cases stepped; exact keep _ rfl
    | ok value =>
      cases done
      cases stepped
      exact filed.setting recoverable.lawful recorded allowed.1 rfl rfl rfl rfl fun other apart =>
        ⟨Function.update_of_ne apart _ _, rfl⟩
  | setSearchDomains service domains =>
    cases reply with
    | error error =>
      obtain ⟨-, rfl⟩ := done
      cases stepped
      exact filed.same rfl (List.Subset.refl _) rfl rfl (fun _ => id) rfl
    | ok value =>
      cases done
      cases stepped
      exact filed.setting recoverable.lawful recorded allowed.1 rfl rfl rfl rfl fun other apart =>
        ⟨rfl, Function.update_of_ne apart _ _⟩
  | writeRecord record =>
    cases reply with
    | error error => exact nomatch done.1
    | ok value => cases done; exact filed.write recoverable.conserved recorded allowed stepped
  | removeRecord interface =>
    cases reply with
    | error error =>
      obtain ⟨-, removed⟩ := done
      cases stepped
      exact filed.remove recoverable.conserved recorded allowed removed
    | ok value =>
      cases stepped
      exact filed.remove recoverable.conserved recorded allowed (.inr done)
  | pushService captured =>
    cases done
    cases stepped
    refine filed.same rfl (List.Subset.refl _) rfl rfl (fun service held => ?_) rfl
    by_cases here : service = captured.service
    · simp [Ledger.observe, here]
    · simpa [Ledger.observe, Function.update_of_ne here] using held
  | retainServices without =>
    cases done
    cases stepped
    exact filed.same rfl (List.Subset.refl _) rfl rfl (fun _ => id) rfl
  | storeFingerprint fingerprint =>
    cases done
    cases stepped
    exact filed.same rfl (List.Subset.refl _) rfl rfl (fun _ => id) rfl
  | listNetworkServices =>
    cases reply <;> obtain ⟨-, rfl⟩ := done <;> cases stepped <;> exact keep _ rfl
  | getDnsServers service =>
    cases reply <;> obtain ⟨-, rfl⟩ := done <;> cases stepped <;> exact keep _ rfl
  | getSearchDomains service =>
    cases reply <;> obtain ⟨-, rfl⟩ := done <;> cases stepped <;> exact keep _ rfl
  | dnsState =>
    obtain ⟨-, rfl⟩ := done
    obtain ⟨-, rfl⟩ := stepped
    exact filed
  | ensureWatchSentinel =>
    cases reply with
    | error error => obtain ⟨-, rfl⟩ := done; cases stepped; exact filed
    | ok value => cases done; cases stepped; exact filed
  | recordPaths | readRecord _ | quarantineRecord _ | helperIsLive _ _ _ | loadAllConnections
  | removeStaleRuntimeFiles _ => exact absurd allowed id
  | _ =>
    cases done
    cases stepped
    exact filed

theorem Recoverable.tracks (recorded : args.custody = some identity) :
    Tracks args.inputs (discipline args.inputs) (ledgerHost recordsWork args) NobodyEdits
      (Recoverable args identity first) where
  step := fun _ _ _ _ _ recoverable allowed answered => recoverable.step recorded allowed answered
  others := by
    rintro custodian ⟨host, ledger⟩ ⟨host', ledger'⟩ recoverable ⟨rfl, memory, dns, search, records, listed⟩
    refine ⟨recoverable.lawful, recoverable.conserved.others ⟨rfl, memory, search, listed, ?_⟩, ?_⟩
    · intro service changed
      exact absurd (congrFun dns service) changed
    · exact recoverable.filed.same records listed dns search (fun _ => id) rfl

/-! ### The sweep after the kill -/

/-- The host once the daemon sees that the helper of an interface is dead. -/
def Host.dead (host : Host) (interface : String) : Host :=
  { host with live := Function.update host.live interface false }

/-- What a sweep makes of a service without a record. -/
def strayAction (interface : String) (scope : Scope) (host : Host) (service : String) : Option Action :=
  planStray ((deadRecord interface host).map Prod.snd) (sweptLists host scope) (service, host.dns service)

/-- The record on disk lists a service. -/
def Host.RecordLists (host : Host) (interface service : String) : Prop :=
  ∃ record, host.records.lookup interface = some (.record record) ∧ ∃ entry ∈ record.services, entry.service = service

section Plans

variable {interface : String} {scope : Scope} {service : String} {action : Action}

theorem liveOf_listing (listed : service ∈ host.listed) : liveOf (liveListing host) service = some (host.dns service) := by
  rw [liveListing]
  revert listed
  induction host.listed with
  | nil =>
    intro member
    exact absurd member List.not_mem_nil
  | cons head rest ih =>
    intro listed
    rw [liveOf, List.map_cons, List.find?_cons]
    by_cases here : head = service
    · simp [here]
    · have apart : (head == service) = false := by simpa using here
      simp only [apart]
      exact ih ((List.mem_cons.mp listed).resolve_left (Ne.symm here))

theorem mem_sweepPlan (member : action ∈ sweepPlan interface scope host) :
    (∃ record, host.records.lookup interface = some (.record record) ∧
      ∃ entry ∈ record.services, action = planService record (liveListing host) entry) ∨
    ∃ service ∈ host.listed, strayAction interface scope host service = some action := by
  rcases List.mem_append.mp member with planned | stray
  · obtain ⟨state, inside, planned⟩ := List.mem_flatMap.mp planned
    rw [deadRecord] at inside
    split at inside
    · rename_i record found
      obtain rfl := List.mem_singleton.mp inside
      obtain ⟨entry, recorded, rfl⟩ := List.mem_map.mp planned
      exact .inl ⟨record, found, entry, recorded, rfl⟩
    · exact absurd inside List.not_mem_nil
  · obtain ⟨entry, inside, planned⟩ := List.mem_filterMap.mp stray
    obtain ⟨service, listed, rfl⟩ := List.mem_map.mp inside
    exact .inr ⟨service, listed, planned⟩

/-- A stray is a service no record lists, and it is cleared. -/
theorem strayAction_eq (planned : strayAction interface scope host service = some action) :
    ¬host.RecordLists interface service ∧ ∃ live, host.dns service = some live ∧ action = .clearStray service live := by
  rw [strayAction, planStray] at planned
  split at planned
  · cases planned
  · rename_i unrecorded
    constructor
    · rintro ⟨record, found, entry, member, named⟩
      apply unrecorded
      simp only [deadRecord, found, List.map_cons, List.map_nil, List.any_cons, List.any_nil, Bool.or_false, List.any_eq_true]
      exact ⟨entry, member, by simpa using named⟩
    · cases live : host.dns service with
      | none => simp [live] at planned
      | some servers =>
        refine ⟨servers, rfl, ?_⟩
        simp only [live, Option.bind_eq_bind, Option.bind_some] at planned
        split at planned
        · exact (Option.some.inj planned).symm
        · cases planned

end Plans

/-- A helper's life up to the kill: everything can fail but the writing of its record. -/
def recoverySession (args : HelperArgs) : Session helperCommands (Host × Ledger) HelperPhase :=
  helperSession args (ledgerHost recordsWork args) NobodyEdits

section Swept

variable {scope : Scope} {service : String} {interface : String}

/-- A service whose record finds it changed, and one that is no stray, keep their settings. -/
theorem swept_untouched (interface : String) (scope : Scope) (unchanged : ∀ record, host.records.lookup interface = some (.record record) →
      ∀ entry ∈ record.services, entry.service = service → dnsListsEqual (host.dns service) record.tunnelDns = false)
    (foreign : service ∈ host.listed → strayAction interface scope host service = none) :
    let swept := (sweepPlan interface scope host).foldl Action.apply host
    swept.dns service = host.dns service ∧ swept.search service = host.search service := by
  apply apply_untouched
  intro action member aimed
  rcases mem_sweepPlan member with ⟨record, found, entry, recorded, rfl⟩ | ⟨other, listed, planned⟩
  · rw [planService] at aimed
    cases live : liveOf (liveListing host) entry.service with
    | none => simp [live, Action.target] at aimed
    | some servers =>
      simp only [live] at aimed
      split at aimed
      · rename_i shows
        cases aimed
        obtain ⟨read, first, rfl⟩ := Option.map_eq_some_iff.mp live
        have named : read.1 = entry.service := by simpa using List.find?_some first
        obtain ⟨name, -, rfl⟩ := List.mem_map.mp (List.mem_of_find?_eq_some first)
        subst named
        exact Bool.noConfusion ((unchanged record found entry recorded rfl).symm.trans shows)
      · exact nomatch aimed
  · obtain ⟨-, live, -, rfl⟩ := strayAction_eq planned
    cases aimed
    exact nomatch (foreign listed).symm.trans planned

theorem swept_cleared {action : Action} (listed : service ∈ host.listed)
    (planned : strayAction interface scope host service = some action) :
    ((sweepPlan interface scope host).foldl Action.apply host).dns service = none := by
  obtain ⟨unrecorded, live, shown, rfl⟩ := strayAction_eq planned
  refine apply_touched (fun dns _ => dns = none) (fun action member aimed before => ?_)
    ⟨.clearStray service live, ?_, rfl⟩
  · rcases mem_sweepPlan member with ⟨record, found, entry, recorded, rfl⟩ | ⟨other, -, planned'⟩
    · have here : entry.service = service := by
        rw [planService] at aimed
        split at aimed
        · exact nomatch aimed
        · split at aimed
          · exact Option.some.inj aimed
          · exact nomatch aimed
      exact absurd ⟨record, found, entry, recorded, here⟩ unrecorded
    · obtain ⟨-, live', -, rfl⟩ := strayAction_eq planned'
      cases aimed
      exact Function.update_self _ _ _
  · apply List.mem_append_right
    exact List.mem_filterMap.mpr ⟨_, List.mem_map_of_mem listed, planned⟩

/-- A recorded service that shows the tunnel's servers gets its original back. -/
theorem swept_restored {original : DnsCustodyService} {record : DnsCustodyRecord}
    (found : host.records.lookup interface = some (.record record))
    (only : ∀ entry ∈ record.services, entry.service = service → entry = original)
    (recorded : ∃ entry ∈ record.services, entry.service = service) (listed : service ∈ host.listed)
    (shows : dnsListsEqual (host.dns service) record.tunnelDns = true) :
    let swept := (sweepPlan interface scope host).foldl Action.apply host
    swept.dns service = original.originalDnsServers ∧ swept.search service = original.originalSearchDomains := by
  refine apply_touched (fun dns search => dns = original.originalDnsServers ∧
    search = original.originalSearchDomains) (fun action member aimed before => ?_) ?_
  · rcases mem_sweepPlan member with ⟨record', found', entry, inside, rfl⟩ | ⟨other, -, planned⟩
    · cases found.symm.trans found'
      rw [planService] at aimed ⊢
      split at aimed
      · cases aimed
      · split at aimed
        · cases aimed
          rename_i live shown equal
          simp only [if_pos equal, Action.apply, Host.setDns, Host.setSearch, Function.update_self]
          rw [only entry inside rfl]
          exact ⟨rfl, rfl⟩
        · cases aimed
    · obtain ⟨unrecorded, live, -, rfl⟩ := strayAction_eq planned
      cases aimed
      exact absurd ⟨record, found, recorded⟩ unrecorded
  · obtain ⟨entry, inside, rfl⟩ := recorded
    refine ⟨planService record (liveListing host) entry, ?_, ?_⟩
    · apply List.mem_append_left
      apply List.mem_flatMap.mpr
      refine ⟨⟨record, false⟩, ?_, ?_⟩
      · rw [deadRecord, found]
        exact List.mem_singleton_self _
      · exact List.mem_map_of_mem inside
    · rw [planService, liveOf_listing listed]
      simp [shows, Action.target]

end Swept

/-- Killed at any boundary between two effects, a helper leaves every service for the
sweep to find as it was before the connect, exactly if every service that does not
show the tunnel's servers is so already, and none passes for a stray. -/
theorem sweep_recovers_iff (recorded : args.custody = some identity) (nothing : first.memory.services = [])
    (empty : first.records = ∅) {state : Host × Ledger} {rest : HelperProgram HelperPhase}
    (reached : (recoverySession args).Reachable (fun phase state => phase = .ready ∧ state = (first, .start)) (state, rest))
    (originals : ∀ service, state.2.taken service = true → first.dns service ≠ some args.config.dnsServers)
    {scope : Scope} (covers : scope.includes identity.interface = true) :
    let killed := state.1.dead identity.interface
    (∃ outcome final, Completes workingHost (sweepLocked scope) killed outcome final) ∧
      ∀ outcome final, Completes workingHost (sweepLocked scope) killed outcome final →
        ((∀ service, InPlace first final service) ↔ ∀ service,
          (dnsListsEqual (killed.dns service) args.config.dnsServers = false → InPlace first killed service) ∧
          (service ∈ killed.listed → strayAction identity.interface scope killed service = none)) := by
  intro killed
  refine ⟨(hostEnvironment_total fun _ => false).completes _ _, fun outcome final completed => ?_⟩
  have starts : ∀ phase state, phase = HelperPhase.ready ∧ state = (first, Ledger.start) →
      TrackedAtRest args (Recoverable args identity first) phase state := by
    rintro phase _ ⟨rfl, rfl⟩
    refine ⟨.start, phaseAtRest_start args, .start _, .start nothing, ?_⟩
    exact ⟨fun path file found => by simp [empty] at found, fun record found => by simp [empty] at found,
      fun absurd => absurd rfl |>.elim, fun _ _ _ => ⟨rfl, rfl⟩⟩
  obtain ⟨custodian, recoverable⟩ := (Recoverable.tracks recorded).kept.reachable starts reached
  have filed := recoverable.filed
  have only : OnlyRecord identity.interface killed := filed.files
  have dead : killed.live identity.interface = false := Function.update_self _ _ _
  obtain ⟨dns, search⟩ := (sweepLocked_works only dead covers).completes completed
  -- A service the record does not list has not been written to since it was last in place.
  have unrecorded : ∀ service, ¬killed.RecordLists identity.interface service → InPlace first killed service := by
    intro service absent
    apply filed.unfiled service _ (originals service)
    intro entry member named
    obtain ⟨record, found, lists⟩ := filed.disk (List.ne_nil_of_mem member)
    exact absent ⟨record, found, entry, lists ▸ member, named⟩
  have asItWas : ∀ service, InPlace first final service ↔
      InPlace first ((sweepPlan identity.interface scope killed).foldl Action.apply killed) service := by
    intro service
    rw [InPlace, InPlace, dns, search]
  have changed : ∀ service, dnsListsEqual (killed.dns service) args.config.dnsServers = false →
      ∀ record, killed.records.lookup identity.interface = some (.record record) →
      ∀ entry ∈ record.services, entry.service = service →
        dnsListsEqual (killed.dns service) record.tunnelDns = false := by
    intro service different record found entry _ _
    rw [(filed.entries record found).1]
    exact different
  constructor
  · intro restored service
    constructor
    · intro different
      by_cases lists : killed.RecordLists identity.interface service
      · have untouched := swept_untouched _ scope (changed service different) fun listed => by
          by_contra stray
          obtain ⟨action, planned⟩ := Option.ne_none_iff_exists'.mp stray
          exact (strayAction_eq planned).1 lists
        have place := (asItWas service).mp (restored service)
        rw [InPlace, untouched.1, untouched.2] at place
        exact place
      · exact unrecorded service lists
    · intro listed
      by_contra stray
      obtain ⟨action, planned⟩ := Option.ne_none_iff_exists'.mp stray
      obtain ⟨absent, live, shown, -⟩ := strayAction_eq planned
      have gone := swept_cleared listed planned
      have place := (asItWas service).mp (restored service)
      have before := unrecorded service absent
      rw [InPlace, gone, ← before.1, shown] at place
      cases place.1
  · intro condition service
    rw [asItWas]
    obtain ⟨stays, foreign⟩ := condition service
    by_cases different : dnsListsEqual (killed.dns service) args.config.dnsServers = false
    · obtain ⟨dns, search⟩ := swept_untouched _ scope (changed service different) foreign
      rw [InPlace, dns, search]
      exact stays different
    · by_cases lists : killed.RecordLists identity.interface service
      · obtain ⟨record, found, entry, inside, rfl⟩ := lists
        obtain ⟨tunnel, each⟩ := filed.entries record found
        have original : ∀ other ∈ record.services, other.service = entry.service →
            other = (first.original entry.service).toCustody := by
          intro other member same
          obtain ⟨taken, -, saved⟩ := each other member
          rw [saved (originals _ taken), same]
        have shows : dnsListsEqual (killed.dns entry.service) record.tunnelDns = true := by
          rw [tunnel]
          exact Bool.eq_true_of_not_eq_false different
        exact swept_restored found original ⟨entry, inside, rfl⟩ (each entry inside).2.1 shows
      · obtain ⟨dns, search⟩ := swept_untouched identity.interface scope
          (fun record found entry member named => absurd ⟨record, found, entry, member, named⟩ lists) foreign
        rw [InPlace, dns, search]
        exact unrecorded service lists

/-! ### The laptop with its helper killed -/

def recoveryScript : Handler helperCommands ((Host × Nat) × Ledger) :=
  helperScript recordsWork (fun _ => .working (some "Wi-Fi")) (Ledger.observe exampleArgs.inputs.dnsServers)

/-- Killed in the middle of its connect, with both settings of its first service written. -/
def killedInConnect : (Host × Nat) × Ledger :=
  (interpretFor recoveryScript 18 (((exampleHost, 0), .start), connectProgram exampleArgs)).1

theorem sweep_recovers_connect :
    let killed := killedInConnect.1.1.dead exampleIdentity.interface
    let scope := Scope.interface exampleIdentity.interface
    (∃ outcome final, Completes workingHost (sweepLocked scope) killed outcome final) ∧
      ∀ outcome final, Completes workingHost (sweepLocked scope) killed outcome final →
        ((∀ service, InPlace exampleHost final service) ↔ ∀ service,
          (dnsListsEqual (killed.dns service) exampleArgs.config.dnsServers = false →
            InPlace exampleHost killed service) ∧
          (service ∈ killed.listed → strayAction exampleIdentity.interface scope killed service = none)) := by
  have start : (recoverySession exampleArgs).Reachable (fun phase state => phase = .ready ∧ state = (exampleHost, .start))
      ((exampleHost, .start), .done .ready) := .begin ⟨rfl, rfl⟩
  have faithful := helperScript_faithful recordsWork (fun _ => .working (some "Wi-Fi"))
    (Ledger.observe exampleArgs.inputs.dnsServers)
  have reached := start.scripted faithful ((exampleHost, 0), .start) ⟨rfl, .connect⟩ 18
  have before : ∀ service, exampleHost.dns service ≠ some exampleArgs.config.dnsServers := by
    intro service
    show (if service = "Wi-Fi" then some ["192.168.1.1"] else none) ≠ some ["10.64.0.1"]
    split <;> decide
  exact sweep_recovers_iff rfl rfl rfl reached (fun service _ => before service) rfl

/-- The laptop with its helper up, and killed between the two writes of its teardown. -/
def helperUp : (Host × Nat) × Ledger :=
  (interpret recoveryScript (connectProgram exampleArgs) ((exampleHost, 0), .start)).2

def killedInTeardown : (Host × Nat) × Ledger :=
  (interpretFor recoveryScript 2 (helperUp, teardownProgram ⟨false, exampleArgs.inputs⟩ ⟨[], ⟨[], none⟩, []⟩)).1

/-- The sweep takes the restored servers for a change by the user, and the search
domains of the service are lost. -/
theorem sweep_loses_search_domains :
    ∃ state rest, (recoverySession exampleArgs).Reachable
      (fun phase state => phase = .ready ∧ state = (exampleHost, .start)) (state, rest) ∧
      (∀ service, exampleHost.dns service ≠ some exampleArgs.config.dnsServers) ∧
      ∃ outcome final, Completes workingHost (sweepLocked (.interface exampleIdentity.interface))
        (state.1.dead exampleIdentity.interface) outcome final ∧ ¬∀ service, InPlace exampleHost final service := by
  have start : (recoverySession exampleArgs).Reachable (fun phase state => phase = .ready ∧ state = (exampleHost, .start))
      ((exampleHost, .start), .done .ready) := .begin ⟨rfl, rfl⟩
  have faithful := helperScript_faithful recordsWork (fun _ => .working (some "Wi-Fi"))
    (Ledger.observe exampleArgs.inputs.dnsServers)
  have up : (interpret recoveryScript (connectProgram exampleArgs) ((exampleHost, 0), .start)).1 =
      .up ⟨false, exampleArgs.inputs⟩ ⟨[], ⟨[], none⟩, []⟩ := by decide +kernel
  have connected := start.completed faithful ((exampleHost, 0), .start) ⟨rfl, .connect⟩ up
  have killed := connected.scripted faithful helperUp ⟨rfl, .teardown⟩ 2
  have swept := interpret_completes (scripted_faithful (fun _ => false) fun _ => .working none)
    (killedInTeardown.1.1.dead exampleIdentity.interface, 0) (sweepLocked (.interface exampleIdentity.interface))
  refine ⟨_, _, killed, ?_, _, _, swept, fun restored => ?_⟩
  · intro service
    show (if service = "Wi-Fi" then some ["192.168.1.1"] else none) ≠ some ["10.64.0.1"]
    split <;> decide
  · exact absurd (restored "Wi-Fi").2 (by decide +kernel)

end Wgd.Dns
