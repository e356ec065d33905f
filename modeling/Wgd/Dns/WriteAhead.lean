import Wgd.Dns.Script

/-! The custody record is written ahead: at every moment it lists each service the
helper has written to and not yet put back, with the original captured for it. -/

set_option autoImplicit false

namespace Wgd.Dns

open Wgd.Helper Wgd.Interaction

/-- What an observer of the helper's commands remembers of each service. -/
structure Watch where
  /-- The last original the helper saved. -/
  captured : String → Option MacosDnsServiceState
  /-- The last servers the helper wrote. -/
  servers : String → Option Setting
  /-- Written to, and neither put back completely nor dropped since. -/
  unrestored : String → Bool
  /-- The last listing. -/
  listing : List String

namespace Watch

def start : Watch := ⟨fun _ => none, fun _ => none, fun _ => false, []⟩

/-- Whether writing these search domains completes putting the service back. -/
def putsBack (watch : Watch) (service : String) (domains : Setting) : Bool :=
  (watch.captured service).any fun state =>
    watch.servers service == some state.dnsServers && domains == state.searchDomains

/-- A write marks its service until both settings are back, in this order; a
service the helper forgets because it has left the listing is dropped. -/
def observe (watch : Watch) : (op : DnsOp) → op.Reply → Watch
  | .listNetworkServices, .ok services => { watch with listing := services }
  | .pushService state, () => { watch with captured := Function.update watch.captured state.service (some state) }
  | .setDnsServers service servers, .ok () => { watch with
      servers := Function.update watch.servers service (some servers)
      unrestored := Function.update watch.unrestored service true }
  | .setSearchDomains service domains, .ok () => { watch with
      unrestored := Function.update watch.unrestored service (!watch.putsBack service domains) }
  | .retainServices without, () =>
    if without ∈ watch.listing then watch
    else { watch with unrestored := Function.update watch.unrestored without false }
  | _, _ => watch

end Watch

/-- The host with its custody writes succeeding, under observation. -/
def watchedHost : Environment dnsCommands (Host × Watch) := (hostEnvironment recordsWork).observe Watch.observe

/-- Others may change anything but the helper's memory and its record. -/
def OthersChange (interface : String) (before after : Host × Watch) : Prop :=
  after.2 = before.2 ∧ after.1.memory = before.1.memory ∧ after.1.records.lookup interface = before.1.records.lookup interface

/-- The record on disk lists exactly these services. -/
def OnDisk (host : Host) (interface : String) (services : List DnsCustodyService) : Prop :=
  ∃ record, host.records.lookup interface = some (.record record) ∧ record.services = services

/-- How the host and the watch stand to the protocol's state. -/
structure WrittenAhead (inputs : MacosReconcileInputs) (interface : String) (custodian : Custodian)
    (state : Host × Watch) : Prop where
  lawful : Lawful inputs custodian
  memory : state.1.memory.services = custodian.owned
  disk : custodian.filed ≠ [] → OnDisk state.1 interface custodian.filed
  captured : ∀ owner ∈ custodian.owned, state.2.captured owner.service = some owner
  listing : state.2.listing = custodian.listing
  half : ∀ service, custodian.half = some service → ∀ owner ∈ custodian.owned, owner.service = service →
    state.2.servers service = some owner.dnsServers
  held : ∀ service, state.2.unrestored service = true → service ∉ custodian.back ∧
    ∃ owner ∈ custodian.owned, owner.service = service ∧ owner.toCustody ∈ custodian.filed

namespace WrittenAhead

variable {inputs : MacosReconcileInputs} {identity : DnsCustodyIdentity} {custodian next : Custodian}
  {host : Host} {watch : Watch}

/-- Commands that touch neither the memory, nor the record, nor any setting the helper wrote. -/
theorem same {host' : Host} {watch' : Watch} (ahead : WrittenAhead inputs identity.interface custodian (host, watch))
    (lawful : Lawful inputs next) (memory : host'.memory.services = host.memory.services)
    (records : host'.records = host.records)
    (captured : watch'.captured = watch.captured) (servers : watch'.servers = watch.servers)
    (unrestored : watch'.unrestored = watch.unrestored) (listing : watch'.listing = next.listing)
    (holdings : SameHoldings custodian next) (half : next.half = custodian.half ∨ next.half = none) :
    WrittenAhead inputs identity.interface next (host', watch') where
  lawful := lawful
  memory := by rw [memory, holdings.owned]; exact ahead.memory
  disk := by rw [OnDisk, records, holdings.filed]; exact ahead.disk
  captured := by rw [captured, holdings.owned]; exact ahead.captured
  listing := listing
  half := by
    intro service here
    rw [servers, holdings.owned]
    rcases half with kept | cleared
    · exact ahead.half service (kept ▸ here)
    · exact nomatch cleared ▸ here
  held := by rw [unrestored, holdings.back, holdings.owned, holdings.filed]; exact ahead.held

section Steps

variable (ahead : WrittenAhead inputs identity.interface custodian (host, watch))
include ahead

/-- Only a recorded service is written to, so a write may mark it. -/
theorem setDns (recorded : inputs.custody = some identity) {service : String} {servers : Setting}
    (allowed : allows inputs custodian (.setDnsServers service servers))
    (stepped : discipline inputs custodian (.setDnsServers service servers) (.ok ()) next) :
    WrittenAhead inputs identity.interface next
      (host.setDns service servers, watch.observe (.setDnsServers service servers) (.ok ())) := by
  have lawful := ahead.lawful.step _ allowed stepped
  cases stepped
  obtain ⟨⟨owner, owns, rfl, filed⟩, kind⟩ := allowed
  have recording : Recording inputs :=
    ⟨by simp [recorded], ahead.lawful.promoting (List.ne_nil_of_mem owns)⟩
  refine ⟨lawful, ahead.memory, ahead.disk, ahead.captured, ahead.listing, ?_, ?_⟩
  · intro service here other owns' named
    dsimp only at here
    split at here
    · exact nomatch here
    · rename_i restoring
      cases here
      obtain ⟨original, owns'', named', rfl⟩ := kind.resolve_left restoring
      have same := ahead.lawful.proper.distinct other owns' original owns'' (named.trans named'.symm)
      simp [Watch.observe, same]
  · intro service marked
    by_cases same : service = owner.service
    · subst same
      exact ⟨by simp, owner, owns, rfl, filed recording⟩
    · simp only [Watch.observe, Function.update_of_ne same] at marked
      obtain ⟨waiting, holder⟩ := ahead.held service marked
      exact ⟨fun back => waiting (List.mem_of_mem_filter back), holder⟩

/-- The second write of a restore completes it, and the mark goes. -/
theorem setSearch (recorded : inputs.custody = some identity) {service : String} {domains : Setting}
    (allowed : allows inputs custodian (.setSearchDomains service domains))
    (stepped : discipline inputs custodian (.setSearchDomains service domains) (.ok ()) next) :
    WrittenAhead inputs identity.interface next
      (host.setSearch service domains, watch.observe (.setSearchDomains service domains) (.ok ())) := by
  have lawful := ahead.lawful.step _ allowed stepped
  cases stepped
  obtain ⟨⟨owner, owns, rfl, filed⟩, kind⟩ := allowed
  have recording : Recording inputs :=
    ⟨by simp [recorded], ahead.lawful.promoting (List.ne_nil_of_mem owns)⟩
  refine ⟨lawful, ahead.memory, ahead.disk, ahead.captured, ahead.listing, nofun, ?_⟩
  intro service marked
  by_cases same : service = owner.service
  · subst same
    refine ⟨?_, owner, owns, rfl, filed recording⟩
    dsimp only
    split
    · rename_i restoring
      -- Both settings are back, so the service cannot still be marked.
      rcases kind with ⟨writing, -⟩ | ⟨-, original, owns', named, rfl⟩
      · exact absurd restoring writing
      · have put : watch.putsBack owner.service original.searchDomains = true := by
          have captured := ahead.captured owner owns
          have servers := ahead.half _ restoring owner owns rfl
          dsimp only at captured servers
          have one := ahead.lawful.proper.distinct original owns' owner owns named
          simp [Watch.putsBack, captured, servers, one]
        simp [Watch.observe, put] at marked
    · simp
  · simp only [Watch.observe, Function.update_of_ne same] at marked
    obtain ⟨waiting, holder⟩ := ahead.held service marked
    refine ⟨?_, holder⟩
    dsimp only
    split
    · exact fun back => waiting ((List.mem_cons.mp back).resolve_left same)
    · exact fun back => waiting (List.mem_of_mem_filter back)

theorem write (recorded : inputs.custody = some identity) {record : DnsCustodyRecord}
    (allowed : allows inputs custodian (.writeRecord record))
    (stepped : discipline inputs custodian (.writeRecord record) (.ok ()) next) :
    WrittenAhead inputs identity.interface next (host.putRecord record.interface (some (.record record)), watch) := by
  have lawful := ahead.lawful.step _ allowed stepped
  cases stepped
  obtain ⟨identity', services, custody, ⟨-, accounted⟩, rfl⟩ := allowed
  cases recorded.symm.trans custody
  refine ⟨lawful, ahead.memory, fun _ => ⟨_, Host.lookup_putRecord _ _ _, rfl⟩, ahead.captured, ahead.listing,
    ahead.half, fun service marked => ?_⟩
  obtain ⟨waiting, owner, owns, rfl, -⟩ := ahead.held service marked
  refine ⟨waiting, owner, owns, rfl, ?_⟩
  exact List.mem_map_of_mem ((accounted owner owns).resolve_right waiting)

theorem remove {interface : String} {host' : Host} (reply : Except String Unit)
    (allowed : allows inputs custodian (.removeRecord interface))
    (stepped : discipline inputs custodian (.removeRecord interface) reply next) (memory : host'.memory = host.memory) :
    WrittenAhead inputs identity.interface next (host', watch) := by
  have lawful := ahead.lawful.step _ allowed stepped
  cases stepped
  obtain ⟨-, -, accounted⟩ := allowed
  refine ⟨lawful, memory ▸ ahead.memory, fun some => absurd rfl some, ahead.captured, ahead.listing, ahead.half,
    fun service marked => ?_⟩
  obtain ⟨waiting, owner, owns, rfl, -⟩ := ahead.held service marked
  exact absurd ((accounted owner owns).resolve_left List.not_mem_nil) waiting

theorem push {state : MacosDnsServiceState} (allowed : allows inputs custodian (.pushService state))
    (stepped : discipline inputs custodian (.pushService state) () next) :
    WrittenAhead inputs identity.interface next
      (host.setServices (host.memory.services ++ [state]), watch.observe (.pushService state) ()) := by
  have lawful := ahead.lawful.step _ allowed stepped
  cases stepped
  obtain ⟨-, -, -, new, -⟩ := allowed
  have memory : host.memory.services = custodian.owned := ahead.memory
  refine ⟨lawful, ?_, ahead.disk, fun owner owns => ?_, ahead.listing, nofun, fun service marked => ?_⟩
  · simp only [Host.setServices, memory]
  · rw [List.mem_append, List.mem_singleton] at owns
    rcases owns with owns | rfl
    · simp only [Watch.observe, Function.update_of_ne (new owner owns)]
      exact ahead.captured owner owns
    · simp [Watch.observe]
  · obtain ⟨waiting, owner, owns, holder⟩ := ahead.held service marked
    exact ⟨fun back => waiting (List.mem_of_mem_filter back), owner, List.mem_append_left _ owns, holder⟩

theorem retain {without : String} (allowed : allows inputs custodian (.retainServices without))
    (stepped : discipline inputs custodian (.retainServices without) () next) :
    WrittenAhead inputs identity.interface next
      (host.setServices (retained without host.memory.services), watch.observe (.retainServices without) ()) := by
  have lawful := ahead.lawful.step _ allowed stepped
  cases stepped
  have stays : ∀ service, service ≠ without → watch.unrestored service = true → service ∉ custodian.back ∧
      ∃ owner ∈ retained without custodian.owned, owner.service = service ∧ owner.toCustody ∈ custodian.filed := by
    intro service different marked
    obtain ⟨waiting, owner, owns, rfl, filed⟩ := ahead.held service marked
    exact ⟨waiting, owner, mem_retained.mpr ⟨owns, different⟩, rfl, filed⟩
  have kept := fun owner owns => ahead.captured owner (retained_subset without _ owns)
  have half := fun service here owner owns => ahead.half service here owner (retained_subset without _ owns)
  have before : host.memory.services = custodian.owned := ahead.memory
  have memory : (host.setServices (retained without host.memory.services)).memory.services =
      retained without custodian.owned := by
    simp only [Host.setServices, before]
  rw [Watch.observe]
  by_cases listed : without ∈ watch.listing
  · rw [if_pos listed]
    refine ⟨lawful, memory, ahead.disk, kept, ahead.listing, half, fun service marked => ?_⟩
    refine stays service ?_ marked
    rintro rfl
    obtain ⟨waiting, owner, owns, named, -⟩ := ahead.held service marked
    rcases allowed with back | vanished | absent
    · exact waiting back
    · exact vanished (ahead.listing ▸ listed)
    · exact absent owner owns named
  · rw [if_neg listed]
    refine ⟨lawful, memory, ahead.disk, kept, ahead.listing, half, fun service marked => ?_⟩
    by_cases same : service = without
    · simp [same] at marked
    · exact stays service same (by simpa [Function.update_of_ne same] using marked)

end Steps

/-- Every command the protocol allows keeps the record ahead. -/
theorem step (recorded : inputs.custody = some identity) {state after : Host × Watch} {op : DnsOp} {reply : op.Reply}
    (ahead : WrittenAhead inputs identity.interface custodian state) (allowed : allows inputs custodian op)
    (answered : watchedHost state op reply after) :
    ∃ next, discipline inputs custodian op reply next ∧ WrittenAhead inputs identity.interface next after := by
  obtain ⟨host, watch⟩ := state
  obtain ⟨host', watch'⟩ := after
  obtain ⟨done, watched⟩ := answered
  dsimp only at done watched
  subst watched
  have lawful : ∀ next, discipline inputs custodian op reply next → Lawful inputs next :=
    fun _ stepped => ahead.lawful.step reply allowed stepped
  cases op with
  | listNetworkServices =>
    rcases reply with error | services
    · obtain ⟨-, rfl⟩ := done
      exact ⟨_, rfl, ahead⟩
    · obtain ⟨-, rfl⟩ := done
      exact ⟨_, rfl, ahead.same (lawful _ rfl) rfl rfl rfl rfl rfl rfl ⟨rfl, rfl, rfl⟩ (.inl rfl)⟩
  | getDnsServers service =>
    rcases reply with error | servers <;> obtain ⟨-, rfl⟩ := done
    · exact ⟨_, rfl, ahead⟩
    · exact ⟨_, rfl, ahead.same (lawful _ rfl) rfl rfl rfl rfl rfl ahead.listing ⟨rfl, rfl, rfl⟩ (.inl rfl)⟩
  | getSearchDomains service =>
    rcases reply with error | domains <;> obtain ⟨-, rfl⟩ := done
    · exact ⟨_, rfl, ahead⟩
    · exact ⟨_, rfl, ahead.same (lawful _ rfl) rfl rfl rfl rfl rfl ahead.listing ⟨rfl, rfl, rfl⟩ (.inl rfl)⟩
  | setDnsServers service servers =>
    rcases reply with error | ⟨⟩
    · obtain ⟨-, rfl⟩ := done
      exact ⟨_, rfl, ahead.same (lawful _ rfl) rfl rfl rfl rfl rfl ahead.listing ⟨rfl, rfl, rfl⟩ (.inr rfl)⟩
    · cases done
      exact ⟨_, rfl, ahead.setDns recorded allowed rfl⟩
  | setSearchDomains service domains =>
    rcases reply with error | ⟨⟩
    · obtain ⟨-, rfl⟩ := done
      exact ⟨_, rfl, ahead.same (lawful _ rfl) rfl rfl rfl rfl rfl ahead.listing ⟨rfl, rfl, rfl⟩ (.inr rfl)⟩
    · cases done
      exact ⟨_, rfl, ahead.setSearch recorded allowed rfl⟩
  | writeRecord record =>
    rcases reply with error | ⟨⟩
    · exact nomatch done.1
    · cases done
      exact ⟨_, rfl, ahead.write recorded allowed rfl⟩
  | removeRecord interface =>
    rcases reply with error | ⟨⟩
    · obtain ⟨-, rfl | rfl⟩ := done <;> exact ⟨_, rfl, ahead.remove (.error error) allowed rfl rfl⟩
    · cases done
      exact ⟨_, rfl, ahead.remove (.ok ()) allowed rfl rfl⟩
  | pushService state =>
    cases done
    exact ⟨_, rfl, ahead.push allowed rfl⟩
  | retainServices without =>
    cases done
    exact ⟨_, rfl, ahead.retain allowed rfl⟩
  | dnsState =>
    obtain ⟨rfl, rfl⟩ := done
    exact ⟨_, ⟨ahead.memory, rfl⟩, ahead⟩
  | storeFingerprint fingerprint =>
    cases done
    exact ⟨_, rfl, ahead.same ahead.lawful rfl rfl rfl rfl rfl ahead.listing (.refl _) (.inl rfl)⟩
  | ensureWatchSentinel =>
    rcases reply with error | ⟨⟩
    · obtain ⟨-, rfl⟩ := done
      exact ⟨_, rfl, ahead⟩
    · cases done
      exact ⟨_, rfl, ahead⟩
  | recordPaths | readRecord _ | quarantineRecord _ | helperIsLive _ _ _ | loadAllConnections
  | removeStaleRuntimeFiles _ => exact absurd allowed id
  | _ =>
    cases done
    exact ⟨_, rfl, ahead⟩

theorem same_host {before after : Host × Watch} (ahead : WrittenAhead inputs identity.interface custodian before)
    (changed : OthersChange identity.interface before after) :
    WrittenAhead inputs identity.interface custodian after where
  lawful := ahead.lawful
  memory := by rw [changed.2.1]; exact ahead.memory
  disk := by rw [OnDisk, changed.2.2]; exact ahead.disk
  captured := by rw [changed.1]; exact ahead.captured
  listing := by rw [changed.1]; exact ahead.listing
  half := by rw [changed.1]; exact ahead.half
  held := by rw [changed.1]; exact ahead.held

theorem tracks {args : HelperArgs} (recorded : args.custody = some identity) :
    Tracks args.inputs (discipline args.inputs) watchedHost (OthersChange identity.interface)
      (WrittenAhead args.inputs identity.interface) where
  step := fun _ _ _ _ _ ahead allowed answered => ahead.step recorded allowed answered
  others := fun _ _ _ ahead changed => ahead.same_host changed

theorem start (memory : host.memory.services = []) :
    WrittenAhead inputs identity.interface .start (host, Watch.start) :=
  ⟨.start inputs, memory, fun absurd => absurd rfl |>.elim, nofun, rfl, nofun, nofun⟩

end WrittenAhead

/-- A helper that owns nothing yet, and an observer that has seen nothing. -/
def Unstarted (phase : HelperPhase) (state : Host × Watch) : Prop :=
  phase = .ready ∧ state.1.memory.services = [] ∧ state.2 = .start

/-- At every boundary between two effects of the helper, each service it has
written to and not yet restored is in its record on disk, with the original that
was captured for it and no other. -/
theorem custody_written_ahead {args : HelperArgs} {identity : DnsCustodyIdentity} (recorded : args.custody = some identity)
    {host : Host} {watch : Watch} {rest : HelperProgram HelperPhase}
    (reached : (helperSession args watchedHost (OthersChange identity.interface)).Reachable Unstarted
      ((host, watch), rest)) (service : String) (unrestored : watch.unrestored service = true) :
    ∃ original record, watch.captured service = some original ∧ original.service = service ∧
      host.records.lookup identity.interface = some (.record record) ∧ original.toCustody ∈ record.services ∧
      ∀ entry ∈ record.services, entry.service = service → entry = original.toCustody := by
  have starts : ∀ phase state, Unstarted phase state →
      TrackedAtRest args (WrittenAhead args.inputs identity.interface) phase state := by
    rintro phase ⟨host, watch⟩ ⟨rfl, nothing, rfl⟩
    exact ⟨.start, phaseAtRest_start args, WrittenAhead.start nothing⟩
  obtain ⟨custodian, ahead⟩ := (WrittenAhead.tracks recorded).kept.reachable starts reached
  obtain ⟨-, owner, owns, rfl, filed⟩ := ahead.held service unrestored
  obtain ⟨record, stored, lists⟩ := ahead.disk (List.ne_nil_of_mem filed)
  refine ⟨owner, record, ahead.captured owner owns, rfl, stored, lists ▸ filed, fun entry listed same => ?_⟩
  exact ahead.lawful.filed entry (lists ▸ listed) owner owns same.symm

/-- A helper that has just written to its first service. -/
theorem custody_written_ahead_connect :
    let run := interpretFor (helperScript recordsWork (fun _ => .working (some "Wi-Fi")) Watch.observe) 16
      (((exampleHost, 0), Watch.start), connectProgram exampleArgs)
    run.1.2.unrestored "Wi-Fi" = true ∧ ∃ original record, run.1.2.captured "Wi-Fi" = some original ∧
      original.service = "Wi-Fi" ∧ run.1.1.1.records.lookup exampleIdentity.interface = some (.record record) ∧
      original.toCustody ∈ record.services ∧
      ∀ entry ∈ record.services, entry.service = "Wi-Fi" → entry = original.toCustody :=
  have start : (helperSession exampleArgs watchedHost (OthersChange exampleIdentity.interface)).Reachable Unstarted
      ((exampleHost, .start), .done .ready) := .begin ⟨rfl, rfl, rfl⟩
  have reached := start.scripted (helperScript_faithful recordsWork _ Watch.observe) ((exampleHost, 0), .start) ⟨rfl, .connect⟩ 16
  ⟨by decide +kernel, custody_written_ahead rfl reached "Wi-Fi" (by decide +kernel)⟩

end Wgd.Dns
