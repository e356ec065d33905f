import Wgd.Dns.Script
import Wgd.Dns.SweepConduct

/-! What a dead helper has left in custody: one original, in the record of its
interface, until it is put back. Sweeps and reconnects keep it as long as no read
mistakes a half-done restore for a change by the user. -/

set_option autoImplicit false

namespace Wgd.Dns

open Wgd.Helper Wgd.Interaction
open Wgd.Routes (routeCommands)

/-- The original of one service in the record of one interface. -/
structure Deposit where
  interface : String
  tunnelDns : List String
  entry : DnsCustodyService
  deriving DecidableEq, Repr

/-- What has become of a deposit. -/
structure Account where
  /-- A dead helper recorded it, and nobody but wgd has changed the service since. -/
  left : Bool
  dnsBack : Bool
  searchBack : Bool
  /-- The helper of a connection is running. -/
  alive : Bool
  deriving DecidableEq, Repr

/-- The deposit still has to be put back. -/
def Account.due (account : Account) : Bool := account.left && !(account.dnsBack && account.searchBack)

namespace Deposit

variable (deposit : Deposit)

def RecordedIn (record : DnsCustodyRecord) : Prop :=
  record.interface = deposit.interface ∧ record.tunnelDns = deposit.tunnelDns ∧ deposit.entry ∈ record.services

/-- The record on disk lists the deposit. -/
def OnDisk (host : Host) : Prop :=
  ∃ record, host.records.lookup deposit.interface = some (.record record) ∧ deposit.RecordedIn record

/-- The service shows the servers of the tunnel it was left by. -/
def shows (host : Host) : Bool := dnsListsEqual (host.dns deposit.entry.service) deposit.tunnelDns

/-- A write of a recorded setting, by whatever part of wgd, counts towards the deposit. -/
def observe (account : Account) : (op : DnsOp) → op.Reply → Account
  | .setDnsServers service servers, .ok () =>
    if service = deposit.entry.service ∧ servers = deposit.entry.originalDnsServers then { account with dnsBack := true }
    else account
  | .setSearchDomains service domains, .ok () =>
    if service = deposit.entry.service ∧ domains = deposit.entry.originalSearchDomains then
      { account with searchBack := true }
    else account
  | _, _ => account

end Deposit

/-- Every command can fail but the read of a record file. -/
def recordsReadable : DnsOp → Bool
  | .readRecord _ => false
  | _ => true

def depositHost (deposit : Deposit) : Environment dnsCommands (Host × Account) :=
  (hostEnvironment recordsReadable).observe deposit.observe

/-- No read finds the service of a due deposit without the tunnel's servers. -/
def readsTunnel (deposit : Deposit) (state : Host × Account) (op : DnsOp) : Bool :=
  !(op == .getDnsServers deposit.entry.service && state.2.due) || deposit.shows state.1

/-- Others may change anything but the record. Whoever moves the service off the
tunnel's servers may be the user, who is then left alone. -/
structure OthersAct (deposit : Deposit) (before after : Host × Account) : Prop where
  records : after.1.records.lookup deposit.interface = before.1.records.lookup deposit.interface
  account : after.2 = before.2 ∨
    deposit.shows before.1 = true ∧ deposit.shows after.1 = false ∧ after.2 = { before.2 with left := false }

/-- While the deposit is due, the record lists it and no sweep has a reason to drop it. -/
structure Due (deposit : Deposit) (sweeper : Sweeper) (host : Host) (account : Account) : Prop where
  onDisk : deposit.OnDisk host
  held : ∀ record, sweeper.held deposit.interface = some record →
    host.records.lookup deposit.interface = some (.record record)
  sound : sweeper.broken deposit.interface = false
  seen : ∀ servers, (deposit.entry.service, servers) ∈ sweeper.seen → dnsListsEqual servers deposit.tunnelDns = true
  half : ∀ servers, sweeper.half = some (deposit.entry.service, servers) →
    servers = deposit.entry.originalDnsServers → account.dnsBack = true
  back : (deposit.entry.service, deposit.entry.originalDnsServers, deposit.entry.originalSearchDomains) ∉ sweeper.back

def Kept (deposit : Deposit) (sweeper : Sweeper) (state : Host × Account) : Prop :=
  state.2.due = true → Due deposit sweeper state.1 state.2

variable {deposit : Deposit}

/-- Writes only ever bring a deposit nearer to being put back. -/
theorem due_before {account : Account} {op : DnsOp} {reply : op.Reply}
    (due : (deposit.observe account op reply).due = true) :
    account.due = true ∧ (account.dnsBack = true → (deposit.observe account op reply).dnsBack = true) := by
  cases op with
  | setDnsServers service servers =>
    cases reply with
    | error error => exact ⟨due, id⟩
    | ok value =>
      by_cases recorded : service = deposit.entry.service ∧ servers = deposit.entry.originalDnsServers
      · simp only [Deposit.observe, if_pos recorded] at due ⊢
        simp_all [Account.due]
      · simp only [Deposit.observe, if_neg recorded] at due ⊢
        exact ⟨due, id⟩
  | setSearchDomains service domains =>
    cases reply with
    | error error => exact ⟨due, id⟩
    | ok value =>
      by_cases recorded : service = deposit.entry.service ∧ domains = deposit.entry.originalSearchDomains
      · simp only [Deposit.observe, if_pos recorded] at due ⊢
        simp_all [Account.due]
      · simp only [Deposit.observe, if_neg recorded] at due ⊢
        exact ⟨due, id⟩
  | _ => exact ⟨due, id⟩

namespace Due

variable {sweeper next : Sweeper} {host host' : Host} {account account' : Account}

/-- Steps that leave the record alone and tell the sweep nothing. -/
theorem same (due : Due deposit sweeper host account) (later : account.dnsBack = true → account'.dnsBack = true)
    (records : host'.records.lookup deposit.interface = host.records.lookup deposit.interface) :
    Due deposit sweeper host' account' where
  onDisk := by rw [Deposit.OnDisk, records]; exact due.onDisk
  held := by rw [records]; exact due.held
  sound := due.sound
  seen := due.seen
  half := fun servers here original => later (due.half servers here original)
  back := due.back

/-- An entry that is due is never settled. -/
theorem unsettled (due : Due deposit sweeper host account) {record : DnsCustodyRecord}
    (recorded : deposit.RecordedIn record) : ¬sweeper.Settled record deposit.entry := by
  rintro (back | ⟨live, seen, changed⟩)
  · exact due.back back
  · rw [recorded.2.1, due.seen live seen] at changed
    exact Bool.noConfusion changed

/-- A record that is cut down still lists it. -/
theorem cut (due : Due deposit sweeper host account) {services : List DnsCustodyService}
    (cuts : sweeper.Cuts deposit.interface services) : deposit.entry ∈ services := by
  obtain ⟨record, held, accounted⟩ := cuts
  obtain ⟨stored, lookup, recorded⟩ := due.onDisk
  cases lookup.symm.trans (due.held record held)
  exact (accounted _ recorded.2.2).resolve_right (due.unsettled recorded)

theorem read (due : Due deposit sweeper host account) {path : String} {file : RecordRead}
    (found : host.records.lookup path = some file)
    (stepped : sweepDiscipline sweeper (.readRecord path) (.ok file) next) : Due deposit next host account := by
  by_cases here : path = deposit.interface
  · obtain ⟨record, lookup, recorded⟩ := due.onDisk
    cases lookup.symm.trans (here ▸ found)
    cases stepped
    refine { due with held := ?_, sound := ?_ }
    · intro other held
      dsimp only at held
      rw [here, Function.update_self] at held
      cases held
      exact lookup
    · simp [here, recorded.1]
  · have apart : deposit.interface ≠ path := fun same => here same.symm
    cases file with
    | record record =>
      cases stepped
      refine { due with held := ?_, sound := ?_ }
      · simpa [Function.update_of_ne apart] using due.held
      · simpa [Function.update_of_ne apart] using due.sound
    | unsupportedVersion version =>
      cases stepped
      refine { due with held := ?_, sound := ?_ }
      · simpa [Function.update_of_ne apart] using due.held
      · simpa [Function.update_of_ne apart] using due.sound
    | corrupt reason =>
      cases stepped
      refine { due with held := ?_, sound := ?_ }
      · simpa [Function.update_of_ne apart] using due.held
      · simpa [Function.update_of_ne apart] using due.sound

/-- Forgetting what was read of one path. -/
theorem forget (due : Due deposit sweeper host account) (path : String) :
    Due deposit { sweeper with held := Function.update sweeper.held path none } host account := by
  refine { due with held := ?_ }
  intro record held
  dsimp only at held
  by_cases here : deposit.interface = path
  · rw [here, Function.update_self] at held
    exact nomatch held
  · rw [Function.update_of_ne here] at held
    exact due.held record held

theorem unread (due : Due deposit sweeper host account) {path : String}
    (absent : host.records.lookup path = none) (error : String)
    (stepped : sweepDiscipline sweeper (.readRecord path) (.error error) next) : Due deposit next host account := by
  have apart : deposit.interface ≠ path := by
    rintro rfl
    obtain ⟨record, lookup, -⟩ := due.onDisk
    exact nomatch absent.symm.trans lookup
  cases stepped
  refine { due with held := (due.forget path).held, sound := ?_ }
  simpa [Function.update_of_ne apart] using due.sound

/-- Others' paths are no concern of the deposit. -/
theorem elsewhere (due : Due deposit sweeper host account) {path : String} (file : Option RecordRead)
    (apart : deposit.interface ≠ path) : Due deposit sweeper (host.putRecord path file) account :=
  due.same id (Host.lookup_putRecord_of_ne host file apart)

/-- A record that is cut down still lists the deposit. -/
theorem write (due : Due deposit sweeper host account) {record : DnsCustodyRecord}
    (allowed : sweepAllows sweeper (.writeRecord record)) :
    Due deposit { sweeper with held := Function.update sweeper.held record.interface none }
      (host.putRecord record.interface (some (.record record))) account := by
  obtain ⟨cuts, old, held, rewritten, -⟩ := allowed
  by_cases here : deposit.interface = record.interface
  · have listed := due.cut (here ▸ cuts)
    obtain ⟨stored, lookup, recorded⟩ := due.onDisk
    cases lookup.symm.trans (due.held old (here ▸ held))
    refine { due with onDisk := ⟨record, ?_, here.symm, ?_, listed⟩, held := ?_ }
    · rw [here]
      exact Host.lookup_putRecord _ _ _
    · rw [rewritten]
      exact recorded.2.1
    · intro other again
      dsimp only at again
      rw [here, Function.update_self] at again
      exact nomatch again
  · exact (due.forget _).elsewhere _ here

theorem remove (due : Due deposit sweeper host account) {path : String} (allowed : sweepAllows sweeper (.removeRecord path)) :
    Due deposit { sweeper with held := Function.update sweeper.held path none } (host.putRecord path none) account := by
  have apart : deposit.interface ≠ path := by
    rintro rfl
    exact absurd (due.cut allowed) List.not_mem_nil
  exact (due.forget path).elsewhere none apart

theorem look (due : Due deposit sweeper host account) {service : String} {servers : Setting}
    (tunnel : service = deposit.entry.service → dnsListsEqual servers deposit.tunnelDns = true) :
    Due deposit { sweeper with seen := (service, servers) :: sweeper.seen } host account := by
  refine { due with seen := ?_ }
  intro other member
  rcases List.mem_cons.mp member with now | earlier
  · cases now
    exact tunnel rfl
  · exact due.seen other earlier

theorem stop (due : Due deposit sweeper host account) : Due deposit { sweeper with half := none } host account :=
  { due with half := nofun }

end Due

/-- Every command a sweep may issue keeps what is due. -/
theorem Kept.step {sweeper : Sweeper} {state after : Host × Account} {op : DnsOp} {reply : op.Reply}
    (kept : Kept deposit sweeper state) (allowed : sweepAllows sweeper op) (reads : readsTunnel deposit state op = true)
    (answered : depositHost deposit state op reply after) :
    ∃ next, sweepDiscipline sweeper op reply next ∧ Kept deposit next after := by
  obtain ⟨host, account⟩ := state
  obtain ⟨host', account'⟩ := after
  obtain ⟨done, watched⟩ := answered
  dsimp only at done watched
  subst watched
  have before : (deposit.observe account op reply).due = true → Due deposit sweeper host account :=
    fun due => kept (due_before due).1
  have later : (deposit.observe account op reply).due = true →
      account.dnsBack = true → (deposit.observe account op reply).dnsBack = true := fun due => (due_before due).2
  cases op with
  | recordPaths =>
    cases reply with
    | error error => obtain ⟨-, rfl⟩ := done; exact ⟨_, rfl, before⟩
    | ok paths =>
      obtain ⟨perm, rfl⟩ := done
      exact ⟨_, ⟨perm.nodup_iff.mpr host'.records.keys_nodup, rfl⟩, before⟩
  | readRecord path =>
    cases reply with
    | error error =>
      obtain ⟨failed, rfl⟩ := done
      exact ⟨_, rfl, fun due => (before due).unread (failed.resolve_left nofun) error rfl⟩
    | ok file =>
      obtain ⟨found, rfl⟩ := done
      cases file <;> exact ⟨_, rfl, fun due => (before due).read found rfl⟩
  | quarantineRecord path =>
    cases reply with
    | error error => obtain ⟨-, rfl⟩ := done; exact ⟨_, rfl, before⟩
    | ok value =>
      cases done
      have apart : account.due = true → deposit.interface ≠ path := fun due here =>
        Bool.noConfusion ((before due).sound.symm.trans (here ▸ allowed))
      exact ⟨_, rfl, fun due => (before due).elsewhere none (apart due)⟩
  | getDnsServers service =>
    cases reply with
    | error error => obtain ⟨-, rfl⟩ := done; exact ⟨_, rfl, before⟩
    | ok servers =>
      obtain ⟨rfl, rfl⟩ := done
      refine ⟨_, rfl, fun due => (before due).look fun here => ?_⟩
      subst here
      have due' : account.due = true := due
      simpa [readsTunnel, due', Deposit.shows] using reads
  | setDnsServers service servers =>
    cases reply with
    | error error => obtain ⟨-, rfl⟩ := done; exact ⟨_, rfl, fun due => (before due).stop⟩
    | ok value =>
      cases done
      refine ⟨_, rfl, fun due => { (before due).same (later due) rfl with half := ?_ }⟩
      intro written here original
      cases here
      simp [Deposit.observe, original]
  | setSearchDomains service domains =>
    cases reply with
    | error error => obtain ⟨-, rfl⟩ := done; exact ⟨_, rfl, fun due => (before due).stop⟩
    | ok value =>
      cases done
      refine ⟨_, rfl, fun due => { (before due).same (later due) rfl with half := nofun, back := ?_ }⟩
      intro back
      have earlier := before due
      cases half : sweeper.half with
      | none =>
        rw [half] at back
        exact earlier.back back
      | some write =>
        obtain ⟨written, servers⟩ := write
        simp only [half] at back
        split at back
        · rename_i same
          rcases List.mem_cons.mp back with now | before
          · -- Both settings have been written back, so nothing is due any more.
            cases now
            have servers := earlier.half _ (same ▸ half) rfl
            simp [Deposit.observe, Account.due, servers] at due
          · exact earlier.back before
        · exact earlier.back back
  | writeRecord record =>
    cases reply with
    | error error =>
      obtain ⟨-, rfl | rfl⟩ := done
      · exact ⟨_, rfl, fun due => (before due).forget _⟩
      · exact ⟨_, rfl, fun due => (before due).write allowed⟩
    | ok value => cases done; exact ⟨_, rfl, fun due => (before due).write allowed⟩
  | removeRecord path =>
    cases reply with
    | error error =>
      obtain ⟨-, rfl | rfl⟩ := done
      · exact ⟨_, rfl, fun due => (before due).forget _⟩
      · exact ⟨_, rfl, fun due => (before due).remove allowed⟩
    | ok value => cases done; exact ⟨_, rfl, fun due => (before due).remove allowed⟩
  | helperIsLive interface pid started =>
    obtain ⟨rfl, rfl⟩ := done
    cases pid with
    | none => exact ⟨_, by cases host'.live interface <;> rfl, before⟩
    | some pid =>
      cases verdict : host'.live interface with
      | true => exact ⟨_, rfl, fun due => (before due).forget _⟩
      | false => exact ⟨_, rfl, before⟩
  | listNetworkServices =>
    cases reply <;> obtain ⟨-, rfl⟩ := done <;> exact ⟨_, rfl, before⟩
  | getSearchDomains service =>
    cases reply <;> obtain ⟨-, rfl⟩ := done <;> exact ⟨_, rfl, before⟩
  | loadAllConnections =>
    cases reply <;> obtain ⟨-, rfl⟩ := done <;> exact ⟨_, rfl, before⟩
  | dnsState => obtain ⟨-, rfl⟩ := done; exact ⟨_, rfl, before⟩
  | ensureWatchSentinel =>
    cases reply with
    | error error => obtain ⟨-, rfl⟩ := done; exact ⟨_, rfl, before⟩
    | ok value => cases done; exact ⟨_, rfl, before⟩
  | pushService _ | retainServices _ | storeFingerprint _ => exact absurd allowed id
  | _ => cases done; exact ⟨_, rfl, before⟩

end Wgd.Dns
