import Mathlib.Logic.Function.Basic
import Wgd.Dns.Sweep
import Wgd.Interaction.Session

/-! The `dns-custody/watch` sentinel, which keeps the daemon alive while custody is
pending (`dns_custody.rs`, `privileged/dns_watch.rs`). A helper writes its record and
then creates the sentinel if it is absent; the daemon deletes the sentinel when no
record needs it and then looks again. They share no lock. -/

set_option autoImplicit false

namespace Wgd.Dns

open Wgd.Net Wgd.Helper Wgd.Interaction

/-- A helper process: its pid, and its start to tell it from a later one. -/
abbrev HelperProcess : Type := Nat × ProcessStart

def DnsCustodyRecord.helper (record : DnsCustodyRecord) : HelperProcess := (record.helperPid, record.helperStart)

/-! ### The daemon -/

/-- Where a custody record stands after a sweep. -/
inductive RecordStatus where
  | live
  /-- Dead helper, with a service of the current location still to be restored. -/
  | restorable
  /-- Dead helper, every service in another network location. -/
  | deferred
  deriving DecidableEq, Repr

def classifyRecord (helperLive : Bool) (services : List DnsCustodyService) (listed : List String) : RecordStatus :=
  if helperLive then .live
  else if services.any fun entry => listed.contains entry.service then .restorable
  else .deferred

def RecordStatus.wantsSentinel : RecordStatus → Bool
  | .live | .restorable => true
  | .deferred => false

def sentinelWanted (statuses : List RecordStatus) : Bool := statuses.any RecordStatus.wantsSentinel

/-- What is left in `dns-custody/` after a sweep or a connect. -/
structure CustodyState where
  live : Nat
  restorable : Nat
  deferred : Nat
  deriving DecidableEq, Repr

def CustodyState.add (custody : CustodyState) : RecordStatus → CustodyState
  | .live => { custody with live := custody.live + 1 }
  | .restorable => { custody with restorable := custody.restorable + 1 }
  | .deferred => { custody with deferred := custody.deferred + 1 }

def classifyAll (states : List (String × RecordState)) (listed : List String) : CustodyState × List RecordStatus :=
  let statuses := states.map fun entry => classifyRecord entry.2.helperLive entry.2.record.services listed
  (statuses.foldl CustodyState.add ⟨0, 0, 0⟩, statuses)

/-- Whether the later scan holds a record that the earlier one did not. -/
def custodyChanged (before after : List (String × RecordState)) : Bool :=
  after.any fun entry => !before.any fun known => known.1 == entry.1 && known.2.record == entry.2.record

inductive SentinelOp where
  | scan
  | listNetworkServices
  | sentinelExists
  | removeSentinel
  | createSentinel
  | ensureRetryLoop

@[reducible] def SentinelOp.Reply : SentinelOp → Type
  | .scan => Except String (List (String × RecordState))
  | .listNetworkServices => Except String (List String)
  | .sentinelExists => Bool
  | .removeSentinel | .createSentinel => Except String Unit
  | .ensureRetryLoop => Unit

abbrev sentinelCommands : Commands := ⟨SentinelOp, SentinelOp.Reply⟩

abbrev SentinelProgram (A : Type) := Program sentinelCommands A

def sentinelCommand (op : SentinelOp) : SentinelProgram op.Reply := @Program.command sentinelCommands op

/-- A failed listing counts every recorded service as present. -/
def listedServices (states : List (String × RecordState)) : SentinelProgram (List String) := do
  match ← sentinelCommand .listNetworkServices with
  | .ok listed => return listed
  | .error _ => return states.flatMap fun entry => entry.2.record.services.map DnsCustodyService.service

/-- Some record needs the sentinel. -/
def keepSentinel (custody : CustodyState) : SentinelProgram CustodyState := do
  let present ← sentinelCommand .sentinelExists
  if present then return custody
  else
    let _ ← sentinelCommand .createSentinel
    return custody

/-- What the second scan found. -/
def rescanned (states : List (String × RecordState)) (listed : List String) (custody : CustodyState) :
    Except String (List (String × RecordState)) → SentinelProgram CustodyState
  | .ok after =>
    if custodyChanged states after then
      if sentinelWanted (classifyAll after listed).2 then do
        let _ ← sentinelCommand .createSentinel
        return (classifyAll after listed).1
      else return (classifyAll after listed).1
    else return custody
  | .error _ => do
    let _ ← sentinelCommand .createSentinel
    return custody

/-- No record needs the sentinel: delete it, then look for a helper that came in between. -/
def dropSentinel (states : List (String × RecordState)) (listed : List String) (custody : CustodyState) :
    SentinelProgram CustodyState := do
  let _ ← sentinelCommand .removeSentinel
  let after ← sentinelCommand .scan
  rescanned states listed custody after

def retryRestorable (custody : CustodyState) : SentinelProgram CustodyState := do
  if 0 < custody.restorable then sentinelCommand .ensureRetryLoop
  return custody

def settleSentinel (states : List (String × RecordState)) (listed : List String) : SentinelProgram CustodyState :=
  if sentinelWanted (classifyAll states listed).2 then keepSentinel (classifyAll states listed).1
  else dropSentinel states listed (classifyAll states listed).1

/-- Bring the sentinel in line with the records on disk, under the system network mutation lock. -/
def settleLocked : SentinelProgram CustodyState := do
  match ← sentinelCommand .scan with
  | .error _ => return ⟨0, 0, 0⟩
  | .ok states =>
    let listed ← listedServices states
    let custody ← settleSentinel states listed
    retryRestorable custody

/-! ### Liveness -/

/-- What connecting to a helper's socket told. -/
inductive SocketProbe where
  | accepts
  | dead
  | inconclusive
  deriving DecidableEq, Repr

/-- Only a dead socket falls back to the pid. -/
def livenessVerdict (probe : SocketProbe) (pidIsHelper : Bool) : Bool :=
  match probe with
  | .accepts | .inconclusive => true
  | .dead => pidIsHelper

/-! ### The directory and the helpers -/

/-- How far a helper is with `persist_dns_custody`. -/
inductive Persisting where
  | idle
  /-- The record is on disk, the sentinel not looked for. -/
  | recorded
  /-- The sentinel was absent. -/
  | unwatched
  deriving DecidableEq, Repr

structure CustodyDir where
  records : String → Option DnsCustodyRecord
  sentinel : Bool
  alive : HelperProcess → Bool
  persisting : HelperProcess → Persisting

namespace CustodyDir

def setPersisting (dir : CustodyDir) (process : HelperProcess) (persisting : Persisting) : CustodyDir :=
  { dir with persisting := Function.update dir.persisting process persisting }

/-- One step of some helper. It holds no lock, so it may come between any two steps
of the daemon. -/
inductive HelperStep : CustodyDir → CustodyDir → Prop where
  | writeRecord {dir : CustodyDir} {record : DnsCustodyRecord} (alive : dir.alive record.helper = true)
      (idle : dir.persisting record.helper = .idle) :
      HelperStep dir (setPersisting { dir with records := Function.update dir.records record.interface (some record) }
        record.helper .recorded)
  | sentinelExists {dir : CustodyDir} {process : HelperProcess} (alive : dir.alive process = true)
      (recorded : dir.persisting process = .recorded) :
      HelperStep dir (dir.setPersisting process (if dir.sentinel then .idle else .unwatched))
  | createSentinel {dir : CustodyDir} {process : HelperProcess} (alive : dir.alive process = true)
      (unwatched : dir.persisting process = .unwatched) :
      HelperStep dir (setPersisting { dir with sentinel := true } process .idle)
  | removeRecord {dir : CustodyDir} {process : HelperProcess} (interface : String) (alive : dir.alive process = true)
      (idle : dir.persisting process = .idle) :
      HelperStep dir { dir with records := Function.update dir.records interface none }
  | die {dir : CustodyDir} (process : HelperProcess) :
      HelperStep dir { dir with alive := Function.update dir.alive process false }

/-- A scan reads every record, and never takes a running helper for dead. A socket
that still answers may make a dead one look alive. -/
structure Scanned (dir : CustodyDir) (states : List (String × RecordState)) : Prop where
  complete : ∀ path record, dir.records path = some record → ∃ live, (path, ⟨record, live⟩) ∈ states
  verdict : ∀ path state, (path, state) ∈ states →
    ∃ probe, state.helperLive = livenessVerdict probe (dir.alive state.record.helper)

end CustodyDir

open CustodyDir

/-- The daemon's steps where the files do as they are told and the listing is fixed. -/
def sentinelEnvironment (listed : List String) : Environment sentinelCommands CustodyDir := fun dir op reply after =>
  match op, reply with
  | .scan, .ok states => dir.Scanned states ∧ after = dir
  | .listNetworkServices, .ok names => names = listed ∧ after = dir
  | .sentinelExists, found => found = dir.sentinel ∧ after = dir
  | .removeSentinel, .ok () => after = { dir with sentinel := false }
  | .createSentinel, .ok () => after = { dir with sentinel := true }
  | .ensureRetryLoop, () => after = dir
  | .scan, .error _ | .listNetworkServices, .error _ | .removeSentinel, .error _ | .createSentinel, .error _ => False

/-- The daemon settles again and again, each time beside any number of helpers.
Its phase is what its last pass came to. -/
def settleSession (listed : List String) : Session sentinelCommands CustodyDir (Option CustodyState) where
  env := sentinelEnvironment listed
  outside := HelperStep
  start _ dir after p := after = dir ∧ p = (do return some (← settleLocked))
  abandon _ _ _ := False

/-- A record the daemon must be there for: of a live helper, or of a dead one with a
service of the current location. -/
def CustodyDir.Pending (listed : List String) (dir : CustodyDir) (record : DnsCustodyRecord) : Prop :=
  dir.alive record.helper = true ∨ ∃ entry ∈ record.services, entry.service ∈ listed

/-! ### What a scan is good for later -/

/-- No helper that still runs was taken for dead. -/
def NoneTakenForDead (states : List (String × RecordState)) (dir : CustodyDir) : Prop :=
  ∀ path state, (path, state) ∈ states → dir.alive state.record.helper = true → state.helperLive = true

variable {listed : List String} {states after : List (String × RecordState)} {dir dir' : CustodyDir} {path : String}
  {record : DnsCustodyRecord}

theorem CustodyDir.Scanned.noneTakenForDead (scanned : dir.Scanned states) : NoneTakenForDead states dir := by
  intro path state member alive
  obtain ⟨probe, verdict⟩ := scanned.verdict path state member
  rw [verdict, alive]
  cases probe <;> rfl

theorem classifyRecord_wantsSentinel {live : Bool} {services : List DnsCustodyService}
    (needed : live = true ∨ ∃ entry ∈ services, entry.service ∈ listed) :
    (classifyRecord live services listed).wantsSentinel = true := by
  unfold classifyRecord
  split
  · rfl
  · rename_i dead
    rcases needed with alive | ⟨entry, member, here⟩
    · exact absurd alive dead
    · have any : (services.any fun entry => listed.contains entry.service) = true := by
        rw [List.any_eq_true]
        exact ⟨entry, member, List.contains_iff_mem.mpr here⟩
      rw [if_pos any]
      rfl

/-- A pending record that was scanned makes the daemon want the sentinel. -/
theorem sentinelWanted_of_pending (verdicts : NoneTakenForDead states dir) {live : Bool}
    (scanned : (path, ⟨record, live⟩) ∈ states) (pending : dir.Pending listed record) :
    sentinelWanted (classifyAll states listed).2 = true := by
  unfold sentinelWanted
  rw [List.any_eq_true]
  refine ⟨classifyRecord live record.services listed, List.mem_map.mpr ⟨_, scanned, rfl⟩, ?_⟩
  apply classifyRecord_wantsSentinel
  rcases pending with alive | here
  · exact .inl (verdicts path _ scanned alive)
  · exact .inr here

theorem known_of_unchanged {live : Bool} (unchanged : custodyChanged states after = false)
    (scanned : (path, ⟨record, live⟩) ∈ after) : ∃ live, (path, ⟨record, live⟩) ∈ states := by
  unfold custodyChanged at unchanged
  rw [List.any_eq_false] at unchanged
  have known := unchanged _ scanned
  simp only [Bool.not_eq_true, Bool.not_eq_false', List.any_eq_true, Bool.and_eq_true, beq_iff_eq] at known
  obtain ⟨⟨_, old⟩, member, rfl, same⟩ := known
  exact ⟨old.helperLive, same ▸ member⟩

/-! ### The helpers' side -/

/-- The sentinel is there for every pending record whose helper is not still about to create it. -/
def CustodyDir.Watched (listed : List String) (dir : CustodyDir) : Prop :=
  ∀ path record, dir.records path = some record → dir.Pending listed record →
    dir.persisting record.helper = .idle → dir.sentinel = true

theorem CustodyDir.HelperStep.alive (step : HelperStep dir dir') {process : HelperProcess} (alive : dir'.alive process = true) :
    dir.alive process = true := by
  cases step with
  | die dead =>
    by_cases same : process = dead
    · subst same
      simp at alive
    · simpa [Function.update_of_ne same] using alive
  | writeRecord _ _ => exact alive
  | sentinelExists _ _ => exact alive
  | createSentinel _ _ => exact alive
  | removeRecord _ _ _ => exact alive

theorem CustodyDir.HelperStep.sentinel (step : HelperStep dir dir') (there : dir.sentinel = true) : dir'.sentinel = true := by
  cases step with
  | createSentinel _ _ => rfl
  | writeRecord _ _ => exact there
  | sentinelExists _ _ => exact there
  | removeRecord _ _ _ => exact there
  | die _ => exact there

theorem CustodyDir.HelperStep.verdicts (step : HelperStep dir dir') (verdicts : NoneTakenForDead states dir) :
    NoneTakenForDead states dir' :=
  fun path state member alive => verdicts path state member (step.alive alive)

theorem CustodyDir.HelperStep.pending (step : HelperStep dir dir') (pending : dir'.Pending listed record) :
    dir.Pending listed record :=
  pending.imp_left step.alive

theorem CustodyDir.HelperStep.watched (step : HelperStep dir dir') (watched : dir.Watched listed) : dir'.Watched listed := by
  intro path record found pending idle
  have before := step.pending pending
  cases step with
  | @writeRecord written alive _ =>
    -- the helper that wrote is not done; of the others nothing has changed
    have other : record.helper ≠ written.helper := by
      intro same
      simp [setPersisting, same] at idle
    have elsewhere : dir.records path = some record := by
      by_cases here : path = written.interface
      · subst here
        have same : written = record := by simpa [setPersisting] using found
        exact absurd (congrArg DnsCustodyRecord.helper same.symm) other
      · simpa [setPersisting, Function.update_of_ne here] using found
    apply watched path record elsewhere before
    simpa [setPersisting, Function.update_of_ne other] using idle
  | @sentinelExists process alive recorded =>
    by_cases same : record.helper = process
    · subst same
      by_cases there : dir.sentinel = true
      · exact there
      · simp [setPersisting, there] at idle
    · apply watched path record found before
      simpa [setPersisting, Function.update_of_ne same] using idle
  | createSentinel _ _ => rfl
  | removeRecord interface _ _ =>
    by_cases here : path = interface
    · subst here
      simp at found
    · exact watched path record (by simpa [Function.update_of_ne here] using found) before idle
  | die _ => exact watched path record found before idle

theorem NoneTakenForDead.interfered (verdicts : NoneTakenForDead states dir)
    (steps : Relation.ReflTransGen HelperStep dir dir') : NoneTakenForDead states dir' := by
  induction steps with
  | refl => exact verdicts
  | tail _ step ih => exact step.verdicts ih

theorem CustodyDir.Watched.interfered (watched : dir.Watched listed)
    (steps : Relation.ReflTransGen HelperStep dir dir') : dir'.Watched listed := by
  induction steps with
  | refl => exact watched
  | tail _ step ih => exact step.watched ih

/-! ### The daemon's side -/

section Daemon

/-- Every completed pass ends so, whatever the helpers do in between. -/
abbrev Settles {A : Type} (listed : List String) (p : SentinelProgram A) (post : A → CustodyDir → Prop)
    (dir : CustodyDir) : Prop :=
  Ensures ((sentinelEnvironment listed).after HelperStep) (always sentinelCommands fun _ => True) p post dir

theorem settles_command {op : SentinelOp} {post : op.Reply → CustodyDir → Prop}
    (answers : ∀ changed, Relation.ReflTransGen HelperStep dir changed → ∀ reply after,
      sentinelEnvironment listed changed op reply after → post reply after) :
    Settles listed (sentinelCommand op) post dir := by
  apply Ensures.command_iff.mpr
  refine ⟨trivial, ?_⟩
  rintro reply after ⟨changed, steps, answered⟩
  exact answers changed steps reply after answered

/-- The program once the sentinel is there. -/
theorem created {custody : CustodyState} :
    Settles listed (do let _ ← sentinelCommand .createSentinel; return custody)
      (fun _ dir => dir.sentinel = true) dir := by
  rw [Settles, Ensures.bind_iff]
  apply settles_command
  intro changed _ reply after answered
  cases reply with
  | error _ => cases answered
  | ok _ =>
    cases answered
    rfl

theorem keepSentinel_settles {custody : CustodyState} :
    Settles listed (keepSentinel custody) (fun _ dir => dir.sentinel = true) dir := by
  unfold keepSentinel
  rw [Settles, Ensures.bind_iff]
  apply settles_command
  rintro changed _ reply _ ⟨seen, rfl⟩
  cases reply with
  | true => exact seen.symm
  | false => exact created

theorem CustodyDir.Watched.of_sentinel (there : dir.sentinel = true) : dir.Watched listed :=
  fun _ _ _ _ _ => there

/-- After the delete, the second scan either shows a pending record or there is none. -/
theorem dropSentinel_settles {custody : CustodyState} (verdicts : NoneTakenForDead states dir)
    (unwanted : sentinelWanted (classifyAll states listed).2 = false) :
    Settles listed (dropSentinel states listed custody) (fun _ dir => dir.Watched listed) dir := by
  unfold dropSentinel
  rw [Settles, Ensures.bind_iff]
  apply settles_command
  intro removing toRemoval reply removed answered
  rw [Ensures.bind_iff]
  apply settles_command
  intro rescanning toRescan reply' final rescan
  have still : NoneTakenForDead states rescanning := by
    have atRemoval : NoneTakenForDead states removing := verdicts.interfered toRemoval
    have afterRemoval : NoneTakenForDead states removed := by
      cases reply with
      | error _ => cases answered
      | ok _ =>
        cases answered
        exact atRemoval
    exact afterRemoval.interfered toRescan
  cases reply' with
  | error _ => cases rescan
  | ok after =>
    obtain ⟨scanned, rfl⟩ := rescan
    unfold rescanned
    dsimp only
    split
    · split
      · exact created.mono fun _ _ => Watched.of_sentinel
      · rename_i _ stillUnwanted
        intro path record found pending _
        obtain ⟨live, member⟩ := scanned.complete path record found
        exact absurd (sentinelWanted_of_pending scanned.noneTakenForDead member pending) stillUnwanted
    · rename_i unchanged
      intro path record found pending _
      obtain ⟨live, member⟩ := scanned.complete path record found
      obtain ⟨before, known⟩ := known_of_unchanged (by simpa using unchanged) member
      rw [sentinelWanted_of_pending still known pending] at unwanted
      cases unwanted

theorem settleLocked_settles :
    Settles listed settleLocked (fun _ dir => dir.Watched listed) dir := by
  unfold settleLocked
  rw [Settles, Ensures.bind_iff]
  apply settles_command
  intro changed _ reply scannedAt answered
  cases reply with
  | error _ => cases answered
  | ok states =>
    obtain ⟨scanned, rfl⟩ := answered
    have listing : Settles listed (listedServices states)
        (fun names dir => names = listed ∧ NoneTakenForDead states dir) scannedAt := by
      unfold listedServices
      rw [Settles, Ensures.bind_iff]
      apply settles_command
      intro listing steps reply after answered
      cases reply with
      | error _ => cases answered
      | ok names =>
        obtain ⟨rfl, rfl⟩ := answered
        exact ⟨rfl, scanned.noneTakenForDead.interfered steps⟩
    have retried (custody : CustodyState) (dir : CustodyDir) (watched : dir.Watched listed) :
        Settles listed (retryRestorable custody) (fun _ dir => dir.Watched listed) dir := by
      unfold retryRestorable
      split
      · rw [Settles, Ensures.bind_iff]
        apply settles_command
        rintro changed steps _ _ rfl
        exact watched.interfered steps
      · exact watched
    refine Ensures.bind_iff.mpr (listing.mono fun names listedAt known => ?_)
    obtain ⟨rfl, verdicts⟩ := known
    refine Ensures.bind_iff.mpr (Ensures.mono retried ?_)
    unfold settleSentinel
    split
    · exact keepSentinel_settles.mono fun _ _ => Watched.of_sentinel
    · rename_i unwanted
      exact dropSentinel_settles verdicts (by simpa using unwanted)

/-- A pass leaves every pending record watched, and the helpers keep it so. -/
theorem settle_kept (listed : List String) : (settleSession listed).Kept (fun _ => True)
    (fun settled dir => settled.isSome = true → dir.Watched listed) where
  program := by
    rintro _ dir _ _ _ ⟨rfl, rfl⟩
    refine Ensures.bind_iff.mpr (settleLocked_settles.mono fun custody after watched => ?_)
    intro _
    exact watched
  moment _ _ _ := trivial
  others _ _ _ _ := trivial
  stable _ _ _ watched step settled := step.watched (watched settled)
  death _ _ _ _ died := died.elim

/-- Whenever the daemon has settled, the sentinel is there for every pending record,
apart from one whose own helper is still between writing it and looking for the sentinel. -/
theorem settled_sentinel_present {initial : Option CustodyState → CustodyDir → Prop}
    (unsettled : ∀ settled dir, initial settled dir → settled = none) {custody : CustodyState}
    (reached : (settleSession listed).Reachable initial (dir, .done (some custody)))
    (found : dir.records path = some record) (pending : dir.Pending listed record)
    (written : dir.persisting record.helper = .idle) : dir.sentinel = true := by
  have watched : (some custody).isSome = true → dir.Watched listed :=
    (settle_kept listed).reachable_between (fun settled dir first some => by simp [unsettled settled dir first] at some)
      reached
  exact watched rfl path record found pending written

def watchedRecord : DnsCustodyRecord :=
  ⟨1, ⟨0x1ce3a4a1000040008000000000000001⟩, "wg-1ce3a4a1", 4242, ⟨10, 20⟩, ["10.66.77.2"], [⟨"Wi-Fi", none, none⟩]⟩

/-- A running helper with a record, from before there were sentinels. -/
def unwatchedDir : CustodyDir where
  records := Function.update (fun _ => none) "wg-1ce3a4a1" (some watchedRecord)
  sentinel := false
  alive _ := true
  persisting _ := .idle

theorem unwatchedDir_scanned : unwatchedDir.Scanned [("wg-1ce3a4a1", ⟨watchedRecord, true⟩)] where
  complete path record found := by
    by_cases here : path = "wg-1ce3a4a1"
    · subst here
      have same : watchedRecord = record := by simpa [unwatchedDir] using found
      exact ⟨true, by simp [same]⟩
    · simp [unwatchedDir, Function.update_of_ne here] at found
  verdict path state member := by
    cases List.mem_singleton.mp member
    exact ⟨.accepts, rfl⟩

/-- No pass has been made yet. -/
def Unsettled (start : CustodyDir) (settled : Option CustodyState) (dir : CustodyDir) : Prop :=
  settled = none ∧ dir = start

theorem unwatchedDir_settles : (settleSession ["Wi-Fi"]).Reachable (Unsettled unwatchedDir)
    ({ unwatchedDir with sentinel := true }, .done (some ⟨1, 0, 0⟩)) := by
  have scan : (settleSession ["Wi-Fi"]).env unwatchedDir .scan (.ok [("wg-1ce3a4a1", ⟨watchedRecord, true⟩)])
      unwatchedDir := ⟨unwatchedDir_scanned, rfl⟩
  have listing : (settleSession ["Wi-Fi"]).env unwatchedDir .listNetworkServices (.ok ["Wi-Fi"]) unwatchedDir :=
    ⟨rfl, rfl⟩
  have absent : (settleSession ["Wi-Fi"]).env unwatchedDir .sentinelExists false unwatchedDir := ⟨rfl, rfl⟩
  have create : (settleSession ["Wi-Fi"]).env unwatchedDir .createSentinel (.ok ())
      { unwatchedDir with sentinel := true } := rfl
  have begun : (settleSession ["Wi-Fi"]).Reachable (Unsettled unwatchedDir) (unwatchedDir, .done none) :=
    .begin ⟨rfl, rfl⟩
  have ran : Runs (settleSession ["Wi-Fi"]).env (unwatchedDir, do return some (← settleLocked))
      ({ unwatchedDir with sentinel := true }, .done (some ⟨1, 0, 0⟩)) :=
    .head (.command scan) (.head (.command listing) (.head (.command absent) (.head (.command create) .refl)))
  exact begun.program ⟨rfl, rfl⟩ ran

theorem unwatchedDir_sentinel_created : ({ unwatchedDir with sentinel := true } : CustodyDir).sentinel = true := by
  have found : ({ unwatchedDir with sentinel := true } : CustodyDir).records "wg-1ce3a4a1" = some watchedRecord := rfl
  exact settled_sentinel_present (fun _ _ first => first.1) unwatchedDir_settles found (.inl rfl) rfl

end Daemon

end Wgd.Dns
