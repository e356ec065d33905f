import Wgd.Dns.Deposit

/-! Runs of sweeps, crashes and reconnects over one custody directory. -/

set_option autoImplicit false

namespace Wgd.Dns

open Wgd.Helper Wgd.Interaction
open Wgd.Routes (routeCommands RouteOp)

variable {S A : Type} {deposit : Deposit}

/-! ### What is due stays recorded -/

/-- The host where no read finds a due deposit's service without the tunnel's servers. -/
def soundHost (deposit : Deposit) : Environment dnsCommands (Host × Account) :=
  (depositHost deposit).meeting fun state op _ => readsTunnel deposit state op = true

theorem Kept.restart {sweeper : Sweeper} {state : Host × Account} (kept : Kept deposit sweeper state) :
    Kept deposit .start state :=
  fun due => { kept due with held := nofun, sound := rfl, seen := nofun, half := nofun, back := nofun }

theorem Kept.begin {state : Host × Account} (recorded : state.2.due = true → deposit.OnDisk state.1) :
    Kept deposit .start state :=
  fun due => ⟨recorded due, nofun, rfl, nofun, nofun, nofun⟩

theorem OthersAct.due {before after : Host × Account} (changed : OthersAct deposit before after)
    (due : after.2.due = true) : after.2 = before.2 := by
  rcases changed.account with same | ⟨-, -, closed⟩
  · exact same
  · rw [closed, Account.due] at due
    exact Bool.noConfusion due

theorem Kept.others {sweeper : Sweeper} {before after : Host × Account} (kept : Kept deposit sweeper before)
    (changed : OthersAct deposit before after) : Kept deposit sweeper after := by
  intro due
  have same := changed.due due
  rw [same] at due ⊢
  exact (kept due).same id changed.records

theorem Kept.othersMany {sweeper : Sweeper} {before after : Host × Account} (kept : Kept deposit sweeper before)
    (changes : Relation.ReflTransGen (OthersAct deposit) before after) : Kept deposit sweeper after := by
  induction changes with
  | refl => exact kept
  | tail _ change ih => exact ih.others change

/-- A program that keeps to the sweep's protocol keeps what is due. -/
theorem Kept.program {p : DnsProgram A} {state : Host × Account} (kept : Kept deposit .start state)
    (follows : Ensures sweepDiscipline sweepAllows p (fun _ _ => True) .start) :
    Ensures ((soundHost deposit).after (OthersAct deposit)) (always dnsCommands (Kept deposit .start)) p
      (fun _ after => Kept deposit .start after) state := by
  apply Ensures.mono _ (Ensures.simulated (Kept deposit) _ (fun _ _ _ kept _ => kept.restart) kept follows)
  · rintro result after ⟨sweeper, -, kept'⟩
    exact kept'.restart
  · rintro sweeper s op reply after kept' allowed ⟨changed, changes, reads, answered⟩
    exact (kept'.othersMany changes).step allowed reads answered

/-! ### A laptop whose helper has died -/

/-- The original of the laptop's first service, as the example helper records it. -/
def exampleDeposit : Deposit where
  interface := "wg-00000000"
  tunnelDns := ["10.64.0.1"]
  entry := ⟨"Wi-Fi", some ["192.168.1.1"], some ["lan"]⟩

def exampleRecord : DnsCustodyRecord := recordOf exampleIdentity ["10.64.0.1"] [exampleDeposit.entry]

def crashedHost : Host where
  dns := fun service => if service = "Wi-Fi" then some ["10.64.0.1"] else none
  search := fun _ => none
  listed := ["Wi-Fi", "Ethernet"]
  records := AList.insert "wg-00000000" (.record exampleRecord) ∅
  memory := ⟨[], .default⟩
  live := fun _ => false
  connections := []

/-- Left behind, and not put back yet. -/
def leftBehind : Account := ⟨true, false, false, false⟩

theorem crashedHost_onDisk : exampleDeposit.OnDisk crashedHost :=
  ⟨exampleRecord, AList.lookup_insert _, rfl, rfl, List.mem_cons_self⟩

def sweepScript (cues : Nat → Cue) : Handler dnsCommands ((Host × Nat) × Account) :=
  (scripted recordsReadable cues).observe exampleDeposit.observe

theorem sweepScript_faithful (cues : Nat → Cue) :
    (sweepScript cues).Faithful (fun script => (script.1.1, script.2)) (depositHost exampleDeposit) :=
  (scripted_faithful recordsReadable cues).observe exampleDeposit.observe

/-! ### Sweeps and daemon crashes -/

def sweepProgram (scope : Scope) : DnsProgram Unit := do
  let _ ← sweepLocked scope
  return ()

/-- One sweep after another, of any scope; the daemon may crash during each. -/
def sweepSession (env : Environment dnsCommands S) (outside : S → S → Prop) : Session dnsCommands S Unit where
  env := env
  outside := outside
  start := fun _ state after p => after = state ∧ ∃ scope, p = sweepProgram scope
  abandon := fun state _ after => after = state

theorem sweepSession_kept :
    (sweepSession (soundHost deposit) (OthersAct deposit)).Kept (Kept deposit .start)
      (fun _ => Kept deposit .start) where
  program := by
    rintro _ state _ _ kept ⟨rfl, scope, rfl⟩
    apply kept.program
    rw [sweepProgram, Ensures.bind_iff]
    exact sweep_follows scope
  moment := fun _ _ kept => kept
  others := fun _ _ kept changed => kept.others changed
  stable := fun _ _ _ kept changed => kept.others changed
  death := by
    rintro state _ _ kept rfl
    exact kept

/-- As long as no sweep finds the service of a due deposit off the tunnel's servers,
the record on disk lists the deposit until both of its settings are back. -/
theorem sweeps_keep_deposit {state : Host × Account} {rest : DnsProgram Unit}
    (reached : (sweepSession (soundHost deposit) (OthersAct deposit)).Reachable
      (fun _ first => deposit.OnDisk first.1) (state, rest)) (due : state.2.due = true) : deposit.OnDisk state.1 :=
  (sweepSession_kept.reachable (fun _ _ recorded => .begin fun _ => recorded) reached due).onDisk

/-- A restore that fails keeps the record for a retry. -/
theorem sweeps_keep_deposit_failed :
    let swept := interpret (sweepScript fun step => { Cue.working none with fails := step == 7 }) (sweepProgram .all)
      ((crashedHost, 0), leftBehind)
    exampleDeposit.OnDisk swept.2.1.1 := by
  have start : (sweepSession (soundHost exampleDeposit) (OthersAct exampleDeposit)).Reachable
      (fun _ first => exampleDeposit.OnDisk first.1) ((crashedHost, leftBehind), .done ()) := .begin crashedHost_onDisk
  have run := interpret_meets (fun state op _ => readsTunnel exampleDeposit state op = true)
    (fun script op _ => readsTunnel exampleDeposit (script.1.1, script.2) op)
    (sweepScript_faithful fun step => { Cue.working none with fails := step == 7 }) (fun _ _ _ sound => sound)
    (show meets _ _ (sweepProgram .all) ((crashedHost, 0), leftBehind) = true by decide +kernel)
  exact sweeps_keep_deposit (start.program ⟨rfl, .all, rfl⟩ run) (by decide +kernel)

/-- After a crash or without one, the daemon may sweep again. -/
theorem sweepSession_again {env : Environment dnsCommands S} {outside : S → S → Prop} {initial : Unit → S → Prop}
    {state : S} {p : DnsProgram Unit} (reached : (sweepSession env outside).Reachable initial (state, p)) (scope : Scope) :
    (sweepSession env outside).Reachable initial (state, sweepProgram scope) :=
  by
  have idle := reached.tail (@Session.Step.abandon _ _ _ _ state state p () rfl)
  exact idle.tail (.start ⟨rfl, scope, rfl⟩)

/-- The laptop when the daemon has crashed between the two writes of a restore. -/
def halfRestored : (Host × Nat) × Account :=
  (interpretFor (sweepScript fun _ => .working none) 8 (((crashedHost, 0), leftBehind), sweepProgram .all)).1

/-- The next sweep takes the restored servers for a change by the user and deletes
the record, with the search domains never put back. -/
theorem sweep_drops_half_restored :
    ∃ state rest, (sweepSession (depositHost exampleDeposit) (OthersAct exampleDeposit)).Reachable
      (fun _ first => exampleDeposit.OnDisk first.1) (state, rest) ∧ state.2.due = true ∧
        ¬exampleDeposit.OnDisk state.1 := by
  have start : (sweepSession (depositHost exampleDeposit) (OthersAct exampleDeposit)).Reachable
      (fun _ first => exampleDeposit.OnDisk first.1) ((crashedHost, leftBehind), .done ()) := .begin crashedHost_onDisk
  have faithful := sweepScript_faithful fun _ => .working none
  have interrupted := start.scripted faithful ((crashedHost, 0), leftBehind) ⟨rfl, .all, rfl⟩ 8
  have again := (sweepSession_again interrupted .all).runs (interpretFor_runs faithful 40 halfRestored _)
  refine ⟨_, _, again, by decide +kernel, ?_⟩
  rintro ⟨record, found, -⟩
  have gone : (interpretFor (sweepScript fun _ => .working none) 40
    (halfRestored, sweepProgram .all)).1.1.1.records.lookup exampleDeposit.interface = none := by decide +kernel
  exact nomatch gone.symm.trans found

/-! ### Reconnects -/

inductive ConnectionPhase where
  | idle
  /-- A connect has swept the interface and is about to start the helper. -/
  | swept (interface : String)
  | alive (args : HelperArgs) (phase : HelperPhase)
  deriving DecidableEq, Repr

/-- A new helper process starts with nothing in its memory. -/
def spawned (interface : String) (state : Host × Account) : Host × Account :=
  ({ state.1 with
      memory := ⟨[], .default⟩
      live := Function.update state.1.live interface true }, { state.2 with alive := true })

def sweepAs (scope : Scope) (phase : ConnectionPhase) : HelperProgram ConnectionPhase := do
  let _ ← dns (sweepLocked scope)
  return phase

/-- The commands of the daemon and of the helper on a laptop with this primary service. -/
def locationScript (primaryService : String) : Handler helperCommands ((Host × Nat) × Account) :=
  helperScript recordsReadable (fun _ => .working (some primaryService)) exampleDeposit.observe

def sweepOfConnect : HelperProgram ConnectionPhase := sweepAs (.interface "wg-00000000") (.swept "wg-00000000")

def spawnOfConnect : HelperProgram ConnectionPhase :=
  connectProgram exampleArgs >>= fun phase => return .alive exampleArgs phase

def respawned (script : (Host × Nat) × Account) : (Host × Nat) × Account :=
  let state := spawned "wg-00000000" (script.1.1, script.2)
  ((state.1, script.1.2), state.2)

/-- The laptop after a connect. -/
def afterConnect (primaryService : String) (script : (Host × Nat) × Account) : (Host × Nat) × Account :=
  let swept := (interpret (locationScript primaryService) sweepOfConnect script).2
  (interpret (locationScript primaryService) spawnOfConnect (respawned swept)).2

/-- The laptop at home with its helper, and then elsewhere, where its first service
is not listed, with the helper dead. -/
def atHome : (Host × Nat) × Account := afterConnect "Wi-Fi" ((exampleHost, 0), ⟨false, false, false, false⟩)

def elsewhere : (Host × Nat) × Account := (({ atHome.1.1 with listed := ["Ethernet"] }, 0), leftBehind)

end Wgd.Dns
