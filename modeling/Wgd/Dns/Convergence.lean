import Wgd.Dns.Script
import Wgd.Dns.Settling

/-! The DNS reconciler's exit for an unchanged fingerprint, over whole lives of a helper. -/

set_option autoImplicit false

namespace Wgd.Dns

open Wgd.Helper Wgd.Interaction
open Wgd.Routes (routeCommands RouteProgram MacosRoutingState)

variable {view : View}

/-! ### The helper's life -/

variable {args : HelperArgs}

/-- What holds between two programs of a helper. -/
def ViewAtRest (args : HelperArgs) : HelperPhase → View → Prop
  | .ready, view => view.names = []
  | .up state _, view => state.reconcile = args.inputs ∧ Settled args.inputs.dnsServers view.memory
  | .down, _ => True

theorem ViewAtRest.congr {phase : HelperPhase} {before after : View} (rest : ViewAtRest args phase before)
    (same : after.memory = before.memory) : ViewAtRest args phase after := by
  cases phase with
  | ready =>
    have nothing : before.memory.services.map MacosDnsServiceState.service = [] := rest
    rw [← same] at nothing
    exact nothing
  | up state routing => exact ⟨rest.1, same ▸ rest.2⟩
  | down => trivial

def helperViews : Environment helperCommands View := (Environment.idle routeCommands View).both View.environment

theorem routes_view {A : Type} (p : RouteProgram A) :
    Ensures helperViews (fun _ _ => True) (routes p) (fun _ after => after = view) view :=
  Ensures.inl_iff.mpr (Ensures.idle (fun _ => trivial) p)

theorem dns_views {A : Type} {p : DnsProgram A} {post : A → View → Prop} :
    Ensures helperViews (fun _ _ => True) (dns p) post view ↔
      Ensures View.environment (fun _ _ => True) p post view :=
  Ensures.inr_iff

theorem setupDns_views {routing : MacosRoutingState} {installed : Except String Unit} (nothing : view.names = []) :
    Ensures View.environment (fun _ _ => True) (setupDns args routing installed) (fun outcome after =>
      ∀ fingerprint, outcome = .ok fingerprint → Ready args.inputs.dnsServers fingerprint after) view := by
  unfold setupDns
  split
  · exact nofun
  · exact configureMacosDns_views nothing
  · intro fingerprint _
    exact ready_unowned nothing

theorem startStoreKey_views {routing : MacosRoutingState} :
    Ensures View.environment (fun _ _ => True) (startStoreKey args routing) (fun _ after => after = view) view := by
  rw [startStoreKey]
  split
  · rw [issue_iff]
    refine ⟨trivial, ?_⟩
    intro key after stepped
    exact stepped.2
  · rfl

theorem connect_views (nothing : view.names = []) :
    Ensures helperViews (fun _ _ => True) (connectProgram args) (ViewAtRest args) view := by
  rw [connectProgram, Ensures.bind_iff, configureNetworkMacos, Ensures.bind_iff]
  apply (routes_view _).mono
  intro installed after same
  rw [same, Ensures.bind_iff, dns_views]
  apply (setupDns_views nothing).mono
  intro outcome configured ready
  cases outcome with
  | error setupError =>
    dsimp only
    rw [Ensures.bind_iff]
    exact (Ensures.any _ _).mono fun _ _ _ => trivial
  | ok fingerprint =>
    dsimp only
    rw [Ensures.bind_iff, dns_views]
    apply startStoreKey_views.mono
    intro key started same
    rw [same, Ensures.bind_iff, dns_views, issue_iff]
    refine ⟨trivial, ?_⟩
    intro reply final stepped
    obtain ⟨-, rfl⟩ := stepped
    exact ⟨rfl, ready fingerprint rfl⟩

/-- The tunnel is up in this phase, so what starts in it is a tick or the teardown. -/
def ticks : HelperPhase → Bool
  | .up _ _ => true
  | .ready | .down => false

theorem helper_views {phase : HelperPhase} {p : HelperProgram HelperPhase} (started : HelperStart args phase p)
    (rest : ViewAtRest args phase view) (ticking : view.moment.ticking = ticks phase) :
    Ensures helperViews (fun _ _ => True) p (ViewAtRest args) view := by
  cases started with
  | connect => exact connect_views rest
  | routeTick =>
    rw [routeTick, Ensures.bind_iff]
    apply (routes_view _).mono
    intro outcome after same
    rw [same]
    exact rest
  | dnsTick =>
    obtain ⟨same, settled⟩ := rest
    rw [dnsTick, Ensures.bind_iff, dns_views]
    apply (macosReconcileDns_views (same ▸ settled) ticking).mono
    intro changed after settled
    exact ⟨same, same ▸ settled⟩
  | teardown =>
    rw [teardownProgram, Ensures.bind_iff]
    exact (Ensures.any _ _).mono fun _ _ _ => trivial

/-! ### Runs -/

/-- The host as its observer sees it. -/
def momentHost : Environment dnsCommands (Host × Moment) := (hostEnvironment fun _ => true).observe Moment.observe

/-- The host when it is steady. -/
def steadyHost : Environment dnsCommands (Host × Moment) :=
  momentHost.meeting fun state op reply => steady state.2 op reply = true

/-- One helper on a host that others may change, though only between two programs where
it is about the settings of services. -/
def reconcilerSession (args : HelperArgs) (env : Environment dnsCommands (Host × Moment)) :
    Session helperCommands (Host × Moment) HelperPhase where
  env := (Environment.idle routeCommands (Host × Moment)).both env
  outside := fun state after => after.2 = state.2 ∧ after.1.dns = state.1.dns ∧ after.1.memory = state.1.memory
  start := fun phase state after p =>
    HelperStart args phase p ∧ after = (state.1, ⟨ticks phase, false⟩) ∨
      p = .done phase ∧ after.2 = state.2 ∧ after.1.memory = state.1.memory
  abandon := fun _ _ _ => False

def viewOf (state : Host × Moment) : View := ⟨state.1.dns, state.1.memory, state.2⟩

theorem steadyHost_views {state after : Host × Moment} {op : DnsOp} {reply : op.Reply}
    (answered : steadyHost state op reply after) : View.environment (viewOf state) op reply (viewOf after) := by
  obtain ⟨host, moment⟩ := state
  obtain ⟨host', moment'⟩ := after
  obtain ⟨still, done, watched⟩ := answered
  dsimp only at done watched
  subst watched
  refine ⟨still, ?_⟩
  cases op with
  | getDnsServers service =>
    cases reply with
    | error error => exact congrArg (viewOf ⟨·, moment⟩) done.2
    | ok servers => exact ⟨done.1, congrArg (viewOf ⟨·, moment⟩) done.2⟩
  | dnsState => exact ⟨done.1, congrArg (viewOf ⟨·, moment⟩) done.2⟩
  | setDnsServers service servers | setSearchDomains service servers =>
    cases reply with
    | error error => exact congrArg (viewOf ⟨·, moment⟩) done.2
    | ok value =>
      cases done
      rfl
  | pushService state | retainServices without | storeFingerprint fingerprint =>
    cases done
    rfl
  | writeRecord record | removeRecord interface =>
    cases reply with
    | error error =>
      rcases done.2 with rfl | rfl <;> rfl
    | ok value =>
      cases done
      rfl
  | quarantineRecord path =>
    cases reply with
    | error error => exact congrArg (viewOf ⟨·, moment⟩) done.2
    | ok value =>
      cases done
      rfl
  | listNetworkServices | getSearchDomains _ | recordPaths | readRecord _ | loadAllConnections =>
    cases reply <;> exact congrArg (viewOf ⟨·, moment⟩) done.2
  | ensureWatchSentinel =>
    cases reply with
    | error error => exact congrArg (viewOf ⟨·, moment⟩) done.2
    | ok value => exact congrArg (viewOf ⟨·, moment⟩) done
  | helperIsLive => exact congrArg (viewOf ⟨·, moment⟩) done.2
  | flushResolverCache | keyRemove | removeStaleRuntimeFiles _ | macosPrimaryService
  | macosConnectedSubnetsByDevice _ | keyStart _ | keySetWanted _ | keyIntact =>
    exact congrArg (viewOf ⟨·, moment⟩) done

variable {A : Type} {state : Host × Moment}

/-- Others do not change the view while a program runs. -/
theorem viewOf_outside {after : Host × Moment} {env : Environment dnsCommands (Host × Moment)}
    (changes : Relation.ReflTransGen (reconcilerSession args env).outside state after) : viewOf after = viewOf state := by
  induction changes with
  | refl => rfl
  | tail _ change ih =>
    obtain ⟨moment, dns, memory⟩ := change
    rw [← ih, viewOf, viewOf, moment, dns, memory]

/-- What a program ensures of the view it ensures on a steady host. -/
theorem ensures_steady {p : HelperProgram A} {post : A → View → Prop}
    (ensured : Ensures helperViews (fun _ _ => True) p post (viewOf state)) :
    Ensures ((reconcilerSession args steadyHost).env.after (reconcilerSession args steadyHost).outside)
      (always helperCommands fun _ => True) p (fun result after => post result (viewOf after)) state := by
  have simulated : Ensures ((reconcilerSession args steadyHost).env.after (reconcilerSession args steadyHost).outside)
      (always helperCommands fun _ => True) p
      (fun result after => ∃ view, post result view ∧ viewOf after = view) state := by
    apply Ensures.simulated (fun view state => viewOf state = view) _ (fun _ _ _ _ _ => trivial) rfl ensured
    intro view state op reply after related _ answered
    obtain ⟨changed, changes, answered⟩ := answered
    have same := viewOf_outside changes
    cases op with
    | inl op =>
      cases answered
      exact ⟨view, rfl, same.trans related⟩
    | inr op =>
      refine ⟨viewOf after, ?_, rfl⟩
      rw [← related, ← same]
      exact steadyHost_views answered
  apply simulated.mono
  intro result after ended
  obtain ⟨view, holds, rfl⟩ := ended
  exact holds

/-- At every moment of rest the view is at rest. -/
theorem reconcilerSession_kept :
    (reconcilerSession args steadyHost).Kept (fun _ => True) (fun phase state => ViewAtRest args phase (viewOf state)) where
  program := by
    intro phase state after p rest started
    rcases started with ⟨started, rfl⟩ | ⟨rfl, -, memory⟩
    · exact ensures_steady (helper_views started (rest.congr rfl) rfl)
    · exact rest.congr memory
  moment := fun _ _ _ => trivial
  others := fun _ _ _ _ => trivial
  stable := fun _ _ _ rest changed => rest.congr changed.2.2
  death := fun _ _ _ _ died => died.elim

/-- A tick takes the exit for an unchanged fingerprint: it does not hold, sees what it
remembers and is not forced to act. -/
structure TakesExit (memory : MacosDnsState) (fingerprint : MacosDnsFingerprint) (collision : Bool) : Prop where
  active : dnsDecision dnsPolicy fingerprint collision ≠ .hold
  unchanged : fingerprint = memory.fingerprint
  unforced : dnsReconcileForced collision (memory.services.map MacosDnsServiceState.service)
    (dnsDecision dnsPolicy fingerprint collision).targets = false

/-- A tick acts unless it holds or takes the exit. -/
theorem reconcileServices_acts {state : MacosCleanupState} {fingerprint : MacosDnsFingerprint} {collision : Bool} :
    Ensures View.environment (fun _ _ => True) (reconcileServices state fingerprint collision) (fun acted _ =>
      acted = true ↔ dnsDecision dnsPolicy fingerprint collision ≠ .hold ∧ ¬TakesExit view.memory fingerprint collision)
      view := by
  rw [reconcileServices, Ensures.bind_iff, issue_iff]
  refine ⟨trivial, ?_⟩
  intro memory after stepped
  obtain ⟨-, rfl, rfl⟩ := stepped
  dsimp only
  split
  · rename_i hold
    simp [hold]
  rename_i active
  split
  · rename_i unchanged
    have exits : TakesExit after.memory fingerprint collision := ⟨active, unchanged.1, unchanged.2⟩
    simp [exits]
  · rename_i changed
    have acts : dnsDecision dnsPolicy fingerprint collision ≠ .hold ∧ ¬TakesExit after.memory fingerprint collision :=
      ⟨active, fun exits => changed ⟨exits.unchanged, exits.unforced⟩⟩
    rw [Ensures.bind_iff]
    apply (Ensures.any _ _).mono
    intro count applied _
    rw [Ensures.bind_iff]
    apply (Ensures.any _ _).mono
    intro _ remembered _
    by_cases key : state.dnsStoreKey
    · rw [if_pos key, Ensures.bind_iff]
      apply (Ensures.any _ _).mono
      intro _ _ _
      exact iff_of_true rfl acts
    · rw [if_neg key]
      exact iff_of_true rfl acts

/-- The plan of a tick for what it sees. -/
def planFor (args : HelperArgs) (memory : MacosDnsState) (fingerprint : MacosDnsFingerprint) (collision : Bool) :
    DnsActions :=
  planDnsActions args.config.dnsServers fingerprint (memory.services.map MacosDnsServiceState.service)
    (dnsDecision dnsPolicy fingerprint collision).targets

/-- On a steady host a tick that takes the exit has nothing to do. -/
theorem exit_undoes_nothing {state : Host × Moment} {cleanup : MacosCleanupState} {routing : MacosRoutingState}
    (reached : (reconcilerSession args steadyHost).Reachable
      (fun phase first => phase = .ready ∧ first.1.memory.services = []) (state, .done (.up cleanup routing)))
    {fingerprint : MacosDnsFingerprint} {collision : Bool} (exits : TakesExit state.1.memory fingerprint collision) :
    planFor args state.1.memory fingerprint collision = .none := by
  have starts : ∀ phase first, phase = HelperPhase.ready ∧ first.1.memory.services = [] →
      ViewAtRest args phase (viewOf first) := by
    intro phase first start
    obtain ⟨rfl, nothing⟩ := start
    exact congrArg (List.map MacosDnsServiceState.service) nothing
  obtain ⟨-, settled⟩ := reconcilerSession_kept.reachable_between starts reached
  obtain ⟨active, rfl, unforced⟩ := exits
  exact Settled.exit settled active unforced

/-! ### The laptop without a primary service at first -/

/-- The helper's commands on the laptop, and what their observer sees. -/
def momentScript (cues : Nat → Cue) : Handler helperCommands ((Host × Nat) × Moment) :=
  helperScript (fun _ => true) cues Moment.observe

theorem momentScript_faithful (cues : Nat → Cue) :
    (momentScript cues).Faithful (fun script => (script.1.1, script.2))
      ((Environment.idle routeCommands (Host × Moment)).both momentHost) :=
  helperScript_faithful _ _ _

def tickOf (args : HelperArgs) : HelperProgram HelperPhase := dnsTick ⟨false, args.inputs⟩ ⟨[], ⟨[], none⟩, []⟩

/-- A tick with a primary service, one command of which may fail. -/
def wifiCues (failing : Option Nat) (step : Nat) : Cue := { Cue.working (some "Wi-Fi") with fails := some step == failing }

def atFirst : (Host × Nat) × Moment := ((exampleHost, 0), ⟨false, false⟩)

def noPrimary (_ : Nat) : Cue := .working none

/-- Connected while no service is primary. -/
def holding : (Host × Nat) × Moment := (interpret (momentScript noPrimary) (connectProgram exampleArgs) atFirst).2

def holdingTick : (Host × Nat) × Moment := ((holding.1.1, 0), ⟨true, false⟩)

/-- After a tick in which all works. -/
def tookOver : (Host × Nat) × Moment := (interpret (momentScript (wifiCues none)) (tickOf exampleArgs) holdingTick).2

/-- After a tick in which the write of the tunnel's servers has failed. -/
def leftOver : (Host × Nat) × Moment := (interpret (momentScript (wifiCues (some 12))) (tickOf exampleArgs) holdingTick).2

def upPhase : HelperPhase := .up ⟨false, exampleArgs.inputs⟩ ⟨[], ⟨[], none⟩, []⟩

theorem holding_up : (interpret (momentScript noPrimary) (connectProgram exampleArgs) atFirst).1 = upPhase := by
  decide +kernel

theorem ticked_up (failing : Option Nat) (one : failing = none ∨ failing = some 12) :
    (interpret (momentScript (wifiCues failing)) (tickOf exampleArgs) holdingTick).1 = upPhase := by
  rcases one with rfl | rfl <;> decide +kernel

def soundMoment (state : Host × Moment) : (op : helperCommands.Op) → helperCommands.Reply op → Bool
  | .inl _, _ => true
  | .inr op, reply => steady state.2 op reply

/-- A run on a steady host, as far as the commands about DNS go. -/
theorem steady_run (cues : Nat → Cue) (p : HelperProgram A) (script : (Host × Nat) × Moment)
    (met : meets (momentScript cues) (fun script op reply => soundMoment (script.1.1, script.2) op reply) p script = true) :
    Completes ((Environment.idle routeCommands _).both steadyHost) p (script.1.1, script.2)
      (interpret (momentScript cues) p script).1
      ((interpret (momentScript cues) p script).2.1.1, (interpret (momentScript cues) p script).2.2) := by
  have run := interpret_meets (fun state op reply => soundMoment state op reply = true) _ (momentScript_faithful cues)
    (fun _ _ _ sound => sound) met
  apply run.mono
  intro state op reply after answered
  cases op with
  | inl op => exact answered.2
  | inr op => exact answered

/-- After a tick took the service over, nothing is left to do. -/
theorem exit_undoes_nothing_tookOver :
    planFor exampleArgs tookOver.1.1.memory tookOver.1.1.memory.fingerprint false = .none := by
  have start : (reconcilerSession exampleArgs steadyHost).Reachable
      (fun phase first => phase = .ready ∧ first.1.memory.services = []) ((exampleHost, ⟨false, false⟩), .done .ready) :=
    .begin ⟨rfl, rfl⟩
  have connected := steady_run noPrimary (connectProgram exampleArgs) atFirst (by decide +kernel)
  rw [holding_up] at connected
  have ticked := steady_run (wifiCues none) (tickOf exampleArgs) holdingTick (by decide +kernel)
  rw [ticked_up none (.inl rfl)] at ticked
  have held := start.program (.inl ⟨.connect, rfl⟩) connected
  exact exit_undoes_nothing (held.program (.inl ⟨.dnsTick, rfl⟩) ticked) ⟨by decide +kernel, rfl, by decide +kernel⟩

/-- A tick whose write fails remembers what it saw before, and the next tick, which sees
the same, takes the exit with the service still to be written. -/
theorem exit_leaves_service :
    ∃ state cleanup routing, (reconcilerSession exampleArgs momentHost).Reachable
      (fun phase first => phase = .ready ∧ first.1.memory.services = []) (state, .done (.up cleanup routing)) ∧
        ∃ fingerprint, (∃ seen, Completes momentHost macosCurrentDnsFingerprint state (.ok fingerprint) seen) ∧
          TakesExit state.1.memory fingerprint false ∧ planFor exampleArgs state.1.memory fingerprint false ≠ .none := by
  have start : (reconcilerSession exampleArgs momentHost).Reachable
      (fun phase first => phase = .ready ∧ first.1.memory.services = []) ((exampleHost, ⟨false, false⟩), .done .ready) :=
    .begin ⟨rfl, rfl⟩
  have held := start.completed (momentScript_faithful noPrimary) atFirst (.inl ⟨.connect, rfl⟩) holding_up
  have ticked := held.completed (momentScript_faithful (wifiCues (some 12))) holdingTick (.inl ⟨.dnsTick, rfl⟩)
    (ticked_up (some 12) (.inr rfl))
  have looked := interpret_completes ((scripted_faithful (fun _ => true) (wifiCues none)).observe Moment.observe)
    ((leftOver.1.1, 0), leftOver.2) macosCurrentDnsFingerprint
  have same : (interpret ((scripted (fun _ => true) (wifiCues none)).observe Moment.observe) macosCurrentDnsFingerprint
      ((leftOver.1.1, 0), leftOver.2)).1 = .ok leftOver.1.1.memory.fingerprint := by decide +kernel
  rw [same] at looked
  exact ⟨_, _, _, ticked, leftOver.1.1.memory.fingerprint, ⟨_, looked⟩, ⟨by decide +kernel, rfl, by decide +kernel⟩,
    by decide +kernel⟩

end Wgd.Dns
