import Wgd.Config.Resolving
import Wgd.Interaction.Transcript
import Wgd.Store.Conduct
import Wgd.Store.Script

/-! The hooks that run while a connection is taken down. -/

set_option autoImplicit false

namespace Wgd.Store

open Wgd.Interaction Wgd.Net Wgd.Config Wgd.Helper

/-- A run of the daemon, call by call. -/
abbrev Log : Type := List (Exchange storeCommands)

/-- These commands are started, one after the other, whatever becomes of each. -/
def Started (interface : String) (commands : List String) (log : Log) : Prop :=
  log.map Exchange.op = commands.map fun command => StoreOp.runShell (substituteInterface command interface)

/-- The helper is taken down, with success. -/
def TakesDown (interface : String) (log : Log) : Prop :=
  Performs (withNetworkLock (runGotatunDown interface)) log (.ok ())

def NoCommand (log : Log) : Prop := ∀ exchange ∈ log, ∀ command, exchange.op ≠ .runShell command

/-- All PreDown hooks of the stored text, then the helper, then all PostDown hooks. -/
def TearsDown (stored : StoredConnection) (log : Log) : Prop :=
  ∃ before pre down post after, log = before ++ (pre ++ down ++ post) ++ after ∧
    NoCommand before ∧ Started stored.interface (hookLines "predown" stored.rawConf) pre ∧
    TakesDown stored.interface down ∧
    Started stored.interface (hookLines "postdown" stored.rawConf) post ∧ NoCommand after

variable {crates : Crates} {interface : String} {stored : StoredConnection} {id : ConnectionId} {log : Log}
  {outcome : Except AppError Unit}

/-! ### The steps of a teardown -/

theorem runHook_run {command label : String} (run : Performs (runHook command interface label) log outcome) :
    log.map Exchange.op = [StoreOp.runShell (substituteInterface command interface)] := by
  obtain ⟨reply, rest, rfl, inside⟩ := Performs.command_bind.mp run
  have last : rest = [] := by
    cases reply with
    | error error => exact (Performs.pure_iff.mp inside).1
    | ok status =>
      dsimp only at inside
      split at inside
      · exact (Performs.pure_iff.mp inside).1
      · exact (Performs.pure_iff.mp inside).1
  rw [last]
  rfl

theorem runHooksBestEffort_run {commands : List String} {label : String}
    (run : Performs (runHooksBestEffort commands interface label) log ()) : Started interface commands log := by
  induction commands generalizing log with
  | nil =>
    rw [(Performs.done_iff.mp run).1]
    rfl
  | cons command rest ih =>
    obtain ⟨result, first, later, rfl, begins, ends⟩ := Performs.bind_iff.mp run
    rw [Started, List.map_append, runHook_run begins, ih ends]
    rfl

/-- The lock comes first, and is not taken again. -/
theorem withNetworkLock_run (run : Performs (withNetworkLock (runGotatunDown interface)) log outcome) :
    ∃ reply rest, log = ⟨.lockNetwork, reply⟩ :: rest ∧
      ∀ exchange ∈ rest, OnHelperStop interface exchange.op ∨ exchange.op = .unlockNetwork := by
  obtain ⟨reply, rest, rfl, inside⟩ := Performs.command_bind.mp run
  refine ⟨reply, rest, rfl, ?_⟩
  cases reply with
  | error error =>
    rw [(Performs.pure_iff.mp inside).1]
    simp
  | ok value =>
    have issues : @Issues storeCommands _ (fun op => OnHelperStop interface op ∨ op = .unlockNetwork) (do
        let result ← runGotatunDown interface
        storeCall .unlockNetwork
        return result) fun _ => True := by
      apply Issues.bind (Issues.relax (fun _ stops => .inl stops) runGotatunDown_stop)
      intro result _
      exact issues_call (.inr rfl) fun _ => trivial
    exact inside.issued issues

theorem withNetworkLock_noCommand (run : Performs (withNetworkLock (runGotatunDown interface)) log outcome) : NoCommand log := by
  obtain ⟨reply, rest, rfl, stops⟩ := withNetworkLock_run run
  intro exchange member command same
  cases List.mem_cons.mp member with
  | inl first =>
    rw [first] at same
    cases same
  | inr later =>
    cases stops exchange later with
    | inl stop =>
      rw [same] at stop
      exact stop
    | inr unlocks =>
      rw [same] at unlocks
      cases unlocks

theorem Started.noLock {commands : List String} (started : Started interface commands log) (reply : Except IoError Unit) :
    (⟨.lockNetwork, reply⟩ : Exchange storeCommands) ∉ log := by
  intro member
  have issued : StoreOp.lockNetwork ∈ log.map Exchange.op := List.mem_map_of_mem (f := Exchange.op) member
  rw [started] at issued
  simp at issued

/-- A helper that is taken down in a run whose only teardown ends like this. -/
theorem teardown_outcome {commands : List String} {pre down before during after : Log} (started : Started interface commands pre)
    (run : Performs (withNetworkLock (runGotatunDown interface)) down outcome) (taken : TakesDown interface during)
    (same : pre ++ down = before ++ during ++ after) : outcome = .ok () := by
  obtain ⟨reply, rest, rfl, stops⟩ := withNetworkLock_run run
  obtain ⟨reply', rest', shape, -⟩ := withNetworkLock_run taken
  have later : (⟨.lockNetwork, reply'⟩ : Exchange storeCommands) ∉ rest := by
    intro member
    cases stops _ member with
    | inl stop => exact stop
    | inr unlocks => cases unlocks
  rw [shape, List.append_assoc, List.cons_append, List.append_cons_inj_of_notMem (started.noLock reply') later] at same
  have begins : (⟨.lockNetwork, reply⟩ :: rest : Log) ++ [] = during ++ after := by
    rw [shape, List.append_nil, List.cons_append, same.2.1, same.2.2]
  exact (run.unique taken begins).2

/-- Whatever the re-parse says, the hooks and the helper come in this order. -/
theorem takeDown_run {resolver : Resolver} (run : Performs (takeDown crates stored) (⟨.resolver, resolver⟩ :: log) outcome) :
    ∃ pre down post ended, log = pre ++ down ++ post ∧ Performs (withNetworkLock (runGotatunDown stored.interface)) down ended ∧
      (∀ error, ended = .error error → post = [] ∧ outcome = .error error) ∧
      ((∃ reparsed, parseConnectionConfig crates resolver stored.rawConf = .ok reparsed ∧
          Started stored.interface reparsed.preDown pre ∧ (ended = .ok () → Started stored.interface reparsed.postDown post)) ∨
        (∃ error, parseConnectionConfig crates resolver stored.rawConf = .error error) ∧ pre = [] ∧ post = []) := by
  obtain ⟨reply, rest, same, inside⟩ := Performs.command_bind.mp run
  cases same
  cases parsed : parseConnectionConfig crates resolver stored.rawConf with
  | error error =>
    rw [parsed] at inside
    exact ⟨[], log, [], outcome, by simp, inside, fun _ failed => ⟨rfl, failed⟩, .inr ⟨⟨error, rfl⟩, rfl, rfl⟩⟩
  | ok reparsed =>
    rw [parsed] at inside
    obtain ⟨_, pre, later, rfl, begins, inside⟩ := Performs.bind_iff.mp inside
    have started := runHooksBestEffort_run begins
    cases Performs.attempt_iff.mp inside with
    | inl failed =>
      obtain ⟨error, down, same⟩ := failed
      refine ⟨pre, later, [], .error error, by simp, down, fun _ again => ⟨rfl, same.trans ?_⟩, .inl ⟨reparsed, rfl, started, ?_⟩⟩
      · cases again
        rfl
      · intro went
        cases went
    | inr went =>
      obtain ⟨value, down, post, rfl, downs, ends⟩ := went
      obtain ⟨_, post, ended, rfl, hooks, ends⟩ := Performs.bind_iff.mp ends
      rw [(Performs.pure_iff.mp ends).1, List.append_nil]
      refine ⟨pre, down, post, .ok value, by simp, downs, ?_, .inl ⟨reparsed, rfl, started, fun _ => runHooksBestEffort_run hooks⟩⟩
      intro error failed
      cases failed

/-! ### A whole disconnect -/

theorem Started.nil : Started interface [] [] := rfl

theorem Started.no_command {commands : List String} (started : Started interface commands log) (quiet : NoCommand log) :
    commands = [] := by
  cases commands with
  | nil => rfl
  | cons command rest =>
    cases log with
    | nil => cases started
    | cons exchange later => exact absurd (List.cons.inj started).1 (quiet exchange List.mem_cons_self _)

theorem load_run {found : Except AppError (Option StoredConnection)} (run : Performs (load id) log found) :
    ∃ reply, log = [⟨.readRecord id, reply⟩] ∧ ∀ file, reply = .ok file → found = (file.read id).map some := by
  obtain ⟨reply, rest, rfl, inside⟩ := Performs.command_bind.mp run
  cases reply with
  | ok file =>
    obtain ⟨rfl, rfl⟩ := Performs.pure_iff.mp inside
    refine ⟨.ok file, rfl, ?_⟩
    intro other same
    cases same
    rfl
  | error error =>
    have last : rest = [] := by
      dsimp only at inside
      split at inside
      · exact (Performs.pure_iff.mp inside).1
      · exact (Performs.pure_iff.mp inside).1
    rw [last]
    refine ⟨.error error, rfl, ?_⟩
    intro other same
    cases same

theorem loadRequired_run {found : Except AppError StoredConnection} (run : Performs (loadRequired id) log found) :
    ∃ reply, log = [⟨.readRecord id, reply⟩] ∧ ∀ file, reply = .ok file → found = file.read id := by
  cases Performs.attempt_iff.mp run with
  | inl failed =>
    obtain ⟨error, loads, rfl⟩ := failed
    obtain ⟨reply, only, decides⟩ := load_run loads
    refine ⟨reply, only, ?_⟩
    intro file same
    have outcome := decides file same
    cases read : file.read id with
    | error other =>
      rw [read] at outcome
      cases outcome
      rfl
    | ok stored =>
      rw [read] at outcome
      cases outcome
  | inr went =>
    obtain ⟨value, first, rest, rfl, loads, ends⟩ := went
    obtain ⟨reply, rfl, decides⟩ := load_run loads
    have last : rest = [] := by
      cases value with
      | none => exact (Performs.done_iff.mp ends).1
      | some stored => exact (Performs.done_iff.mp ends).1
    rw [last]
    refine ⟨reply, rfl, ?_⟩
    intro file same
    have outcome := decides file same
    cases read : file.read id with
    | error other =>
      rw [read] at outcome
      cases outcome
    | ok stored =>
      rw [read] at outcome
      cases outcome
      exact (Performs.done_iff.mp ends).2.symm

/-- What is done with a record that can be read. -/
theorem withStored_run {A : Type} {file : RecordFile} {f : StoredConnection → StoreProgram (Except AppError A)}
    {result : Except AppError A} (read : file.read id = .ok stored)
    (run : Performs ((loadRequired id).attempt f) (⟨.readRecord id, .ok file⟩ :: log) result) :
    Performs (f stored) log result := by
  cases Performs.attempt_iff.mp run with
  | inl failed =>
    obtain ⟨error, loads, -⟩ := failed
    obtain ⟨reply, same, decides⟩ := loadRequired_run loads
    cases same
    have outcome := decides file rfl
    rw [read] at outcome
    cases outcome
  | inr went =>
    obtain ⟨value, first, rest, split, loads, inside⟩ := went
    obtain ⟨reply, rfl, decides⟩ := loadRequired_run loads
    cases split
    have outcome := decides file rfl
    rw [read] at outcome
    cases outcome
    exact inside

/-- What comes after the teardown proper. -/
theorem disconnect_run {file : RecordFile} {resolver : Resolver} (read : file.read id = .ok stored)
    (run : Performs (disconnect crates id) (⟨.readRecord id, .ok file⟩ :: ⟨.resolver, resolver⟩ :: log) outcome) :
    ∃ down after ended, log = down ++ after ∧ Performs (takeDown crates stored) (⟨.resolver, resolver⟩ :: down) ended ∧
      NoCommand after ∧ (∀ error, ended = .error error → after = [] ∧ outcome = .error error) := by
  have inside := withStored_run read run
  cases Performs.attempt_iff.mp inside with
  | inl failed =>
    obtain ⟨error, down, same⟩ := failed
    refine ⟨log, [], .error error, by simp, down, by simp [NoCommand], fun _ again => ⟨rfl, same.trans ?_⟩⟩
    cases again
    rfl
  | inr went =>
    obtain ⟨value, down, after, split, downs, clears⟩ := went
    obtain ⟨asked, rest, shape, -⟩ := Performs.command_bind.mp downs
    rw [shape, List.cons_append, List.cons.injEq] at split
    obtain ⟨asks, split⟩ := split
    refine ⟨rest, after, .ok value, split, by rwa [shape, ← asks] at downs, ?_, ?_⟩
    · obtain ⟨reply, none, rfl, ends⟩ := Performs.command_bind.mp clears
      rw [(Performs.pure_iff.mp ends).1]
      simp [NoCommand]
    · intro error failed
      cases failed

/-- A disconnect is a teardown of the stored connection, with or without hooks, and the end of its marker. -/
theorem disconnect_parts {file : RecordFile} {resolver : Resolver} (read : file.read id = .ok stored)
    (run : Performs (disconnect crates id) (⟨.readRecord id, .ok file⟩ :: ⟨.resolver, resolver⟩ :: log) outcome) :
    ∃ pre down post after ended, log = pre ++ down ++ post ++ after ∧ NoCommand after ∧
      Performs (withNetworkLock (runGotatunDown stored.interface)) down ended ∧
      (∀ error, ended = .error error → post = [] ∧ after = [] ∧ outcome = .error error) ∧
      ((∃ reparsed, parseConnectionConfig crates resolver stored.rawConf = .ok reparsed ∧
          Started stored.interface reparsed.preDown pre ∧ (ended = .ok () → Started stored.interface reparsed.postDown post)) ∨
        (∃ error, parseConnectionConfig crates resolver stored.rawConf = .error error) ∧ pre = [] ∧ post = []) := by
  obtain ⟨rest, after, torn, rfl, downs, quiet, stops⟩ := disconnect_run read run
  obtain ⟨pre, down, post, ended, rfl, lowers, fails, hooks⟩ := takeDown_run downs
  refine ⟨pre, down, post, after, ended, rfl, quiet, lowers, ?_, hooks⟩
  intro error failed
  obtain ⟨unhooked, torn⟩ := fails error failed
  exact ⟨unhooked, stops error torn⟩

/-- Where the text is not accepted again, no hook runs. -/
theorem unparsed_quiet {file : RecordFile} {resolver : Resolver} {error : AppError} (read : file.read id = .ok stored)
    (failed : parseConnectionConfig crates resolver stored.rawConf = .error error)
    (run : Performs (disconnect crates id) (⟨.readRecord id, .ok file⟩ :: ⟨.resolver, resolver⟩ :: log) outcome) :
    NoCommand log := by
  obtain ⟨pre, down, post, after, ended, rfl, quiet, lowers, -, hooks⟩ := disconnect_parts read run
  cases hooks with
  | inl parsed =>
    obtain ⟨reparsed, parsed, -⟩ := parsed
    rw [failed] at parsed
    cases parsed
  | inr unparsed =>
    obtain ⟨-, rfl, rfl⟩ := unparsed
    intro exchange member
    simp only [List.nil_append, List.append_nil, List.mem_append] at member
    exact member.elim (withNetworkLock_noCommand lowers exchange) (quiet exchange)

/-- Hooks that ran without a command were none. -/
theorem TearsDown.quiet (torn : TearsDown stored log) (quiet : NoCommand log) :
    hookLines "predown" stored.rawConf = [] ∧ hookLines "postdown" stored.rawConf = [] := by
  obtain ⟨before, pre, down, post, after, rfl, -, preHooks, -, postHooks, -⟩ := torn
  constructor
  · exact preHooks.no_command fun exchange member => quiet exchange (by simp [member])
  · exact postHooks.no_command fun exchange member => quiet exchange (by simp [member])

/-- A part of the run took the helper down. -/
def HelperDown (interface : String) (log : Log) : Prop :=
  ∃ before during after, log = before ++ during ++ after ∧ TakesDown interface during

/-- A disconnect in which the helper was taken down ran the stored text's hooks if and only
if the text's endpoints were resolved, or there are no hooks to run. -/
theorem disconnect_hooks_iff {accepting resolver : Resolver} {config : ConnectionConfig} {file : RecordFile}
    (accepted : parseConnectionConfig crates accepting stored.rawConf = .ok config) (read : file.read id = .ok stored)
    (run : Performs (disconnect crates id) (⟨.readRecord id, .ok file⟩ :: ⟨.resolver, resolver⟩ :: log) outcome)
    (taken : HelperDown stored.interface log) :
    TearsDown stored log ↔ endpointsResolve resolver stored.rawConf = true ∨
      (hookLines "predown" stored.rawConf = [] ∧ hookLines "postdown" stored.rawConf = []) := by
  obtain ⟨pre, down, post, after, ended, rfl, quiet, lowers, fails, hooks⟩ := disconnect_parts read run
  obtain ⟨before, during, later, same, taken⟩ := taken
  have succeeded : ended = .ok () := by
    cases ended with
    | ok value => rfl
    | error error =>
      obtain ⟨rfl, rfl, -⟩ := fails error rfl
      rw [List.append_nil, List.append_nil] at same
      cases hooks with
      | inl parsed =>
        obtain ⟨reparsed, -, started, -⟩ := parsed
        exact teardown_outcome started lowers taken same
      | inr unparsed =>
        obtain ⟨-, rfl, -⟩ := unparsed
        exact teardown_outcome Started.nil lowers taken same
  rw [succeeded] at lowers
  rw [← @accepted_again crates accepting resolver stored.rawConf config accepted]
  have none : NoCommand [] := by simp [NoCommand]
  cases hooks with
  | inl parsed =>
    obtain ⟨reparsed, parsed, started, later⟩ := parsed
    obtain ⟨preHooks, postHooks⟩ := parse_hooks parsed
    have torn : TearsDown stored (pre ++ down ++ post ++ after) :=
      ⟨[], pre, down, post, after, rfl, none, preHooks ▸ started, lowers, postHooks ▸ later succeeded, quiet⟩
    rw [parsed]
    exact iff_of_true torn (.inl rfl)
  | inr unparsed =>
    obtain ⟨⟨error, failed⟩, rfl, rfl⟩ := unparsed
    rw [failed]
    constructor
    · intro torn
      exact .inr (torn.quiet (unparsed_quiet read failed run))
    · intro condition
      cases condition with
      | inl resolved => cases resolved
      | inr noHooks =>
        refine ⟨[], [], down, [], after, rfl, none, ?_, lowers, ?_, quiet⟩
        · rw [noHooks.1]
          exact Started.nil
        · rw [noHooks.2]
          exact Started.nil

/-- A run in which the text is not accepted again. -/
theorem performs_unparsed {file : RecordFile} {resolver : Resolver} {error : AppError} (read : file.read id = .ok stored)
    (failed : parseConnectionConfig crates resolver stored.rawConf = .error error) (taken : TakesDown stored.interface log) :
    Performs (disconnect crates id) (⟨.readRecord id, .ok file⟩ :: ⟨.resolver, resolver⟩ :: (log ++ [⟨.removeActive id, .ok ()⟩]))
      (.ok ()) := by
  have reads : Performs (load id) [⟨.readRecord id, .ok file⟩] (.ok (some stored)) := by
    apply Performs.command_bind.mpr
    refine ⟨.ok file, [], rfl, Performs.pure_iff.mpr ⟨rfl, ?_⟩⟩
    rw [read]
    rfl
  have loads : Performs (loadRequired id) [⟨.readRecord id, .ok file⟩] (.ok stored) :=
    Performs.attempt_iff.mpr (.inr ⟨some stored, _, [], rfl, reads, .done _⟩)
  have downs : Performs (takeDown crates stored) (⟨.resolver, resolver⟩ :: log) (.ok ()) := by
    apply Performs.command_bind.mpr
    refine ⟨resolver, log, rfl, ?_⟩
    rw [failed]
    exact taken
  have clears : Performs (clearActive id) [⟨.removeActive id, .ok ()⟩] (.ok ()) := .call (.done _)
  exact Performs.attempt_iff.mpr (.inr ⟨stored, _, _, rfl, loads,
    Performs.attempt_iff.mpr (.inr ⟨(), ⟨.resolver, resolver⟩ :: log, _, rfl, downs, clears⟩)⟩)

/-! ### A connection with hooks and a host name -/

def hookedText : String :=
  "[Interface]\nPrivateKey = AAAAAAAAAAAAAAAAAAAAAAAAAAAAAAAAAAAAAAAAAAA=\nAddress = 10.0.0.2/32\n" ++
    "PreDown = logger down %i\nPostDown = umount /mnt/office\n" ++
    "[Peer]\nPublicKey = AAAAAAAAAAAAAAAAAAAAAAAAAAAAAAAAAAAAAAAAAAA=\nAllowedIPs = 10.0.0.0/8\nEndpoint = vpn.example:51820\n"

def vpnAddr : SocketAddr := ⟨.v4 0xc0000201, 51820, 0⟩

def hookedConfig : ConnectionConfig :=
  { exampleConfig with
    preDown := ["logger down %i"], postDown := ["umount /mnt/office"]
    peers := exampleConfig.peers.map fun peer => { peer with endpoint := some vpnAddr, endpointLiteral := some "vpn.example:51820" } }

def hookedStored : StoredConnection :=
  { exampleStored with config := hookedConfig, rawConf := hookedText, fingerprint := fingerprint exampleCrates hookedConfig }

def answering : Resolver := fun _ _ _ => .ok vpnAddr

theorem hooked_lines : readText hookedText =
    [.header .interface, .directive "privatekey" exampleKeyText, .directive "address" "10.0.0.2/32".toList,
      .directive "predown" "logger down %i".toList, .directive "postdown" "umount /mnt/office".toList, .header .peer,
      .directive "publickey" exampleKeyText, .directive "allowedips" "10.0.0.0/8".toList,
      .directive "endpoint" "vpn.example:51820".toList] := by decide +kernel

theorem hooked_accepted : parseConnectionConfig exampleCrates answering hookedStored.rawConf = .ok hookedConfig := by
  apply toOption_eq_some.mp
  rw [parseConnectionConfig_sectional]
  show sectional exampleCrates answering (readText hookedText) = some hookedConfig
  rw [hooked_lines]
  decide +kernel

/-- Without an answer for the host name, the text is not accepted again. -/
theorem hooked_unresolved :
    ∃ error, parseConnectionConfig exampleCrates noResolver hookedStored.rawConf = .error error := by
  have again := @accepted_again exampleCrates answering noResolver _ _ hooked_accepted
  have unresolved : endpointsResolve noResolver hookedStored.rawConf = false := by
    show resolves noResolver 0 ((peerSections (readText hookedText)).flatMap (valuesOf "endpoint")) = false
    rw [hooked_lines]
    decide +kernel
  rw [unresolved] at again
  cases parsed : parseConnectionConfig exampleCrates noResolver hookedStored.rawConf with
  | error error => exact ⟨error, rfl⟩
  | ok config =>
    rw [parsed] at again
    cases again

theorem hooked_read : (RecordFile.record hookedStored).read exampleId = .ok hookedStored := by decide +kernel

/-- The calls that shut the helper down in a script where it runs. -/
def hookedDown : Log :=
  transcript (scriptedStore workingCues) (withNetworkLock (runGotatunDown hookedStored.interface)) upScript

theorem hookedDown_taken : TakesDown hookedStored.interface hookedDown := by
  have ends : (play workingCues (withNetworkLock (runGotatunDown hookedStored.interface)) upScript).1 = .ok () := by
    decide +kernel
  have run := transcript_performs (scriptedStore workingCues) (withNetworkLock (runGotatunDown hookedStored.interface)) upScript
  unfold play at ends
  rw [ends] at run
  exact run

/-- What follows once the record was read and the resolver asked. -/
def hookedLog : Log := hookedDown ++ [⟨.removeActive exampleId, .ok ()⟩]

theorem hooked_run : Performs (disconnect exampleCrates exampleId)
    (⟨.readRecord exampleId, .ok (.record hookedStored)⟩ :: ⟨.resolver, noResolver⟩ :: hookedLog) (.ok ()) := by
  obtain ⟨error, failed⟩ := hooked_unresolved
  exact performs_unparsed hooked_read failed hookedDown_taken

theorem disconnect_hooks_hooked : TearsDown hookedStored hookedLog ↔
    endpointsResolve noResolver hookedStored.rawConf = true ∨
      (hookLines "predown" hookedStored.rawConf = [] ∧ hookLines "postdown" hookedStored.rawConf = []) :=
  disconnect_hooks_iff hooked_accepted hooked_read hooked_run ⟨[], hookedDown, _, rfl, hookedDown_taken⟩

/-- Without an answer for the host name, the connection goes down and its hooks do not run. -/
theorem hooks_skipped_unresolved :
    ¬ ∀ (crates : Crates) (id : ConnectionId) (stored : StoredConnection) (file : RecordFile) (accepting resolver : Resolver)
      (config : ConnectionConfig) (log : Log) (outcome : Except AppError Unit),
      parseConnectionConfig crates accepting stored.rawConf = .ok config → file.read id = .ok stored →
      Performs (disconnect crates id) (⟨.readRecord id, .ok file⟩ :: ⟨.resolver, resolver⟩ :: log) outcome →
      HelperDown stored.interface log → TearsDown stored log := by
  intro claim
  have torn := claim _ _ _ _ _ _ _ _ _ hooked_accepted hooked_read hooked_run ⟨[], hookedDown, _, rfl, hookedDown_taken⟩
  obtain ⟨error, failed⟩ := hooked_unresolved
  have hooks := (torn.quiet (unparsed_quiet hooked_read failed hooked_run)).1
  have some : hookLines "predown" hookedStored.rawConf = ["logger down %i"] := by
    show (valuesOf "predown" (interfaceDirectives (readText hookedText))).map String.ofList = ["logger down %i"]
    rw [hooked_lines]
    decide +kernel
  rw [some] at hooks
  cases hooks

end Wgd.Store
