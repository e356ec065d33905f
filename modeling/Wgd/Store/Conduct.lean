import Wgd.Interaction.Footprint
import Wgd.Store.Environment

/-! What bringing a connection up or down may touch: its own record and marker for
reading, its marker for writing, and its own helper. Its errors are never
authentication failures. -/

set_option autoImplicit false

namespace Wgd.Store

open Wgd.Interaction Wgd.Net Wgd.Links Wgd.Config Wgd.Helper

/-- The calls made for the tunnel of one connection. -/
def OnTunnel (id : ConnectionId) : StoreOp → Prop
  | .lockIndex | .unlockIndex | .lockConnection _ _ | .unlockConnection _ | .listRecords | .writeRecord _
  | .removeRecord _ | .custodyStatus | .verifyExternalForm _ | .newConnectionId | .sudoUid | .wgShow _
  | .networkOverview _ | .leaseTokenIsLive _ => False
  | .readRecord other | .readActive other | .writeActive other _ | .removeActive other => other = id
  | .removeFile path | .removeRegularFile path => ownPath id.interfaceName path
  | .waitForCleanupStatus interface _ | .rotateHelperLog interface | .helperIsLiveWithoutRecord interface
  | .sweepInterface interface | .custodyRecordExists interface => interface = id.interfaceName
  | .spawnHelper spec => spec.connectionId = id ∧ spec.interface = id.interfaceName
  | .lockNetwork | .unlockNetwork | .tryExists _ | .pathExists _ | .metadata _ | .readFile _ | .selfExecutable
  | .pidIsAlive _ | .processIdentity _ | .terminate _ | .interfaceExists _ | .ensureDnsCustodyDir | .createSentinel
  | .settle | .runShell _ | .resolver | .nowUnix => True

def NotAuth (error : AppError) : Prop := ∀ message, error ≠ .auth message

/-- What a call may bring about: a helper, or a marker. -/
def StoreOp.raises : StoreOp → Bool
  | .spawnHelper _ | .writeActive _ _ => true
  | _ => false

/-- The calls made to take a tunnel down: no helper is started and no marker written. -/
def OnTeardown (id : ConnectionId) (op : StoreOp) : Prop := OnTunnel id op ∧ op.raises = false

/-- The calls made to shut a helper down. -/
def OnHelperStop (interface : String) : StoreOp → Prop
  | .readFile _ | .pathExists _ | .pidIsAlive _ | .processIdentity _ | .terminate _ | .interfaceExists _ => True
  | .removeFile path => ownPath interface path
  | .waitForCleanupStatus other _ => other = interface
  | _ => False

variable {id : ConnectionId} {interface : String} {crates : Crates} {allowed : StoreOp → Prop}

theorem OnHelperStop.teardown {op : StoreOp} (stop : OnHelperStop id.interfaceName op) : OnTeardown id op := by
  cases op <;> first
    | exact ⟨trivial, rfl⟩
    | exact ⟨stop, rfl⟩
    | exact stop.elim

/-- A fallible program of the tunnel. -/
abbrev Tunnels (id : ConnectionId) {A : Type} (p : StoreProgram (Except AppError A)) (post : A → Prop) : Prop :=
  @Issues storeCommands _ (OnTunnel id) p (Outcome NotAuth post)

/-- A fallible program that starts no helper. -/
abbrev Teardown (id : ConnectionId) {A : Type} (p : StoreProgram (Except AppError A)) (post : A → Prop) : Prop :=
  @Issues storeCommands _ (OnTeardown id) p (Outcome NotAuth post)

/-- A fallible program that shuts a helper down. -/
abbrev HelperStop (interface : String) {A : Type} (p : StoreProgram (Except AppError A)) (post : A → Prop) : Prop :=
  @Issues storeCommands _ (OnHelperStop interface) p (Outcome NotAuth post)

theorem HelperStop.teardown {A : Type} {p : StoreProgram (Except AppError A)} {post : A → Prop}
    (stop : HelperStop id.interfaceName p post) : Teardown id p post :=
  Issues.relax (fun _ => OnHelperStop.teardown) stop

theorem Teardown.tunnels {A : Type} {p : StoreProgram (Except AppError A)} {post : A → Prop}
    (teardown : Teardown id p post) : Tunnels id p post :=
  Issues.relax (fun _ quiet => quiet.1) teardown

/-- The rule for a call with a continuation. -/
theorem issues_call {A : Type} {op : StoreOp} {f : op.Reply → StoreProgram A} {post : A → Prop} (permitted : allowed op)
    (rest : ∀ reply, @Issues storeCommands _ allowed (f reply) post) :
    @Issues storeCommands _ allowed (storeCall op >>= f) post :=
  Issues.bind_iff.mpr ⟨permitted, rest⟩

theorem notAuth_io (error : IoError) : NotAuth (.io error) := by
  intro message same
  cases same

theorem notAuth_other (text : String) : NotAuth (.other text) := by
  intro message same
  cases same

theorem notAuth_wireGuard (text : String) : NotAuth (.wireGuard text) := by
  intro message same
  cases same

theorem notAuth_json (text : String) : NotAuth (.json text) := by
  intro message same
  cases same

theorem notAuth_parse {resolver : Resolver} {input : String} {error : AppError}
    (failed : parseConnectionConfig crates resolver input = .error error) : NotAuth error := by
  obtain ⟨message, rfl⟩ := parseConnectionConfig_errors input error failed
  exact notAuth_wireGuard message

/-! ### The store -/

theorem load_issues (permitted : allowed (.readRecord id)) :
    @Issues storeCommands _ allowed (load id) (Outcome NotAuth fun found => ∀ stored, found = some stored →
      stored.id = id ∧ stored.interface = id.interfaceName) := by
  apply issues_call permitted
  intro reply
  cases reply with
  | ok file =>
    simp only [Issues.pure_iff]
    cases outcome : file.read id with
    | error error =>
      intro message same
      exact RecordFile.read_ne_auth (outcome.trans (congrArg Except.error same))
    | ok stored =>
      rintro found ⟨⟩
      exact (RecordFile.read_ok_iff.mp outcome).2
  | error error =>
    dsimp only
    split
    · intro stored same
      cases same
    · exact notAuth_io error

theorem loadActive_issues (permitted : allowed (.readActive id)) :
    @Issues storeCommands _ allowed (loadActive id) (Outcome NotAuth fun _ => True) := by
  apply issues_call permitted
  intro reply
  cases reply with
  | ok file =>
    cases file with
    | marker state => trivial
    | malformed message => exact notAuth_json message
  | error error =>
    dsimp only
    split
    · trivial
    · exact notAuth_io error

theorem writeOutcome_result (outcome : WriteOutcome) : Outcome NotAuth (fun _ => True) outcome.result := by
  cases outcome with
  | written => trivial
  | failed error => exact notAuth_io error
  | unsynced error => exact notAuth_io error

theorem ioResult_outcome {A : Type} (outcome : Except IoError A) : Outcome NotAuth (fun _ => True) (ioResult outcome) := by
  cases outcome with
  | ok value => trivial
  | error error => exact notAuth_io error

theorem saveActive_issues {state : ActiveConnectionState} (permitted : allowed (.writeActive id state)) :
    @Issues storeCommands _ allowed (saveActive id state) (Outcome NotAuth fun _ => True) :=
  issues_call permitted writeOutcome_result

theorem clearActive_issues (permitted : allowed (.removeActive id)) :
    @Issues storeCommands _ allowed (clearActive id) (Outcome NotAuth fun _ => True) :=
  issues_call permitted ioResult_outcome

theorem activeDebug_issues (permitted : allowed (.readActive id)) (stats : ∀ path, allowed (.tryExists path)) :
    @Issues storeCommands _ allowed (activeDebug id) (Outcome NotAuth fun _ => True) := by
  unfold activeDebug
  apply Issues.bind (loadActive_issues permitted)
  intro loaded holds
  cases loaded with
  | error error => exact holds
  | ok active =>
    cases active with
    | none => trivial
    | some active =>
      apply issues_call (stats _)
      intro there
      cases there with
      | error error => trivial
      | ok there => cases there <;> trivial

theorem isActive_issues (permitted : allowed (.readActive id)) (stats : ∀ path, allowed (.tryExists path)) :
    @Issues storeCommands _ allowed (isActive id) fun _ => True := by
  apply Issues.bind (activeDebug_issues permitted stats)
  intro active _
  trivial

/-! ### The helper process -/

theorem readGotatunPid_stop (path : String) : HelperStop interface (readGotatunPid path) fun _ => True := by
  apply issues_call trivial
  intro reply
  cases reply with
  | ok raw =>
    simp only [Issues.pure_iff, parseGotatunPid]
    split
    · exact notAuth_other _
    · split
      · exact notAuth_other _
      · trivial
  | error error =>
    dsimp only
    split
    · trivial
    · exact notAuth_io error

theorem identity_stop (pid : Nat) : HelperStop interface (ensureGotatunProcessIdentity pid) fun _ => True := by
  apply issues_call trivial
  intro identity
  cases identity with
  | ok value => trivial
  | error text => exact notAuth_other text

theorem clearHelperFiles_stop :
    @Issues storeCommands _ (OnHelperStop interface) (clearHelperFiles interface) fun _ => True := by
  have own : ∀ path, ownPath interface path → OnHelperStop interface (.removeFile path) := fun path mine => mine
  apply issues_call (own _ (by simp [ownPath, staleRuntimePaths]))
  intro _
  apply issues_call (own _ (by simp [ownPath, staleRuntimePaths]))
  intro _
  apply issues_call (own _ (by simp [ownPath]))
  intro _
  trivial

theorem readGotatunPid_teardown (path : String) : Teardown id (readGotatunPid path) fun _ => True :=
  (readGotatunPid_stop path).teardown

theorem clearHelperFiles_issues : @Issues storeCommands _ (OnTeardown id) (clearHelperFiles id.interfaceName) fun _ => True :=
  Issues.relax (fun _ => OnHelperStop.teardown) clearHelperFiles_stop

theorem confirmHelper_teardown : Teardown id (confirmHelper interface) fun _ => True := by
  apply Issues.attempt (readGotatunPid_teardown _)
  intro tracked _
  cases tracked with
  | none => exact notAuth_wireGuard _
  | some pid =>
    apply issues_call ⟨trivial, rfl⟩
    intro alive
    cases alive with
    | true => exact (identity_stop pid).teardown
    | false => exact notAuth_wireGuard _

theorem startHelper_tunnels {spec : HelperSpec} (own : spec.connectionId = id ∧ spec.interface = id.interfaceName) :
    Tunnels id (startHelper spec) fun _ => True := by
  apply issues_call own
  intro outcome
  cases outcome with
  | error error => exact notAuth_other _
  | ok status =>
    dsimp only
    split
    · exact confirmHelper_teardown.tunnels
    · exact notAuth_wireGuard _

theorem trackedIsAlive_issues (tracked : Option Nat) :
    @Issues storeCommands _ (OnTeardown id) (trackedIsAlive tracked) fun _ => True := by
  cases tracked with
  | none => trivial
  | some pid => exact ⟨⟨trivial, rfl⟩, fun _ => trivial⟩

theorem selfExecutableForSpawn_teardown : Teardown id selfExecutableForSpawn fun _ => True := by
  apply issues_call ⟨trivial, rfl⟩
  intro resolved
  cases resolved with
  | ok value => trivial
  | error text => exact notAuth_other text

theorem rotateHelperLog_teardown (own : interface = id.interfaceName) :
    Teardown id (rotateHelperLog interface) fun _ => True := by
  apply issues_call ⟨own, rfl⟩
  intro rotated
  cases rotated with
  | ok value => trivial
  | error error => exact notAuth_other _

theorem runGotatunUp_tunnels {spec : HelperSpec} (own : spec.connectionId = id ∧ spec.interface = id.interfaceName) :
    Tunnels id (runGotatunUp spec) fun _ => True := by
  apply Issues.attempt (readGotatunPid_teardown _).tunnels
  intro tracked _
  apply Issues.bind (Issues.relax (fun _ quiet => quiet.1) (trackedIsAlive_issues tracked))
  intro alive _
  split
  · exact notAuth_wireGuard _
  · apply Issues.attempt selfExecutableForSpawn_teardown.tunnels
    intro _ _
    apply Issues.attempt (rotateHelperLog_teardown own.2).tunnels
    intro _ _
    rw [own.2]
    apply Issues.bind (Issues.relax (fun _ quiet => quiet.1) clearHelperFiles_issues)
    intro _ _
    exact startHelper_tunnels own

theorem terminateTracked_stop (tracked : Option Nat) : HelperStop interface (terminateTracked tracked) fun _ => True := by
  cases tracked with
  | none => trivial
  | some pid =>
    apply issues_call trivial
    intro alive
    cases alive with
    | false => trivial
    | true =>
      apply issues_call trivial
      intro killed
      cases killed with
      | ok value => trivial
      | error text => exact notAuth_other _

theorem awaitCleanupStatus_stop (tracked : Option Nat) :
    HelperStop interface (awaitCleanupStatus interface tracked) fun _ => True := by
  have waits : ∀ seconds, OnHelperStop interface (.waitForCleanupStatus interface seconds) := fun _ => rfl
  apply issues_call (waits 15)
  intro status
  cases status with
  | some status => trivial
  | none =>
    apply Issues.attempt (terminateTracked_stop tracked)
    intro _ _
    apply issues_call (waits 5)
    intro status
    cases status with
    | some status => trivial
    | none => exact notAuth_wireGuard _

theorem removeControlSocket_stop : HelperStop interface (removeControlSocket interface) fun _ => True := by
  apply issues_call trivial
  intro there
  cases there with
  | false => trivial
  | true =>
    have own : OnHelperStop interface (.removeFile (socketPath interface)) := List.mem_cons_of_mem _ List.mem_cons_self
    apply issues_call own
    intro removed
    cases removed with
    | ok value => trivial
    | error error => exact notAuth_other _

theorem alreadyAbsent_issues (tracked : Option Nat) (actualInterface : Option (List Char)) :
    @Issues storeCommands _ (OnHelperStop interface) (alreadyAbsent interface tracked actualInterface) fun _ => True := by
  unfold alreadyAbsent
  split
  · apply issues_call trivial
    intro there
    cases there with
    | true => trivial
    | false => exact issues_call trivial fun _ => trivial
  · trivial

theorem checkInterfaceGone_stop (name : Option (List Char)) : HelperStop interface (checkInterfaceGone name) fun _ => True := by
  cases name with
  | none => trivial
  | some name =>
    apply issues_call trivial
    intro there
    cases there with
    | true => exact notAuth_wireGuard _
    | false => trivial

theorem runGotatunDown_stop : HelperStop interface (runGotatunDown interface) fun _ => True := by
  have tracks : ∀ tracked, HelperStop interface (checkTracked tracked) fun _ => True := by
    intro tracked
    cases tracked with
    | none => trivial
    | some pid =>
      apply issues_call trivial
      intro alive
      cases alive with
      | true => exact identity_stop pid
      | false => trivial
  have reads : @Issues storeCommands _ (OnHelperStop interface) (readActualInterface interface) fun _ => True :=
    issues_call trivial fun _ => trivial
  apply Issues.bind reads
  intro name _
  apply Issues.attempt (readGotatunPid_stop _)
  intro tracked _
  apply Issues.attempt (tracks tracked)
  intro _ _
  apply Issues.bind (alreadyAbsent_issues _ _)
  intro absent _
  split
  · trivial
  · apply Issues.attempt removeControlSocket_stop
    intro _ _
    apply Issues.attempt (awaitCleanupStatus_stop tracked)
    intro status _
    split
    · apply Issues.attempt (checkInterfaceGone_stop _)
      intro _ _
      exact Issues.bind clearHelperFiles_stop fun _ _ => trivial
    · exact notAuth_wireGuard _

theorem checkInterfaceGone_teardown (name : Option (List Char)) : Teardown id (checkInterfaceGone name) fun _ => True :=
  (checkInterfaceGone_stop name).teardown

theorem runGotatunDown_teardown : Teardown id (runGotatunDown id.interfaceName) fun _ => True := runGotatunDown_stop.teardown

/-! ### Connecting and disconnecting -/

theorem runHook_teardown (command label : String) : Teardown id (runHook command interface label) fun _ => True := by
  apply issues_call ⟨trivial, rfl⟩
  intro outcome
  cases outcome with
  | error error => exact notAuth_other _
  | ok status =>
    dsimp only
    split
    · trivial
    · exact notAuth_wireGuard _

theorem runHooks_teardown (commands : List String) (label : String) :
    Teardown id (runHooks commands interface label) fun _ => True :=
  Issues.forEach (fun command => runHook_teardown command label) commands

theorem runHooksBestEffort_issues (commands : List String) (label : String) :
    @Issues storeCommands _ (OnTeardown id) (runHooksBestEffort commands interface label) fun _ => True := by
  induction commands with
  | nil => trivial
  | cons command rest ih =>
    unfold runHooksBestEffort
    exact Issues.bind (runHook_teardown command label) fun _ _ => ih

theorem withNetworkLock_issues {A : Type} {body : StoreProgram (Except AppError A)} {post : A → Prop}
    (locks : allowed .lockNetwork) (unlocks : allowed .unlockNetwork)
    (inside : @Issues storeCommands _ allowed body (Outcome NotAuth post)) :
    @Issues storeCommands _ allowed (withNetworkLock body) (Outcome NotAuth post) := by
  apply issues_call locks
  intro locked
  cases locked with
  | error error => exact notAuth_io error
  | ok value =>
    dsimp only
    exact Issues.bind inside fun result holds => issues_call unlocks fun _ => holds

theorem removeRegularFiles_issues {paths : List String} (own : ∀ path ∈ paths, ownPath id.interfaceName path) :
    @Issues storeCommands _ (OnTeardown id) (removeRegularFiles paths) fun _ => True := by
  induction paths with
  | nil => trivial
  | cons path rest ih =>
    apply issues_call ⟨own path List.mem_cons_self, rfl⟩
    intro _
    exact ih fun other member => own other (List.mem_cons_of_mem _ member)

theorem clearDeadHelperLeftovers_teardown : Teardown id (clearDeadHelperLeftovers id.interfaceName) fun _ => True := by
  apply withNetworkLock_issues ⟨trivial, rfl⟩ ⟨trivial, rfl⟩
  apply issues_call ⟨rfl, rfl⟩
  intro _
  apply issues_call ⟨rfl, rfl⟩
  intro recorded
  cases recorded with
  | true => trivial
  | false =>
    apply issues_call ⟨rfl, rfl⟩
    intro live
    cases live with
    | true => trivial
    | false =>
      have own : ∀ path ∈ staleRuntimePaths id.interfaceName, ownPath id.interfaceName path :=
        fun path member => List.mem_cons_of_mem _ member
      exact Issues.bind (removeRegularFiles_issues own) fun _ _ => trivial

theorem clearLeftovers_teardown : Teardown id (clearLeftovers id.interfaceName) fun _ => True := by
  apply issues_call ⟨trivial, rfl⟩
  intro lingering
  cases lingering with
  | error error => exact notAuth_io error
  | ok lingering =>
    cases lingering with
    | true => exact clearDeadHelperLeftovers_teardown
    | false => trivial

theorem loadRequired_teardown : Teardown id (loadRequired id) fun stored =>
    stored.id = id ∧ stored.interface = id.interfaceName := by
  apply Issues.attempt (load_issues ⟨rfl, rfl⟩)
  intro found named
  cases found with
  | none => exact notAuth_other _
  | some stored => exact named stored rfl

theorem reparseAndVerify_teardown (stored : StoredConnection) :
    Teardown id (reparseAndVerify crates stored) fun _ => True := by
  apply issues_call ⟨trivial, rfl⟩
  intro resolver
  cases parsed : parseConnectionConfig crates resolver stored.rawConf with
  | error error =>
    exact notAuth_parse parsed
  | ok reparsed =>
    dsimp only
    split
    · trivial
    · exact notAuth_wireGuard _

theorem socketMetadata_teardown (path : String) : Teardown id (socketMetadata path) fun _ => True := by
  apply issues_call ⟨trivial, rfl⟩
  intro reply
  cases reply with
  | ok metadata => trivial
  | error error =>
    dsimp only
    split
    · trivial
    · exact notAuth_io error

theorem alreadyUp_teardown {stored : StoredConnection} (named : stored.id = id) :
    Teardown id (alreadyUp stored) fun _ => True := by
  subst named
  apply Issues.attempt (loadActive_issues ⟨rfl, rfl⟩)
  intro active _
  cases active with
  | none => trivial
  | some active =>
    apply Issues.attempt (socketMetadata_teardown _)
    intro metadata _
    cases metadata with
    | none => trivial
    | some metadata =>
      dsimp only
      split
      · split
        · trivial
        · exact notAuth_wireGuard _
      · exact notAuth_wireGuard _

theorem checkNoSocket_teardown : Teardown id (checkNoSocket interface) fun _ => True := by
  apply issues_call ⟨trivial, rfl⟩
  intro there
  cases there with
  | error error => exact notAuth_io error
  | ok there =>
    cases there with
    | true => exact notAuth_wireGuard _
    | false => trivial

theorem createSentinelFor_teardown (reparsed : ConnectionConfig) :
    @Issues storeCommands _ (OnTeardown id) (createSentinelFor reparsed) fun _ => True := by
  unfold createSentinelFor
  split
  · trivial
  · exact ⟨⟨trivial, rfl⟩, fun _ => trivial⟩

theorem bringUp_tunnels {spec : HelperSpec} (reparsed : ConnectionConfig)
    (own : spec.connectionId = id ∧ spec.interface = id.interfaceName) :
    Tunnels id (bringUp spec reparsed) fun _ => True := by
  apply withNetworkLock_issues trivial trivial
  apply issues_call trivial
  intro ensured
  cases ensured with
  | error error => exact notAuth_io error
  | ok value =>
    apply issues_call own.2
    intro _
    apply Issues.bind (Issues.relax (fun _ quiet => quiet.1) (@createSentinelFor_teardown id reparsed))
    intro _ _
    exact Issues.bind (runGotatunUp_tunnels own) fun _ holds => issues_call trivial fun _ => holds

theorem postUp_teardown (reparsed : ConnectionConfig) : Teardown id (postUp reparsed id.interfaceName) fun _ => True := by
  unfold postUp
  apply Issues.bind (runHooks_teardown reparsed.postUp "PostUp")
  intro outcome holds
  cases outcome with
  | ok value => trivial
  | error error =>
    dsimp only
    apply Issues.bind (withNetworkLock_issues ⟨trivial, rfl⟩ ⟨trivial, rfl⟩ runGotatunDown_teardown)
    intro rollback _
    cases rollback with
    | ok value => exact holds
    | error rollbackError => exact notAuth_wireGuard _

theorem recordActive_tunnels {stored : StoredConnection} (debug : Bool) (named : stored.id = id) :
    Tunnels id (recordActive stored debug) fun _ => True := by
  apply issues_call trivial
  intro reply
  cases reply with
  | error error => exact notAuth_io error
  | ok metadata =>
    apply issues_call trivial
    intro now
    exact saveActive_issues named

theorem connectStored_tunnels {stored : StoredConnection} (debug : Bool)
    (own : stored.id = id ∧ stored.interface = id.interfaceName) :
    Tunnels id (connectStored crates stored debug) fun _ => True := by
  apply Issues.attempt (reparseAndVerify_teardown stored).tunnels
  intro reparsed _
  split
  · exact notAuth_wireGuard _
  · rw [own.2]
    apply Issues.attempt clearLeftovers_teardown.tunnels
    intro _ _
    apply Issues.attempt (alreadyUp_teardown own.1).tunnels
    intro up _
    cases up with
    | true => trivial
    | false =>
      apply Issues.attempt checkNoSocket_teardown.tunnels
      intro _ _
      apply Issues.attempt (runHooks_teardown _ _).tunnels
      intro _ _
      apply Issues.attempt (bringUp_tunnels reparsed own)
      intro _ _
      rw [own.2]
      apply Issues.attempt (postUp_teardown reparsed).tunnels
      intro _ _
      exact recordActive_tunnels debug own.1

theorem connect_tunnels (debug : Bool) : Tunnels id (connect crates id debug) fun _ => True := by
  apply Issues.attempt loadRequired_teardown.tunnels
  intro stored own
  exact connectStored_tunnels debug own

theorem takeDown_teardown {stored : StoredConnection} (named : stored.interface = id.interfaceName) :
    Teardown id (takeDown crates stored) fun _ => True := by
  have down := withNetworkLock_issues ⟨trivial, rfl⟩ ⟨trivial, rfl⟩ (@runGotatunDown_teardown id)
  apply issues_call ⟨trivial, rfl⟩
  intro resolver
  rw [named]
  split
  · exact down
  · apply Issues.bind (runHooksBestEffort_issues _ _)
    intro _ _
    apply Issues.attempt down
    intro _ _
    exact Issues.bind (runHooksBestEffort_issues _ _) fun _ _ => trivial

/-- Taking a connection down never starts a helper. -/
theorem disconnect_teardown : Teardown id (disconnect crates id) fun _ => True := by
  apply Issues.attempt loadRequired_teardown
  intro stored own
  apply Issues.attempt (takeDown_teardown own.2)
  intro _ _
  exact clearActive_issues ⟨rfl, rfl⟩

end Wgd.Store
