import Wgd.Store.Accessors

/-! Scripted stores: what the daemon does in one fixed environment can be evaluated. -/

set_option autoImplicit false

namespace Wgd.Store

open Wgd.Interaction Wgd.Net Wgd.Links Wgd.Config Wgd.Helper

/-- What a script answers beyond what the state decides. -/
structure Cues where
  /-- These calls fail, if they can. -/
  fails : StoreOp → Bool
  accepts : List UInt8 → Bool
  resolver : Resolver
  newId : ConnectionId
  now : Nat

/-- A store whose record files can be listed. -/
structure Scripted where
  state : StoreState
  ids : List ConnectionId
  complete : ∀ id, state.records id ≠ none → id ∈ ids

def Scripted.putRecord (script : Scripted) (stored : StoredConnection) : Scripted where
  state := script.state.withRecord stored
  ids := stored.id :: script.ids
  complete := by
    intro id there
    by_cases own : id = stored.id
    · simp [own]
    · exact List.mem_cons_of_mem _ (script.complete id (withRecord_other own ▸ there))

def Scripted.dropRecord (script : Scripted) (id : ConnectionId) : Scripted where
  state := script.state.withoutRecord id
  ids := script.ids
  complete := by
    intro other there
    by_cases own : other = id
    · simp [StoreState.withoutRecord, own] at there
    · exact script.complete other (by simpa [StoreState.withoutRecord, own] using there)

/-- Anything but the records may change. -/
def Scripted.become (script : Scripted) (active : ConnectionId → Option ActiveFile) (runtime : String → Option RuntimeFile)
    (running : String → Bool) : Scripted where
  state := ⟨script.state.records, active, runtime, running⟩
  ids := script.ids
  complete := script.complete

def Scripted.setRuntime (script : Scripted) (runtime : String → Option RuntimeFile) : Scripted :=
  script.become script.state.active runtime script.state.running

def scriptedError : IoError := ⟨.other, "scripted"⟩

def Scripted.entry (cues : Cues) (script : Scripted) (id : ConnectionId) : Option ListedEntry :=
  (script.state.records id).map fun file =>
    ⟨some id, idText id ++ ".json", if cues.fails (.readRecord id) then .error scriptedError else .ok file⟩

def Scripted.entries (cues : Cues) (script : Scripted) : List ListedEntry :=
  script.ids.dedup.filterMap (script.entry cues)

/-- The files a helper has when it is ready. -/
def helperFiles (interface : String) (runtime : String → Option RuntimeFile) : String → Option RuntimeFile := fun path =>
  if path = socketPath interface then some ⟨⟨1, 2, 3, 4⟩, ""⟩
  else if path = gotatunPidPath interface then some ⟨⟨1, 5, 3, 4⟩, "4242\n"⟩
  else if path = gotatunNamePath interface then some ⟨⟨1, 6, 3, 4⟩, "utun7\n"⟩
  else runtime path

/-- The files a helper leaves that has shut down. -/
def cleanedFiles (interface : String) (runtime : String → Option RuntimeFile) : String → Option RuntimeFile := fun path =>
  if path = gotatunCleanupStatusPath interface then some ⟨⟨1, 7, 3, 4⟩, "ok\n"⟩
  else if path ∈ staleRuntimePaths interface then none
  else runtime path

def fallible {A : Type} (cues : Cues) (op : StoreOp) (value : A) : Except IoError A :=
  if cues.fails op then .error scriptedError else .ok value

def found {A : Type} (cues : Cues) (op : StoreOp) (value : Option A) : Except IoError A :=
  if cues.fails op then .error scriptedError
  else match value with
    | some value => .ok value
    | none => .error ⟨.notFound, "No such file or directory"⟩

/-- The helper of an interface shuts down when its socket is gone. -/
def Scripted.awaitCleanup (script : Scripted) (interface : String) : Option String × Scripted :=
  if script.state.running interface && (script.state.runtime (socketPath interface)).isNone then
    (some "ok", script.become script.state.active (cleanedFiles interface script.state.runtime)
      (Function.update script.state.running interface false))
  else
    ((script.state.runtime (gotatunCleanupStatusPath interface)).map fun file => String.ofList (trim file.contents.toList),
      script)

def scriptedStore (cues : Cues) : Handler storeCommands Scripted := fun script op => match op with
  | .readRecord id => (found cues op (script.state.records id), script)
  | .listRecords => (fallible cues op (script.entries cues), script)
  | .writeRecord stored =>
    if cues.fails op then (.failed scriptedError, script) else (.written, script.putRecord stored)
  | .removeRecord id => if cues.fails op then (.error scriptedError, script) else (.ok (), script.dropRecord id)
  | .readActive id => (found cues op (script.state.active id), script)
  | .writeActive id marker =>
    if cues.fails op then (.failed scriptedError, script)
    else (.written, script.become (Function.update script.state.active id (some (.marker marker))) script.state.runtime
      script.state.running)
  | .removeActive id =>
    if cues.fails op then (.error scriptedError, script)
    else (.ok (), script.become (Function.update script.state.active id none) script.state.runtime script.state.running)
  | .tryExists path => (fallible cues op (script.state.runtime path).isSome, script)
  | .pathExists path => ((script.state.runtime path).isSome, script)
  | .metadata path => (found cues op ((script.state.runtime path).map RuntimeFile.metadata), script)
  | .readFile path => (found cues op ((script.state.runtime path).map RuntimeFile.contents), script)
  | .removeFile path =>
    if cues.fails op then (.error scriptedError, script)
    else (.ok (), script.setRuntime (Function.update script.state.runtime path none))
  | .removeRegularFile path =>
    ((), script.setRuntime (Function.update script.state.runtime path none))
  | .waitForCleanupStatus interface _ => script.awaitCleanup interface
  | .spawnHelper spec =>
    if cues.fails op then (.error "scripted", script)
    else (.ok ⟨true, "exit status: 0"⟩, script.become script.state.active (helperFiles spec.interface script.state.runtime)
      (Function.update script.state.running spec.interface true))
  | .helperIsLiveWithoutRecord interface => (script.state.running interface, script)
  | .lockIndex | .lockConnection _ _ | .lockNetwork | .rotateHelperLog _ | .ensureDnsCustodyDir =>
    (fallible cues op (), script)
  | .selfExecutable => (.ok (), script)
  | .processIdentity _ | .terminate _ => (if cues.fails op then .error "scripted" else .ok (), script)
  | .pidIsAlive _ => (!cues.fails op, script)
  | .interfaceExists _ | .custodyRecordExists _ | .leaseTokenIsLive _ => (cues.fails op, script)
  | .runShell _ => (.ok ⟨!cues.fails op, "exit status: 1"⟩, script)
  | .verifyExternalForm form => (if cues.accepts form then .ok () else .error (.auth "not authorized"), script)
  | .resolver => (cues.resolver, script)
  | .nowUnix => (cues.now, script)
  | .newConnectionId => (cues.newId, script)
  | .sudoUid => (none, script)
  | .custodyStatus => (⟨[], [], none⟩, script)
  | .wgShow interface => (.ok interface, script)
  | .networkOverview interface => (.ok (some interface), script)
  | .unlockIndex | .unlockConnection _ | .unlockNetwork | .sweepInterface _ | .createSentinel | .settle => ((), script)

theorem Scripted.listed (cues : Cues) (script : Scripted) : Listed script.state.records (script.entries cues) := by
  have named : ∀ entry ∈ script.entries cues, ∃ id file, id ∈ script.ids ∧ script.state.records id = some file ∧
      entry.id = some id ∧ (entry.contents = .ok file ∨ entry.contents = .error scriptedError) := by
    intro entry member
    obtain ⟨id, among, there⟩ := List.mem_filterMap.mp member
    cases file : script.state.records id with
    | none => simp [Scripted.entry, file] at there
    | some contents =>
      simp only [Scripted.entry, file, Option.map_some, Option.some.injEq] at there
      subst there
      refine ⟨id, contents, List.mem_dedup.mp among, file, rfl, ?_⟩
      dsimp only
      split
      · exact .inr rfl
      · exact .inl rfl
  constructor
  · intro entry member id same
    obtain ⟨id', file, _, there, named, _⟩ := named entry member
    rw [named] at same
    cases same
    simp [there]
  · intro entry member id file same contents
    obtain ⟨id', file', _, there, named, holds⟩ := named entry member
    rw [named] at same
    cases same
    rcases holds with holds | holds
    · rw [holds] at contents
      cases contents
      exact there
    · rw [holds] at contents
      cases contents
  · intro id there
    cases file : script.state.records id with
    | none => exact absurd file there
    | some contents =>
      have listed : script.entry cues id = some ⟨some id, idText id ++ ".json",
          if cues.fails (.readRecord id) then .error scriptedError else .ok contents⟩ := by
        simp [Scripted.entry, file]
      exact ⟨_, List.mem_filterMap.mpr ⟨id, List.mem_dedup.mpr (script.complete id there), listed⟩, rfl⟩
  · rw [Scripted.entries, List.pairwise_filterMap]
    refine (List.nodup_dedup script.ids).imp ?_
    intro id id' different entry there entry' there'
    right
    simp only [Scripted.entry, Option.map_eq_some_iff] at there there'
    obtain ⟨_, _, rfl⟩ := there
    obtain ⟨_, _, rfl⟩ := there'
    simpa using different

theorem found_reads {F A : Type} (cues : Cues) (op : StoreOp) (file : Option F) (get : F → A) :
    reads file (fun contents value => get contents = value) (found cues op (file.map get)) := by
  unfold found
  split
  · intro missing
    cases missing
  · cases file with
    | none => exact fun _ => rfl
    | some contents => exact ⟨contents, rfl, rfl⟩

theorem found_reads_self {F : Type} (cues : Cues) (op : StoreOp) (file : Option F) :
    reads file (· = ·) (found cues op file) := by
  have whole := found_reads cues op file fun contents => contents
  rwa [Option.map_id'] at whole

theorem helperFiles_own (interface path : String) (runtime : String → Option RuntimeFile)
    (other : path ∉ staleRuntimePaths interface) : helperFiles interface runtime path = runtime path := by
  simp only [staleRuntimePaths, List.mem_cons, not_or] at other
  simp [helperFiles, other]

theorem cleanedFiles_own (interface : String) (runtime : String → Option RuntimeFile) :
    OwnFilesChanged interface runtime (cleanedFiles interface runtime) := by
  intro path other
  simp only [ownPath, List.mem_cons, not_or] at other
  simp [cleanedFiles, other.1, other.2]

theorem awaitCleanup_wait (script : Scripted) (interface : String) :
    HelperWait interface script.state (script.awaitCleanup interface).1 (script.awaitCleanup interface).2.state := by
  unfold Scripted.awaitCleanup
  split
  · exact .ends (cleanedFiles_own interface _)
  · apply HelperWait.goesOn
    intro text same
    obtain ⟨file, there, rfl⟩ := Option.map_eq_some_iff.mp same
    exact ⟨file, there, rfl⟩

theorem scriptedStore_faithful (cues : Cues) : (scriptedStore cues).Faithful Scripted.state storeEnvironment := by
  intro script op
  cases op
  case readRecord id => exact ⟨found_reads_self _ _ _, rfl⟩
  case readActive id => exact ⟨found_reads_self _ _ _, rfl⟩
  case metadata path => exact ⟨found_reads cues _ _ _, rfl⟩
  case readFile path => exact ⟨found_reads cues _ _ _, rfl⟩
  case waitForCleanupStatus interface seconds => exact awaitCleanup_wait script interface
  case helperIsLiveWithoutRecord interface => exact ⟨fun running => running, rfl⟩
  case sweepInterface interface => exact ⟨script.state.runtime, fun _ => .inl rfl, fun _ => rfl, rfl⟩
  case removeRegularFile path => exact .inr rfl
  case spawnHelper spec =>
    simp only [scriptedStore]
    split
    · exact .notStarted
    · exact .ready rfl (helperFiles_own spec.interface · _)
  case listRecords =>
    simp only [scriptedStore, fallible]
    split
    · rfl
    · exact ⟨script.listed cues, rfl⟩
  case tryExists path =>
    simp only [scriptedStore, fallible]
    split
    · rfl
    · exact ⟨rfl, rfl⟩
  case pathExists path => exact ⟨rfl, rfl⟩
  case writeRecord stored =>
    simp only [scriptedStore]
    split <;> rfl
  case writeActive id marker =>
    simp only [scriptedStore]
    split <;> rfl
  case removeRecord id =>
    simp only [scriptedStore]
    split <;> rfl
  case removeActive id =>
    simp only [scriptedStore]
    split <;> rfl
  case removeFile path =>
    simp only [scriptedStore]
    split <;> rfl
  all_goals rfl

/-! ### One connection -/

def exampleId : ConnectionId := ⟨0x0123456789abcdef0123456789abcdef⟩

def exampleKeyText : List Char := "AAAAAAAAAAAAAAAAAAAAAAAAAAAAAAAAAAAAAAAAAAA=".toList

/-- The libraries, as far as one configuration needs them. -/
def exampleCrates : Crates where
  decodeBase64 text := if text = exampleKeyText then .ok (List.replicate 32 0) else .error "Invalid padding"
  encodeBase64 _ := String.ofList exampleKeyText
  parseIpNet text :=
    if text = "10.0.0.2/32".toList then IpNet.new (.v4 0x0a000002) 32
    else if text = "10.0.0.0/8".toList then IpNet.new (.v4 0x0a000000) 8
    else none
  sha256 _ := [45, 129, 95, 194, 156, 200, 12, 178, 18, 235, 240, 206, 244, 62, 151, 47, 139, 172, 46, 126, 204, 235,
    77, 104, 66, 239, 81, 146, 117, 140, 105, 200]

def exampleText : String :=
  "[Interface]\nPrivateKey = AAAAAAAAAAAAAAAAAAAAAAAAAAAAAAAAAAAAAAAAAAA=\nAddress = 10.0.0.2/32\n" ++
    "[Peer]\nPublicKey = AAAAAAAAAAAAAAAAAAAAAAAAAAAAAAAAAAAAAAAAAAA=\nAllowedIPs = 10.0.0.0/8\n"

def exampleKey : Key := Vector.replicate 32 0

def exampleConfig : ConnectionConfig :=
  ⟨exampleKey, [⟨.v4 0x0a000002, 32, by decide⟩], [], none, [], [], [], [],
    [⟨exampleKey, none, [⟨.v4 0x0a000000, 8, by decide⟩], none, none, none⟩]⟩

/-- A global connection that starts by itself. -/
def exampleStored : StoredConnection where
  id := exampleId
  fingerprint := fingerprint exampleCrates exampleConfig
  global := true
  ownerUid := none
  startMode := .automatic
  name := some "office"
  config := exampleConfig
  rawConf := exampleText
  interface := exampleId.interfaceName
  createdAt := 1
  updatedAt := 1
  userDisconnected := false
  sourcePath := none
  mtuOverride := none
  dnsDynamicStore := false
  bypassLinks := []

def noResolver : Resolver := fun _ _ _ => .error "no address"

/-- Everything works, and no authorization is accepted. -/
def workingCues : Cues := ⟨fun _ => false, fun _ => false, noResolver, ⟨1⟩, 7⟩

def emptyScript : Scripted := ⟨⟨fun _ => none, fun _ => none, fun _ => none, fun _ => false⟩, [], fun _ there => absurd rfl there⟩

/-- The connection is stored, and nothing runs. -/
def storedScript : Scripted := emptyScript.putRecord exampleStored

/-- A helper runs for the connection, with its marker. -/
def upScript : Scripted :=
  storedScript.become
    (Function.update (fun _ => none) exampleId (some (.marker ⟨exampleStored.fingerprint, exampleStored.interface,
      socketPath exampleStored.interface, 1, 2, 3, 4, 7, false⟩)))
    (helperFiles exampleStored.interface fun _ => none) (Function.update (fun _ => false) exampleStored.interface true)

/-- What the daemon does in a script, and the store it leaves. -/
def play {A : Type} (cues : Cues) (p : StoreProgram A) (script : Scripted) : A × Scripted :=
  interpret (scriptedStore cues) p script

theorem play_completes {A : Type} {cues : Cues} {p : StoreProgram A} {script : Scripted} {result : A}
    (ends : (play cues p script).1 = result) :
    @Completes storeCommands _ _ storeEnvironment p script.state result (play cues p script).2.state :=
  ends ▸ interpret_completes (scriptedStore_faithful cues) script p

end Wgd.Store
