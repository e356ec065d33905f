import Wgd.Interaction.Keyed
import Wgd.Links.Validation
import Wgd.Store.Requests
import Wgd.Store.Script

/-! The stored records, one by one and against each other, over any requests served
one after another. -/

set_option autoImplicit false

namespace Wgd.Store

open Wgd.Interaction Wgd.Net Wgd.Links Wgd.Config Wgd.Helper Wgd.Daemon

/-- A record in step with itself. -/
structure Represented (crates : Crates) (stored : StoredConnection) : Prop where
  interface : stored.interface = stored.id.interfaceName
  owner : stored.ownerUid = none ↔ stored.global = true
  identity : stored.fingerprint = fingerprint crates stored.config
  parses : ∃ resolver parsed, parseConnectionConfig crates resolver stored.rawConf = .ok parsed
  reparsed : ∀ resolver parsed, parseConnectionConfig crates resolver stored.rawConf = .ok parsed →
    fingerprint crates parsed = stored.fingerprint
  links : Validates stored.bypassLinks stored.allowedIps

def SameInterface (first second : StoredConnection) : Prop := first.interface = second.interface

def SameIdentity (first second : StoredConnection) : Prop :=
  first.fingerprint = second.fingerprint ∧ first.global = second.global ∧ first.ownerUid = second.ownerUid

def SameName (first second : StoredConnection) : Prop :=
  first.name ≠ none ∧ first.name = second.name ∧ first.global = second.global ∧ first.ownerUid = second.ownerUid

/-- The record in the file of this id, if it is one. -/
def StoreState.stored (state : StoreState) (id : ConnectionId) : Option StoredConnection :=
  match state.records id with
  | some (.record stored) => some stored
  | _ => none

/-- Every file is a record under its own id, and no two records get in each other's way. -/
structure Represents (crates : Crates) (state : StoreState) : Prop where
  readable : ∀ id, state.records id = (state.stored id).map RecordFile.record
  each : ∀ id stored, state.stored id = some stored → stored.id = id ∧ Represented crates stored
  interfaces : Apart SameInterface state.stored
  identities : Apart SameIdentity state.stored

variable {state after : StoreState} {crates : Crates} {admitted : Prop} {force : Bool} {id : ConnectionId}

theorem stored_iff {stored : StoredConnection} :
    state.stored id = some stored ↔ state.records id = some (.record stored) := by
  unfold StoreState.stored
  split <;> simp_all

theorem stored_congr (same : after.records = state.records) : after.stored = state.stored := by
  funext id
  simp only [StoreState.stored, same]

theorem stored_withRecord (stored : StoredConnection) :
    (state.withRecord stored).stored = Function.update state.stored stored.id (some stored) := by
  funext id
  by_cases own : id = stored.id
  · subst own
    simp [StoreState.stored]
  · simp [StoreState.stored, withRecord_other own, Function.update_of_ne own]

theorem stored_withoutRecord : (state.withoutRecord id).stored = Function.update state.stored id none := by
  funext other
  by_cases own : other = id
  · simp [StoreState.stored, StoreState.withoutRecord, own]
  · simp [StoreState.stored, StoreState.withoutRecord, own]

theorem SameInterface.symm (first second : StoredConnection) (same : SameInterface first second) :
    SameInterface second first := Eq.symm same

theorem SameIdentity.symm (first second : StoredConnection) (same : SameIdentity first second) :
    SameIdentity second first := ⟨same.1.symm, same.2.1.symm, same.2.2.symm⟩

theorem SameName.symm (first second : StoredConnection) (same : SameName first second) : SameName second first :=
  ⟨same.2.1 ▸ same.1, same.2.1.symm, same.2.2.1.symm, same.2.2.2.symm⟩

/-! ### What the searches rule out -/

/-- A search of all records that finds nothing says so of each. -/
theorem Found.absent {wanted : StoredConnection → Bool} (found : Found state wanted (.ok none)) {stored : StoredConnection}
    (there : state.stored id = some stored) : wanted stored = false := by
  obtain ⟨stored', same, _, _, unwanted⟩ := found id _ (stored_iff.mp there)
  cases same
  exact unwanted

/-- Where no two records clash, the one that was cleared is the only one wanted. -/
theorem Cleared.own {clash : StoredConnection → StoredConnection → Prop} {wanted : StoredConnection → Bool}
    {own : Option ConnectionId} (cleared : Cleared state wanted own) (apart : Apart clash state.stored)
    (clashes : ∀ first second, wanted first = true → wanted second = true → clash first second)
    {stored : StoredConnection} (there : state.stored id = some stored) (wants : wanted stored = true) : own = some id := by
  obtain ⟨found, search, only⟩ := cleared
  cases found with
  | none =>
    rw [search.absent there] at wants
    cases wants
  | some other =>
    obtain ⟨there', _, wants'⟩ := search
    rw [only other rfl, apart.same (stored_iff.mpr there') there (clashes _ _ wants' wants)]

theorem hasIdentity_iff {text : String} {global : Bool} {ownerUid : Option Nat} {stored : StoredConnection} :
    hasIdentity text global ownerUid stored = true ↔
      stored.fingerprint = text ∧ stored.global = global ∧ stored.ownerUid = ownerUid := by
  simp [hasIdentity, and_assoc]

theorem hasName_iff {name : String} {global : Bool} {ownerUid : Option Nat} {stored : StoredConnection} :
    hasName name global ownerUid stored = true ↔
      stored.name = some name ∧ stored.global = global ∧ stored.ownerUid = ownerUid := by
  simp [hasName, and_assoc]

theorem sameIdentity_of_has {text : String} {global : Bool} {ownerUid : Option Nat} (first second : StoredConnection)
    (one : hasIdentity text global ownerUid first = true) (other : hasIdentity text global ownerUid second = true) :
    SameIdentity first second := by
  obtain ⟨text, global, owner⟩ := hasIdentity_iff.mp one
  obtain ⟨text', global', owner'⟩ := hasIdentity_iff.mp other
  exact ⟨text.trans text'.symm, global.trans global'.symm, owner.trans owner'.symm⟩

theorem sameName_of_has {name : String} {global : Bool} {ownerUid : Option Nat} (first second : StoredConnection)
    (one : hasName name global ownerUid first = true) (other : hasName name global ownerUid second = true) :
    SameName first second := by
  obtain ⟨named, global, owner⟩ := hasName_iff.mp one
  obtain ⟨named', global', owner'⟩ := hasName_iff.mp other
  exact ⟨by simp [named], named.trans named'.symm, global.trans global'.symm, owner.trans owner'.symm⟩

/-! ### One record -/

theorem represented_of_parse {stored : StoredConnection} {resolver : Resolver} (interface : stored.interface = stored.id.interfaceName)
    (owner : stored.ownerUid = none ↔ stored.global = true)
    (parses : parseConnectionConfig crates resolver stored.rawConf = .ok stored.config)
    (identity : stored.fingerprint = fingerprint crates stored.config)
    (links : Validates stored.bypassLinks stored.allowedIps) : Represented crates stored := by
  refine ⟨interface, owner, identity, ⟨resolver, stored.config, parses⟩, ?_, links⟩
  intro resolver' parsed again
  rw [identity]
  exact fingerprint_resolver_independent again parses

theorem Created.represented {stored : StoredConnection} (fresh : Created crates admitted force state stored) :
    Represented crates stored := by
  obtain ⟨resolver, parses⟩ := fresh.parses
  apply represented_of_parse fresh.interface fresh.owner parses fresh.identity
  rw [fresh.noLinks]
  exact validates_nil _

theorem RecordChange.represented {old stored : StoredConnection} (before : Represented crates old)
    (change : RecordChange crates admitted force state old stored) : Represented crates stored := by
  obtain ⟨interface, owner, identity, parses, reparsed, links⟩ := before
  cases change with
  | links valid now => exact ⟨interface, owner, identity, parses, reparsed, validates_of_strict valid⟩
  | config parses free allowed sourcePath now =>
    exact represented_of_parse interface owner parses rfl (validates_of_prune _ links)
  | resubmitted nameFree elevation now =>
    unfold Resubmission.apply StoredConnection.inMode
    dsimp only
    split_ifs <;> exact ⟨interface, owner, identity, parses, reparsed, links⟩
  | _ => exact ⟨interface, owner, identity, parses, reparsed, links⟩

/-! ### A record against the others -/

theorem RecordWrite.represented {stored : StoredConnection} (represents : Represents crates state)
    (write : RecordWrite crates admitted force state stored) : Represented crates stored := by
  cases write with
  | created fresh => exact fresh.represented
  | changed own change => exact change.represented (represents.each _ _ (stored_iff.mpr own.there)).2

theorem RecordWrite.interface_apart {stored : StoredConnection} (represents : Represents crates state)
    (write : RecordWrite crates admitted force state stored) {other : StoredConnection} (there : state.stored id = some other)
    (different : id ≠ stored.id) : ¬ SameInterface stored other := by
  intro same
  cases write with
  | created fresh =>
    have unused := fresh.interfaceFree.absent there
    simp only [decide_eq_false_iff_not] at unused
    exact unused same.symm
  | changed own change =>
    have kept : SameInterface _ other := change.scope.2.2.2.symm.trans same
    exact represents.interfaces _ _ _ _ (stored_iff.mpr own.there) there different.symm kept

/-- All changes but one of the configuration leave the identity as it is. -/
theorem RecordChange.identity {old stored : StoredConnection} (change : RecordChange crates admitted force state old stored) :
    SameIdentity old stored ∨
      Cleared state (hasIdentity stored.fingerprint stored.global stored.ownerUid) (some old.id) := by
  cases change with
  | config parses free allowed sourcePath now => exact .inr free
  | resubmitted nameFree elevation now =>
    left
    unfold Resubmission.apply StoredConnection.inMode
    dsimp only
    split_ifs <;> exact ⟨rfl, rfl, rfl⟩
  | _ => exact .inl ⟨rfl, rfl, rfl⟩

theorem RecordWrite.identity_apart {stored : StoredConnection} (represents : Represents crates state)
    (write : RecordWrite crates admitted force state stored) {other : StoredConnection} (there : state.stored id = some other)
    (different : id ≠ stored.id) : ¬ SameIdentity stored other := by
  intro same
  have wants : hasIdentity stored.fingerprint stored.global stored.ownerUid other = true :=
    hasIdentity_iff.mpr ⟨same.1.symm, same.2.1.symm, same.2.2.symm⟩
  cases write with
  | created fresh =>
    rw [fresh.free.absent there] at wants
    cases wants
  | @changed old own change =>
    rcases change.identity with kept | cleared
    · have kept' : SameIdentity old other :=
        ⟨kept.1.trans same.1, kept.2.1.trans same.2.1, kept.2.2.trans same.2.2⟩
      exact represents.identities _ _ _ _ (stored_iff.mpr own.there) there different.symm kept'
    · have mine := cleared.own represents.identities sameIdentity_of_has there wants
      rw [own.named, Option.some.injEq] at mine
      exact different mine.symm

/-- Only a resubmission changes the name, and looks for it first. -/
theorem RecordChange.name {old stored : StoredConnection} (change : RecordChange crates admitted false state old stored) :
    stored.name = old.name ∨
      ∀ name, stored.name = some name → Cleared state (hasName name stored.global stored.ownerUid) (some old.id) := by
  obtain ⟨_, global, owner, _⟩ := change.scope
  cases change with
  | @resubmitted request nameFree elevation now =>
    by_cases changed : (resubmission old request).nameChanged = true
    · right
      intro name named
      have asked : request.name = some name := by
        revert named
        unfold Resubmission.apply StoredConnection.inMode
        dsimp only
        split_ifs <;> exact fun named => named
      rw [global, owner]
      apply nameFree rfl name asked
      have differs : request.name.isSome = true ∧ request.name ≠ old.name := by simpa [resubmission] using changed
      exact differs.2
    · left
      unfold Resubmission.apply StoredConnection.inMode
      dsimp only
      split_ifs <;> rfl
  | _ => exact .inl rfl

theorem RecordWrite.name_apart {stored : StoredConnection} (names : Apart SameName state.stored)
    (write : RecordWrite crates admitted false state stored) {other : StoredConnection} (there : state.stored id = some other)
    (different : id ≠ stored.id) : ¬ SameName stored other := by
  intro same
  obtain ⟨some, named, global, owner⟩ := same
  obtain ⟨name, present⟩ := Option.ne_none_iff_exists'.mp some
  have wants : hasName name stored.global stored.ownerUid other = true :=
    hasName_iff.mpr ⟨named.symm.trans present, global.symm, owner.symm⟩
  cases write with
  | created fresh =>
    have mine := (fresh.nameFree rfl name present).own names sameName_of_has there wants
    cases mine
  | @changed old own change =>
    rcases change.name with kept | cleared
    · obtain ⟨_, global', owner', _⟩ := change.scope
      have kept' : SameName old other :=
        ⟨kept ▸ some, kept.symm.trans named, global'.symm.trans global, owner'.symm.trans owner⟩
      exact names _ _ _ _ (stored_iff.mpr own.there) there different.symm kept'
    · have mine := (cleared name present).own names sameName_of_has there wants
      rw [own.named, Option.some.injEq] at mine
      exact different mine.symm

/-! ### Steps -/

theorem Represents.of_records (represents : Represents crates state) (same : after.records = state.records) :
    Represents crates after := by
  have stored := stored_congr same
  constructor
  · intro id
    rw [same, stored]
    exact represents.readable id
  · rw [stored]
    exact represents.each
  · rw [stored]
    exact represents.interfaces
  · rw [stored]
    exact represents.identities

theorem Represents.write {stored : StoredConnection} (represents : Represents crates state)
    (write : RecordWrite crates admitted force state stored) : Represents crates (state.withRecord stored) := by
  constructor
  · intro id
    rw [stored_withRecord]
    by_cases own : id = stored.id
    · subst own
      simp
    · rw [withRecord_other own, Function.update_of_ne own]
      exact represents.readable id
  · intro id other there
    rw [stored_withRecord] at there
    by_cases own : id = stored.id
    · subst own
      rw [Function.update_self, Option.some.injEq] at there
      subst there
      exact ⟨rfl, write.represented represents⟩
    · rw [Function.update_of_ne own] at there
      exact represents.each id other there
  · rw [stored_withRecord]
    exact represents.interfaces.put SameInterface.symm fun _ _ there different => write.interface_apart represents there different
  · rw [stored_withRecord]
    exact represents.identities.put SameIdentity.symm fun _ _ there different => write.identity_apart represents there different

theorem Represents.remove (represents : Represents crates state) (id : ConnectionId) :
    Represents crates (state.withoutRecord id) := by
  constructor
  · intro other
    rw [stored_withoutRecord]
    by_cases own : other = id
    · simp [StoreState.withoutRecord, own]
    · simpa [StoreState.withoutRecord, own] using represents.readable other
  · intro other stored there
    rw [stored_withoutRecord] at there
    by_cases own : other = id
    · subst own
      simp at there
    · rw [Function.update_of_ne own] at there
      exact represents.each other stored there
  · rw [stored_withoutRecord]
    exact represents.interfaces.delete id
  · rw [stored_withoutRecord]
    exact represents.identities.delete id

/-- What a permitted call leaves of the records. -/
theorem InRequest.records {op : StoreOp} {reply : op.Reply} (allowed : InRequest crates admitted force state op)
    (answered : storeEnvironment state op reply after) :
    after.records = state.records ∨
      (∃ stored, RecordWrite crates admitted force state stored ∧ after = state.withRecord stored) ∨
      ∃ id, after = state.withoutRecord id := by
  cases op
  case writeRecord stored =>
    cases answered
    cases reply with
    | failed error => exact .inl rfl
    | written => exact .inr (.inl ⟨stored, allowed, rfl⟩)
    | unsynced error => exact .inr (.inl ⟨stored, allowed, rfl⟩)
  case removeRecord id =>
    cases answered
    cases reply with
    | error error => exact .inl rfl
    | ok value => exact .inr (.inr ⟨id, rfl⟩)
  all_goals exact .inl (records_unchanged answered (by simp) (by simp))

theorem InRequest.represents {op : StoreOp} {reply : op.Reply} (represents : Represents crates state)
    (allowed : InRequest crates admitted force state op) (answered : storeEnvironment state op reply after) :
    Represents crates after := by
  rcases allowed.records answered with same | ⟨stored, write, rfl⟩ | ⟨id, rfl⟩
  · exact represents.of_records same
  · exact represents.write write
  · exact represents.remove id

theorem InRequest.names {op : StoreOp} {reply : op.Reply} (names : Apart SameName state.stored)
    (allowed : InRequest crates admitted false state op) (answered : storeEnvironment state op reply after) :
    Apart SameName after.stored := by
  rcases allowed.records answered with same | ⟨stored, write, rfl⟩ | ⟨id, rfl⟩
  · rw [stored_congr same]
    exact names
  · rw [stored_withRecord]
    exact names.put SameName.symm fun _ _ there different => write.name_apart names there different
  · rw [stored_withoutRecord]
    exact names.delete id

/-! ### Runs -/

/-- Requests served one after another from `start`, each to its end; the last one first. -/
inductive Served (crates : Crates) (start : StoreState) : List PrivilegedRequest → StoreState → Prop where
  | nothing : Served crates start [] start
  | request {requests : List PrivilegedRequest} {state after : StoreState} {control control' : ControlState}
      {origin : PeerOrigin} {request : PrivilegedRequest} {response : PrivilegedResponse}
      (earlier : Served crates start requests state)
      (served : @Completes storeCommands _ _ storeEnvironment (serveRequest crates control origin request) state
        (response, control') after) :
      Served crates start (request :: requests) after

/-- What the calls of a request preserve, the whole request preserves. -/
theorem request_preserves {control control' : ControlState} {origin : PeerOrigin} {request : PrivilegedRequest}
    {response : PrivilegedResponse} {kept : StoreState → Prop}
    (step : ∀ s (op : StoreOp) (reply : op.Reply) s',
      InRequest crates (Admitted (fun _ => True) request.authExternalForm) request.force s op →
      storeEnvironment s op reply s' → kept s → kept s')
    (served : @Completes storeCommands _ _ storeEnvironment (serveRequest crates control origin request) state
      (response, control') after) (start : kept state) : kept after := by
  have discipline := @serveRequest_discipline _ state crates _ within_storeEnvironment (consults_any _) control origin request
  have related := @Ensures.related storeCommands _ _ _ _ _ _ _ (fun s s' => kept s → kept s') (fun _ holds => holds)
    (fun _ _ _ earlier later holds => later (earlier holds)) step _ _ discipline served
  exact related start

/-- From an empty store, whatever is asked and however it goes: the records stay in step with
themselves and out of each other's way, and names are unique unless somebody forces one. -/
theorem served_represents {start final : StoreState} {requests : List PrivilegedRequest}
    (empty : ∀ id, start.records id = none) (served : Served crates start requests final) :
    Represents crates final ∧ ((∀ request ∈ requests, request.force = false) → Apart SameName final.stored) := by
  induction served with
  | nothing =>
    have none : ∀ id, start.stored id = none := by
      intro id
      simp [StoreState.stored, empty id]
    refine ⟨⟨?_, ?_, .nothing none, .nothing none⟩, fun _ => .nothing none⟩
    · intro id
      rw [none id, empty id]
      rfl
    · intro id stored there
      rw [none id] at there
      cases there
  | @request requests state after _ _ _ request _ earlier served ih =>
    obtain ⟨represents, names⟩ := ih
    constructor
    · exact request_preserves (fun _ _ _ _ allowed answered represents => allowed.represents represents answered) served
        represents
    · intro unforced
      rw [List.forall_mem_cons] at unforced
      have distinct := names unforced.2
      revert distinct
      apply @request_preserves _ _ _ _ _ _ _ _ (fun s => Apart SameName s.stored) _ served
      intro s op reply s' allowed answered distinct
      rw [unforced.1] at allowed
      exact allowed.names distinct answered

/-- One request, played from a script. -/
theorem served_played (cues : Cues) (script : Scripted) (control : ControlState) (origin : PeerOrigin)
    (request : PrivilegedRequest) :
    Served crates script.state [request] (play cues (serveRequest crates control origin request) script).2.state :=
  .request .nothing (play_completes rfl)

/-- Root stores the example's configuration, and its form is accepted. -/
def exampleAdd : PrivilegedRequest :=
  .addConnection ⟨exampleText, true, .automatic, some "office", none, false, none, some [1]⟩

def addingCues : Cues := { workingCues with accepts := fun _ => true }

def exampleAdded : (PrivilegedResponse × ControlState) × Scripted :=
  play addingCues (serveRequest exampleCrates ⟨[], false, false⟩ .stdio exampleAdd) emptyScript

theorem exampleAdded_served : Served exampleCrates emptyScript.state [exampleAdd] exampleAdded.2.state := by
  unfold exampleAdded
  exact served_played addingCues emptyScript _ _ _

theorem served_represents_added : exampleAdded.2.state.records addingCues.newId ≠ none ∧
    Represents exampleCrates exampleAdded.2.state ∧
    ((∀ request ∈ [exampleAdd], request.force = false) → Apart SameName exampleAdded.2.state.stored) := by
  have there : exampleAdded.2.state.records addingCues.newId ≠ none := by decide +kernel
  exact ⟨there, served_represents (fun _ => rfl) exampleAdded_served⟩

end Wgd.Store
