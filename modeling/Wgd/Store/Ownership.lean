import Wgd.Store.Script
import Wgd.Store.Serving

/-! What a request of a user who is not root may touch, and what it may tell that user: only the
connections that are the user's own, as long as the record files can be read. -/

set_option autoImplicit false

namespace Wgd.Store

open Wgd.Interaction Wgd.Net Wgd.Links Wgd.Config Wgd.Helper Wgd.Daemon

/-- A user's own record, not a global one. -/
structure StoredConnection.OwnedBy (stored : StoredConnection) (uid : Nat) : Prop where
  global : stored.global = false
  owner : stored.ownerUid = some uid

/-- The connection is stored, and it is the user's. -/
structure Owned (uid : Nat) (state : StoreState) (id : ConnectionId) : Prop where
  record : ∃ stored, state.records id = some (.record stored) ∧ stored.id = id ∧ stored.OwnedBy uid

/-- Whatever is stored for this id is the user's. -/
def Belongs (uid : Nat) (state : StoreState) (id : ConnectionId) : Prop :=
  ∀ file, state.records id = some file → ∃ stored, file = .record stored ∧ stored.OwnedBy uid

/-- One step, in a request that found the store as it was at the start, is the user's own affair: a record that
changes was the user's and is the user's, and a helper that starts or ends is that of a connection of the user's. -/
structure OwnAffair (uid : Nat) (start before after : StoreState) : Prop where
  records : ∀ id, after.records id ≠ before.records id → Belongs uid before id ∧ Belongs uid after id
  helpers : ∀ interface, after.running interface ≠ before.running interface →
    ∃ id, id.interfaceName = interface ∧ Owned uid start id

/-- The calls that a user's request may make. -/
inductive Entitled (crates : Crates) (uid : Nat) (start state : StoreState) : StoreOp → Prop where
  | looks {op : StoreOp} (looks : Looks op) : Entitled crates uid start state op
  | inside {op : StoreOp} {id : ConnectionId} {admitted : Prop} (own : Owned uid start id) (belongs : Belongs uid state id)
      (allowed : InSection crates admitted id state op) : Entitled crates uid start state op
  | writes {stored : StoredConnection} (own : stored.OwnedBy uid) (belongs : Belongs uid state stored.id) :
      Entitled crates uid start state (.writeRecord stored)

variable {env : Environment storeCommands StoreState} {crates : Crates} {uid : Nat} {id : ConnectionId}
  {start state after : StoreState} {admitted : Prop} {stored : StoredConnection}

theorem Owned.belongs (own : Owned uid state id) : Belongs uid state id := by
  intro file there
  obtain ⟨stored, there', -, owned⟩ := own.record
  cases there.symm.trans there'
  exact ⟨stored, rfl, owned⟩

/-- A user who is not root is let through to their own records only. -/
theorem authorizeAccess_owned (user : uid ≠ 0) (allowed : authorizeAccess stored (.socket uid) = none) :
    stored.OwnedBy uid := by
  cases global : stored.global with
  | true => simp [authorizeAccess, global, PeerOrigin.isRoot, PeerOrigin.uid, user] at allowed
  | false =>
    refine ⟨global, ?_⟩
    simp [authorizeAccess, global, PeerOrigin.isRoot, PeerOrigin.uid, user] at allowed
    exact (of_decide_eq_true allowed).symm

/-! ### One step -/

theorem RecordChange.owned {force : Bool} {old : StoredConnection}
    (change : RecordChange crates admitted force state old stored) (own : old.OwnedBy uid) : stored.OwnedBy uid := by
  obtain ⟨-, global, owner, -⟩ := change.scope
  exact ⟨global.trans own.global, owner.trans own.owner⟩

/-- A write of a user's record in the place of one. -/
theorem written_belongs {outcome : WriteOutcome} (own : stored.OwnedBy uid) (belongs : Belongs uid state id) :
    Belongs uid { state with records := outcome.stores state.records stored.id (.record stored) } id := by
  have written : Belongs uid (state.withRecord stored) id := by
    intro file there
    by_cases same : id = stored.id
    · subst same
      rw [withRecord_same] at there
      cases there
      exact ⟨stored, rfl, own⟩
    · rw [withRecord_other same] at there
      exact belongs file there
  cases outcome with
  | failed error => exact belongs
  | written => exact written
  | unsynced error => exact written

theorem stores_other {outcome : WriteOutcome} {other : ConnectionId}
    (changed : outcome.stores state.records stored.id (.record stored) other ≠ state.records other) : other = stored.id := by
  by_contra different
  cases outcome with
  | failed error => exact changed rfl
  | written => exact changed (Function.update_of_ne different _ _)
  | unsynced error => exact changed (Function.update_of_ne different _ _)

theorem removed_belongs {outcome : Except IoError Unit} {removed : ConnectionId} (belongs : Belongs uid state id) :
    Belongs uid { state with records := removes outcome state.records removed } id := by
  cases outcome with
  | error error => exact belongs
  | ok value =>
    intro file there
    by_cases same : id = removed
    · simp [removes, same] at there
    · simp only [removes, Function.update_of_ne same] at there
      exact belongs file there

theorem belongs_congr (same : after.records = state.records) (belongs : Belongs uid state id) : Belongs uid after id := by
  unfold Belongs
  rw [same]
  exact belongs

/-- A section keeps the record the user's. -/
theorem InSection.belongs {op : StoreOp} {reply : op.Reply} (allowed : InSection crates admitted id state op)
    (answered : storeEnvironment state op reply after) (belongs : Belongs uid state id) : Belongs uid after id := by
  cases op
  case writeRecord stored =>
    obtain ⟨old, there, -, -, change⟩ := allowed
    obtain ⟨_, same, own⟩ := belongs _ there
    cases same
    cases answered
    exact written_belongs (change.owned own) belongs
  case removeRecord other =>
    cases answered
    exact removed_belongs belongs
  all_goals exact belongs_congr (records_unchanged answered (by simp) (by simp)) belongs

/-- Helpers start when they are spawned, and end in the wait for their clean-up. -/
theorem running_unchanged {op : StoreOp} {reply : op.Reply} (answered : storeEnvironment state op reply after)
    (noSpawn : ∀ spec, op ≠ .spawnHelper spec) (noWait : ∀ interface seconds, op ≠ .waitForCleanupStatus interface seconds) :
    after.running = state.running := by
  cases op
  case spawnHelper spec => exact absurd rfl (noSpawn spec)
  case waitForCleanupStatus interface seconds => exact absurd rfl (noWait interface seconds)
  case sweepInterface interface =>
    obtain ⟨runtime, _, _, rfl⟩ := answered
    rfl
  case removeRegularFile path =>
    rcases answered with rfl | rfl <;> rfl
  case listRecords =>
    cases reply with
    | error error =>
      cases answered
      rfl
    | ok entries => rw [answered.2]
  case tryExists path =>
    cases reply with
    | error error =>
      cases answered
      rfl
    | ok there => rw [answered.2]
  all_goals first
    | rw [answered.2]
    | (cases answered; rfl)

/-- A section starts and ends its own helper only. -/
theorem InSection.running {op : StoreOp} {reply : op.Reply} {interface : String}
    (allowed : InSection crates admitted id state op) (answered : storeEnvironment state op reply after)
    (changed : after.running interface ≠ state.running interface) : id.interfaceName = interface := by
  by_contra different
  have other : interface ≠ id.interfaceName := fun same => different same.symm
  cases op
  case spawnHelper spec =>
    obtain ⟨-, own⟩ := allowed
    cases answered with
    | notStarted => exact changed rfl
    | failed failure => exact changed rfl
    | ready success files => exact changed (Function.update_of_ne (own ▸ other) _ _)
  case waitForCleanupStatus waited seconds =>
    cases allowed
    cases answered with
    | goesOn stale => exact changed rfl
    | ends files => exact changed (Function.update_of_ne other _ _)
  all_goals exact changed (congrFun (running_unchanged answered (by simp) (by simp)) interface)

theorem Entitled.affair {op : StoreOp} {reply : op.Reply} (entitled : Entitled crates uid start state op)
    (answered : storeEnvironment state op reply after) : OwnAffair uid start state after := by
  cases entitled with
  | looks looks =>
    obtain rfl := looks.quiet _ _ _ answered
    exact ⟨fun _ changed => absurd rfl changed, fun _ changed => absurd rfl changed⟩
  | writes own belongs =>
    cases answered
    constructor
    · intro id changed
      obtain rfl := stores_other changed
      exact ⟨belongs, written_belongs own belongs⟩
    · intro interface changed
      exact absurd rfl changed
  | @inside _ id admitted own belongs allowed =>
    constructor
    · intro other changed
      have same : other = id := by
        by_contra different
        exact changed ((allowed.isolated answered).others other different)
      subst same
      exact ⟨belongs, allowed.belongs answered belongs⟩
    · intro interface changed
      exact ⟨_, allowed.running answered changed, own⟩

/-! ### Whole requests -/

section Requests

variable {control : ControlState} {request : AddRequest}

theorem entitled_call {A : Type} (within : Within env) {op : StoreOp} {f : op.Reply → StoreProgram A}
    {post : A → StoreState → Prop} (looks : Looks op)
    (rest : ∀ reply, @Ensures storeCommands _ _ env (Entitled crates uid start) (f reply) post state) :
    @Ensures storeCommands _ _ env (Entitled crates uid start) (storeCall op >>= f) post state :=
  ensures_quiet within (looks.quiet state) (.looks looks) rest

theorem looks_entitled (within : Within env) {A : Type} {p : StoreProgram A} {post : A → Prop}
    (looks : @Issues storeCommands _ Looks p post) :
    @Ensures storeCommands _ _ env (Entitled crates uid start) p (fun result final => final = state ∧ post result) state := by
  have kept := @Issues.keeps storeCommands _ _ _ _ _ env (fun s => s = state) state looks
    (fun s op reply after looks same answered => (looks.quiet _ _ _ (within _ _ _ _ answered)).trans same) rfl
  exact kept.relax fun _ _ both => .looks both.2

/-- The program only does what the user is entitled to. -/
def Rightful (env : Environment storeCommands StoreState) (crates : Crates) (uid : Nat) (start : StoreState) {A : Type}
    (p : StoreProgram A) (state : StoreState) : Prop :=
  @Ensures storeCommands _ _ env (Entitled crates uid start) p (fun _ _ => True) state

theorem Rightful.indexLock (within : Within env) {body : StoreProgram PrivilegedResponse}
    (inside : Rightful env crates uid start body state) : Rightful env crates uid start (withIndexLock body) state := by
  apply entitled_call within ⟨by simp, by simp, by exact fun _ _ _ answered => answered⟩
  intro locked
  cases locked with
  | error error => exact trivial
  | ok value =>
    apply ensures_bind inside
    intro response final _
    apply entitled_call within ⟨by simp, by simp, by exact fun _ _ _ answered => answered⟩
    intro _
    exact trivial

theorem Rightful.connectionLock (within : Within env) {wait : LockWait} {body : StoreProgram PrivilegedResponse}
    (inside : Rightful env crates uid start body state) :
    Rightful env crates uid start (withConnectionLock id wait body) state := by
  apply entitled_call within ⟨by simp, by simp, by exact fun _ _ _ answered => answered⟩
  intro locked
  cases locked with
  | error error => exact trivial
  | ok value =>
    apply ensures_bind inside
    intro response final _
    apply entitled_call within ⟨by simp, by simp, by exact fun _ _ _ answered => answered⟩
    intro _
    exact trivial

theorem Rightful.authorized (within : Within env) (user : uid ≠ 0) {body : StoredConnection → StoreProgram PrivilegedResponse}
    (go : ∀ stored, Owned uid state id → Rightful env crates uid start (body stored) state) :
    Rightful env crates uid start (withAuthorized id (.socket uid) body) state := by
  apply ensures_withAuthorized within (.looks looks_readRecord) (fun _ _ => trivial) trivial trivial
  intro stored there named _ allowed
  exact go stored ⟨stored, there, named, authorizeAccess_owned user allowed⟩

/-- Of the user's own connection a section may do what it does. -/
theorem section_rightful (within : Within env) (own : Owned uid state id) (locked : LockedSection) :
    Rightful env crates uid state (locked.program crates id) state := by
  have disciplined : @Ensures storeCommands _ _ env (InSection crates (Admitted (fun _ => True) locked.form) id)
      (locked.program crates id) (RefusalKeeps state) state := section_discipline within (consults_any env) locked
  have kept : ∀ s op reply after, InSection crates (Admitted (fun _ => True) locked.form) id s op → Belongs uid s id →
      env s op reply after → Belongs uid after id :=
    fun _ _ _ _ allowed belongs answered => allowed.belongs (within _ _ _ _ answered) belongs
  have held := disciplined.holding kept own.belongs
  exact (held.mono fun _ _ _ => trivial).relax fun _ _ both => .inside own both.2 both.1

/-- A section that checks the caller itself. -/
theorem checked_rightful (within : Within env) (user : uid ≠ 0) {body : StoredConnection → StoreProgram PrivilegedResponse}
    (locked : LockedSection) (checks : locked.program crates id = withAuthorized id (.socket uid) body) :
    Rightful env crates uid state (locked.program crates id) state := by
  by_cases own : Owned uid state id
  · exact section_rightful within own locked
  · rw [checks]
    apply Rightful.authorized within user
    intro stored owned
    exact absurd owned own

/-- What is left of a request once it has been dispatched is rightful too. -/
def RightfulToEnd (env : Environment storeCommands StoreState) (crates : Crates) (uid : Nat) (start : StoreState)
    (p : StoreProgram (DispatchOutcome × ControlState)) (state : StoreState) : Prop :=
  @Ensures storeCommands _ _ env (Entitled crates uid start) p
    (fun outcome final => Rightful env crates uid start outcome.1.run final) state

theorem RightfulToEnd.immediately {p : StoreProgram PrivilegedResponse} (inside : Rightful env crates uid start p state) :
    RightfulToEnd env crates uid start (Store.immediately control p) state := by
  apply ensures_bind inside
  intro response final _
  exact trivial

theorem RightfulToEnd.onWorker (within : Within env) (user : uid ≠ 0) {worker : StoreProgram PrivilegedResponse}
    (go : Owned uid state id → Rightful env crates uid start worker state) :
    RightfulToEnd env crates uid start (onThread control (Store.onWorker id (.socket uid) worker)) state := by
  have started : @Ensures storeCommands _ _ env (Entitled crates uid start) (Store.onWorker id (.socket uid) worker)
      (fun outcome final => Rightful env crates uid start outcome.run final) state := by
    apply ensures_bind (load_ensures within (.looks looks_readRecord))
    intro found final loaded
    obtain ⟨rfl, loaded⟩ := loaded
    cases found with
    | error error => exact trivial
    | ok found =>
      cases found with
      | none => exact trivial
      | some stored =>
        dsimp only
        split
        next => exact trivial
        next allowed => exact go ⟨stored, loaded.1, loaded.2.1, authorizeAccess_owned user allowed⟩
  apply ensures_bind started
  intro outcome final rightful
  exact rightful

/-! ### Adding -/

/-- A check before anything is written. -/
theorem Rightful.refusing (within : Within env) {p : StoreProgram (Except PrivilegedResponse Unit)}
    {rest : StoreProgram PrivilegedResponse} (looks : @Issues storeCommands _ Looks p fun _ => True)
    (go : Rightful env crates uid start rest state) : Rightful env crates uid start (orRefuse p rest) state := by
  apply ensures_orRefuse (looks_entitled within looks)
  · intro response final _
    exact trivial
  · intro final holds
    rw [holds.1]
    exact go

theorem looks_verify (bytes : List UInt8) : Looks (.verifyExternalForm bytes) :=
  ⟨by simp, by simp, fun _ _ _ answered => answered⟩

theorem requireAdminAuth_looks {form : Option (List UInt8)} {cause : String} :
    @Issues storeCommands _ Looks (requireAdminAuth form cause) fun _ => True := by
  cases form with
  | none => exact trivial
  | some bytes =>
    apply issues_call (looks_verify bytes)
    intro verdict
    cases verdict with
    | ok value => exact trivial
    | error error => cases error <;> exact trivial

theorem requireElevation_looks {startMode : ConnectionStartMode} {form : Option (List UInt8)} :
    @Issues storeCommands _ Looks (requireElevation stored startMode form) fun _ => True := by
  unfold requireElevation
  split
  · exact requireAdminAuth_looks
  · exact trivial

theorem findStrict_looks (wanted : StoredConnection → Bool) :
    @Issues storeCommands _ Looks (findStrict wanted) fun _ => True := by
  have listing : @Issues storeCommands _ Looks loadAllStrict fun _ => True := by
    apply issues_call looks_listRecords
    intro reply
    cases reply <;> exact trivial
  apply Issues.bind listing
  intro records _
  exact trivial

theorem checkName_looks {name : Option String} {force global : Bool} {ownerUid : Option Nat} {own : Option ConnectionId} :
    @Issues storeCommands _ Looks (checkName name force global ownerUid own) fun _ => True := by
  cases name with
  | none => exact trivial
  | some name =>
    cases force with
    | true => exact trivial
    | false =>
      apply Issues.bind (findStrict_looks _)
      intro found _
      cases found with
      | error error => exact trivial
      | ok found =>
        cases found with
        | none => exact trivial
        | some existing =>
          dsimp only
          split <;> exact trivial

theorem allocateFrom_looks (attempts : Nat) : @Issues storeCommands _ Looks (allocateFrom attempts) fun _ => True := by
  induction attempts with
  | zero => exact trivial
  | succ attempts ih =>
    apply issues_call ⟨by simp, by simp, by exact fun _ _ _ answered => answered⟩
    intro id
    apply Issues.bind (findStrict_looks _)
    intro used _
    cases used with
    | error error => exact trivial
    | ok found =>
      cases found with
      | none => exact trivial
      | some other => exact ih

/-- Writing a record of the user's as the last thing a request does. -/
theorem Rightful.saving (within : Within env) {response : PrivilegedResponse} {write : Nat → StoredConnection}
    (own : ∀ now, (write now).OwnedBy uid) (belongs : ∀ now, Belongs uid state (write now).id) :
    Rightful env crates uid start (storeCall .nowUnix >>= fun now => answer response (save (write now))) state := by
  apply entitled_call within ⟨by simp, by simp, by exact fun _ _ _ answered => answered⟩
  intro now
  exact ensures_save within (.writes (own now) (belongs now)) (fun _ _ => trivial) (fun _ _ => trivial) trivial

theorem reconcileExistingAdd_rightful (within : Within env) {existing : StoredConnection} (own : existing.OwnedBy uid)
    (there : state.records existing.id = some (.record existing)) :
    Rightful env crates uid start (reconcileExistingAdd existing request) state := by
  unfold reconcileExistingAdd
  dsimp only
  split
  · exact trivial
  · apply Rightful.refusing within checkName_looks
    apply Rightful.refusing within requireElevation_looks
    apply Rightful.connectionLock within
    have change : ∀ now : Nat, RecordChange crates True true state existing
        { (resubmission existing request).apply existing request with updatedAt := now } :=
      fun now => .resubmitted (fun forced => absurd forced (by simp)) (fun _ => trivial) now
    apply Rightful.saving within fun now => (change now).owned own
    intro now file found
    rw [(change now).scope.1] at found
    cases there.symm.trans found
    exact ⟨existing, rfl, own⟩

theorem createConnection_rightful (within : Within env) {confText fingerprint : String} {parsed : ConnectionConfig}
    (notGlobal : request.global = false) :
    Rightful env crates uid start (createConnection request (some uid) confText parsed fingerprint) state := by
  apply Rightful.refusing within checkName_looks
  apply Rightful.refusing within requireAdminAuth_looks
  have adds : Adds env fun _ => True := ⟨within, fun _ _ _ _ => trivial⟩
  have allocated : @Ensures storeCommands _ _ env (Entitled crates uid start) allocateUniqueInterface (fun outcome final =>
      (final = state ∧ ∀ allocated, outcome = .ok allocated → True ∧ state.records allocated.1 = none) ∧ True) state :=
    ((allocateFrom_ends adds allocateAttempts).and (Issues.ensures (allocateFrom_looks allocateAttempts))).relax
      fun _ _ both => .looks both.2
  apply ensures_orRespond allocated
  · intro error final _
    exact trivial
  · intro chosen final holds
    obtain ⟨⟨rfl, fresh⟩, -⟩ := holds
    have absent := (fresh chosen rfl).2
    apply Rightful.saving within
    · intro now
      exact ⟨notGlobal, rfl⟩
    · intro now file found
      cases absent.symm.trans found

theorem handleAddConnection_rightful (within : Within env) (user : uid ≠ 0) :
    Rightful env crates uid state (handleAddConnection crates (.socket uid) request) state := by
  unfold handleAddConnection
  split
  next => exact trivial
  next allowed =>
    have notGlobal : request.global = false := by
      simpa [PeerOrigin.isRoot, PeerOrigin.uid, user] using allowed
    rw [notGlobal]
    apply entitled_call within ⟨by simp, by simp, by exact fun _ _ _ answered => answered⟩
    intro resolver
    split
    · exact trivial
    · apply Rightful.indexLock within
      unfold addParsed
      rw [notGlobal]
      apply ensures_orRespond (findStrict_ensures within _ (.looks looks_listRecords))
      · intro error final _
        exact trivial
      · intro found final holds
        obtain ⟨rfl, holds⟩ := holds
        cases found with
        | none => exact createConnection_rightful within notGlobal
        | some existing =>
          obtain ⟨there, -, identity⟩ := holds
          simp only [hasIdentity, Bool.and_eq_true, decide_eq_true_eq] at identity
          exact reconcileExistingAdd_rightful within ⟨identity.1.2, identity.2⟩ there

/-! ### Dispatch -/

/-- A request that is about no connection only looks. -/
theorem unaddressed_rightful (within : Within env) {request : PrivilegedRequest} (noAdd : ∀ add, request ≠ .addConnection add)
    (unaddressed : ∀ id, ¬About id request) :
    RightfulToEnd env crates uid start (dispatch crates control (.socket uid) request) state := by
  have looks : HeedsToEnd (fun _ => Looks) (dispatch crates control (.socket uid) request) :=
    dispatch_heeds (fun _ _ looks => looks) noAdd (fun id _ about => absurd about (unaddressed id)) control
  have narrow : ∀ {A : Type} {p : StoreProgram A} {post : A → Prop} (s : StoreState), Heeds (fun _ => Looks) p post →
      @Ensures storeCommands _ _ env (Entitled crates uid start) p (fun result _ => post result) s :=
    fun s heeds => ((heeds s).narrower within).relax fun _ _ looks => .looks looks
  apply (narrow state looks).mono
  intro outcome final left
  exact narrow final left

theorem dispatch_rightful (within : Within env) (user : uid ≠ 0) (control : ControlState) (request : PrivilegedRequest) :
    RightfulToEnd env crates uid state (dispatch crates control (.socket uid) request) state := by
  cases request with
  | addConnection request => exact .immediately (handleAddConnection_rightful within user)
  | refreshConnection id confText sourcePath form =>
    exact .onWorker within user fun own =>
      .indexLock within (.connectionLock within (section_rightful within own (.refresh confText sourcePath form)))
  | removeConnection id form =>
    exact .immediately (.indexLock within (.authorized within user fun _ own =>
      .connectionLock within (section_rightful within own (.remove form))))
  | connectConnection id debug reason =>
    exact .onWorker within user fun own => .connectionLock within (section_rightful within own (.connect debug reason))
  | disconnectConnection id reason =>
    exact .onWorker within user fun own => .connectionLock within (section_rightful within own (.disconnect reason))
  | reconnectConnection id =>
    exact .onWorker within user fun own => .connectionLock within (section_rightful within own .reconnect)
  | setConnectionMode id startMode form =>
    exact .immediately (.connectionLock within (checked_rightful within user (.setMode (.socket uid) startMode form) rfl))
  | setConnectionDnsDynamicStore id enabled =>
    exact .immediately (.connectionLock within (checked_rightful within user (.setDnsDynamicStore (.socket uid) enabled) rfl))
  | setConnectionBypassLinks id links =>
    exact .immediately (.connectionLock within (checked_rightful within user (.setBypassLinks (.socket uid) links) rfl))
  | getConnection id =>
    apply RightfulToEnd.immediately
    apply Rightful.authorized within user
    intro stored _
    apply ensures_bind (looks_entitled within isConnected_looks)
    intro connected final _
    exact trivial
  | leaseAcquire token => exact unaddressed_rightful within (by simp) fun _ about => about
  | leaseRelease token => exact unaddressed_rightful within (by simp) fun _ about => about
  | shutdownIfIdle => exact unaddressed_rightful within (by simp) fun _ about => about
  | interfaceActive interface => exact unaddressed_rightful within (by simp) fun _ about => about
  | wgShow interface => exact unaddressed_rightful within (by simp) fun _ about => about
  | networkOverview interface => exact unaddressed_rightful within (by simp) fun _ about => about
  | listConnections scope => exact unaddressed_rightful within (by simp) fun _ about => about
  | listDnsCustody => exact unaddressed_rightful within (by simp) fun _ about => about

theorem serveRequest_rightful (within : Within env) (user : uid ≠ 0) (control : ControlState) (request : PrivilegedRequest) :
    Rightful env crates uid state (serveRequest crates control (.socket uid) request) state := by
  apply ensures_bind (dispatch_rightful within user control request)
  intro outcome final rightful
  apply ensures_bind rightful
  intro response last _
  exact trivial

end Requests

/-! ### What users are told -/

/-- These files cannot be read; a listing has their names all the same. -/
def ReadsUnless (unreadable : ConnectionId → Bool) (_ : StoreState) (op : StoreOp) (reply : op.Reply) : Prop :=
  match op, reply with
  | .readRecord id, .ok _ => unreadable id = false
  | .listRecords, .ok entries =>
    ∀ entry ∈ entries, ∀ id, entry.id = some id → (unreadable id = false ↔ ∃ file, entry.contents = .ok file)
  | _, _ => True

abbrev damaged (unreadable : ConnectionId → Bool) : Environment storeCommands StoreState :=
  @Environment.meeting storeCommands _ storeEnvironment (ReadsUnless unreadable)

/-- The interface is that of a connection of the user's, or no record file has it. -/
def Disclosable (uid : Nat) (state : StoreState) (interface : String) : Prop :=
  (∃ id, id.interfaceName = interface ∧ Owned uid state id) ∨ ∀ id, id.interfaceName = interface → state.records id = none

/-- The connection data in an answer are the user's, or those of an interface that no record file has. -/
def DataOwned (crates : Crates) (uid : Nat) (state : StoreState) : PrivilegedRequest → PrivilegedResponse → Prop
  | .getConnection id, .connection summary => Owned uid state id ∧ ∃ stored connected,
      state.records id = some (.record stored) ∧ summary = summarize crates stored connected true
  | .wgShow interface, .wgDevice _ | .networkOverview interface, .networkOverview _ | .interfaceActive interface, .bool _ =>
    Disclosable uid state interface
  | _, _ => True

/-- However a request of this user is served, it touches, and tells of, the user's own connections only. -/
structure NonInterference (crates : Crates) (uid : Nat) (unreadable : ConnectionId → Bool) (request : PrivilegedRequest)
    (start : StoreState) : Prop where
  affairs : ∀ control state rest after rest',
    @Runs storeCommands _ _ (damaged unreadable) (start, serveRequest crates control (.socket uid) request) (state, rest) →
      @Advances storeCommands _ _ (damaged unreadable) (state, rest) (after, rest') → OwnAffair uid start state after
  data : ∀ control response control' after,
    @Completes storeCommands _ _ (damaged unreadable) (serveRequest crates control (.socket uid) request) start
      (response, control') after → DataOwned crates uid start request response

/-- The interface that a request names instead of a connection. -/
def PrivilegedRequest.namedInterface : PrivilegedRequest → Option String
  | .wgShow interface | .networkOverview interface | .interfaceActive interface => some interface
  | _ => none

/-- If record files have the interface, one of them is the user's, or can be read as a record. -/
def Vouched (uid : Nat) (unreadable : ConnectionId → Bool) (state : StoreState) (interface : String) : Prop :=
  (∃ id, id.interfaceName = interface ∧ state.records id ≠ none) →
    ∃ id file, id.interfaceName = interface ∧ state.records id = some file ∧
      (Owned uid state id ∨ unreadable id = false ∧ ∃ stored, file.read id = .ok stored)

section Telling

variable {unreadable : ConnectionId → Bool} {interface : String} {request : PrivilegedRequest}

/-- What the search by interface may find: it skips what it cannot read. -/
def FoundInterface (unreadable : ConnectionId → Bool) (state : StoreState) (interface : String) :
    Except AppError (Option StoredConnection) → Prop
  | .ok (some stored) => state.records stored.id = some (.record stored) ∧ stored.id.interfaceName = interface
  | .ok none => ∀ id file, id.interfaceName = interface → state.records id = some file → unreadable id = false →
      ∀ stored, file.read id ≠ .ok stored
  | .error _ => True

theorem readable_iff {entry : ListedEntry} : readable entry = some stored ↔ entry.read = .ok stored := by
  unfold readable
  cases entry.read <;> simp [Except.toOption]

theorem findByInterface_finds : @Ensures storeCommands _ _ (damaged unreadable) (fun _ _ => True) (findByInterface interface)
    (fun found final => final = state ∧ FoundInterface unreadable state interface found) state := by
  refine Ensures.bind_iff.mpr (Ensures.bind_iff.mpr ⟨trivial, fun reply after answered => ?_⟩)
  obtain ⟨reads, answered⟩ := answered
  cases reply with
  | error error => exact ⟨answered, trivial⟩
  | ok entries =>
    obtain ⟨listed, rfl⟩ := answered
    refine ⟨rfl, ?_⟩
    cases here : (entries.filterMap readable).find? fun stored => stored.interface = interface with
    | some stored =>
      simp only [Except.map, here]
      obtain ⟨entry, member, read⟩ := List.mem_filterMap.mp (List.mem_of_find?_eq_some here)
      obtain ⟨-, there, derived⟩ := listed.read_ok member (readable_iff.mp read)
      exact ⟨there, derived.symm.trans (by simpa using List.find?_some here)⟩
    | none =>
      simp only [Except.map, here]
      intro id file same there fine stored read
      obtain ⟨entry, member, named⟩ := listed.all id (by simp [there])
      obtain ⟨file', contents⟩ := (reads entry member id named).mp fine
      cases there.symm.trans (listed.contents entry member id file' named contents)
      have whole : entry.read = .ok stored := by
        unfold ListedEntry.read
        simp only [named, contents]
        exact read
      have unlike := List.find?_eq_none.mp here stored (List.mem_filterMap.mpr ⟨entry, member, readable_iff.mpr whole⟩)
      obtain ⟨-, -, derived⟩ := RecordFile.read_ok_iff.mp read
      exact unlike (by simp [derived, same])

theorem onInterface_tells (user : uid ≠ 0) (vouched : Vouched uid unreadable state interface)
    {body : StoreProgram PrivilegedResponse} {post : PrivilegedResponse → Prop}
    (refused : ∀ code message, post (.error code message)) (told : Disclosable uid state interface → ∀ response, post response) :
    @Ensures storeCommands _ _ (damaged unreadable) (fun _ _ => True) (onInterface interface (.socket uid) body)
      (fun response _ => post response) state := by
  have failed : ∀ error : AppError, post (errorResponse error) := fun error => by
    cases error <;> exact refused _ _
  have shown : Disclosable uid state interface → ∀ final,
      @Ensures storeCommands _ _ (damaged unreadable) (fun _ _ => True) body (fun response _ => post response) final :=
    fun disclosable final => (Ensures.any body final).mono fun response _ _ => told disclosable response
  refine Ensures.bind_iff.mpr (ensures_bind findByInterface_finds ?_)
  intro found final holds
  obtain ⟨rfl, holds⟩ := holds
  cases found with
  | error error => exact failed error
  | ok found =>
    cases found with
    | some stored =>
      cases verdict : authorizeAccess stored (.socket uid) with
      | some response =>
        simp only [Program.pure_eq, Ensures.done_iff, verdict]
        rw [authorizeAccess_denied verdict]
        exact refused _ _
      | none =>
        simp only [Program.pure_eq, Ensures.done_iff, verdict]
        exact shown (.inl ⟨stored.id, holds.2, stored, holds.1, rfl, authorizeAccess_owned user verdict⟩) _
    | none =>
      apply shown
      by_cases some : ∃ id, id.interfaceName = interface ∧ final.records id ≠ none
      · obtain ⟨id, file, same, there, own | ⟨fine, stored, read⟩⟩ := vouched some
        · exact .inl ⟨id, same, own⟩
        · exact absurd read (holds id file same there fine stored)
      · right
        intro id same
        by_contra there
        exact some ⟨id, same, there⟩

/-- A request that is answered at once. -/
theorem immediately_tells {control : ControlState} {p : StoreProgram PrivilegedResponse} {post : PrivilegedResponse → Prop}
    (dispatched : dispatch crates control (.socket uid) request = Store.immediately control p)
    (tells : @Ensures storeCommands _ _ (damaged unreadable) (fun _ _ => True) p (fun response _ => post response) state) :
    @Ensures storeCommands _ _ (damaged unreadable) (fun _ _ => True) (serveRequest crates control (.socket uid) request)
      (fun served _ => post served.1) state := by
  rw [serveRequest, dispatched]
  apply ensures_bind (ensures_bind tells _)
  · intro outcome final holds
    exact holds
  · intro response final holds
    exact holds

theorem handleGetConnection_tells (user : uid ≠ 0) :
    @Ensures storeCommands _ _ (damaged unreadable) (fun _ _ => True) (handleGetConnection crates (.socket uid) id)
      (fun response _ => DataOwned crates uid state (.getConnection id) response) state := by
  apply ensures_withAuthorized (within_meeting _) trivial
  · intro error _
    cases error <;> exact trivial
  · exact trivial
  · exact trivial
  · intro stored there named _ allowed
    apply ensures_bind (Ensures.any _ _)
    intro connected final _
    exact ⟨⟨stored, there, named, authorizeAccess_owned user allowed⟩, stored, connected, there, rfl⟩

theorem serveRequest_tells (user : uid ≠ 0) (control : ControlState)
    (vouched : ∀ interface, request.namedInterface = some interface → Vouched uid unreadable state interface) :
    @Ensures storeCommands _ _ (damaged unreadable) (fun _ _ => True) (serveRequest crates control (.socket uid) request)
      (fun served _ => DataOwned crates uid state request served.1) state := by
  have other : (∀ response, DataOwned crates uid state request response) →
      @Ensures storeCommands _ _ (damaged unreadable) (fun _ _ => True) (serveRequest crates control (.socket uid) request)
        (fun served _ => DataOwned crates uid state request served.1) state :=
    fun always => (Ensures.any _ _).mono fun served _ _ => always served.1
  cases request with
  | getConnection id => exact immediately_tells rfl (handleGetConnection_tells user)
  | wgShow interface =>
    apply immediately_tells rfl
    apply onInterface_tells user (vouched interface rfl) fun _ _ => trivial
    intro disclosable response
    cases response <;> first | exact disclosable | exact trivial
  | networkOverview interface =>
    apply immediately_tells rfl
    apply onInterface_tells user (vouched interface rfl) fun _ _ => trivial
    intro disclosable response
    cases response <;> first | exact disclosable | exact trivial
  | interfaceActive interface =>
    apply immediately_tells rfl
    apply onInterface_tells user (vouched interface rfl) fun _ _ => trivial
    intro disclosable response
    cases response <;> first | exact disclosable | exact trivial
  | _ => exact other fun _ => trivial

/-! ### An interface nobody vouches for -/

/-- Everything works, but these files cannot be read. -/
def unreadableCues (unreadable : ConnectionId → Bool) : Cues := { workingCues with
  fails := fun
    | .readRecord id => unreadable id
    | _ => false }

def allIds : List ConnectionId := (List.range 0x100000000000000000000000000000000).map fun n => ⟨BitVec.ofNat 128 n⟩

theorem mem_allIds (id : ConnectionId) : id ∈ allIds := by
  refine List.mem_map.mpr ⟨id.uuid.toNat, List.mem_range.mpr id.uuid.isLt, ?_⟩
  rw [BitVec.ofNat_toNat, BitVec.setWidth_eq]

def wholeScript (state : StoreState) : Scripted := ⟨state, allIds, fun id _ => mem_allIds id⟩

theorem entry_reads {script : Scripted} {entry : ListedEntry} (member : entry ∈ script.entries (unreadableCues unreadable))
    {id : ConnectionId} (named : entry.id = some id) : unreadable id = false ↔ ∃ file, entry.contents = .ok file := by
  obtain ⟨id', -, there⟩ := List.mem_filterMap.mp member
  obtain ⟨file, -, rfl⟩ := Option.map_eq_some_iff.mp there
  cases named
  cases fails : unreadable id <;> simp [unreadableCues, fails]

theorem damaged_faithful (unreadable : ConnectionId → Bool) :
    (scriptedStore (unreadableCues unreadable)).Faithful Scripted.state (damaged unreadable) := by
  intro script op
  refine ⟨?_, scriptedStore_faithful _ script op⟩
  cases op
  case readRecord id =>
    simp only [scriptedStore, found]
    cases fails : unreadable id with
    | true => simp [unreadableCues, fails, ReadsUnless]
    | false =>
      simp only [unreadableCues, fails, Bool.false_eq_true, if_false]
      cases script.state.records id with
      | none => trivial
      | some file => exact fails
  case listRecords =>
    intro entry member id named
    exact entry_reads member named
  all_goals trivial

/-- What cannot be read does not hide an interface. -/
theorem wholeScript_hides (hidden : ∀ id file, id.interfaceName = interface → state.records id = some file →
    unreadable id = false → ∀ stored, file.read id ≠ .ok stored) :
    (((wholeScript state).entries (unreadableCues unreadable)).filterMap readable).find?
      (fun stored => stored.interface = interface) = none := by
  rw [List.find?_eq_none]
  intro stored member same
  obtain ⟨entry, among, read⟩ := List.mem_filterMap.mp member
  have listed := (wholeScript state).listed (unreadableCues unreadable)
  obtain ⟨named, there, derived⟩ := listed.read_ok among (readable_iff.mp read)
  have fine : unreadable stored.id = false := by
    refine (entry_reads among named).mpr ?_
    have whole := readable_iff.mp read
    unfold ListedEntry.read at whole
    simp only [named] at whole
    cases contents : entry.contents with
    | ok file => exact ⟨file, rfl⟩
    | error error =>
      rw [contents] at whole
      cases whole
  have derives : stored.id.interfaceName = interface := derived.symm.trans (by simpa using same)
  exact hidden _ _ derives there fine stored (RecordFile.read_ok_iff.mpr ⟨rfl, rfl, derived⟩)

/-- The answer with data that a request for an interface may get. -/
def PrivilegedRequest.telling (there : Bool) : PrivilegedRequest → PrivilegedResponse
  | .wgShow interface => .wgDevice interface
  | .networkOverview interface => .networkOverview (some interface)
  | _ => .bool there

theorem played_telling {cues : Cues} {script : Scripted} {origin : PeerOrigin} {control : ControlState}
    (named : request.namedInterface = some interface) (lists : cues.fails .listRecords = false)
    (hidden : ((script.entries cues).filterMap readable).find? (fun stored => stored.interface = interface) = none) :
    (play cues (serveRequest crates control origin request) script).1.1 =
      request.telling (script.state.runtime (socketPath interface)).isSome := by
  cases request <;> simp only [PrivilegedRequest.namedInterface, Option.some.injEq, reduceCtorEq] at named
  all_goals
    subst named
    simp only [play, serveRequest, dispatch, immediately, handleWgShow, handleNetworkOverview, handleInterfaceActive,
      onInterface, legacyInterfaceAccessDenied, findByInterface, loadAll, storeCall, Program.command, interpret,
      scriptedStore, fallible, lists, Program.call_bind, Program.done_bind, Program.pure_eq, Bool.false_eq_true, if_false,
      Except.map, hidden, DispatchOutcome.run, PrivilegedRequest.telling]

/-- A user is told about an interface that only files of other users, or of nobody, have. -/
theorem interferes (named : request.namedInterface = some interface) (unvouched : ¬Vouched uid unreadable state interface) :
    ¬NonInterference crates uid unreadable request state := by
  intro holds
  obtain ⟨⟨other, derives, there⟩, none⟩ := Classical.not_imp.mp unvouched
  have hidden : ∀ id file, id.interfaceName = interface → state.records id = some file → unreadable id = false →
      ∀ stored, file.read id ≠ .ok stored :=
    fun id file same found fine stored read => none ⟨id, file, same, found, .inr ⟨fine, stored, read⟩⟩
  have run := interpret_completes (damaged_faithful unreadable) (wholeScript state)
    (serveRequest crates ⟨[], false, false⟩ (.socket uid) request)
  have told : DataOwned crates uid state request (play (unreadableCues unreadable)
      (serveRequest crates ⟨[], false, false⟩ (.socket uid) request) (wholeScript state)).1.1 := holds.data _ _ _ _ run
  rw [played_telling named rfl (wholeScript_hides hidden)] at told
  have disclosable : Disclosable uid state interface := by
    cases request <;> simp only [PrivilegedRequest.namedInterface, Option.some.injEq, reduceCtorEq] at named
    all_goals
      subst named
      exact told
  cases disclosable with
  | inl own =>
    obtain ⟨id, same, own⟩ := own
    obtain ⟨stored, found, rest⟩ := own.record
    exact none ⟨id, _, same, found, .inl ⟨stored, found, rest⟩⟩
  | inr absent => exact there (absent other derives)

/-- A user's request interferes with nobody else exactly if the interface that it names, if record files have it, is
the user's or that of a file that can be read. -/
theorem noninterference_iff (user : uid ≠ 0) : NonInterference crates uid unreadable request start ↔
    ∀ interface, request.namedInterface = some interface → Vouched uid unreadable start interface := by
  constructor
  · intro holds interface named
    by_contra unvouched
    exact interferes named unvouched holds
  · intro vouched
    have within : Within (damaged unreadable) := within_meeting _
    constructor
    · intro control state rest after rest' run step
      have rightful := (serveRequest_rightful within user control request).runs run
      cases step with
      | command answered => exact rightful.1.affair (within _ _ _ _ answered)
    · intro control response control' after completes
      exact (serveRequest_tells user control vouched).completes completes

/-- The interface of root's own connection, whose file can be read. -/
theorem noninterference_readable :
    NonInterference exampleCrates 501 (fun _ => false) (.wgShow exampleStored.interface) storedScript.state := by
  refine (noninterference_iff (by decide)).mpr ?_
  intro interface same
  cases same
  intro _
  exact ⟨exampleId, .record exampleStored, rfl, withRecord_same exampleStored,
    .inr ⟨rfl, exampleStored, RecordFile.read_ok_iff.mpr ⟨rfl, rfl, rfl⟩⟩⟩

def cutShort : RecordFile := .malformed (.json "EOF while parsing a string at line 1 column 24")

/-- One record file, which was cut short. -/
def cutState : StoreState :=
  { emptyScript.state with records := Function.update emptyScript.state.records exampleId (some cutShort) }

theorem cutState_record : cutState.records exampleId = some cutShort := by
  simp [cutState]

theorem cutState_other (other : id ≠ exampleId) : cutState.records id = none := by
  simp [cutState, emptyScript, other]

theorem noninterference_fails_cut :
    ¬ ∀ (crates : Crates) (uid : Nat) (unreadable : ConnectionId → Bool) (request : PrivilegedRequest) (start : StoreState),
      uid ≠ 0 → NonInterference crates uid unreadable request start := by
  intro all
  have holds := all exampleCrates 501 (fun _ => false) (.interfaceActive exampleId.interfaceName) cutState (by decide)
  refine interferes rfl ?_ holds
  intro vouched
  obtain ⟨id, file, -, there, vouches⟩ := vouched ⟨exampleId, rfl, by simp [cutState_record]⟩
  by_cases same : id = exampleId
  · subst same
    cases cutState_record.symm.trans there
    rcases vouches with own | ⟨-, stored, read⟩
    · obtain ⟨stored, there', -⟩ := own.record
      cases cutState_record.symm.trans there'
    · cases read
  · cases (cutState_other same).symm.trans there

end Telling

end Wgd.Store
