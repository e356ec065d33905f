import Wgd.Store.Discipline

/-! Every request keeps the discipline, from its arrival to its answer. -/

set_option autoImplicit false

namespace Wgd.Store

open Wgd.Interaction Wgd.Net Wgd.Links Wgd.Config Wgd.Helper Wgd.Daemon

/-- A record that comes into existence. -/
structure Created (crates : Crates) (admitted : Prop) (force : Bool) (state : StoreState) (stored : StoredConnection) :
    Prop where
  allowed : admitted
  parses : ∃ resolver, parseConnectionConfig crates resolver stored.rawConf = .ok stored.config
  identity : stored.fingerprint = fingerprint crates stored.config
  owner : stored.ownerUid = none ↔ stored.global = true
  interface : stored.interface = stored.id.interfaceName
  noLinks : stored.bypassLinks = []
  free : Found state (hasIdentity stored.fingerprint stored.global stored.ownerUid) (.ok none)
  interfaceFree : Found state (fun other => other.interface = stored.interface) (.ok none)
  nameFree : force = false → ∀ name, stored.name = some name →
    Cleared state (hasName name stored.global stored.ownerUid) none

/-- How a record comes to be written. -/
inductive RecordWrite (crates : Crates) (admitted : Prop) (force : Bool) (state : StoreState) (stored : StoredConnection) :
    Prop where
  | created (fresh : Created crates admitted force state stored)
  | changed {old : StoredConnection} (own : OwnRecord state stored.id old)
      (change : RecordChange crates admitted force state old stored)

/-- The calls of a request, as far as the records go. -/
def InRequest (crates : Crates) (admitted : Prop) (force : Bool) (state : StoreState) : StoreOp → Prop
  | .writeRecord stored => RecordWrite crates admitted force state stored
  | .removeRecord _ => admitted
  | _ => True

/-- Whether the request may take a name that is in use. -/
def PrivilegedRequest.force : PrivilegedRequest → Bool
  | .addConnection request => request.force
  | _ => false

variable {env : Environment storeCommands StoreState} {state after start : StoreState} {id : ConnectionId} {crates : Crates}
  {admitted : Prop} {accepts : List UInt8 → Prop} {force : Bool}

theorem InSection.inRequest {op : StoreOp} (allowed : InSection crates admitted id state op) :
    InRequest crates admitted force state op := by
  cases op
  case writeRecord stored =>
    obtain ⟨old, there, rfl, interface, change⟩ := allowed
    have named := change.scope.1
    exact .changed ⟨named ▸ there, named.symm, named ▸ interface⟩ change.relax
  case removeRecord other => exact allowed.2
  all_goals trivial

theorem section_request (within : Within env) (consults : Consults accepts env) (locked : LockedSection) :
    @Ensures storeCommands _ _ env (InRequest crates (Admitted accepts locked.form) force) (locked.program crates id)
      (RefusalKeeps state) state :=
  (section_discipline within consults locked).relax fun _ _ allowed => allowed.inRequest

/-! ### Locks -/

theorem lockErrorResponse_granted (error : IoError) : (lockErrorResponse error).refuses = false := by
  unfold lockErrorResponse
  split <;> rfl

theorem withConnectionLock_request (within : Within env) {wait : LockWait} {body : StoreProgram PrivilegedResponse}
    (inside : @Ensures storeCommands _ _ env (InRequest crates admitted force) body (RefusalKeeps start) state) :
    @Ensures storeCommands _ _ env (InRequest crates admitted force) (withConnectionLock id wait body) (RefusalKeeps start)
      state := by
  apply ensures_quiet within (by exact fun _ _ answered => answered) trivial
  intro reply
  cases reply with
  | error error => exact .of_granted (lockErrorResponse_granted error) state
  | ok value =>
    apply ensures_bind inside
    intro response final kept
    apply ensures_quiet within (by exact fun _ _ answered => answered) trivial
    intro _
    exact kept

theorem withIndexLock_request (within : Within env) {body : StoreProgram PrivilegedResponse}
    (inside : @Ensures storeCommands _ _ env (InRequest crates admitted force) body (RefusalKeeps start) state) :
    @Ensures storeCommands _ _ env (InRequest crates admitted force) (withIndexLock body) (RefusalKeeps start) state := by
  apply ensures_quiet within (by exact fun _ _ answered => answered) trivial
  intro reply
  cases reply with
  | error error => exact .of_granted (lockErrorResponse_granted error) state
  | ok value =>
    apply ensures_bind inside
    intro response final kept
    apply ensures_quiet within (by exact fun _ _ answered => answered) trivial
    intro _
    exact kept

/-! ### Adding -/

/-- Writing a record as the last thing a request does. -/
theorem save_request (within : Within env) {stored : StoredConnection} {response : PrivilegedResponse}
    (write : RecordWrite crates admitted force state stored) (granted : response.refuses = false) :
    @Ensures storeCommands _ _ env (InRequest crates admitted force) (answer response (save stored)) (RefusalKeeps state)
      state := by
  apply ensures_save within write
  · intro error holds
    exact .same _
  · intro error holds
    exact .of_granted (errorResponse_granted holds) _
  · exact .of_granted granted _

theorem reconcileExistingAdd_request (within : Within env) (consults : Consults accepts env) {existing : StoredConnection}
    (own : OwnRecord state existing.id existing) (request : AddRequest) :
    @Ensures storeCommands _ _ env (InRequest crates (Admitted accepts request.authExternalForm) request.force)
      (reconcileExistingAdd existing request) (RefusalKeeps state) state := by
  unfold reconcileExistingAdd
  dsimp only
  split
  · exact .same _
  · apply ensures_orRefuse (checkName_ensures within trivial)
    · rintro response final ⟨rfl, _⟩
      exact .same _
    rintro final ⟨rfl, named⟩
    apply ensures_orRefuse (requireElevation_admits within consults fun _ => trivial)
    · rintro response after ⟨rfl, _⟩
      exact .same _
    rintro after ⟨rfl, elevation⟩
    apply withConnectionLock_request within
    apply ensures_quiet within (by exact fun _ _ answered => answered) trivial
    intro now
    have nameFree : request.force = false → ∀ name, request.name = some name → request.name ≠ existing.name →
        Cleared after (hasName name existing.global existing.ownerUid) (some existing.id) := by
      intro unforced name asked changed
      have moved : (resubmission existing request).nameChanged = true := by
        have there : request.name.isSome = true := by rw [asked]; rfl
        simp [resubmission, there, changed]
      apply named rfl unforced name
      rw [moved]
      exact asked
    have change : RecordChange crates (Admitted accepts request.authExternalForm) request.force after existing
        { (resubmission existing request).apply existing request with updatedAt := now } :=
      .resubmitted nameFree (elevation rfl) now
    have same := change.scope.1
    exact save_request within (@RecordWrite.changed _ _ _ _ _ existing (same ▸ own) change) rfl

theorem ownerOf_ensures (within : Within env) (origin : PeerOrigin) (global : Bool) :
    @Ensures storeCommands _ _ env (InRequest crates admitted force) (ownerOf origin global)
      (fun ownerUid final => final = state ∧ (ownerUid = none ↔ global = true)) state := by
  unfold ownerOf
  cases global with
  | true => exact ⟨rfl, by simp⟩
  | false =>
    cases origin with
    | socket uid => exact ⟨rfl, by simp⟩
    | stdio =>
      apply ensures_quiet within (by exact fun _ _ answered => answered) trivial
      intro uid
      exact ⟨rfl, by simp⟩

/-- The interface of an allocated id is the interface of no record. -/
theorem allocateFrom_ensures (within : Within env) (attempts : Nat) :
    @Ensures storeCommands _ _ env (InRequest crates admitted force) (allocateFrom attempts)
      (fun outcome final => final = state ∧ Outcome NotAuth (fun allocated => allocated.2 = allocated.1.interfaceName ∧
        Found state (fun other => other.interface = allocated.2) (.ok none)) outcome) state := by
  induction attempts with
  | zero => exact ⟨rfl, notAuth_other _⟩
  | succ attempts ih =>
    apply ensures_quiet within (by exact fun _ _ answered => answered) trivial
    intro id
    apply ensures_bind (findStrict_ensures within _ trivial)
    rintro used final ⟨rfl, holds⟩
    cases used with
    | error error => exact ⟨rfl, holds⟩
    | ok found =>
      cases found with
      | none => exact ⟨rfl, rfl, holds⟩
      | some other => exact ih

theorem createConnection_request (within : Within env) (consults : Consults accepts env) (request : AddRequest)
    {ownerUid : Option Nat} (owner : ownerUid = none ↔ request.global = true) {resolver : Resolver} {confText : String}
    {parsed : ConnectionConfig} (parses : parseConnectionConfig crates resolver confText = .ok parsed)
    (free : Found state (hasIdentity (fingerprint crates parsed) request.global ownerUid) (.ok none)) :
    @Ensures storeCommands _ _ env (InRequest crates (Admitted accepts request.authExternalForm) request.force)
      (createConnection request ownerUid confText parsed (fingerprint crates parsed)) (RefusalKeeps state) state := by
  apply ensures_orRefuse (checkName_ensures within trivial)
  · rintro response final ⟨rfl, _⟩
    exact .same _
  rintro final ⟨rfl, named⟩
  apply ensures_orRefuse (requireAdminAuth_admits within consults fun _ => trivial)
  · rintro response after ⟨rfl, _⟩
    exact .same _
  rintro after ⟨rfl, allowed⟩
  apply ensures_orRespond (allocateFrom_ensures within allocateAttempts)
  · rintro error final ⟨rfl, _⟩
    exact .same _
  rintro ⟨id, interface⟩ final ⟨rfl, derived, unused⟩
  apply ensures_quiet within (by exact fun _ _ answered => answered) trivial
  intro now
  apply save_request within _ rfl
  apply RecordWrite.created
  exact ⟨allowed rfl, ⟨resolver, parses⟩, rfl, owner, derived, rfl, free, unused, named rfl⟩

theorem handleAddConnection_request (within : Within env) (consults : Consults accepts env) (origin : PeerOrigin)
    (request : AddRequest) :
    @Ensures storeCommands _ _ env (InRequest crates (Admitted accepts request.authExternalForm) request.force)
      (handleAddConnection crates origin request) (RefusalKeeps state) state := by
  unfold handleAddConnection
  split
  · exact .same _
  · apply ensures_bind (ownerOf_ensures within origin request.global)
    rintro ownerUid final ⟨rfl, owner⟩
    apply ensures_quiet within (by exact fun _ _ answered => answered) trivial
    intro resolver
    split
    · exact .same _
    · rename_i parsed parses
      apply withIndexLock_request within
      apply ensures_orRespond (findStrict_ensures within _ trivial)
      · rintro error after ⟨rfl, _⟩
        exact .same _
      rintro found after ⟨rfl, holds⟩
      cases found with
      | some existing => exact reconcileExistingAdd_request within consults ⟨holds.1, rfl, holds.2.1⟩ request
      | none => exact createConnection_request within consults request owner parses holds

/-! ### Looking -/

/-- A call that changes nothing. -/
structure Looks (op : StoreOp) : Prop where
  write : ∀ stored, op ≠ .writeRecord stored
  remove : ∀ id, op ≠ .removeRecord id
  quiet : ∀ state reply after, storeEnvironment state op reply after → after = state

theorem Looks.ensures (within : Within env) {A : Type} {p : StoreProgram A} {post : A → Prop}
    (looks : @Issues storeCommands _ Looks p post) :
    @Ensures storeCommands _ _ env (InRequest crates admitted force) p (fun result final => final = state ∧ post result) state := by
  have kept := @Issues.keeps storeCommands _ _ _ _ _ env (fun s => s = state) state looks
    (fun s op reply after looks same answered => (looks.quiet _ _ _ (within _ _ _ _ answered)).trans same) rfl
  apply kept.relax
  rintro s op ⟨_, looks⟩
  cases op
  case writeRecord stored => exact absurd rfl (looks.write stored)
  case removeRecord id => exact absurd rfl (looks.remove id)
  all_goals trivial

theorem looks_readRecord : Looks (.readRecord id) := ⟨by simp, by simp, fun _ _ _ answered => answered.2⟩

theorem looks_readActive : Looks (.readActive id) := ⟨by simp, by simp, fun _ _ _ answered => answered.2⟩

theorem looks_tryExists (path : String) : Looks (.tryExists path) := by
  constructor
  · simp
  · simp
  · intro state reply after answered
    cases reply with
    | error error => exact answered
    | ok there => exact answered.2

theorem looks_listRecords : Looks .listRecords := by
  constructor
  · simp
  · simp
  · intro state reply after answered
    cases reply with
    | error error => exact answered
    | ok entries => exact answered.2

theorem isConnected_looks : @Issues storeCommands _ Looks (isConnected id) fun _ => True := by
  apply Issues.bind (isActive_issues looks_readActive looks_tryExists)
  intro active _
  trivial

theorem loadAll_looks : @Issues storeCommands _ Looks loadAll (Outcome NotAuth fun _ => True) := by
  apply issues_call looks_listRecords
  intro reply
  cases reply with
  | error error => exact notAuth_io error
  | ok entries => trivial

theorem summarizeAll_looks (connections : List StoredConnection) :
    @Issues storeCommands _ Looks (summarizeAll crates connections) fun _ => True := by
  induction connections with
  | nil => trivial
  | cons stored rest ih =>
    apply Issues.bind isConnected_looks
    intro connected _
    apply Issues.bind ih
    intro summaries _
    trivial

theorem handleListConnections_request (within : Within env) (origin : PeerOrigin) (scope : ConnectionScope) :
    @Ensures storeCommands _ _ env (InRequest crates admitted force) (handleListConnections crates origin scope)
      (RefusalKeeps state) state := by
  unfold handleListConnections
  split
  · exact .same _
  · apply ensures_orRespond (Looks.ensures within loadAll_looks)
    · rintro error final ⟨rfl, _⟩
      exact .same _
    rintro all final ⟨rfl, _⟩
    apply ensures_bind (Looks.ensures within (summarizeAll_looks _))
    rintro summaries after ⟨rfl, _⟩
    exact .same _

theorem handleGetConnection_request (within : Within env) (origin : PeerOrigin) :
    @Ensures storeCommands _ _ env (InRequest crates admitted force) (handleGetConnection crates origin id)
      (RefusalKeeps state) state := by
  apply ensures_withAuthorized within trivial (fun _ _ => .same _) (.same _) (.same _)
  intro stored _ _ _ _
  apply ensures_bind (Looks.ensures within isConnected_looks)
  rintro connected final ⟨rfl, _⟩
  exact .same _

theorem custodyVisible_looks (origin : PeerOrigin) (entry : DnsCustodyEntry) :
    @Issues storeCommands _ Looks (custodyVisible origin entry) fun _ => True := by
  unfold custodyVisible
  split
  · trivial
  · split
    · trivial
    · apply Issues.bind (load_issues looks_readRecord)
      intro found _
      split <;> trivial

theorem retainVisible_looks (origin : PeerOrigin) (entries : List DnsCustodyEntry) :
    @Issues storeCommands _ Looks (retainVisible origin entries) fun _ => True := by
  induction entries with
  | nil => trivial
  | cons entry rest ih =>
    apply Issues.bind (custodyVisible_looks origin entry)
    intro visible _
    apply Issues.bind ih
    intro kept _
    trivial

theorem handleListDnsCustody_request (within : Within env) (origin : PeerOrigin) :
    @Ensures storeCommands _ _ env (InRequest crates admitted force) (handleListDnsCustody origin) (RefusalKeeps state)
      state := by
  have looks : @Issues storeCommands _ Looks (handleListDnsCustody origin) fun _ => True := by
    apply issues_call ⟨by simp, by simp, by exact fun _ _ _ answered => answered⟩
    intro status
    apply Issues.bind (retainVisible_looks origin _)
    intro pending _
    apply Issues.bind (retainVisible_looks origin _)
    intro deferred _
    have restore : @Issues storeCommands _ Looks (retainRestore origin status.lastRestore) fun _ => True := by
      unfold retainRestore
      split
      · trivial
      · exact Issues.bind (custodyVisible_looks origin _) fun _ _ => trivial
    exact Issues.bind restore fun _ _ => trivial
  apply (Looks.ensures within looks).mono
  rintro response final ⟨rfl, _⟩
  exact .same _

theorem onInterface_looks (interface : String) (origin : PeerOrigin) {body : StoreProgram PrivilegedResponse}
    (looks : @Issues storeCommands _ Looks body fun _ => True) :
    @Issues storeCommands _ Looks (onInterface interface origin body) fun _ => True := by
  have finds : @Issues storeCommands _ Looks (findByInterface interface) fun _ => True := by
    apply Issues.bind loadAll_looks
    intro records _
    trivial
  have denied : @Issues storeCommands _ Looks (legacyInterfaceAccessDenied interface origin) fun _ => True := by
    apply Issues.bind finds
    intro found _
    split <;> trivial
  apply Issues.bind denied
  intro refused _
  split
  · trivial
  · exact looks

theorem handleWgShow_looks (interface : String) (origin : PeerOrigin) :
    @Issues storeCommands _ Looks (handleWgShow interface origin) fun _ => True := by
  apply onInterface_looks
  apply issues_call ⟨by simp, by simp, by exact fun _ _ _ answered => answered⟩
  intro device
  cases device <;> trivial

theorem handleNetworkOverview_looks (interface : String) (origin : PeerOrigin) :
    @Issues storeCommands _ Looks (handleNetworkOverview interface origin) fun _ => True := by
  apply onInterface_looks
  apply issues_call ⟨by simp, by simp, by exact fun _ _ _ answered => answered⟩
  intro overview
  cases overview <;> trivial

theorem handleInterfaceActive_looks (interface : String) (origin : PeerOrigin) :
    @Issues storeCommands _ Looks (handleInterfaceActive interface origin) fun _ => True := by
  apply onInterface_looks
  apply issues_call ⟨by simp, by simp, by exact fun _ _ _ answered => answered.2⟩
  intro active
  trivial

theorem pruneStoredLeases_looks (leases : List String) :
    @Issues storeCommands _ Looks (pruneStoredLeases leases) fun _ => True := by
  induction leases with
  | nil => trivial
  | cons token rest ih =>
    apply issues_call ⟨by simp, by simp, by exact fun _ _ _ answered => answered⟩
    intro live
    apply Issues.bind ih
    intro kept _
    trivial

theorem shutdownIfIdle_looks (control : ControlState) :
    @Issues storeCommands _ Looks (shutdownIfIdle control) fun outcome => ∃ response, outcome.1 = .immediate response := by
  unfold shutdownIfIdle
  split
  · apply Issues.bind (pruneStoredLeases_looks _)
    intro leases _
    exact ⟨_, rfl⟩
  · exact ⟨_, rfl⟩

/-! ### Dispatch -/

/-- What is left of a request once it has been dispatched. -/
def Dispatched (env : Environment storeCommands StoreState) (crates : Crates) (admitted : Prop) (force : Bool)
    (start : StoreState) (outcome : DispatchOutcome) (state : StoreState) : Prop :=
  @Ensures storeCommands _ _ env (InRequest crates admitted force) outcome.run (RefusalKeeps start) state

theorem immediately_request {control : ControlState} {p : StoreProgram PrivilegedResponse}
    (served : @Ensures storeCommands _ _ env (InRequest crates admitted force) p (RefusalKeeps state) state) :
    @Ensures storeCommands _ _ env (InRequest crates admitted force) (immediately control p)
      (fun outcome final => Dispatched env crates admitted force state outcome.1 final) state := by
  apply ensures_bind served
  intro response final kept
  exact kept

/-- A request that only looks, answered at once. -/
theorem immediately_looks (within : Within env) {control : ControlState} {p : StoreProgram PrivilegedResponse}
    (looks : @Issues storeCommands _ Looks p fun _ => True) :
    @Ensures storeCommands _ _ env (InRequest crates admitted force) (immediately control p)
      (fun outcome final => Dispatched env crates admitted force state outcome.1 final) state := by
  apply immediately_request
  apply (Looks.ensures within looks).mono
  rintro response final ⟨rfl, _⟩
  exact .same _

/-- The worker of a request that is let through. -/
theorem onWorker_request (within : Within env) {origin : PeerOrigin} {control : ControlState}
    {worker : StoreProgram PrivilegedResponse}
    (served : @Ensures storeCommands _ _ env (InRequest crates admitted force) worker (RefusalKeeps state) state) :
    @Ensures storeCommands _ _ env (InRequest crates admitted force) (onThread control (onWorker id origin worker))
      (fun outcome final => Dispatched env crates admitted force state outcome.1 final) state := by
  have dispatched : @Ensures storeCommands _ _ env (InRequest crates admitted force) (onWorker id origin worker)
      (fun outcome final => Dispatched env crates admitted force state outcome final) state := by
    apply ensures_bind (load_ensures within trivial)
    rintro found final ⟨rfl, _⟩
    cases found with
    | error error => exact .same _
    | ok found =>
      cases found with
      | none => exact .same _
      | some stored =>
        dsimp only
        split
        · exact .same _
        · exact served
  apply ensures_bind dispatched
  intro outcome final left
  exact left

/-- Every request writes, and removes, records in known ways only, and refusals change nothing. -/
theorem dispatch_request (within : Within env) (consults : Consults accepts env) (control : ControlState)
    (origin : PeerOrigin) (request : PrivilegedRequest) :
    @Ensures storeCommands _ _ env (InRequest crates (Admitted accepts request.authExternalForm) request.force)
      (dispatch crates control origin request)
      (fun outcome final => Dispatched env crates (Admitted accepts request.authExternalForm) request.force state outcome.1 final)
      state := by
  cases request with
  | leaseAcquire token =>
    apply ensures_bind (Looks.ensures within (pruneStoredLeases_looks _))
    rintro leases final ⟨rfl, _⟩
    exact .same _
  | leaseRelease token =>
    apply ensures_bind (Looks.ensures within (pruneStoredLeases_looks _))
    rintro leases final ⟨rfl, _⟩
    exact .same _
  | shutdownIfIdle =>
    apply (Looks.ensures within (shutdownIfIdle_looks control)).mono
    rintro ⟨outcome, control⟩ final ⟨rfl, response, rfl⟩
    exact .same _
  | interfaceActive interface => exact immediately_looks within (handleInterfaceActive_looks interface origin)
  | wgShow interface => exact immediately_looks within (handleWgShow_looks interface origin)
  | networkOverview interface => exact immediately_looks within (handleNetworkOverview_looks interface origin)
  | addConnection request => exact immediately_request (handleAddConnection_request within consults origin request)
  | refreshConnection id confText sourcePath form =>
    apply onWorker_request within
    apply withIndexLock_request within
    apply withConnectionLock_request within
    exact section_request within consults (.refresh confText sourcePath form)
  | removeConnection id form =>
    apply immediately_request
    apply withIndexLock_request within
    apply ensures_withAuthorized within trivial (fun _ _ => .same _) (.same _) (.same _)
    intro stored _ _ _ _
    apply withConnectionLock_request within
    exact section_request within consults (.remove form)
  | connectConnection id debug reason =>
    apply onWorker_request within
    apply withConnectionLock_request within
    exact section_request within consults (.connect debug reason)
  | disconnectConnection id reason =>
    apply onWorker_request within
    apply withConnectionLock_request within
    exact section_request within consults (.disconnect reason)
  | reconnectConnection id =>
    apply onWorker_request within
    apply withConnectionLock_request within
    exact section_request within consults .reconnect
  | setConnectionMode id startMode form =>
    apply immediately_request
    apply withConnectionLock_request within
    exact section_request within consults (.setMode origin startMode form)
  | setConnectionDnsDynamicStore id enabled =>
    apply immediately_request
    apply withConnectionLock_request within
    exact section_request within consults (.setDnsDynamicStore origin enabled)
  | setConnectionBypassLinks id links =>
    apply immediately_request
    apply withConnectionLock_request within
    exact section_request within consults (.setBypassLinks origin links)
  | listConnections scope => exact immediately_request (handleListConnections_request within origin scope)
  | getConnection id => exact immediately_request (handleGetConnection_request within origin)
  | listDnsCustody => exact immediately_request (handleListDnsCustody_request within origin)

theorem serveRequest_discipline (within : Within env) (consults : Consults accepts env) (control : ControlState)
    (origin : PeerOrigin) (request : PrivilegedRequest) :
    @Ensures storeCommands _ _ env (InRequest crates (Admitted accepts request.authExternalForm) request.force)
      (serveRequest crates control origin request) (fun served final => RefusalKeeps state served.1 final) state := by
  apply ensures_bind (dispatch_request within consults control origin request)
  intro outcome final dispatched
  apply ensures_bind dispatched
  intro response last kept
  exact kept

end Wgd.Store
