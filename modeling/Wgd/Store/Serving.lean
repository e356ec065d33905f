import Wgd.Interaction.Observed
import Wgd.Store.Requests

/-! What whole requests do to the records: a request about one connection what its section does, an
add what it finds or creates, and any other nothing. -/

set_option autoImplicit false

namespace Wgd.Store

open Wgd.Interaction Wgd.Net Wgd.Links Wgd.Config Wgd.Helper Wgd.Daemon

/-- A request about this connection. -/
def About (id : ConnectionId) : PrivilegedRequest → Prop
  | .refreshConnection other _ _ _ | .removeConnection other _ | .connectConnection other _ _ | .disconnectConnection other _
  | .reconnectConnection other | .setConnectionMode other _ _ | .setConnectionDnsDynamicStore other _
  | .setConnectionBypassLinks other _ | .getConnection other => other = id
  | _ => False

/-- A rule for the calls of a program, whatever it starts from. -/
def Heeds (permits : StoreState → StoreOp → Prop) {A : Type} (p : StoreProgram A) (post : A → Prop) : Prop :=
  ∀ state, @Ensures storeCommands _ _ storeEnvironment permits p (fun result _ => post result) state

section Heeding

variable {permits : StoreState → StoreOp → Prop} {crates : Crates} {origin : PeerOrigin} {id : ConnectionId}

theorem Heeds.bind {A B : Type} {p : StoreProgram A} {f : A → StoreProgram B} {mid : A → Prop} {post : B → Prop}
    (first : Heeds permits p mid) (rest : ∀ value, mid value → Heeds permits (f value) post) : Heeds permits (p >>= f) post := by
  intro state
  apply ensures_bind (first state)
  intro value after holds
  exact rest value holds after

theorem Heeds.done {A : Type} {result : A} {post : A → Prop} (holds : post result) : Heeds permits (.done result) post :=
  fun _ => holds

variable (lenient : ∀ state op, Looks op → permits state op)
include lenient

theorem Heeds.call {A : Type} {op : StoreOp} {f : op.Reply → StoreProgram A} {post : A → Prop} (looks : Looks op)
    (rest : ∀ reply, Heeds permits (f reply) post) : Heeds permits (storeCall op >>= f) post := by
  intro state
  apply ensures_call within_storeEnvironment (lenient state op looks)
  intro reply after _
  exact rest reply after

theorem Heeds.load {other : ConnectionId} : Heeds permits (Store.load other) fun _ => True := by
  intro state
  exact (load_ensures within_storeEnvironment (lenient _ _ looks_readRecord)).mono fun _ _ _ => trivial

theorem Heeds.looks {A : Type} {p : StoreProgram A} {post : A → Prop} (looks : @Issues storeCommands _ Looks p post) :
    Heeds permits p post := by
  intro state
  exact (Issues.ensures looks).relax fun _ _ looks => lenient _ _ looks

theorem Heeds.connectionLock {wait : LockWait} {body : StoreProgram PrivilegedResponse}
    (inside : Heeds permits body fun _ => True) : Heeds permits (withConnectionLock id wait body) fun _ => True := by
  apply Heeds.call lenient ⟨by simp, by simp, by exact fun _ _ _ answered => answered⟩
  intro locked
  cases locked with
  | error error => exact .done trivial
  | ok value =>
    apply inside.bind
    intro response _
    apply Heeds.call lenient ⟨by simp, by simp, by exact fun _ _ _ answered => answered⟩
    intro _
    exact .done trivial

theorem Heeds.indexLock {body : StoreProgram PrivilegedResponse} (inside : Heeds permits body fun _ => True) :
    Heeds permits (withIndexLock body) fun _ => True := by
  apply Heeds.call lenient ⟨by simp, by simp, by exact fun _ _ _ answered => answered⟩
  intro locked
  cases locked with
  | error error => exact .done trivial
  | ok value =>
    apply inside.bind
    intro response _
    apply Heeds.call lenient ⟨by simp, by simp, by exact fun _ _ _ answered => answered⟩
    intro _
    exact .done trivial

theorem Heeds.authorized {body : StoredConnection → StoreProgram PrivilegedResponse}
    (inside : ∀ stored, Heeds permits (body stored) fun _ => True) :
    Heeds permits (withAuthorized id origin body) fun _ => True := by
  apply (Heeds.load lenient).bind
  intro found _
  cases found with
  | error error => exact .done trivial
  | ok found =>
    cases found with
    | none => exact .done trivial
    | some stored =>
      dsimp only
      split
      · exact .done trivial
      · exact inside stored

/-- What is left of a request once it has been dispatched heeds the rule too. -/
def HeedsToEnd (permits : StoreState → StoreOp → Prop) (p : StoreProgram (DispatchOutcome × ControlState)) : Prop :=
  Heeds permits p fun outcome => Heeds permits outcome.1.run fun _ => True

omit lenient in
theorem HeedsToEnd.immediately {control : ControlState} {p : StoreProgram PrivilegedResponse}
    (inside : Heeds permits p fun _ => True) : HeedsToEnd permits (Store.immediately control p) := by
  apply inside.bind
  intro response _
  exact .done (.done trivial)

theorem HeedsToEnd.onThread {control : ControlState} {worker : StoreProgram PrivilegedResponse}
    (inside : Heeds permits worker fun _ => True) :
    HeedsToEnd permits (Store.onThread control (Store.onWorker id origin worker)) := by
  have started : Heeds permits (Store.onWorker id origin worker) fun outcome => Heeds permits outcome.run fun _ => True := by
    apply (Heeds.load lenient).bind
    intro found _
    cases found with
    | error error => exact .done (.done trivial)
    | ok found =>
      cases found with
      | none => exact .done (.done trivial)
      | some stored =>
        dsimp only
        split
        · exact .done (.done trivial)
        · exact .done inside
  apply started.bind
  intro outcome served
  exact .done served

/-- A request heeds the rules that its section heeds. -/
theorem dispatch_heeds {request : PrivilegedRequest} (noAdd : ∀ add, request ≠ .addConnection add)
    (sections : ∀ id (locked : LockedSection), About id request → Heeds permits (locked.program crates id) fun _ => True)
    (control : ControlState) : HeedsToEnd permits (dispatch crates control origin request) := by
  cases request with
  | addConnection add => exact absurd rfl (noAdd add)
  | leaseAcquire token =>
    apply (Heeds.looks lenient (pruneStoredLeases_looks _)).bind
    intro leases _
    exact .done (.done trivial)
  | leaseRelease token =>
    apply (Heeds.looks lenient (pruneStoredLeases_looks _)).bind
    intro leases _
    exact .done (.done trivial)
  | shutdownIfIdle =>
    intro state
    apply (Heeds.looks lenient (shutdownIfIdle_looks control) state).mono
    intro outcome final answered
    obtain ⟨response, answered⟩ := answered
    rw [answered]
    exact .done trivial
  | interfaceActive interface => exact .immediately (.looks lenient (handleInterfaceActive_looks interface origin))
  | wgShow interface => exact .immediately (.looks lenient (handleWgShow_looks interface origin))
  | networkOverview interface => exact .immediately (.looks lenient (handleNetworkOverview_looks interface origin))
  | refreshConnection id confText sourcePath form =>
    exact .onThread lenient (.indexLock lenient (.connectionLock lenient (sections id (.refresh confText sourcePath form) rfl)))
  | removeConnection id form =>
    exact .immediately (.indexLock lenient (.authorized lenient fun _ => .connectionLock lenient (sections id (.remove form) rfl)))
  | connectConnection id debug reason =>
    exact .onThread lenient (.connectionLock lenient (sections id (.connect debug reason) rfl))
  | disconnectConnection id reason =>
    exact .onThread lenient (.connectionLock lenient (sections id (.disconnect reason) rfl))
  | reconnectConnection id => exact .onThread lenient (.connectionLock lenient (sections id .reconnect rfl))
  | setConnectionMode id startMode form =>
    exact .immediately (.connectionLock lenient (sections id (.setMode origin startMode form) rfl))
  | setConnectionDnsDynamicStore id enabled =>
    exact .immediately (.connectionLock lenient (sections id (.setDnsDynamicStore origin enabled) rfl))
  | setConnectionBypassLinks id links =>
    exact .immediately (.connectionLock lenient (sections id (.setBypassLinks origin links) rfl))
  | listConnections scope =>
    apply HeedsToEnd.immediately
    unfold handleListConnections
    split
    · exact .done trivial
    · apply (Heeds.looks lenient loadAll_looks).bind
      intro found _
      cases found with
      | error error => exact .done trivial
      | ok all =>
        apply (Heeds.looks lenient (summarizeAll_looks _)).bind
        intro summaries _
        exact .done trivial
  | getConnection id =>
    apply HeedsToEnd.immediately
    apply Heeds.authorized lenient
    intro stored
    apply (Heeds.looks lenient isConnected_looks).bind
    intro connected _
    exact .done trivial
  | listDnsCustody =>
    apply HeedsToEnd.immediately
    apply Heeds.call lenient ⟨by simp, by simp, by exact fun _ _ _ answered => answered⟩
    intro status
    apply (Heeds.looks lenient (retainVisible_looks origin _)).bind
    intro pending _
    apply (Heeds.looks lenient (retainVisible_looks origin _)).bind
    intro deferred _
    have restore : Heeds permits (retainRestore origin status.lastRestore) fun _ => True := by
      unfold retainRestore
      split
      · exact .done trivial
      · apply (Heeds.looks lenient (custodyVisible_looks origin _)).bind
        intro visible _
        exact .done trivial
    apply restore.bind
    intro last _
    exact .done trivial

theorem serveRequest_heeds {request : PrivilegedRequest} (noAdd : ∀ add, request ≠ .addConnection add)
    (sections : ∀ id (locked : LockedSection), About id request → Heeds permits (locked.program crates id) fun _ => True)
    (control : ControlState) : Heeds permits (serveRequest crates control origin request) fun _ => True := by
  apply (dispatch_heeds lenient noAdd sections control).bind
  intro outcome served
  apply served.bind
  intro response _
  exact .done trivial

end Heeding

/-! ### Adding -/

/-- Fresh ids are drawn from these. -/
def Draws (drawn : ConnectionId → Prop) (_ : StoreState) (op : StoreOp) (reply : op.Reply) : Prop :=
  match op, reply with
  | .newConnectionId, id => drawn id
  | _, _ => True

abbrev drawing (drawn : ConnectionId → Prop) : Environment storeCommands StoreState :=
  @Environment.meeting storeCommands _ storeEnvironment (Draws drawn)

/-- A record that an add creates. -/
structure Fresh (drawn : ConnectionId → Prop) (request : AddRequest) (state : StoreState) (stored : StoredConnection) : Prop where
  absent : state.records stored.id = none
  drawn : drawn stored.id
  mtuOverride : stored.mtuOverride = request.mtuOverride
  dnsDynamicStore : stored.dnsDynamicStore = false
  bypassLinks : stored.bypassLinks = []

/-- An existing record as an add leaves it. -/
inductive Resubmitted (request : AddRequest) (state : StoreState) : StoredConnection → Prop where
  | intro {old : StoredConnection} (was : state.records old.id = some (.record old)) (now : Nat) :
      Resubmitted request state { (resubmission old request).apply old request with updatedAt := now }

/-- How an add ends: with the records as they are, or with one of them written. -/
inductive AddEnd (drawn : ConnectionId → Prop) (request : AddRequest) (state : StoreState) (response : PrivilegedResponse)
    (final : StoreState) : Prop where
  | same (records : final.records = state.records)
      (answered : ∀ id, response = .connectionId id → ∃ stored, state.records id = some (.record stored))
  | written {stored : StoredConnection} (write : Fresh drawn request state stored ∨ Resubmitted request state stored)
      (records : final.records = Function.update state.records stored.id (some (.record stored)))
      (answered : ∀ id, response = .connectionId id → id = stored.id)

/-- An answer that names no connection. -/
def Nameless (response : PrivilegedResponse) : Prop := ∀ id, response ≠ .connectionId id

theorem errorResponse_nameless (error : AppError) : Nameless (errorResponse error) := by
  intro id
  cases error <;> simp [errorResponse, authDenied]

theorem lockErrorResponse_nameless (error : IoError) : Nameless (lockErrorResponse error) := by
  unfold lockErrorResponse
  split
  · intro id same
    cases same
  · exact errorResponse_nameless _

/-- A check that turns a request down names no connection. -/
def Declines (outcome : Except PrivilegedResponse Unit) : Prop := ∀ response, outcome = .error response → Nameless response

theorem declines_ok : Declines (.ok ()) := by
  intro response same
  cases same

theorem declines_error {response : PrivilegedResponse} (nameless : Nameless response) : Declines (.error response) := by
  intro other same
  cases same
  exact nameless

theorem checkName_declines {name : Option String} {force global : Bool} {ownerUid : Option Nat} {own : Option ConnectionId} :
    @Issues storeCommands _ (fun _ => True) (checkName name force global ownerUid own) Declines := by
  cases name with
  | none => exact declines_ok
  | some name =>
    cases force with
    | true => exact declines_ok
    | false =>
      apply (Issues.any (findByName name global ownerUid)).bind
      intro found _
      cases found with
      | error error => exact declines_error (errorResponse_nameless error)
      | ok found =>
        cases found with
        | none => exact declines_ok
        | some existing =>
          dsimp only
          split
          · exact declines_ok
          · exact declines_error (by simp [Nameless, nameInUse])

theorem requireAdminAuth_declines {form : Option (List UInt8)} {cause : String} :
    @Issues storeCommands _ (fun _ => True) (requireAdminAuth form cause) Declines := by
  cases form with
  | none => exact declines_error (by simp [Nameless, authRequired])
  | some bytes =>
    apply issues_call trivial
    intro verdict
    cases verdict with
    | ok value => exact declines_ok
    | error error => cases error <;> exact declines_error (by simp [Nameless, authDenied])

theorem requireElevation_declines {stored : StoredConnection} {startMode : ConnectionStartMode} {form : Option (List UInt8)} :
    @Issues storeCommands _ (fun _ => True) (requireElevation stored startMode form) Declines := by
  unfold requireElevation
  split
  · exact requireAdminAuth_declines
  · exact declines_ok

section Adding

variable {env : Environment storeCommands StoreState} {drawn : ConnectionId → Prop} {request : AddRequest} {state : StoreState}
  {response : PrivilegedResponse} {crates : Crates} {origin : PeerOrigin} {id : ConnectionId}

theorem addEnd_nameless (nameless : Nameless response) : AddEnd drawn request state response state :=
  .same rfl fun id same => absurd same (nameless id)

/-- The environment an add is served in. -/
structure Adds (env : Environment storeCommands StoreState) (drawn : ConnectionId → Prop) : Prop where
  within : Within env
  draws : ∀ state reply after, env state .newConnectionId reply after → drawn reply

theorem adds_drawing (drawn : ConnectionId → Prop) : Adds (drawing drawn) drawn :=
  ⟨within_meeting _, fun _ _ _ answered => answered.1⟩

/-- The rule for a check that only looks. -/
theorem check_ends {p : StoreProgram (Except PrivilegedResponse Unit)} {rest : StoreProgram PrivilegedResponse}
    (looks : @Ensures storeCommands _ _ env (fun _ _ => True) p (fun _ after => after = state) state)
    (declines : @Issues storeCommands _ (fun _ => True) p Declines)
    (go : @Ensures storeCommands _ _ env (fun _ _ => True) rest (AddEnd drawn request state) state) :
    @Ensures storeCommands _ _ env (fun _ _ => True) (orRefuse p rest) (AddEnd drawn request state) state := by
  apply ensures_orRefuse (Ensures.and_issues looks declines)
  · intro response final checked
    obtain ⟨rfl, declines⟩ := checked
    exact addEnd_nameless (declines response rfl)
  · intro final checked
    obtain ⟨rfl, -⟩ := checked
    exact go

theorem save_ends (within : Within env) {stored : StoredConnection} (named : stored.id = id)
    (write : Fresh drawn request state stored ∨ Resubmitted request state stored) :
    @Ensures storeCommands _ _ env (fun _ _ => True) (answer (.connectionId id) (save stored)) (AddEnd drawn request state)
      state := by
  apply ensures_save within trivial
  · intro error _
    exact addEnd_nameless (errorResponse_nameless error)
  · intro error _
    exact .written write rfl fun id same => absurd same (errorResponse_nameless error id)
  · refine .written write rfl fun other same => ?_
    cases same
    exact named.symm

/-- A resubmission changes name, start mode, source path and the user's wish, nothing else. -/
theorem resubmission_keeps (change : Resubmission) (existing : StoredConnection) (request : AddRequest) :
    (change.apply existing request).id = existing.id ∧ (change.apply existing request).config = existing.config ∧
      (change.apply existing request).mtuOverride = existing.mtuOverride ∧
      (change.apply existing request).dnsDynamicStore = existing.dnsDynamicStore ∧
      (change.apply existing request).bypassLinks = existing.bypassLinks := by
  unfold Resubmission.apply StoredConnection.inMode
  dsimp only
  split_ifs <;> exact ⟨rfl, rfl, rfl, rfl, rfl⟩

theorem reconcileExistingAdd_ends (within : Within env) {existing : StoredConnection}
    (there : state.records existing.id = some (.record existing)) :
    @Ensures storeCommands _ _ env (fun _ _ => True) (reconcileExistingAdd existing request) (AddEnd drawn request state)
      state := by
  unfold reconcileExistingAdd
  dsimp only
  split
  · refine .same rfl fun id same => ?_
    cases same
    exact ⟨existing, there⟩
  · apply check_ends ((checkName_ensures within trivial).mono fun _ _ holds => holds.1) checkName_declines
    apply check_ends (requireElevation_ensures within fun _ => trivial) requireElevation_declines
    apply ensures_quiet within (by exact fun _ _ answered => answered) trivial
    intro locked
    cases locked with
    | error error => exact addEnd_nameless (lockErrorResponse_nameless error)
    | ok value =>
      have inside : @Ensures storeCommands _ _ env (fun _ _ => True)
          (storeCall .nowUnix >>= fun now =>
            answer (.connectionId existing.id)
              (save { (resubmission existing request).apply existing request with updatedAt := now }))
          (AddEnd drawn request state) state := by
        apply ensures_quiet within (by exact fun _ _ answered => answered) trivial
        intro now
        apply save_ends within (by exact (resubmission_keeps _ existing request).1)
        exact .inr (.intro there now)
      apply ensures_bind inside
      intro response final ends
      apply ensures_quiet within (by exact fun _ _ answered => answered) trivial
      intro _
      exact ends

/-- The id of a free interface is drawn, and is the id of no record. -/
theorem allocateFrom_ends (adds : Adds env drawn) (attempts : Nat) :
    @Ensures storeCommands _ _ env (fun _ _ => True) (allocateFrom attempts) (fun outcome final => final = state ∧
      ∀ allocated, outcome = .ok allocated → drawn allocated.1 ∧ state.records allocated.1 = none) state := by
  induction attempts with
  | zero =>
    refine ⟨rfl, fun allocated same => ?_⟩
    cases same
  | succ attempts ih =>
    refine Ensures.bind_iff.mpr ⟨trivial, fun id after answered => ?_⟩
    have chosen := adds.draws _ _ _ answered
    obtain rfl : after = state := adds.within _ _ _ _ answered
    apply Ensures.done_iff.mpr
    dsimp only
    apply ensures_bind (findStrict_ensures adds.within _ trivial)
    intro used final holds
    obtain ⟨rfl, holds⟩ := holds
    cases used with
    | error error =>
      refine ⟨rfl, fun allocated same => ?_⟩
      cases same
    | ok found =>
      cases found with
      | some other => exact ih
      | none =>
        refine ⟨rfl, fun allocated same => ?_⟩
        cases same
        refine ⟨chosen, ?_⟩
        -- A record of this id has its interface.
        cases held : final.records id with
        | none => rfl
        | some file =>
          obtain ⟨stored, -, -, named, other⟩ := holds id file held
          simp [named] at other

theorem createConnection_ends (adds : Adds env drawn) {ownerUid : Option Nat} {confText fingerprint : String}
    {parsed : ConnectionConfig} :
    @Ensures storeCommands _ _ env (fun _ _ => True) (createConnection request ownerUid confText parsed fingerprint)
      (AddEnd drawn request state) state := by
  apply check_ends ((checkName_ensures adds.within trivial).mono fun _ _ holds => holds.1) checkName_declines
  apply check_ends (requireAdminAuth_ensures adds.within fun _ => trivial) requireAdminAuth_declines
  apply ensures_orRespond (allocateFrom_ends adds allocateAttempts)
  · intro error final holds
    obtain ⟨rfl, -⟩ := holds
    exact addEnd_nameless (errorResponse_nameless error)
  intro allocated final holds
  obtain ⟨rfl, fresh⟩ := holds
  obtain ⟨chosen, free⟩ := fresh allocated rfl
  apply ensures_quiet adds.within (by exact fun _ _ answered => answered) trivial
  intro now
  apply save_ends adds.within rfl
  exact .inl ⟨free, chosen, rfl, rfl, rfl⟩

theorem addParsed_ends (adds : Adds env drawn) {ownerUid : Option Nat} {confText fingerprint : String}
    {parsed : ConnectionConfig} :
    @Ensures storeCommands _ _ env (fun _ _ => True) (addParsed request ownerUid confText parsed fingerprint)
      (AddEnd drawn request state) state := by
  apply ensures_orRespond (findStrict_ensures adds.within _ trivial)
  · intro error final holds
    obtain ⟨rfl, -⟩ := holds
    exact addEnd_nameless (errorResponse_nameless error)
  · intro found final holds
    obtain ⟨rfl, holds⟩ := holds
    cases found with
    | some existing => exact reconcileExistingAdd_ends adds.within holds.1
    | none => exact createConnection_ends adds

theorem ownerOf_quiet (within : Within env) (global : Bool) :
    @Ensures storeCommands _ _ env (fun _ _ => True) (ownerOf origin global) (fun _ final => final = state) state := by
  unfold ownerOf
  cases global with
  | true => exact rfl
  | false =>
    cases origin with
    | socket uid => exact rfl
    | stdio =>
      apply ensures_quiet within (by exact fun _ _ answered => answered) trivial
      intro uid
      exact rfl

theorem handleAddConnection_ends (adds : Adds env drawn) :
    @Ensures storeCommands _ _ env (fun _ _ => True) (handleAddConnection crates origin request) (AddEnd drawn request state)
      state := by
  unfold handleAddConnection
  split
  · exact addEnd_nameless (by simp [Nameless, authDenied])
  · apply ensures_bind (ownerOf_quiet adds.within request.global)
    intro ownerUid final unchanged
    subst unchanged
    apply ensures_quiet adds.within (by exact fun _ _ answered => answered) trivial
    intro resolver
    split
    · exact addEnd_nameless (errorResponse_nameless _)
    · apply ensures_quiet adds.within (by exact fun _ _ answered => answered) trivial
      intro locked
      cases locked with
      | error error => exact addEnd_nameless (lockErrorResponse_nameless error)
      | ok value =>
        apply ensures_bind (addParsed_ends adds)
        intro response last ends
        apply ensures_quiet adds.within (by exact fun _ _ answered => answered) trivial
        intro _
        exact ends

/-- An add writes one record at most: one that it found, or a fresh one. -/
theorem serveRequest_adds (adds : Adds env drawn) (control : ControlState) :
    @Ensures storeCommands _ _ env (fun _ _ => True) (serveRequest crates control origin (.addConnection request))
      (fun served final => AddEnd drawn request state served.1 final) state := by
  apply ensures_bind (ensures_bind (handleAddConnection_ends adds) _)
  · intro outcome final ends
    exact ends
  · intro response final ends
    exact ends

end Adding

end Wgd.Store
