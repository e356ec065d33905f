import Wgd.Store.Conduct

/-! What the store's accessors find and leave, one rule for each. -/

set_option autoImplicit false

namespace Wgd.Store

open Wgd.Interaction Wgd.Net Wgd.Links Wgd.Config Wgd.Helper

/-- Every answer is one the store may give. -/
def Within (env : Environment storeCommands StoreState) : Prop :=
  ∀ state op reply after, env state op reply after → storeEnvironment state op reply after

theorem within_storeEnvironment : Within storeEnvironment := fun _ _ _ _ answered => answered

theorem within_meeting (condition : StoreState → (op : StoreOp) → op.Reply → Prop) :
    Within (storeEnvironment.meeting condition) := fun _ _ _ _ answered => answered.2

/-- Only such forms are accepted. -/
def Consults (accepts : List UInt8 → Prop) (env : Environment storeCommands StoreState) : Prop :=
  ∀ state bytes after, env state (.verifyExternalForm bytes) (.ok ()) after → accepts bytes

theorem consults_any (env : Environment storeCommands StoreState) : Consults (fun _ => True) env := fun _ _ _ _ => trivial

/-- The request came with a form, and it was accepted. -/
def Admitted (accepts : List UInt8 → Prop) (form : Option (List UInt8)) : Prop := ∃ bytes, form = some bytes ∧ accepts bytes

section Rules

variable {S : Type} {env : Environment storeCommands S} {permits : S → StoreOp → Prop} {state : S}

/-- The rule for one program after another. -/
theorem ensures_bind {A B : Type} {p : StoreProgram A} {f : A → StoreProgram B} {mid : A → S → Prop}
    {post : B → S → Prop} (first : @Ensures storeCommands _ _ env permits p mid state)
    (rest : ∀ value after, mid value after → @Ensures storeCommands _ _ env permits (f value) post after) :
    @Ensures storeCommands _ _ env permits (p >>= f) post state :=
  Ensures.bind_iff.mpr (first.mono rest)

/-- The rule for one fallible program after another. -/
theorem ensures_attempt {A B : Type} {p : StoreProgram (Except AppError A)} {f : A → StoreProgram (Except AppError B)}
    {mid : Except AppError A → S → Prop} {post : Except AppError B → S → Prop}
    (first : @Ensures storeCommands _ _ env permits p mid state)
    (failed : ∀ error after, mid (.error error) after → post (.error error) after)
    (rest : ∀ value after, mid (.ok value) after → @Ensures storeCommands _ _ env permits (f value) post after) :
    @Ensures storeCommands _ _ env permits (p.attempt f) post state := by
  refine Ensures.attempt_iff.mpr (first.mono ?_)
  intro outcome after holds
  cases outcome with
  | error error => exact failed error after holds
  | ok value => exact rest value after holds

/-- The rule for a value or the answer to its error. -/
theorem ensures_orRespond {A : Type} {p : StoreProgram (Except AppError A)} {rest : A → StoreProgram PrivilegedResponse}
    {mid : Except AppError A → S → Prop} {post : PrivilegedResponse → S → Prop}
    (first : @Ensures storeCommands _ _ env permits p mid state)
    (failed : ∀ error after, mid (.error error) after → post (errorResponse error) after)
    (go : ∀ value after, mid (.ok value) after → @Ensures storeCommands _ _ env permits (rest value) post after) :
    @Ensures storeCommands _ _ env permits (orRespond p rest) post state := by
  apply ensures_bind first
  intro outcome after holds
  cases outcome with
  | error error => exact failed error after holds
  | ok value => exact go value after holds

/-- The rule for a check that may refuse. -/
theorem ensures_orRefuse {p : StoreProgram (Except PrivilegedResponse Unit)} {rest : StoreProgram PrivilegedResponse}
    {mid : Except PrivilegedResponse Unit → S → Prop} {post : PrivilegedResponse → S → Prop}
    (first : @Ensures storeCommands _ _ env permits p mid state)
    (refused : ∀ response after, mid (.error response) after → post response after)
    (go : ∀ after, mid (.ok ()) after → @Ensures storeCommands _ _ env permits rest post after) :
    @Ensures storeCommands _ _ env permits (orRefuse p rest) post state := by
  apply ensures_bind first
  intro outcome after holds
  cases outcome with
  | error response => exact refused response after holds
  | ok value => exact go after holds

end Rules

variable {env : Environment storeCommands StoreState} {permits : StoreState → StoreOp → Prop}
  {state after : StoreState} {id : ConnectionId} {crates : Crates}

/-- The rule for a call with a continuation. -/
theorem ensures_call {A : Type} (within : Within env) {op : StoreOp} {f : op.Reply → StoreProgram A}
    {post : A → StoreState → Prop} (permitted : permits state op)
    (rest : ∀ reply after, storeEnvironment state op reply after →
      @Ensures storeCommands _ _ env permits (f reply) post after) :
    @Ensures storeCommands _ _ env permits (storeCall op >>= f) post state :=
  Ensures.bind_iff.mpr ⟨permitted, fun reply after answered => rest reply after (within _ _ _ _ answered)⟩

/-- The rule for a call that leaves the state as it is. -/
theorem ensures_quiet {A : Type} (within : Within env) {op : StoreOp} {f : op.Reply → StoreProgram A}
    {post : A → StoreState → Prop} (quiet : ∀ reply after, storeEnvironment state op reply after → after = state)
    (permitted : permits state op) (rest : ∀ reply, @Ensures storeCommands _ _ env permits (f reply) post state) :
    @Ensures storeCommands _ _ env permits (storeCall op >>= f) post state := by
  apply ensures_call within permitted
  intro reply after answered
  rw [quiet reply after answered]
  exact rest reply

/-! ### Records -/

/-- What loading a record may find. -/
def Loaded (state : StoreState) (id : ConnectionId) : Except AppError (Option StoredConnection) → Prop
  | .ok none => state.records id = none
  | .ok (some stored) => state.records id = some (.record stored) ∧ stored.id = id ∧ stored.interface = id.interfaceName
  | .error error => NotAuth error

theorem load_ensures (within : Within env) (permitted : permits state (.readRecord id)) :
    @Ensures storeCommands _ _ env permits (load id) (fun found after => after = state ∧ Loaded state id found) state := by
  apply ensures_call within permitted
  rintro reply after ⟨read, rfl⟩
  cases reply with
  | ok file =>
    obtain ⟨contents, there, rfl⟩ := read
    refine ⟨rfl, ?_⟩
    cases outcome : contents.read id with
    | error error =>
      intro message same
      exact RecordFile.read_ne_auth (outcome.trans (congrArg Except.error same))
    | ok stored =>
      obtain ⟨rfl, named⟩ := RecordFile.read_ok_iff.mp outcome
      exact ⟨there, named⟩
  | error error =>
    dsimp only
    split
    · rename_i missing
      exact ⟨rfl, read missing⟩
    · exact ⟨rfl, notAuth_io error⟩

/-- What loading a record that has to be there may find. -/
def LoadedRequired (state : StoreState) (id : ConnectionId) : Except AppError StoredConnection → Prop
  | .ok stored => state.records id = some (.record stored) ∧ stored.id = id ∧ stored.interface = id.interfaceName
  | .error error => NotAuth error

theorem loadRequired_ensures (within : Within env) (permitted : permits state (.readRecord id)) :
    @Ensures storeCommands _ _ env permits (loadRequired id)
      (fun found after => after = state ∧ LoadedRequired state id found) state := by
  apply ensures_attempt (load_ensures within permitted)
  · intro error after holds
    exact holds
  · rintro found after ⟨rfl, holds⟩
    cases found with
    | none => exact ⟨rfl, notAuth_other _⟩
    | some stored => exact ⟨rfl, holds⟩

/-- The state with a record written. -/
def StoreState.withRecord (state : StoreState) (stored : StoredConnection) : StoreState :=
  { state with records := Function.update state.records stored.id (some (.record stored)) }

@[simp] theorem withRecord_active (stored : StoredConnection) : (state.withRecord stored).active = state.active := rfl

@[simp] theorem withRecord_same (stored : StoredConnection) :
    (state.withRecord stored).records stored.id = some (.record stored) := by
  simp [StoreState.withRecord]

@[simp] theorem withRecord_other {stored : StoredConnection} {other : ConnectionId} (different : other ≠ stored.id) :
    (state.withRecord stored).records other = state.records other := by
  simp [StoreState.withRecord, different]

/-- A failed save may have written the record all the same. -/
def Saved (state : StoreState) (stored : StoredConnection) (result : Except AppError Unit) (after : StoreState) : Prop :=
  match result with
  | .ok () => after = state.withRecord stored
  | .error error => NotAuth error ∧ (after = state ∨ after = state.withRecord stored)

theorem save_ensures (within : Within env) {stored : StoredConnection} (permitted : permits state (.writeRecord stored)) :
    @Ensures storeCommands _ _ env permits (save stored) (Saved state stored) state := by
  apply ensures_call within permitted
  rintro outcome after rfl
  cases outcome with
  | written => rfl
  | failed error => exact ⟨notAuth_io error, .inl rfl⟩
  | unsynced error => exact ⟨notAuth_io error, .inr rfl⟩

/-- Saving as the last thing a handler does. -/
theorem ensures_save (within : Within env) {stored : StoredConnection} {response : PrivilegedResponse}
    {post : PrivilegedResponse → StoreState → Prop} (permitted : permits state (.writeRecord stored))
    (failed : ∀ error, NotAuth error → post (errorResponse error) state)
    (unsynced : ∀ error, NotAuth error → post (errorResponse error) (state.withRecord stored))
    (saved : post response (state.withRecord stored)) :
    @Ensures storeCommands _ _ env permits (answer response (save stored)) post state := by
  apply ensures_orRespond (save_ensures within permitted)
  · rintro error after ⟨holds, rfl | rfl⟩
    · exact failed error holds
    · exact unsynced error holds
  · rintro value after rfl
    exact saved

/-- The rule for a setting of a record. -/
theorem ensures_setStored (within : Within env) {stored changed : StoredConnection}
    {post : PrivilegedResponse → StoreState → Prop} (clock : permits state .nowUnix)
    (permitted : ∀ now, permits state (.writeRecord { changed with updatedAt := now }))
    (unchanged : post .unit state)
    (failed : ∀ error, NotAuth error → post (errorResponse error) state)
    (written : ∀ response now, (response = .unit ∨ ∃ error, NotAuth error ∧ response = errorResponse error) →
      post response (state.withRecord { changed with updatedAt := now })) :
    @Ensures storeCommands _ _ env permits (setStored stored changed) post state := by
  unfold setStored
  split
  · exact unchanged
  · apply ensures_quiet within (by exact fun _ _ answered => answered) clock
    intro now
    apply ensures_save within (permitted now) failed
    · intro error holds
      exact written _ now (.inr ⟨error, holds, rfl⟩)
    · exact written _ now (.inl rfl)

/-- The state with a record removed. -/
def StoreState.withoutRecord (state : StoreState) (id : ConnectionId) : StoreState :=
  { state with records := Function.update state.records id none }

def RemovedRecord (state : StoreState) (id : ConnectionId) (result : Except AppError Unit) (after : StoreState) : Prop :=
  match result with
  | .ok () => after = state.withoutRecord id
  | .error error => NotAuth error ∧ after = state

theorem remove_ensures (within : Within env) (permitted : permits state (.removeRecord id)) :
    @Ensures storeCommands _ _ env permits (remove id) (RemovedRecord state id) state := by
  apply ensures_call within permitted
  rintro outcome after rfl
  cases outcome with
  | ok value => rfl
  | error error => exact ⟨notAuth_io error, rfl⟩

/-- The rule for a record that is loaded. -/
theorem ensures_withRecord (within : Within env) {body : StoredConnection → StoreProgram PrivilegedResponse}
    {post : PrivilegedResponse → StoreState → Prop} (permitted : permits state (.readRecord id))
    (failed : ∀ error, NotAuth error → post (errorResponse error) state) (missing : post notFound state)
    (go : ∀ stored, state.records id = some (.record stored) → stored.id = id → stored.interface = id.interfaceName →
      @Ensures storeCommands _ _ env permits (body stored) post state) :
    @Ensures storeCommands _ _ env permits (withRecord id body) post state := by
  apply ensures_orRespond (load_ensures within permitted)
  · rintro error after ⟨rfl, holds⟩
    exact failed error holds
  · rintro found after ⟨rfl, holds⟩
    cases found with
    | none => exact missing
    | some stored => exact go stored holds.1 holds.2.1 holds.2.2

/-- There is one way to deny access. -/
theorem authorizeAccess_denied {stored : StoredConnection} {origin : PeerOrigin} {response : PrivilegedResponse}
    (refused : authorizeAccess stored origin = some response) :
    response = authDenied "not authorized for this connection" := by
  simp only [authorizeAccess] at refused
  split_ifs at refused <;> exact (Option.some.inj refused).symm

theorem ensures_withAuthorized (within : Within env) {origin : PeerOrigin}
    {body : StoredConnection → StoreProgram PrivilegedResponse} {post : PrivilegedResponse → StoreState → Prop}
    (permitted : permits state (.readRecord id)) (failed : ∀ error, NotAuth error → post (errorResponse error) state)
    (missing : post notFound state)
    (denied : post (authDenied "not authorized for this connection") state)
    (go : ∀ stored, state.records id = some (.record stored) → stored.id = id → stored.interface = id.interfaceName →
      authorizeAccess stored origin = none → @Ensures storeCommands _ _ env permits (body stored) post state) :
    @Ensures storeCommands _ _ env permits (withAuthorized id origin body) post state := by
  apply ensures_withRecord within permitted failed missing
  intro stored there named interface
  cases refused : authorizeAccess stored origin with
  | none => exact go stored there named interface refused
  | some response =>
    rw [authorizeAccess_denied refused]
    exact denied

/-! ### Searching -/

/-- A listed record is the record on disk. -/
theorem Listed.read_ok {entries : List ListedEntry} (listed : Listed state.records entries) {entry : ListedEntry}
    (member : entry ∈ entries) {stored : StoredConnection} (read : entry.read = .ok stored) :
    entry.id = some stored.id ∧ state.records stored.id = some (.record stored) ∧
      stored.interface = stored.id.interfaceName := by
  unfold ListedEntry.read at read
  split at read
  · cases read
  · rename_i id named
    split at read
    · cases read
    · rename_i file contents
      obtain ⟨rfl, rfl, interface⟩ := RecordFile.read_ok_iff.mp read
      exact ⟨named, listed.contents entry member _ _ named contents, interface⟩

theorem strictEntry_ok {entry : ListedEntry} {stored : StoredConnection} (read : strictEntry entry = .ok stored) :
    entry.read = .ok stored := by
  unfold strictEntry at read
  split at read
  · rename_i same
    exact same.trans read
  · cases read

theorem strictEntries_cons {entry : ListedEntry} {rest : List ListedEntry} {records : List StoredConnection}
    (read : strictEntries (entry :: rest) = .ok records) :
    ∃ stored stores, entry.read = .ok stored ∧ strictEntries rest = .ok stores ∧ records = stored :: stores := by
  unfold strictEntries at read
  rw [List.mapM_cons] at read
  cases first : strictEntry entry with
  | error error => simp [first, bind, Except.bind] at read
  | ok stored =>
    cases others : rest.mapM strictEntry with
    | error error => simp [first, others, bind, Except.bind] at read
    | ok stores =>
      simp only [first, others, bind, Except.bind, pure, Except.pure, Except.ok.injEq] at read
      exact ⟨stored, stores, strictEntry_ok first, others, read.symm⟩

/-- The records of a strict listing are those of its entries. -/
theorem strictEntries_ok {entries : List ListedEntry} {records : List StoredConnection}
    (read : strictEntries entries = .ok records) :
    (∀ stored ∈ records, ∃ entry ∈ entries, entry.read = .ok stored) ∧
      ∀ entry ∈ entries, ∃ stored ∈ records, entry.read = .ok stored := by
  induction entries generalizing records with
  | nil =>
    cases read
    simp
  | cons entry rest ih =>
    obtain ⟨stored, stores, first, others, rfl⟩ := strictEntries_cons read
    obtain ⟨back, forth⟩ := ih others
    constructor
    · intro other member
      rcases List.mem_cons.mp member with rfl | member
      · exact ⟨entry, List.mem_cons_self, first⟩
      · obtain ⟨found, member, same⟩ := back other member
        exact ⟨found, List.mem_cons_of_mem _ member, same⟩
    · intro other member
      rcases List.mem_cons.mp member with rfl | member
      · exact ⟨stored, List.mem_cons_self, first⟩
      · obtain ⟨found, member, same⟩ := forth other member
        exact ⟨found, List.mem_cons_of_mem _ member, same⟩

theorem strictEntries_error {entries : List ListedEntry} {error : AppError} (read : strictEntries entries = .error error) :
    NotAuth error := by
  unfold strictEntries at read
  induction entries with
  | nil => cases read
  | cons entry rest ih =>
    rw [List.mapM_cons] at read
    cases first : strictEntry entry with
    | error failed =>
      simp only [first, bind, Except.bind, Except.error.injEq] at read
      subst read
      unfold strictEntry at first
      split at first
      · cases first
      · cases first
        exact notAuth_other _
    | ok stored =>
      cases others : rest.mapM strictEntry with
      | error failed =>
        simp only [first, others, bind, Except.bind, Except.error.injEq] at read
        exact ih (others.trans (congrArg Except.error read))
      | ok stores => simp [first, others, bind, Except.bind, pure, Except.pure] at read

/-- What a search of all records may find. -/
def Found (state : StoreState) (wanted : StoredConnection → Bool) : Except AppError (Option StoredConnection) → Prop
  | .ok none => ∀ id file, state.records id = some file → ∃ stored, file = .record stored ∧ stored.id = id ∧
      stored.interface = id.interfaceName ∧ wanted stored = false
  | .ok (some stored) => state.records stored.id = some (.record stored) ∧ stored.interface = stored.id.interfaceName ∧
      wanted stored = true
  | .error error => NotAuth error

theorem Listed.found {entries : List ListedEntry} (listed : Listed state.records entries)
    (wanted : StoredConnection → Bool) : Found state wanted ((strictEntries entries).map (List.find? wanted)) := by
  cases read : strictEntries entries with
  | error error => exact strictEntries_error read
  | ok records =>
    obtain ⟨back, forth⟩ := strictEntries_ok read
    cases found : records.find? wanted with
    | some stored =>
      obtain ⟨entry, member, same⟩ := back stored (List.mem_of_find?_eq_some found)
      obtain ⟨_, there, interface⟩ := listed.read_ok member same
      simp only [Except.map, found]
      exact ⟨there, interface, List.find?_some found⟩
    | none =>
      simp only [Except.map, found]
      intro id file there
      obtain ⟨entry, member, named⟩ := listed.all id (by simp [there])
      obtain ⟨stored, among, same⟩ := forth entry member
      obtain ⟨named', there', interface⟩ := listed.read_ok member same
      obtain rfl : stored.id = id := Option.some.inj (named'.symm.trans named)
      refine ⟨stored, Option.some.inj (there.symm.trans there'), rfl, interface, ?_⟩
      simpa using List.find?_eq_none.mp found stored among

theorem findStrict_ensures (within : Within env) (wanted : StoredConnection → Bool)
    (permitted : permits state .listRecords) :
    @Ensures storeCommands _ _ env permits (findStrict wanted) (fun found after => after = state ∧ Found state wanted found)
      state := by
  unfold findStrict loadAllStrict
  rw [Ensures.bind_iff]
  apply ensures_call within permitted
  intro reply after answered
  cases reply with
  | error error =>
    cases answered
    exact ⟨rfl, notAuth_io error⟩
  | ok entries =>
    obtain ⟨listed, rfl⟩ := answered
    exact ⟨rfl, listed.found wanted⟩

/-! ### Checks -/

/-- No record but one's own was found in a search of all of them. -/
def Cleared (state : StoreState) (wanted : StoredConnection → Bool) (own : Option ConnectionId) : Prop :=
  ∃ found, Found state wanted (.ok found) ∧ ∀ other, found = some other → own = some other.id

theorem checkIdentityFree_ensures (within : Within env) {stored : StoredConnection} {fingerprint : String}
    (permitted : permits state .listRecords) :
    @Ensures storeCommands _ _ env permits (checkIdentityFree stored fingerprint) (fun outcome after => after = state ∧
      (outcome = .ok () → Cleared state (hasIdentity fingerprint stored.global stored.ownerUid) (some stored.id))) state := by
  apply ensures_bind (findStrict_ensures within _ permitted)
  rintro outcome after ⟨rfl, holds⟩
  cases outcome with
  | error error => exact ⟨rfl, by simp⟩
  | ok found =>
    cases found with
    | none => exact ⟨rfl, fun _ => ⟨none, holds, by simp⟩⟩
    | some other =>
      dsimp only
      split
      · rename_i same
        exact ⟨rfl, fun _ => ⟨some other, holds, by simp [same]⟩⟩
      · exact ⟨rfl, by simp⟩

theorem checkNameFree_ensures (within : Within env) {name : String} {global : Bool} {ownerUid : Option Nat}
    {own : Option ConnectionId} (permitted : permits state .listRecords) :
    @Ensures storeCommands _ _ env permits (checkNameFree name global ownerUid own) (fun outcome after => after = state ∧
      (outcome = .ok () → Cleared state (hasName name global ownerUid) own)) state := by
  apply ensures_bind (findStrict_ensures within _ permitted)
  rintro outcome after ⟨rfl, holds⟩
  cases outcome with
  | error error => exact ⟨rfl, by simp⟩
  | ok found =>
    cases found with
    | none => exact ⟨rfl, fun _ => ⟨none, holds, by simp⟩⟩
    | some existing =>
      dsimp only
      split
      · rename_i same
        exact ⟨rfl, fun _ => ⟨some existing, holds, by simp [same]⟩⟩
      · exact ⟨rfl, by simp⟩

theorem checkName_ensures (within : Within env) {name : Option String} {force global : Bool} {ownerUid : Option Nat}
    {own : Option ConnectionId} (permitted : permits state .listRecords) :
    @Ensures storeCommands _ _ env permits (checkName name force global ownerUid own) (fun outcome after => after = state ∧
      (outcome = .ok () → force = false → ∀ wanted, name = some wanted → Cleared state (hasName wanted global ownerUid) own))
      state := by
  cases name with
  | none => exact ⟨rfl, by simp⟩
  | some name =>
    cases force with
    | true => exact ⟨rfl, by simp⟩
    | false =>
      apply (checkNameFree_ensures within permitted).mono
      rintro outcome after ⟨same, cleared⟩
      refine ⟨same, fun passed _ wanted named => ?_⟩
      cases named
      exact cleared passed

theorem requireAdminAuth_admits (within : Within env) {accepts : List UInt8 → Prop} (consults : Consults accepts env)
    {form : Option (List UInt8)} {cause : String} (permitted : ∀ bytes, permits state (.verifyExternalForm bytes)) :
    @Ensures storeCommands _ _ env permits (requireAdminAuth form cause)
      (fun outcome after => after = state ∧ (outcome = .ok () → Admitted accepts form)) state := by
  cases form with
  | none => exact ⟨rfl, by simp⟩
  | some bytes =>
    refine Ensures.bind_iff.mpr ⟨permitted bytes, fun verdict after answered => ?_⟩
    obtain rfl : after = state := within _ _ _ _ answered
    cases verdict with
    | ok value => exact ⟨rfl, fun _ => ⟨bytes, rfl, consults _ _ _ answered⟩⟩
    | error error => cases error <;> exact ⟨rfl, by simp⟩

theorem requireAdminAuth_ensures (within : Within env) {form : Option (List UInt8)} {cause : String}
    (permitted : ∀ bytes, permits state (.verifyExternalForm bytes)) :
    @Ensures storeCommands _ _ env permits (requireAdminAuth form cause) (fun _ after => after = state) state :=
  (requireAdminAuth_admits within (consults_any env) permitted).mono fun _ _ holds => holds.1

/-- A change to automatic start of a global connection needs the form. -/
theorem requireElevation_admits (within : Within env) {accepts : List UInt8 → Prop} (consults : Consults accepts env)
    {stored : StoredConnection} {startMode : ConnectionStartMode} {form : Option (List UInt8)}
    (permitted : ∀ bytes, permits state (.verifyExternalForm bytes)) :
    @Ensures storeCommands _ _ env permits (requireElevation stored startMode form) (fun outcome after => after = state ∧
      (outcome = .ok () → elevates stored startMode = true → Admitted accepts form)) state := by
  unfold requireElevation
  split
  · exact (requireAdminAuth_admits within consults permitted).mono fun _ _ holds => ⟨holds.1, fun passed _ => holds.2 passed⟩
  · rename_i plain
    exact ⟨rfl, fun _ elevated => absurd elevated plain⟩

theorem requireElevation_ensures (within : Within env) {stored : StoredConnection} {startMode : ConnectionStartMode}
    {form : Option (List UInt8)} (permitted : ∀ bytes, permits state (.verifyExternalForm bytes)) :
    @Ensures storeCommands _ _ env permits (requireElevation stored startMode form) (fun _ after => after = state) state :=
  (requireElevation_admits within (consults_any env) permitted).mono fun _ _ holds => holds.1

/-! ### Markers -/

/-- What reading a marker may find. -/
def LoadedActive (state : StoreState) (id : ConnectionId) : Except AppError (Option ActiveConnectionState) → Prop
  | .ok none => state.active id = none
  | .ok (some marker) => state.active id = some (.marker marker)
  | .error error => NotAuth error

theorem loadActive_ensures (within : Within env) (permitted : permits state (.readActive id)) :
    @Ensures storeCommands _ _ env permits (loadActive id) (fun found after => after = state ∧ LoadedActive state id found)
      state := by
  apply ensures_call within permitted
  rintro reply after ⟨read, rfl⟩
  cases reply with
  | ok file =>
    obtain ⟨contents, there, rfl⟩ := read
    cases contents with
    | marker marker => exact ⟨rfl, there⟩
    | malformed message => exact ⟨rfl, notAuth_json message⟩
  | error error =>
    dsimp only
    split
    · rename_i missing
      exact ⟨rfl, read missing⟩
    · exact ⟨rfl, notAuth_io error⟩

/-- The state with a marker removed. -/
def StoreState.withoutActive (state : StoreState) (id : ConnectionId) : StoreState :=
  { state with active := Function.update state.active id none }

theorem clearActive_ensures (within : Within env) (permitted : permits state (.removeActive id)) :
    @Ensures storeCommands _ _ env permits (clearActive id)
      (fun result after => match result with
        | .ok () => after = state.withoutActive id
        | .error error => NotAuth error ∧ after = state) state := by
  apply ensures_call within permitted
  rintro outcome after rfl
  cases outcome with
  | ok value => rfl
  | error error => exact ⟨notAuth_io error, rfl⟩

/-- What asking for the debug flag of a running helper may find; a failed `stat`
of the socket counts as no socket. -/
def FoundDebug (state : StoreState) (id : ConnectionId) : Except AppError (Option Bool) → Prop
  | .ok none => True
  | .ok (some debug) => ∃ marker, state.active id = some (.marker marker) ∧ marker.debug = debug ∧
      (state.runtime marker.socket).isSome = true
  | .error error => NotAuth error

theorem activeDebug_ensures (within : Within env) (permitted : permits state (.readActive id))
    (stats : ∀ path, permits state (.tryExists path)) :
    @Ensures storeCommands _ _ env permits (activeDebug id) (fun found after => after = state ∧ FoundDebug state id found)
      state := by
  apply ensures_bind (loadActive_ensures within permitted)
  rintro loaded after ⟨rfl, holds⟩
  cases loaded with
  | error error => exact ⟨rfl, holds⟩
  | ok active =>
    cases active with
    | none => exact ⟨rfl, trivial⟩
    | some marker =>
      apply ensures_call within (stats _)
      intro there final answered
      cases there with
      | error error =>
        cases answered
        exact ⟨rfl, trivial⟩
      | ok there =>
        obtain ⟨rfl, rfl⟩ := answered
        cases there : (final.runtime marker.socket).isSome with
        | true => exact ⟨rfl, marker, holds, rfl, there⟩
        | false => exact ⟨rfl, trivial⟩

end Wgd.Store
