import Wgd.Store.Sections

/-! Every section keeps the discipline: what it calls, and what a refusal leaves alone. -/

set_option autoImplicit false

namespace Wgd.Store

open Wgd.Interaction Wgd.Net Wgd.Links Wgd.Config Wgd.Helper

variable {env : Environment storeCommands StoreState} {state after : StoreState} {id : ConnectionId} {crates : Crates}
  {admitted : Prop} {accepts : List UInt8 → Prop}

/-- A search depends on the records alone. -/
theorem Found.congr {wanted : StoredConnection → Bool} {found : Except AppError (Option StoredConnection)}
    (same : after.records = state.records) (holds : Found state wanted found) : Found after wanted found := by
  cases found with
  | error error => exact holds
  | ok found =>
    cases found with
    | none =>
      intro id file there
      exact holds id file (same ▸ there)
    | some stored => exact ⟨same ▸ holds.1, holds.2⟩

theorem Cleared.congr {wanted : StoredConnection → Bool} {own : Option ConnectionId} (same : after.records = state.records)
    (cleared : Cleared state wanted own) : Cleared after wanted own := by
  obtain ⟨found, holds, only⟩ := cleared
  exact ⟨found, holds.congr same, only⟩

/-- A record of this connection, as a section finds it. -/
structure OwnRecord (state : StoreState) (id : ConnectionId) (stored : StoredConnection) : Prop where
  there : state.records id = some (.record stored)
  named : stored.id = id
  interface : stored.interface = id.interfaceName

/-- Writing a change of the record as the last thing. -/
theorem ensures_change (within : Within env) {start : StoreState} {old stored : StoredConnection} {response : PrivilegedResponse}
    (own : OwnRecord state id old) (change : RecordChange crates admitted false state old stored)
    (granted : response.refuses = false) (before : start = state) :
    @Ensures storeCommands _ _ env (InSection crates admitted id) (answer response (save stored)) (RefusalKeeps start) state := by
  apply ensures_save within ⟨old, own.there, own.named, own.interface, change⟩
  · intro error holds
    rw [before]
    exact .same _
  · intro error holds
    exact .of_granted (errorResponse_granted holds) _
  · exact .of_granted granted _

theorem resolveConnectIntent_section (within : Within env) (reason : ConnectReason) :
    @Ensures storeCommands _ _ env (InSection crates admitted id) (resolveConnectIntent id reason)
      (fun outcome _ => Outcome NotAuth (fun _ => True) outcome) state := by
  apply ensures_attempt (load_ensures within rfl)
  · intro error final holds
    exact holds.2
  · rintro found final ⟨rfl, holds⟩
    cases found with
    | none => trivial
    | some stored =>
      cases reason with
      | reconciliation => trivial
      | user =>
        dsimp only
        split
        · apply ensures_attempt (save_ensures within ⟨stored, holds.1, holds.2.1, holds.2.2, .wish false⟩)
          · intro error after saved
            exact saved.1
          · intro value after _
            trivial
        · trivial

theorem connectLocked_section (within : Within env) (debug : Bool) (reason : ConnectReason) :
    @Ensures storeCommands _ _ env (InSection crates admitted id) (connectLocked crates id debug reason) (RefusalKeeps state)
      state := by
  apply ensures_orRespond (resolveConnectIntent_section within reason)
  · intro error final holds
    exact .of_granted (errorResponse_granted holds) final
  · intro proceeds final _
    cases proceeds with
    | false => exact .of_granted rfl final
    | true => exact Tunnels.answer within (connect_tunnels debug) rfl

theorem markUserDisconnected_section (within : Within env) (reason : DisconnectReason) :
    @Ensures storeCommands _ _ env (InSection crates admitted id) (markUserDisconnected id reason)
      (fun outcome _ => Outcome NotAuth (fun _ => True) outcome) state := by
  cases reason with
  | sessionTeardown => trivial
  | user =>
    apply ensures_attempt (load_ensures within rfl)
    · intro error final holds
      exact holds.2
    · rintro found final ⟨rfl, holds⟩
      cases found with
      | none => trivial
      | some stored =>
        dsimp only
        split
        · trivial
        · apply (save_ensures within ⟨stored, holds.1, holds.2.1, holds.2.2, .wish true⟩).mono
          intro outcome after saved
          cases outcome with
          | ok value => trivial
          | error error => exact saved.1

theorem disconnectLocked_section (within : Within env) (reason : DisconnectReason) :
    @Ensures storeCommands _ _ env (InSection crates admitted id) (disconnectLocked crates id reason) (RefusalKeeps state)
      state := by
  apply ensures_orRespond (markUserDisconnected_section within reason)
  · intro error final holds
    exact .of_granted (errorResponse_granted holds) final
  · intro value final _
    exact Tunnels.answer within disconnect_teardown.tunnels rfl

theorem activeDebug_section (within : Within env) :
    @Ensures storeCommands _ _ env (InSection crates admitted id) (activeDebug id)
      (fun found final => final = state ∧ Outcome NotAuth (fun _ => True) found) state := by
  apply (activeDebug_ensures within rfl fun _ => trivial).mono
  rintro found final ⟨rfl, holds⟩
  cases found with
  | error error => exact ⟨rfl, holds⟩
  | ok active => exact ⟨rfl, trivial⟩

/-- A refusal is not how a failed disconnect is answered. -/
def Granted (outcome : Except PrivilegedResponse Unit) : Prop := ∀ response, outcome = .error response → response.refuses = false

theorem disconnectForReconnect_section (within : Within env) :
    @Ensures storeCommands _ _ env (InSection crates admitted id) (disconnectForReconnect crates id)
      (fun outcome final => Granted outcome ∧ final.records = state.records) state := by
  apply ensures_bind (Tunnels.ensures within (@disconnect_teardown id crates).tunnels)
  rintro outcome final ⟨same, _⟩
  cases outcome with
  | ok value => exact ⟨by simp [Granted], same⟩
  | error error => exact ⟨by simp [Granted, PrivilegedResponse.refuses], same⟩

theorem disconnectForRefresh_section (within : Within env) (active : Option Bool) :
    @Ensures storeCommands _ _ env (InSection crates admitted id) (disconnectForRefresh crates id active)
      (fun outcome final => Granted outcome ∧ final.records = state.records) state := by
  cases active with
  | none => exact ⟨by simp [Granted], rfl⟩
  | some debug =>
    apply ensures_bind (Tunnels.ensures within (@disconnect_teardown id crates).tunnels)
    rintro outcome final ⟨same, _⟩
    cases outcome with
    | ok value => exact ⟨by simp [Granted], same⟩
    | error error => exact ⟨by simp [Granted, PrivilegedResponse.refuses], same⟩

theorem connectAfterDisconnect_section (within : Within env) {start : StoreState} (debug : Bool) :
    @Ensures storeCommands _ _ env (InSection crates admitted id) (connectAfterDisconnect crates id debug) (RefusalKeeps start)
      state := by
  apply ensures_bind (Tunnels.ensures within (connect_tunnels debug))
  intro outcome final _
  cases outcome with
  | ok value => exact .of_granted rfl final
  | error error => exact .of_granted rfl final

theorem reconnectAfterRefresh_section (within : Within env) {start : StoreState} (active : Option Bool)
    (linksRemoved : List String) :
    @Ensures storeCommands _ _ env (InSection crates admitted id) (reconnectAfterRefresh crates id active linksRemoved)
      (RefusalKeeps start) state := by
  cases active with
  | none => exact .of_granted rfl state
  | some debug =>
    apply ensures_bind (Tunnels.ensures within (connect_tunnels debug))
    intro outcome final _
    cases outcome with
    | ok value => exact .of_granted rfl final
    | error error => exact .of_granted rfl final

theorem reconnectConnection_section (within : Within env) :
    @Ensures storeCommands _ _ env (InSection crates admitted id) (reconnectConnection crates id) (RefusalKeeps state)
      state := by
  apply ensures_orRespond (activeDebug_section within)
  · rintro error final ⟨rfl, holds⟩
    exact .same _
  · rintro active final ⟨rfl, _⟩
    cases active with
    | none => exact .same _
    | some debug =>
      apply ensures_orRefuse (disconnectForReconnect_section within)
      · intro response after holds
        exact .of_granted (holds.1 response rfl) after
      · intro after _
        exact connectAfterDisconnect_section within debug

theorem refreshUnchanged_section (within : Within env) {stored : StoredConnection} (own : OwnRecord state id stored)
    (sourcePath : Option String) :
    @Ensures storeCommands _ _ env (InSection crates admitted id) (refreshUnchanged stored sourcePath) (RefusalKeeps state)
      state := by
  apply ensures_quiet within (by exact fun _ _ answered => answered) trivial
  intro _
  split
  · apply ensures_quiet within (by exact fun _ _ answered => answered) trivial
    intro now
    exact ensures_change within own (.source sourcePath now) rfl rfl
  · exact .same _

theorem replaceConfiguration_section (within : Within env) (consults : Consults accepts env) {stored : StoredConnection}
    (own : OwnRecord state id stored) {resolver : Resolver} {confText : String} {parsed : ConnectionConfig}
    (parses : parseConnectionConfig crates resolver confText = .ok parsed) (sourcePath : Option String)
    (form : Option (List UInt8)) :
    @Ensures storeCommands _ _ env (InSection crates (Admitted accepts form) id)
      (replaceConfiguration crates stored (fingerprint crates parsed) parsed confText sourcePath form) (RefusalKeeps state)
      state := by
  apply ensures_orRefuse (checkIdentityFree_ensures within trivial)
  · rintro response final ⟨rfl, _⟩
    exact .same _
  rintro final ⟨rfl, free⟩
  apply ensures_orRefuse (requireAdminAuth_admits within consults fun _ => trivial)
  · rintro response after ⟨rfl, _⟩
    exact .same _
  rintro after ⟨rfl, passed⟩
  rw [own.named]
  apply ensures_orRespond (activeDebug_section within)
  · rintro error final ⟨rfl, _⟩
    exact .same _
  rintro active final ⟨rfl, _⟩
  apply ensures_orRefuse (disconnectForRefresh_section within active)
  · intro response after holds
    exact .of_granted (holds.1 response rfl) after
  rintro after ⟨_, same⟩
  apply ensures_quiet within (by exact fun _ _ answered => answered) trivial
  intro now
  have change : RecordChange crates (Admitted accepts form) false after stored
      { (stored.refreshed (fingerprint crates parsed) parsed confText sourcePath).1 with updatedAt := now } :=
    .config parses ((free rfl).congr same) (passed rfl) sourcePath now
  -- Taking the tunnel down has left the record where it was.
  have there : after.records id = some (.record stored) := (congrFun same id).trans own.there
  apply ensures_orRespond (save_ensures within ⟨stored, there, own.named, own.interface, change⟩)
  · intro error last saved
    exact .of_granted (errorResponse_granted saved.1) last
  · intro value last _
    apply ensures_quiet within (by exact fun _ _ answered => answered) trivial
    intro _
    exact reconnectAfterRefresh_section within active _

theorem refreshLocked_section (within : Within env) (consults : Consults accepts env) (confText : String)
    (sourcePath : Option String) (form : Option (List UInt8)) :
    @Ensures storeCommands _ _ env (InSection crates (Admitted accepts form) id)
      (refreshLocked crates id confText sourcePath form) (RefusalKeeps state) state := by
  apply ensures_withRecord within rfl (fun _ _ => .same _) (.same _)
  intro stored there named interface
  apply ensures_quiet within (by exact fun _ _ answered => answered) trivial
  intro resolver
  split
  · exact .same _
  · rename_i parsed parses
    split
    · exact refreshUnchanged_section within ⟨there, named, interface⟩ sourcePath
    · exact replaceConfiguration_section within consults ⟨there, named, interface⟩ parses sourcePath form

theorem setModeLocked_section (within : Within env) (consults : Consults accepts env) (origin : PeerOrigin)
    (startMode : ConnectionStartMode) (form : Option (List UInt8)) :
    @Ensures storeCommands _ _ env (InSection crates (Admitted accepts form) id) (setModeLocked origin id startMode form)
      (RefusalKeeps state) state := by
  apply ensures_withAuthorized within rfl (fun _ _ => .same _) (.same _) (.same _)
  intro stored there named interface _
  apply ensures_orRefuse (requireElevation_admits within consults fun _ => trivial)
  · rintro response final ⟨rfl, _⟩
    exact .same _
  rintro final ⟨rfl, passed⟩
  split
  · exact .same _
  · apply ensures_quiet within (by exact fun _ _ answered => answered) trivial
    intro now
    exact ensures_change within ⟨there, named, interface⟩ (.mode startMode now (passed rfl)) rfl rfl

theorem setStored_section (within : Within env) {stored changed : StoredConnection} (own : OwnRecord state id stored)
    (change : ∀ now, RecordChange crates admitted false state stored { changed with updatedAt := now }) :
    @Ensures storeCommands _ _ env (InSection crates admitted id) (setStored stored changed) (RefusalKeeps state) state := by
  apply ensures_setStored within trivial fun now => ⟨stored, own.there, own.named, own.interface, change now⟩
  · exact .same _
  · exact fun _ _ => .same _
  · rintro response now (rfl | ⟨error, holds, rfl⟩)
    · exact .of_granted rfl _
    · exact .of_granted (errorResponse_granted holds) _

theorem setDnsDynamicStoreLocked_section (within : Within env) (origin : PeerOrigin) (enabled : Bool) :
    @Ensures storeCommands _ _ env (InSection crates admitted id) (setDnsDynamicStoreLocked origin id enabled)
      (RefusalKeeps state) state := by
  apply ensures_withAuthorized within rfl (fun _ _ => .same _) (.same _) (.same _)
  intro stored there named interface _
  exact setStored_section within ⟨there, named, interface⟩ (.dnsStore enabled)

theorem setBypassLinksLocked_section (within : Within env) (origin : PeerOrigin) (links : List BypassLink) :
    @Ensures storeCommands _ _ env (InSection crates admitted id) (setBypassLinksLocked origin id links)
      (RefusalKeeps state) state := by
  apply ensures_withAuthorized within rfl (fun _ _ => .same _) (.same _) (.same _)
  intro stored there named interface _
  split
  · exact .same _
  · rename_i links valid
    exact setStored_section within ⟨there, named, interface⟩ (.links valid)

theorem removeLocked_section (within : Within env) (consults : Consults accepts env) (form : Option (List UInt8)) :
    @Ensures storeCommands _ _ env (InSection crates (Admitted accepts form) id) (removeLocked id form) (RefusalKeeps state)
      state := by
  have inactive : @Ensures storeCommands _ _ env (InSection crates (Admitted accepts form) id) (isActive id)
      (fun _ final => final = state) state :=
    ensures_bind (activeDebug_section within) fun _ _ holds => holds.1
  apply ensures_orRespond inactive
  · rintro error final rfl
    exact .same _
  rintro active final rfl
  split
  · exact .same _
  · apply ensures_orRefuse (requireAdminAuth_admits within consults fun _ => trivial)
    · rintro response after ⟨rfl, _⟩
      exact .same _
    rintro after ⟨rfl, passed⟩
    apply ensures_orRespond (remove_ensures within ⟨rfl, passed rfl⟩)
    · rintro error last ⟨_, rfl⟩
      exact .same _
    · intro value last _
      exact .of_granted rfl last

theorem reconcileLocked_section (within : Within env) :
    @Ensures storeCommands _ _ env (InSection crates admitted id) (reconcileLocked crates id)
      (fun outcome _ => Outcome NotAuth (fun _ => True) outcome) state := by
  apply ensures_attempt (load_ensures within rfl)
  · intro error final holds
    exact holds.2
  · intro found final _
    have connects : @Ensures storeCommands _ _ env (InSection crates admitted id) (connect crates id false)
        (fun outcome _ => Outcome NotAuth (fun _ => True) outcome) final :=
      (Tunnels.ensures within (connect_tunnels false)).mono fun _ _ holds => holds.2
    cases found with
    | none => exact connects
    | some stored =>
      dsimp only
      split
      · trivial
      · exact connects

/-- Every section keeps to its own connection, and changes its record in a known way. -/
theorem section_discipline (within : Within env) (consults : Consults accepts env) (locked : LockedSection) :
    @Ensures storeCommands _ _ env (InSection crates (Admitted accepts locked.form) id) (locked.program crates id)
      (RefusalKeeps state) state := by
  cases locked with
  | connect debug reason => exact connectLocked_section within debug reason
  | disconnect reason => exact disconnectLocked_section within reason
  | reconnect => exact reconnectConnection_section within
  | refresh confText sourcePath form => exact refreshLocked_section within consults confText sourcePath form
  | setMode origin startMode form => exact setModeLocked_section within consults origin startMode form
  | setDnsDynamicStore origin enabled => exact setDnsDynamicStoreLocked_section within origin enabled
  | setBypassLinks origin links => exact setBypassLinksLocked_section within origin links
  | remove form => exact removeLocked_section within consults form
  | reconcile =>
    apply ensures_orRespond (reconcileLocked_section within)
    · intro error final holds
      exact .of_granted (errorResponse_granted holds) final
    · intro value final _
      exact .of_granted rfl final

/-! ### What a section leaves to the others -/

/-- Every other record is as it was, and this one is still whose it was. -/
structure Isolated (id : ConnectionId) (before after : StoreState) : Prop where
  others : ∀ other, other ≠ id → after.records other = before.records other
  scope : ∀ stored, after.records id = some (.record stored) →
    ∃ old, before.records id = some (.record old) ∧ stored.id = old.id ∧ stored.global = old.global

theorem Isolated.refl (id : ConnectionId) (state : StoreState) : Isolated id state state :=
  ⟨fun _ _ => rfl, fun stored there => ⟨stored, there, rfl, rfl⟩⟩

theorem Isolated.trans {first second third : StoreState} (earlier : Isolated id first second)
    (later : Isolated id second third) : Isolated id first third := by
  constructor
  · intro other different
    exact (later.others other different).trans (earlier.others other different)
  · intro stored there
    obtain ⟨middle, between, named, global⟩ := later.scope stored there
    obtain ⟨old, before, named', global'⟩ := earlier.scope middle between
    exact ⟨old, before, named.trans named', global.trans global'⟩

theorem Isolated.of_records {before after : StoreState} (same : after.records = before.records) :
    Isolated id before after :=
  ⟨fun other _ => congrFun same other, fun stored there => ⟨stored, same ▸ there, rfl, rfl⟩⟩

theorem InSection.isolated {op : StoreOp} {reply : op.Reply} (allowed : InSection crates admitted id state op)
    (answered : storeEnvironment state op reply after) : Isolated id state after := by
  cases op
  case writeRecord stored =>
    obtain ⟨old, there, rfl, _, change⟩ := allowed
    cases answered
    have written : Isolated old.id state (state.withRecord stored) := by
      obtain ⟨named, global, _⟩ := change.scope
      constructor
      · intro other different
        exact withRecord_other (named ▸ different)
      · intro found same
        rw [← named, withRecord_same] at same
        cases same
        exact ⟨old, there, named, global⟩
    cases reply with
    | failed error => exact .refl _ _
    | written => exact written
    | unsynced error => exact written
  case removeRecord other =>
    obtain ⟨rfl, _⟩ := allowed
    cases answered
    cases reply with
    | error error => exact .refl _ _
    | ok value =>
      constructor
      · intro id different
        simp [removes, different]
      · intro stored there
        simp [removes] at there
  all_goals exact .of_records (records_unchanged answered (by simp) (by simp))

/-- However far a section gets, it leaves the other records alone. -/
theorem section_isolated {locked : LockedSection} {rest : StoreProgram PrivilegedResponse}
    (run : @Runs storeCommands _ _ storeEnvironment (state, locked.program crates id) (after, rest)) :
    Isolated id state after :=
  (section_discipline within_storeEnvironment (consults_any _) locked).related (Isolated.refl id)
    (fun _ _ _ earlier later => earlier.trans later) (fun _ _ _ _ allowed answered => allowed.isolated answered) run

end Wgd.Store
