import Wgd.Store.Script
import Wgd.Store.Sections

/-! An explicit user disconnect sticks: what was taken down for the user stays down
through everything but a user's connect and a change to automatic start. -/

set_option autoImplicit false

namespace Wgd.Store

open Wgd.Interaction Wgd.Net Wgd.Links Wgd.Config Wgd.Helper

/-- Disconnected for the user: the wish is on record, and there is no marker. -/
structure Down (id : ConnectionId) (state : StoreState) : Prop where
  wanted : ∀ stored, state.records id = some (.record stored) → stored.userDisconnected = true
  unmarked : state.active id = none

/-- Between the two states a change of mode has landed on automatic. -/
def LandedOnAutomatic (id : ConnectionId) (before after : StoreState) : Prop :=
  (∃ old, before.records id = some (.record old) ∧ old.startMode = .manual) ∧
    ∃ stored, after.records id = some (.record stored) ∧ stored.startMode = .automatic

/-- Every section but the one a user's connect runs. -/
def LockedSection.unasked : LockedSection → Bool
  | .connect _ .user => false
  | _ => true

variable {state after : StoreState} {id : ConnectionId} {crates : Crates}

/-- In a state that is down, a call that starts no helper. -/
def StaysDown (id : ConnectionId) (state : StoreState) (op : StoreOp) : Prop := Down id state ∧ op.raises = false

theorem Down.withRecord {stored : StoredConnection} (down : Down id state) (own : stored.id = id)
    (kept : stored.userDisconnected = true) : Down id (state.withRecord stored) := by
  subst own
  constructor
  · intro found there
    rw [withRecord_same] at there
    cases there
    exact kept
  · exact down.unmarked

/-- Taking a tunnel down leaves it down. -/
theorem Down.teardown {op : StoreOp} {reply : op.Reply} (down : Down id state) (quiet : OnTeardown id op)
    (answered : storeEnvironment state op reply after) : Down id after := by
  constructor
  · rw [quiet.1.records answered]
    exact down.wanted
  · cases op
    case removeActive other =>
      cases answered
      cases reply with
      | error error => exact down.unmarked
      | ok value =>
        simp only [removes, Function.update_apply, ite_eq_left_iff]
        exact fun _ => down.unmarked
    case writeActive other marker => exact absurd quiet.2 (by simp [StoreOp.raises])
    all_goals
      rw [active_unchanged answered (by simp) (by simp)]
      exact down.unmarked

theorem Teardown.staysDown {A : Type} {p : StoreProgram (Except AppError A)} {post : A → Prop} (down : Down id state)
    (teardown : Teardown id p post) :
    @Ensures storeCommands _ _ storeEnvironment (StaysDown id) p (fun _ final => Down id final) state := by
  have kept := @Issues.keeps storeCommands _ _ _ _ _ storeEnvironment (Down id) state teardown
    (fun s op reply final quiet down answered => down.teardown quiet answered) down
  exact (kept.relax fun _ _ both => ⟨both.1, both.2.2⟩).mono fun _ _ both => both.1

/-- A record that is not there is not connected. -/
theorem connect_missing {env : Environment storeCommands StoreState} {permits : StoreState → StoreOp → Prop}
    (within : Within env) (permitted : permits state (.readRecord id)) (missing : state.records id = none) (debug : Bool) :
    @Ensures storeCommands _ _ env permits (connect crates id debug) (fun _ final => final = state) state := by
  apply ensures_attempt (loadRequired_ensures within permitted)
  · intro error final holds
    exact holds.1
  · intro stored final holds
    exact absurd (missing.symm.trans holds.2.1) (by simp)

/-! ### The sections -/

theorem connectLocked_staysDown (down : Down id state) (debug : Bool) :
    @Ensures storeCommands _ _ storeEnvironment (StaysDown id) (connectLocked crates id debug .reconciliation)
      (fun _ final => Down id final) state := by
  have resolved : @Ensures storeCommands _ _ storeEnvironment (StaysDown id) (resolveConnectIntent id .reconciliation)
      (fun outcome final => final = state ∧ (outcome = .ok true → state.records id = none)) state := by
    apply ensures_attempt (load_ensures within_storeEnvironment ⟨down, rfl⟩)
    · intro error final holds
      exact ⟨holds.1, by simp⟩
    · rintro found final ⟨rfl, holds⟩
      cases found with
      | none => exact ⟨rfl, fun _ => holds⟩
      | some stored => exact ⟨rfl, by simp [down.wanted stored holds.1]⟩
  apply ensures_orRespond resolved
  · rintro error final ⟨rfl, _⟩
    exact down
  · rintro proceeds final ⟨rfl, missing⟩
    cases proceeds with
    | false => exact down
    | true =>
      apply ensures_orRespond (connect_missing within_storeEnvironment ⟨down, rfl⟩ (missing rfl) debug)
      · rintro error final rfl
        exact down
      · rintro value final rfl
        exact down

theorem markUserDisconnected_staysDown (down : Down id state) (reason : DisconnectReason) :
    @Ensures storeCommands _ _ storeEnvironment (StaysDown id) (markUserDisconnected id reason)
      (fun _ final => Down id final) state := by
  cases reason with
  | sessionTeardown => exact down
  | user =>
    apply ensures_attempt (load_ensures within_storeEnvironment ⟨down, rfl⟩)
    · rintro error final ⟨rfl, _⟩
      exact down
    · rintro found final ⟨rfl, holds⟩
      cases found with
      | none => exact down
      | some stored =>
        -- The wish is on record already.
        simp only [down.wanted stored holds.1, if_true]
        exact down

theorem disconnectLocked_staysDown (down : Down id state) (reason : DisconnectReason) :
    @Ensures storeCommands _ _ storeEnvironment (StaysDown id) (disconnectLocked crates id reason)
      (fun _ final => Down id final) state := by
  apply ensures_orRespond (markUserDisconnected_staysDown down reason)
  · intro error final down
    exact down
  · intro value final down
    apply ensures_orRespond (Teardown.staysDown down disconnect_teardown)
    · intro error final down
      exact down
    · intro value final down
      exact down

theorem activeDebug_staysDown (down : Down id state) :
    @Ensures storeCommands _ _ storeEnvironment (StaysDown id) (activeDebug id)
      (fun found final => final = state ∧ ∀ debug, found ≠ .ok (some debug)) state := by
  apply (activeDebug_ensures within_storeEnvironment ⟨down, rfl⟩ fun _ => ⟨down, rfl⟩).mono
  rintro found final ⟨rfl, holds⟩
  refine ⟨rfl, ?_⟩
  rintro debug rfl
  obtain ⟨marker, there, _⟩ := holds
  exact absurd (down.unmarked.symm.trans there) (by simp)

theorem reconnectConnection_staysDown (down : Down id state) :
    @Ensures storeCommands _ _ storeEnvironment (StaysDown id) (reconnectConnection crates id)
      (fun _ final => Down id final) state := by
  apply ensures_orRespond (activeDebug_staysDown down)
  · rintro error final ⟨rfl, _⟩
    exact down
  · rintro active final ⟨rfl, inactive⟩
    cases active with
    | none => exact down
    | some debug => exact absurd rfl (inactive debug)

theorem refreshUnchanged_staysDown {stored : StoredConnection} (down : Down id state) (own : stored.id = id)
    (kept : stored.userDisconnected = true) (sourcePath : Option String) :
    @Ensures storeCommands _ _ storeEnvironment (StaysDown id) (refreshUnchanged stored sourcePath)
      (fun _ final => Down id final) state := by
  apply ensures_quiet within_storeEnvironment (by exact fun _ _ answered => answered) ⟨down, rfl⟩
  intro _
  split
  · apply ensures_quiet within_storeEnvironment (by exact fun _ _ answered => answered) ⟨down, rfl⟩
    intro now
    have written := @Down.withRecord state id { stored with sourcePath := sourcePath, updatedAt := now } down own kept
    exact ensures_save within_storeEnvironment ⟨down, rfl⟩ (fun _ _ => down) (fun _ _ => written) written
  · exact down

theorem replaceConfiguration_staysDown {stored : StoredConnection} (down : Down id state) (own : stored.id = id)
    (kept : stored.userDisconnected = true) (fingerprint : String) (parsed : ConnectionConfig) (confText : String)
    (sourcePath : Option String) (form : Option (List UInt8)) :
    @Ensures storeCommands _ _ storeEnvironment (StaysDown id)
      (replaceConfiguration crates stored fingerprint parsed confText sourcePath form) (fun _ final => Down id final) state := by
  apply ensures_orRefuse (checkIdentityFree_ensures within_storeEnvironment ⟨down, rfl⟩)
  · rintro response final ⟨rfl, _⟩
    exact down
  rintro final ⟨rfl, _⟩
  apply ensures_orRefuse (requireAdminAuth_ensures within_storeEnvironment fun _ => ⟨down, rfl⟩)
  · rintro response final rfl
    exact down
  rintro final rfl
  rw [own]
  apply ensures_orRespond (activeDebug_staysDown down)
  · rintro error final ⟨rfl, _⟩
    exact down
  rintro active final ⟨rfl, inactive⟩
  cases active with
  | some debug => exact absurd rfl (inactive debug)
  | none =>
    -- Nothing was up, so nothing comes back up.
    apply ensures_quiet within_storeEnvironment (by exact fun _ _ answered => answered) ⟨down, rfl⟩
    intro now
    have written := @Down.withRecord _ id
      { (stored.refreshed fingerprint parsed confText sourcePath).1 with updatedAt := now } down own kept
    apply ensures_orRespond (save_ensures within_storeEnvironment ⟨down, rfl⟩)
    · rintro error final ⟨_, rfl | rfl⟩
      · exact down
      · exact written
    · rintro value final rfl
      apply ensures_quiet within_storeEnvironment (by exact fun _ _ answered => answered) ⟨written, rfl⟩
      intro _
      exact written

theorem refreshLocked_staysDown (down : Down id state) (confText : String) (sourcePath : Option String)
    (form : Option (List UInt8)) :
    @Ensures storeCommands _ _ storeEnvironment (StaysDown id) (refreshLocked crates id confText sourcePath form)
      (fun _ final => Down id final) state := by
  apply ensures_withRecord within_storeEnvironment ⟨down, rfl⟩ (fun _ _ => down) down
  intro stored there own _
  apply ensures_quiet within_storeEnvironment (by exact fun _ _ answered => answered) ⟨down, rfl⟩
  intro resolver
  split
  · exact down
  · split
    · exact refreshUnchanged_staysDown down own (down.wanted stored there) sourcePath
    · exact replaceConfiguration_staysDown down own (down.wanted stored there) _ _ _ _ _

theorem setStored_staysDown {stored changed : StoredConnection} (down : Down id state) (own : changed.id = id)
    (kept : changed.userDisconnected = true) :
    @Ensures storeCommands _ _ storeEnvironment (StaysDown id) (setStored stored changed)
      (fun _ final => Down id final) state := by
  apply ensures_setStored within_storeEnvironment ⟨down, rfl⟩ (fun _ => ⟨down, rfl⟩) down (fun _ _ => down)
  intro response now _
  exact Down.withRecord down own kept

theorem setDnsDynamicStoreLocked_staysDown (down : Down id state) (origin : PeerOrigin) (enabled : Bool) :
    @Ensures storeCommands _ _ storeEnvironment (StaysDown id) (setDnsDynamicStoreLocked origin id enabled)
      (fun _ final => Down id final) state := by
  apply ensures_withAuthorized within_storeEnvironment ⟨down, rfl⟩ (fun _ _ => down) down down
  intro stored there own _ _
  exact setStored_staysDown down own (down.wanted stored there)

theorem setBypassLinksLocked_staysDown (down : Down id state) (origin : PeerOrigin) (links : List BypassLink) :
    @Ensures storeCommands _ _ storeEnvironment (StaysDown id) (setBypassLinksLocked origin id links)
      (fun _ final => Down id final) state := by
  apply ensures_withAuthorized within_storeEnvironment ⟨down, rfl⟩ (fun _ _ => down) down down
  intro stored there own _ _
  split
  · exact down
  · exact setStored_staysDown down own (down.wanted stored there)

theorem removeLocked_staysDown (down : Down id state) (form : Option (List UInt8)) :
    @Ensures storeCommands _ _ storeEnvironment (StaysDown id) (removeLocked id form) (fun _ final => Down id final) state := by
  have inactive : @Ensures storeCommands _ _ storeEnvironment (StaysDown id) (isActive id)
      (fun _ final => final = state) state :=
    ensures_bind (activeDebug_staysDown down) fun _ _ holds => holds.1
  apply ensures_orRespond inactive
  · rintro error final rfl
    exact down
  rintro active final rfl
  split
  · exact down
  · apply ensures_orRefuse (requireAdminAuth_ensures within_storeEnvironment fun _ => ⟨down, rfl⟩)
    · rintro response final rfl
      exact down
    rintro final rfl
    apply ensures_orRespond (remove_ensures within_storeEnvironment ⟨down, rfl⟩)
    · rintro error final ⟨_, rfl⟩
      exact down
    · rintro value final rfl
      constructor
      · simp [StoreState.withoutRecord]
      · exact down.unmarked

theorem reconcileLocked_staysDown (down : Down id state) :
    @Ensures storeCommands _ _ storeEnvironment (StaysDown id) (reconcileLocked crates id) (fun _ final => Down id final)
      state := by
  apply ensures_attempt (load_ensures within_storeEnvironment ⟨down, rfl⟩)
  · rintro error final ⟨rfl, _⟩
    exact down
  rintro found final ⟨rfl, holds⟩
  cases found with
  | some stored =>
    simp only [down.wanted stored holds.1, if_true]
    exact down
  | none =>
    apply (connect_missing within_storeEnvironment ⟨down, rfl⟩ holds false).mono
    rintro outcome final rfl
    exact down

/-- A change of mode may land on automatic, with its last call. -/
theorem setModeLocked_lands (down : Down id state) (origin : PeerOrigin) (startMode : ConnectionStartMode)
    (form : Option (List UInt8)) :
    @Ensures storeCommands _ _ storeEnvironment (StaysDown id) (setModeLocked origin id startMode form)
      (fun _ final => Down id final ∨ LandedOnAutomatic id state final) state := by
  apply ensures_withAuthorized within_storeEnvironment ⟨down, rfl⟩ (fun _ _ => .inl down) (.inl down) (.inl down)
  intro stored there own _ _
  apply ensures_orRefuse (requireElevation_ensures within_storeEnvironment fun _ => ⟨down, rfl⟩)
  · intro response final same
    rw [same]
    exact .inl down
  intro final same
  rw [same]
  split
  · exact .inl down
  · rename_i changed
    apply ensures_quiet within_storeEnvironment (by exact fun _ _ answered => answered) ⟨down, rfl⟩
    intro now
    have written : Down id (state.withRecord { stored.inMode startMode with updatedAt := now }) ∨
        LandedOnAutomatic id state (state.withRecord { stored.inMode startMode with updatedAt := now }) := by
      subst own
      cases startMode with
      | manual =>
        left
        have kept : (stored.inMode .manual).userDisconnected = true := by
          simpa [StoredConnection.inMode] using down.wanted stored there
        exact Down.withRecord down rfl kept
      | automatic =>
        right
        constructor
        · cases mode : stored.startMode with
          | manual => exact ⟨stored, there, mode⟩
          | automatic => exact absurd mode changed
        · exact ⟨_, withRecord_same _, rfl⟩
    exact ensures_save within_storeEnvironment ⟨down, rfl⟩ (fun _ _ => .inl down) (fun _ _ => written) written

theorem section_lands {locked : LockedSection} (unasked : locked.unasked = true) (down : Down id state) :
    @Ensures storeCommands _ _ storeEnvironment (StaysDown id) (locked.program crates id)
      (fun _ final => Down id final ∨ LandedOnAutomatic id state final) state := by
  cases locked with
  | connect debug reason =>
    cases reason with
    | user => cases unasked
    | reconciliation => exact (connectLocked_staysDown down debug).mono fun _ _ => .inl
  | disconnect reason => exact (disconnectLocked_staysDown down reason).mono fun _ _ => .inl
  | reconnect => exact (reconnectConnection_staysDown down).mono fun _ _ => .inl
  | refresh confText sourcePath form => exact (refreshLocked_staysDown down confText sourcePath form).mono fun _ _ => .inl
  | setMode origin startMode form => exact setModeLocked_lands down origin startMode form
  | setDnsDynamicStore origin enabled => exact (setDnsDynamicStoreLocked_staysDown down origin enabled).mono fun _ _ => .inl
  | setBypassLinks origin links => exact (setBypassLinksLocked_staysDown down origin links).mono fun _ _ => .inl
  | remove form => exact (removeLocked_staysDown down form).mono fun _ _ => .inl
  | reconcile =>
    apply ensures_orRespond (reconcileLocked_staysDown down)
    · intro error final down
      exact .inl down
    · intro value final down
      exact .inl down

/-! ### Runs -/

/-- What may happen after the disconnect: any section for the connection but a user's
connect, stopped anywhere, unless it lands on automatic; and anything elsewhere. -/
inductive QuietStep (crates : Crates) (id : ConnectionId) : StoreState → StoreState → Prop where
  | locked {state after : StoreState} {locked : LockedSection} {rest : StoreProgram PrivilegedResponse}
      (unasked : locked.unasked = true)
      (run : @Runs storeCommands _ _ storeEnvironment (state, locked.program crates id) (after, rest))
      (quiet : ¬ LandedOnAutomatic id state after) : QuietStep crates id state after
  | elsewhere {state after : StoreState} (record : after.records id = state.records id)
      (marker : after.active id = state.active id) : QuietStep crates id state after

theorem QuietStep.down (step : QuietStep crates id state after) (down : Down id state) : Down id after := by
  cases step with
  | @locked locked rest unasked run quiet =>
    have ensured := (section_lands unasked down).runs run
    cases rest with
    | done result => exact ensured.resolve_right quiet
    | call op next => exact ensured.1.1
  | elsewhere record marker => exact ⟨fun stored there => down.wanted stored (record ▸ there), marker.trans down.unmarked⟩

/-- Recording the wish, where it succeeds. -/
theorem markUserDisconnected_wanted :
    @Ensures storeCommands _ _ storeEnvironment (fun _ _ => True) (markUserDisconnected id .user) (fun outcome final =>
      outcome = .ok () → ∀ stored, final.records id = some (.record stored) → stored.userDisconnected = true) state := by
  apply ensures_attempt (load_ensures within_storeEnvironment trivial)
  · intro error final _ same
    cases same
  rintro found final ⟨rfl, holds⟩
  cases found with
  | none =>
    intro _ stored there
    exact absurd (Eq.trans (Eq.symm holds) there) (by simp)
  | some stored =>
    dsimp only
    split
    · rename_i already
      intro _ other there
      obtain rfl : stored = other := by simpa using holds.1.symm.trans there
      exact already
    · apply (save_ensures within_storeEnvironment trivial).mono
      rintro outcome after saved rfl other there
      cases saved
      obtain rfl := holds.2.1
      have same : { stored with userDisconnected := true } = other := by
        simpa using (@withRecord_same final { stored with userDisconnected := true }).symm.trans there
      rw [← same]

theorem disconnect_down (wanted : ∀ stored, state.records id = some (.record stored) → stored.userDisconnected = true) :
    @Ensures storeCommands _ _ storeEnvironment (fun _ _ => True) (disconnect crates id)
      (fun outcome final => outcome = .ok () → Down id final) state := by
  apply ensures_attempt (loadRequired_ensures within_storeEnvironment trivial)
  · intro error final _ same
    cases same
  rintro stored final ⟨rfl, _, own, interface⟩
  have kept := @Issues.keeps storeCommands _ _ _ _ _ storeEnvironment (fun s => s.records = final.records) final
    (@takeDown_teardown id crates _ interface)
    (fun s op reply after quiet same answered => (quiet.1.records answered).trans same) rfl
  apply ensures_attempt (kept.relax fun _ _ _ => trivial)
  · intro error after _ same
    cases same
  rintro value after ⟨same, _⟩
  apply (clearActive_ensures within_storeEnvironment trivial).mono
  rintro outcome last cleared rfl
  cases cleared
  constructor
  · intro found there
    exact wanted found ((congrFun same id).symm.trans there)
  · simp [StoreState.withoutActive]

/-- A user's disconnect that completes leaves the connection down. -/
theorem disconnectLocked_down :
    @Ensures storeCommands _ _ storeEnvironment (fun _ _ => True) (disconnectLocked crates id .user)
      (fun response final => response = .unit → Down id final) state := by
  have failed : ∀ error, errorResponse error ≠ .unit := by
    intro error
    cases error <;> simp [errorResponse, authDenied]
  apply ensures_orRespond markUserDisconnected_wanted
  · intro error final _ same
    exact absurd same (failed error)
  intro value wished wanted
  apply ensures_orRespond (disconnect_down (wanted rfl))
  · intro error final _ same
    exact absurd same (failed error)
  · intro value final down _
    exact down rfl

/-- An explicit disconnect sticks: until a user's connect, or a change of mode that lands
on automatic, no section for the connection reaches the start of a helper. -/
theorem user_disconnect_sticks {before down state after : StoreState} {locked : LockedSection} {spec : HelperSpec}
    {next : Except String ExitStatus → StoreProgram PrivilegedResponse}
    (disconnected : @Completes storeCommands _ _ storeEnvironment (disconnectLocked crates id .user) before .unit down)
    (since : Relation.ReflTransGen (QuietStep crates id) down state) (unasked : locked.unasked = true) :
    ¬ @Runs storeCommands _ _ storeEnvironment (state, locked.program crates id) (after, .call (.spawnHelper spec) next) := by
  have start : Down id down := disconnectLocked_down.completes disconnected rfl
  have now : Down id state := by
    induction since with
    | refl => exact start
    | tail _ step ih => exact step.down ih
  intro run
  have raised := ((section_lands unasked now).runs run).1.2
  cases raised

theorem QuietStep.played {cues : Cues} {script : Scripted} (locked : LockedSection) (unasked : locked.unasked = true)
    (quiet : ¬ LandedOnAutomatic id script.state (play cues (locked.program crates id) script).2.state) :
    QuietStep crates id script.state (play cues (locked.program crates id) script).2.state :=
  .locked unasked (play_completes rfl) quiet

/-- The connection is taken down for the user. -/
def downScript : Scripted := (play workingCues (disconnectLocked exampleCrates exampleId .user) upScript).2

/-- Its session tries to bring it back. -/
def refusedScript : Scripted :=
  (play workingCues ((LockedSection.connect false .reconciliation).program exampleCrates exampleId) downScript).2

theorem user_disconnect_sticks_stale : ¬ ∃ (after : StoreState) (spec : HelperSpec)
    (next : Except String ExitStatus → StoreProgram PrivilegedResponse),
    @Runs storeCommands _ _ storeEnvironment
      (refusedScript.state, LockedSection.reconnect.program exampleCrates exampleId) (after, .call (.spawnHelper spec) next) := by
  rintro ⟨after, spec, next, run⟩
  have played : (play workingCues (disconnectLocked exampleCrates exampleId .user) upScript).1 = .unit ∧
      downScript.state.records exampleId = some (.record { exampleStored with userDisconnected := true }) := by
    decide +kernel
  have disconnected : @Completes storeCommands _ _ storeEnvironment (disconnectLocked exampleCrates exampleId .user)
      upScript.state .unit downScript.state := by
    unfold downScript
    exact play_completes played.1
  have since : QuietStep exampleCrates exampleId downScript.state refusedScript.state := by
    apply QuietStep.played (.connect false .reconciliation) rfl
    rintro ⟨⟨old, there, manual⟩, _⟩
    cases played.2.symm.trans there
    cases manual
  have unasked : LockedSection.reconnect.unasked = true := rfl
  exact user_disconnect_sticks disconnected (.single since) unasked run

end Wgd.Store
