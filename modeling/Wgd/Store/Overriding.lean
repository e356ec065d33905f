import Wgd.Config.MtuOverride
import Wgd.Store.Leftovers
import Wgd.Store.Refreshing
import Wgd.Store.Representation
import Wgd.Store.Serving

/-! An MTU override that was asked for is applied at every refresh, unless the add that asked for it
found a record without it. -/

set_option autoImplicit false

namespace Wgd.Store

open Wgd.Interaction Wgd.Net Wgd.Links Wgd.Config Wgd.Helper Wgd.Daemon

/-- Whatever is stored for this id has the override. -/
def Overrides (id : ConnectionId) (mtu : UInt16) (state : StoreState) : Prop :=
  ∀ file, state.records id = some file → ∃ stored, file = .record stored ∧ stored.mtuOverride = some mtu

/-- A record that is written has the override it had. -/
def Maintains (state : StoreState) : StoreOp → Prop
  | .writeRecord stored => ∃ old, state.records stored.id = some (.record old) ∧ stored.mtuOverride = old.mtuOverride
  | _ => True

variable {crates : Crates} {origin : PeerOrigin} {id : ConnectionId} {mtu : UInt16} {state after : StoreState}
  {request : PrivilegedRequest} {response : PrivilegedResponse}

/-! ### Every request -/

theorem RecordChange.mtuOverride {admitted : Prop} {force : Bool} {old stored : StoredConnection}
    (change : RecordChange crates admitted force state old stored) : stored.mtuOverride = old.mtuOverride := by
  cases change with
  | resubmitted nameFree elevation now => exact (resubmission_keeps _ old _).2.2.1
  | _ => rfl

theorem InSection.maintains {admitted : Prop} {op : StoreOp} (allowed : InSection crates admitted id state op) :
    Maintains state op := by
  cases op
  case writeRecord stored =>
    obtain ⟨old, there, named, -, change⟩ := allowed
    refine ⟨old, ?_, change.mtuOverride⟩
    rw [change.scope.1, named]
    exact there
  all_goals trivial

theorem maintains_of_looks (state : StoreState) (op : StoreOp) (looks : Looks op) : Maintains state op := by
  cases op
  case writeRecord stored => exact absurd rfl (looks.write stored)
  all_goals trivial

theorem LockedSection.maintains (locked : LockedSection) : Heeds Maintains (locked.program crates id) fun _ => True := by
  intro state
  apply ((section_discipline within_storeEnvironment (consults_any _) locked).mono _).relax
  · intro s op allowed
    exact allowed.maintains
  · intro result final _
    trivial

theorem Maintains.overrides {op : StoreOp} {reply : op.Reply} (maintains : Maintains state op)
    (answered : storeEnvironment state op reply after) (overrides : Overrides id mtu state) : Overrides id mtu after := by
  cases op
  case writeRecord stored =>
    obtain ⟨old, was, kept⟩ := maintains
    have written : Overrides id mtu (state.withRecord stored) := by
      intro file there
      by_cases own : id = stored.id
      · subst own
        rw [withRecord_same] at there
        cases there
        obtain ⟨before, same, has⟩ := overrides _ was
        cases same
        exact ⟨stored, rfl, kept.trans has⟩
      · rw [withRecord_other own] at there
        exact overrides file there
    cases answered
    cases reply with
    | failed error => exact overrides
    | written => exact written
    | unsynced error => exact written
  case removeRecord other =>
    cases answered
    cases reply with
    | error error => exact overrides
    | ok value =>
      intro file there
      by_cases own : id = other
      · simp [removes, own] at there
      · simp only [removes, Function.update_of_ne own] at there
        exact overrides file there
  all_goals
    intro file there
    rw [records_unchanged answered (by simp) (by simp)] at there
    exact overrides file there

theorem AddEnd.overrides {drawn : ConnectionId → Prop} {add : AddRequest} (ends : AddEnd drawn add state response after)
    (fresh : ¬drawn id ∨ add.mtuOverride = some mtu) (overrides : Overrides id mtu state) : Overrides id mtu after := by
  intro file there
  cases ends with
  | same records answered =>
    rw [records] at there
    exact overrides file there
  | @written stored write records answered =>
    rw [records] at there
    by_cases own : id = stored.id
    · subst own
      rw [Function.update_self] at there
      cases there
      refine ⟨stored, rfl, ?_⟩
      cases write with
      | inl created =>
        cases fresh with
        | inl other => exact absurd created.drawn other
        | inr asked => exact created.mtuOverride.trans asked
      | inr resubmitted =>
        cases resubmitted with
        | @intro old was now =>
          obtain ⟨same, -, kept, -, -⟩ := resubmission_keeps (resubmission old add) old add
          rw [← same] at was
          obtain ⟨before, equal, has⟩ := overrides _ was
          cases equal
          exact kept.trans has
    · rw [Function.update_of_ne own] at there
      exact overrides file there

/-- No request changes the override of a record, or stores another for the id of one that is gone. -/
theorem ServedIn.overrides (served : ServedIn (drawing (· ≠ id)) crates origin request state response after)
    (overrides : Overrides id mtu state) : Overrides id mtu after := by
  obtain ⟨control, control', completes⟩ := served
  by_cases adding : ∃ add, request = .addConnection add
  · obtain ⟨add, rfl⟩ := adding
    have ends := (serveRequest_adds (adds_drawing (· ≠ id)) control).completes completes
    exact AddEnd.overrides ends (.inl fun chosen => chosen rfl) overrides
  · have noAdd : ∀ add, request ≠ .addConnection add := fun add same => adding ⟨add, same⟩
    have whole : Heeds Maintains (serveRequest crates control origin request) fun _ => True :=
      serveRequest_heeds maintains_of_looks noAdd (fun _ locked _ => LockedSection.maintains locked) control
    have run := completes.mono fun _ _ _ _ answered => within_meeting (Draws (· ≠ id)) _ _ _ _ answered
    exact (whole state).related (R := fun s s' => Overrides id mtu s → Overrides id mtu s') (fun _ holds => holds)
      (fun _ _ _ earlier later holds => later (earlier holds)) (fun _ _ _ _ maintains answered => maintains.overrides answered)
      run overrides

/-! ### A refresh -/

/-- The text has the stored fingerprint and the configuration stays, or it replaces the configuration. -/
def RefreshedTo (crates : Crates) (id : ConnectionId) (confText : String) (before after : StoreState) : Prop :=
  ∃ old stored resolver parsed, before.records id = some (.record old) ∧ after.records id = some (.record stored) ∧
    parseConnectionConfig crates resolver (overriddenText confText old.mtuOverride) = .ok parsed ∧
    (stored.config = parsed ∨ (fingerprint crates parsed = old.fingerprint ∧ stored.config = old.config))

variable {confText : String} {sourcePath : Option String} {form : Option (List UInt8)}

/-- An answer that tells of a change, if it tells of a refresh. -/
def TellsChange (response : PrivilegedResponse) : Prop := ∀ outcome, response = .refreshed outcome → outcome.changed = true

theorem NoOutcome.tellsChange (none : NoOutcome response) : TellsChange response := by
  intro outcome same
  exact absurd same (none outcome)

theorem replaceConfiguration_tells {stored : StoredConnection} {text : String} {parsed : ConnectionConfig} :
    @Issues storeCommands _ (fun _ => True) (replaceConfiguration crates stored text parsed confText sourcePath form)
      TellsChange := by
  apply (checkIdentityFree_noOutcome stored text).bind
  intro outcome checked
  cases outcome with
  | error response => exact NoOutcome.tellsChange checked
  | ok value =>
    apply (requireAdminAuth_noOutcome form refreshCause).bind
    intro outcome passed
    cases outcome with
    | error response => exact NoOutcome.tellsChange passed
    | ok value =>
      apply (Issues.any (activeDebug stored.id)).bind
      intro active _
      cases active with
      | error error => exact (errorResponse_noOutcome error).tellsChange
      | ok active =>
        apply (disconnectForRefresh_noOutcome active).bind
        intro outcome down
        cases outcome with
        | error response => exact NoOutcome.tellsChange down
        | ok value =>
          apply issues_call trivial
          intro now
          apply (Issues.any (save _)).bind
          intro saved _
          cases saved with
          | error error => exact (errorResponse_noOutcome error).tellsChange
          | ok value =>
            apply issues_call trivial
            intro _
            cases active with
            | none =>
              intro outcome same
              cases same
              rfl
            | some debug =>
              apply (Issues.any (connect crates stored.id debug)).bind
              intro up _
              cases up with
              | ok value =>
                intro outcome same
                cases same
                rfl
              | error error =>
                intro outcome same
                cases same

/-- Nothing is said to be unchanged but a text with the stored fingerprint. -/
def SaysUnchanged (crates : Crates) (id : ConnectionId) (confText : String) (start : StoreState) (response : PrivilegedResponse) :
    Prop :=
  TellsChange response ∨ ∃ old resolver parsed, start.records id = some (.record old) ∧
    parseConnectionConfig crates resolver (overriddenText confText old.mtuOverride) = .ok parsed ∧
    fingerprint crates parsed = old.fingerprint

theorem refreshLocked_tells : @Ensures storeCommands _ _ storeEnvironment (fun _ _ => True)
    (refreshLocked crates id confText sourcePath form) (fun response _ => SaysUnchanged crates id confText state response)
    state := by
  apply ensures_withRecord within_storeEnvironment trivial
  · intro error _
    exact .inl (errorResponse_noOutcome error).tellsChange
  · apply Or.inl
    intro outcome same
    cases same
  · intro stored there named _
    apply ensures_quiet within_storeEnvironment (by exact fun _ _ answered => answered) trivial
    intro resolver
    split
    · exact .inl (errorResponse_noOutcome _).tellsChange
    · next parsed parses =>
      split
      · next same => exact (Ensures.any _ _).mono fun _ _ _ => .inr ⟨stored, resolver, parsed, there, parses, same⟩
      · exact (Issues.ensures replaceConfiguration_tells).mono fun _ _ tells => .inl tells

theorem refreshConnection_tells : @Ensures storeCommands _ _ storeEnvironment (fun _ _ => True)
    (refreshConnection crates id confText sourcePath form) (fun response _ => SaysUnchanged crates id confText state response)
    state := by
  apply ensures_quiet within_storeEnvironment (by exact fun _ _ answered => answered) trivial
  intro locked
  cases locked with
  | error error => exact .inl (lockErrorResponse_noOutcome error).tellsChange
  | ok value =>
    have inside : @Ensures storeCommands _ _ storeEnvironment (fun _ _ => True)
        (withConnectionLock id .bounded (refreshLocked crates id confText sourcePath form))
        (fun response _ => SaysUnchanged crates id confText state response) state := by
      apply ensures_quiet within_storeEnvironment (by exact fun _ _ answered => answered) trivial
      intro locked
      cases locked with
      | error error => exact .inl (lockErrorResponse_noOutcome error).tellsChange
      | ok value =>
        apply ensures_bind refreshLocked_tells
        intro response final tells
        apply ensures_quiet within_storeEnvironment (by exact fun _ _ answered => answered) trivial
        intro _
        exact tells
    apply ensures_bind inside
    intro response final tells
    apply ensures_quiet within_storeEnvironment (by exact fun _ _ answered => answered) trivial
    intro _
    exact tells

/-- The end of a refresh, its writes no longer noted. -/
theorem refreshConnection_ends : @Ensures storeCommands _ _ storeEnvironment (fun _ _ => True)
    (refreshConnection crates id confText sourcePath form)
    (fun response final => ∃ written, RefreshEnd crates id confText state response (final, written)) state := by
  have seen := @Ensures.simulated storeCommands _ _ storeEnvironment (fun _ _ => True) _ _ _ noted _ _
    (fun config s => config.1 = s) ?_ ?_ (state, []) rfl (@refreshConnection_noted crates id confText state sourcePath form)
  · apply seen.mono
    intro response final ends
    obtain ⟨⟨_, written⟩, ends, rfl⟩ := ends
    exact ⟨written, ends⟩
  · intro config s op reply after same _ answered
    subst same
    exact ⟨(after, recordWrites config.2 op reply), ⟨answered, rfl⟩, rfl⟩
  · intros
    trivial

/-- An answer that tells of a refresh tells of this one. -/
def RefreshesTo (crates : Crates) (id : ConnectionId) (confText : String) (start : StoreState) (response : PrivilegedResponse)
    (final : StoreState) : Prop :=
  ∀ outcome, response = .refreshed outcome → RefreshedTo crates id confText start final

theorem NoOutcome.refreshesTo (none : NoOutcome response) : RefreshesTo crates id confText state response after := by
  intro outcome same
  exact absurd same (none outcome)

theorem refreshConnection_refreshes : @Ensures storeCommands _ _ storeEnvironment (fun _ _ => True)
    (refreshConnection crates id confText sourcePath form) (RefreshesTo crates id confText state) state := by
  apply ((refreshConnection_ends.and refreshConnection_tells).relax fun _ _ _ => trivial).mono
  intro response final both outcome same
  obtain ⟨⟨written, ends⟩, tells⟩ := both
  have done := ends.done outcome same
  cases changed : outcome.changed with
  | true =>
    simp only [RefreshDone, changed] at done
    obtain ⟨old, new, was, -, replaced, records⟩ := done
    cases replaced with
    | intro parses differs source now =>
      have there := congrFun records id
      rw [Function.update_self] at there
      exact ⟨old, _, _, _, was, there, parses, .inl rfl⟩
  | false =>
    cases tells with
    | inl tells =>
      have told := tells outcome same
      rw [changed] at told
      cases told
    | inr unchanged =>
      obtain ⟨old, resolver, parsed, was, parses, identical⟩ := unchanged
      simp only [RefreshDone, changed] at done
      cases done with
      | inl left => exact ⟨old, old, resolver, parsed, was, by rw [left.2, was], parses, .inr ⟨identical, rfl⟩⟩
      | inr rewritten =>
        obtain ⟨old', new, was', -, resourced, records⟩ := rewritten
        cases was.symm.trans was'
        cases resourced with
        | intro _ _ source now =>
          have there := congrFun records id
          rw [Function.update_self] at there
          exact ⟨old, _, resolver, parsed, was, there, parses, .inr ⟨identical, rfl⟩⟩

/-- A refresh that is said to have succeeded has. -/
theorem ServedIn.refreshed {outcome : RefreshOutcome}
    (served : ServedIn storeEnvironment crates origin (.refreshConnection id confText sourcePath form) state
      (.refreshed outcome) after) : RefreshedTo crates id confText state after := by
  obtain ⟨control, control', completes⟩ := served
  have started : @Ensures storeCommands _ _ storeEnvironment (fun _ _ => True)
      (handleRefreshConnection crates origin id confText sourcePath form)
      (fun dispatched final => @Ensures storeCommands _ _ storeEnvironment (fun _ _ => True) dispatched.run
        (RefreshesTo crates id confText state) final) state := by
    apply ensures_bind (load_ensures within_storeEnvironment trivial)
    intro found final loaded
    obtain ⟨rfl, -⟩ := loaded
    cases found with
    | error error => exact (errorResponse_noOutcome error).refreshesTo
    | ok found =>
      cases found with
      | none =>
        intro outcome same
        cases same
      | some stored =>
        dsimp only
        split
        next refusal refused =>
          intro outcome same
          subst same
          simp [authorizeAccess, authDenied] at refused
        next => exact refreshConnection_refreshes
  have whole : @Ensures storeCommands _ _ storeEnvironment (fun _ _ => True)
      (serveRequest crates control origin (.refreshConnection id confText sourcePath form))
      (fun answered final => RefreshesTo crates id confText state answered.1 final) state := by
    apply ensures_bind (ensures_bind started _)
    · intro outcome final runs
      exact runs
    · intro outcome final runs
      apply ensures_bind runs
      intro response final holds
      exact holds
  exact whole.completes completes outcome rfl

/-! ### Runs -/

/-- Requests served one after another, none of which draws this id for a new record. -/
def Since (crates : Crates) (id : ConnectionId) : StoreState → StoreState → Prop :=
  Relation.ReflTransGen fun state after => ∃ origin request response,
    ServedIn (drawing (· ≠ id)) crates origin request state response after

theorem Since.overrides (since : Since crates id state after) (overrides : Overrides id mtu state) : Overrides id mtu after := by
  induction since with
  | refl => exact overrides
  | tail _ step ih =>
    obtain ⟨origin, request, response, served⟩ := step
    exact served.overrides ih

theorem ServedIn.represents (served : ServedIn storeEnvironment crates origin request state response after)
    (represents : Represents crates state) : Represents crates after := by
  obtain ⟨control, control', completes⟩ := served
  exact request_preserves (fun _ _ _ _ allowed answered holds => allowed.represents holds answered) completes represents

theorem ServedIn.undrawn {drawn : ConnectionId → Prop} (served : ServedIn (drawing drawn) crates origin request state response after) :
    ServedIn storeEnvironment crates origin request state response after := by
  obtain ⟨control, control', completes⟩ := served
  exact ⟨control, control', completes.mono fun _ _ _ _ answered => within_meeting (Draws drawn) _ _ _ _ answered⟩

theorem Since.represents (since : Since crates id state after) (represents : Represents crates state) : Represents crates after := by
  induction since with
  | refl => exact represents
  | tail _ step ih =>
    obtain ⟨origin, request, response, served⟩ := step
    exact served.undrawn.represents ih

/-- The id that an add answers with is that of a record with the override, if it has just been created or
had it before. -/
theorem ServedIn.added {add : AddRequest} (asked : add.mtuOverride = some mtu)
    (served : ServedIn storeEnvironment crates origin (.addConnection add) state response after)
    (overrides : Overrides id mtu state) : Overrides id mtu after := by
  obtain ⟨control, control', completes⟩ := served
  have adds : Adds storeEnvironment fun _ => True := ⟨within_storeEnvironment, fun _ _ _ _ => trivial⟩
  have ends := (serveRequest_adds adds control).completes completes
  exact AddEnd.overrides ends (.inr asked) overrides

/-- An override that was asked for when its record was created, or that the record found by the add had
already, is applied by every refresh from then on. -/
theorem override_survives_refreshes {add : AddRequest} {start added before : StoreState} {origin' : PeerOrigin}
    {outcome : RefreshOutcome} (represents : Represents crates start) (asked : add.mtuOverride = some mtu)
    (adds : ServedIn storeEnvironment crates origin (.addConnection add) start (.connectionId id) added)
    (unlessFound : ∀ old, start.records id = some (.record old) → old.mtuOverride = some mtu)
    (since : Since crates id added before)
    (refreshes : ServedIn storeEnvironment crates origin' (.refreshConnection id confText sourcePath form) before
      (.refreshed outcome) after)
    (recognised : ∀ resolver parsed,
      parseConnectionConfig crates resolver (overriddenText confText (some mtu)) = .ok parsed → parsed.mtu = some mtu)
    (noCollision : ∀ old resolver parsed, before.records id = some (.record old) →
      parseConnectionConfig crates resolver (overriddenText confText (some mtu)) = .ok parsed →
        fingerprint crates parsed = fingerprint crates old.config → parsed.mtu = old.config.mtu) :
    ∃ stored, after.records id = some (.record stored) ∧ stored.config.mtu = some mtu := by
  have overrides : Overrides id mtu start := by
    intro file there
    rw [represents.readable id] at there
    obtain ⟨old, found, rfl⟩ := Option.map_eq_some_iff.mp there
    exact ⟨old, rfl, unlessFound old (stored_iff.mp found)⟩
  have kept := since.overrides (adds.added asked overrides)
  have sound := since.represents (adds.represents represents)
  obtain ⟨old, stored, resolver, parsed, was, there, parses, becomes⟩ := refreshes.refreshed
  obtain ⟨_, same, has⟩ := kept _ was
  cases same
  rw [has] at parses
  refine ⟨stored, there, ?_⟩
  cases becomes with
  | inl replaced =>
    rw [replaced]
    exact recognised resolver parsed parses
  | inr unchanged =>
    obtain ⟨identical, same⟩ := unchanged
    have identity := (sound.each id old (stored_iff.mpr was)).2.identity
    rw [same, ← noCollision old resolver parsed was parses (identical.trans identity)]
    exact recognised resolver parsed parses

/-! ### Two runs -/

/-- The digests of the configurations that occur here, which differ in length. -/
def overrideCrates : Crates := { exampleCrates with
  sha256 := fun bytes =>
    if bytes.length = 135 then
      [65, 80, 111, 255, 27, 131, 210, 59, 213, 231, 12, 181, 138, 17, 213, 130, 27, 239, 49, 48, 224, 228, 247, 135,
        92, 182, 5, 134, 145, 60, 224, 69]
    else exampleCrates.sha256 bytes }

/-- What root is answered, every form being accepted. -/
def rootAsks (request : PrivilegedRequest) (script : Scripted) : PrivilegedResponse × Scripted :=
  let played := play addingCues (serveRequest overrideCrates ⟨[], false, false⟩ .stdio request) script
  (played.1.1, played.2)

theorem rootAsks_served (request : PrivilegedRequest) (script : Scripted) :
    ServedIn storeEnvironment overrideCrates .stdio request script.state (rootAsks request script).1
      (rootAsks request script).2.state :=
  ⟨_, _, play_completes rfl⟩

def officeAdd (confText : String) (mtuOverride : Option UInt16) : AddRequest :=
  ⟨confText, true, .automatic, some "office", mtuOverride, false, none, some [1]⟩

def officeRefresh (confText : String) : PrivilegedRequest := .refreshConnection addingCues.newId confText none (some [1])

def mtuConfig : ConnectionConfig := { exampleConfig with mtu := some 1300 }

theorem overriddenText_none (text : String) : overriddenText text none = text := rfl

/-- With the override the text has it as its MTU. -/
theorem parse_overriddenText :
    parseConnectionConfig overrideCrates noResolver (overriddenText exampleText (some 1300)) = .ok mtuConfig := by
  -- On the lines the new text is made of: its characters need not be encoded and decoded again.
  have lined : ((lines (unlines (applied 1300 (lines exampleText.toList)))).foldlM (parseLine overrideCrates noResolver) .start >>=
      finishParse) = .ok mtuConfig := by decide +kernel
  rw [overriddenText, parseConnectionConfig, applyMtuOverride_eq]
  exact lined

theorem parse_exampleText :
    parseConnectionConfig overrideCrates noResolver (overriddenText exampleText none) = .ok exampleConfig := by
  decide +kernel

/-- Whoever resolves its endpoints. -/
theorem exampleText_recognised (resolver : Resolver) (parsed : ConnectionConfig)
    (parses : parseConnectionConfig overrideCrates resolver (overriddenText exampleText (some 1300)) = .ok parsed) :
    parsed.mtu = some 1300 :=
  congrArg ConnectionConfig.mtu (parse_unresolved parses parse_overriddenText)

def officeStored (text : String) (config : ConnectionConfig) (mtuOverride : Option UInt16) : StoredConnection where
  id := addingCues.newId
  fingerprint := fingerprint overrideCrates config
  global := true
  ownerUid := none
  startMode := .automatic
  name := some "office"
  config := config
  rawConf := text
  interface := addingCues.newId.interfaceName
  createdAt := addingCues.now
  updatedAt := addingCues.now
  userDisconnected := false
  sourcePath := none
  mtuOverride := mtuOverride
  dnsDynamicStore := false
  bypassLinks := []

/-- A store with one connection. -/
def officeStore (text : String) (config : ConnectionConfig) (mtuOverride : Option UInt16) : Scripted :=
  emptyScript.putRecord (officeStored text config mtuOverride)

section Office

variable {confText text : String} {mtuOverride : Option UInt16} {parsed config : ConnectionConfig}

theorem office_there : (officeStore text config mtuOverride).state.records addingCues.newId =
    some (.record (officeStored text config mtuOverride)) :=
  withRecord_same (officeStored text config mtuOverride)

theorem office_read : (RecordFile.record (officeStored text config mtuOverride)).read addingCues.newId =
    .ok (officeStored text config mtuOverride) :=
  RecordFile.read_ok_iff.mpr ⟨rfl, rfl, rfl⟩

theorem office_strict : strictEntries ((officeStore text config mtuOverride).entries addingCues) =
    .ok [officeStored text config mtuOverride] := by
  have entries : (officeStore text config mtuOverride).entries addingCues =
      [⟨some addingCues.newId, idText addingCues.newId ++ ".json", .ok (.record (officeStored text config mtuOverride))⟩] := rfl
  rw [entries]
  simp [strictEntries, strictEntry, ListedEntry.read, office_read, pure, Except.pure, bind, Except.bind]

theorem rootAsks_creates
    (parses : parseConnectionConfig overrideCrates noResolver (overriddenText confText mtuOverride) = .ok parsed) :
    rootAsks (.addConnection (officeAdd confText mtuOverride)) emptyScript =
      (.connectionId addingCues.newId, officeStore (overriddenText confText mtuOverride) parsed mtuOverride) := by
  have resolves : addingCues.resolver = noResolver := rfl
  simp only [rootAsks, play, serveRequest, dispatch, immediately, handleAddConnection, officeAdd, PeerOrigin.isRoot,
    PeerOrigin.uid, ownerOf, storeCall, Program.command, interpret, scriptedStore, resolves, parses, Program.call_bind,
    Program.done_bind, Bool.not_true, Bool.and_false, decide_true, if_true, if_false, Bool.false_eq_true]
  rfl

/-- The record is the one that the add asks for, but for its override. -/
theorem rootAsks_finds {asked : Option UInt16}
    (parses : parseConnectionConfig overrideCrates noResolver (overriddenText confText asked) = .ok config) :
    rootAsks (.addConnection (officeAdd confText asked)) (officeStore text config mtuOverride) =
      (.connectionId addingCues.newId, officeStore text config mtuOverride) := by
  have resolves : addingCues.resolver = noResolver := rfl
  have noFails : addingCues.fails = fun _ => false := rfl
  have same : hasIdentity (fingerprint overrideCrates config) true none (officeStored text config mtuOverride) = true := by
    simp [hasIdentity, officeStored]
  simp only [rootAsks, play, serveRequest, dispatch, immediately, handleAddConnection, officeAdd, PeerOrigin.isRoot,
    PeerOrigin.uid, ownerOf, storeCall, Program.command, interpret, scriptedStore, resolves, parses, Program.call_bind,
    Program.done_bind, Program.pure_eq, Bool.not_true, Bool.and_false, decide_true, if_true, if_false, Bool.false_eq_true,
    withIndexLock, addParsed, orRespond, findByIdentity, findStrict, loadAllStrict, fallible, noFails, office_strict, Except.map,
    List.find?_cons_of_pos same]
  rfl

theorem rootAsks_refreshes
    (parses : parseConnectionConfig overrideCrates noResolver (overriddenText confText mtuOverride) = .ok parsed) :
    rootAsks (officeRefresh confText) (officeStore text config mtuOverride) =
      if fingerprint overrideCrates parsed = fingerprint overrideCrates config then
        (.refreshed unchangedOutcome, officeStore text config mtuOverride)
      else (.refreshed ⟨true, false, []⟩, (officeStore text config mtuOverride).putRecord
        { ((officeStored text config mtuOverride).refreshed (fingerprint overrideCrates parsed) parsed
            (overriddenText confText mtuOverride) none).1 with updatedAt := addingCues.now }) := by
  have resolves : addingCues.resolver = noResolver := rfl
  have noFails : addingCues.fails = fun _ => false := rfl
  have override : (officeStored text config mtuOverride).mtuOverride = mtuOverride := rfl
  have authorized : authorizeAccess (officeStored text config mtuOverride) .stdio = none := rfl
  have identity : (officeStored text config mtuOverride).fingerprint = fingerprint overrideCrates config := rfl
  simp only [rootAsks, play, serveRequest, dispatch, onThread, onWorker, officeRefresh, handleRefreshConnection,
    refreshConnection, load, storeCall, Program.command, interpret, scriptedStore, found, fallible, noFails, office_there,
    office_read, Program.call_bind, Program.done_bind, Program.pure_eq, Bool.false_eq_true, if_false, Except.map, authorized,
    DispatchOutcome.run, withIndexLock, withConnectionLock, refreshLocked, withRecord, orRespond, override, resolves, parses,
    identity]
  split
  next => rfl
  next differs =>
    have other : ¬hasIdentity (fingerprint overrideCrates parsed) (officeStored text config mtuOverride).global
        (officeStored text config mtuOverride).ownerUid (officeStored text config mtuOverride) = true := by
      simp [hasIdentity, identity, Ne.symm differs]
    simp only [replaceConfiguration, orRefuse, checkIdentityFree, findByIdentity, findStrict, loadAllStrict, storeCall,
      Program.command, interpret, scriptedStore, fallible, noFails, Program.call_bind, Program.done_bind, Program.pure_eq,
      Bool.false_eq_true, if_false, office_strict, Except.map, List.find?_cons_of_neg other]
    rfl

end Office

theorem represents_empty : Represents crates emptyScript.state := by
  refine ⟨fun _ => rfl, fun id stored there => ?_, .nothing fun _ => rfl, .nothing fun _ => rfl⟩
  cases there

theorem override_survives_refreshes_created : ∃ stored,
    (rootAsks (officeRefresh exampleText) (rootAsks (.addConnection (officeAdd exampleText (some 1300))) emptyScript).2).2.state.records
      addingCues.newId = some (.record stored) ∧ stored.config.mtu = some 1300 := by
  have adds := rootAsks_served (.addConnection (officeAdd exampleText (some 1300))) emptyScript
  have refreshes := rootAsks_served (officeRefresh exampleText)
    (rootAsks (.addConnection (officeAdd exampleText (some 1300))) emptyScript).2
  rw [rootAsks_creates parse_overriddenText] at adds refreshes ⊢
  have answered : (rootAsks (officeRefresh exampleText)
      (officeStore (overriddenText exampleText (some 1300)) mtuConfig (some 1300))).1 = .refreshed unchangedOutcome := by
    rw [rootAsks_refreshes parse_overriddenText, if_pos rfl]
  rw [answered] at refreshes
  apply override_survives_refreshes represents_empty rfl adds _ .refl refreshes exampleText_recognised
  · intro old resolver parsed there parses _
    cases office_there.symm.trans there
    exact exampleText_recognised resolver parsed parses
  · intro old there
    cases there

/-- An add that finds the record with its text's MTU does not store the override, and a refresh loses it. -/
theorem override_lost_for_found : ¬∀ (crates : Crates) (id : ConnectionId) (mtu : UInt16) (add : AddRequest)
    (start added before after : StoreState) (origin origin' : PeerOrigin) (confText : String) (sourcePath : Option String)
    (form : Option (List UInt8)) (outcome : RefreshOutcome), Represents crates start → add.mtuOverride = some mtu →
      ServedIn storeEnvironment crates origin (.addConnection add) start (.connectionId id) added →
      Since crates id added before →
      ServedIn storeEnvironment crates origin' (.refreshConnection id confText sourcePath form) before (.refreshed outcome)
        after →
      (∀ resolver parsed,
        parseConnectionConfig crates resolver (overriddenText confText (some mtu)) = .ok parsed → parsed.mtu = some mtu) →
      (∀ old resolver parsed, before.records id = some (.record old) →
        parseConnectionConfig crates resolver (overriddenText confText (some mtu)) = .ok parsed →
          fingerprint crates parsed = fingerprint crates old.config → parsed.mtu = old.config.mtu) →
      ∃ stored, after.records id = some (.record stored) ∧ stored.config.mtu = some mtu := by
  intro all
  -- The record that is found was created from a text with the MTU of its own.
  have represents := (rootAsks_served (.addConnection (officeAdd (overriddenText exampleText (some 1300)) none))
    emptyScript).represents represents_empty
  have parses : parseConnectionConfig overrideCrates noResolver (overriddenText (overriddenText exampleText (some 1300)) none) =
      .ok mtuConfig := by
    rw [overriddenText_none]
    exact parse_overriddenText
  rw [rootAsks_creates parses, overriddenText_none] at represents
  have adds := rootAsks_served (.addConnection (officeAdd exampleText (some 1300)))
    (officeStore (overriddenText exampleText (some 1300)) mtuConfig none)
  rw [rootAsks_finds parse_overriddenText] at adds
  have refreshes := rootAsks_served (officeRefresh exampleText) (officeStore (overriddenText exampleText (some 1300)) mtuConfig none)
  have differs : fingerprint overrideCrates exampleConfig ≠ fingerprint overrideCrates mtuConfig := by decide +kernel
  rw [rootAsks_refreshes parse_exampleText, if_neg differs] at refreshes
  obtain ⟨stored, there, has⟩ := all overrideCrates addingCues.newId 1300 _ _ _ _ _ _ _ _ _ _ _ represents rfl adds .refl
    refreshes exampleText_recognised fun old resolver parsed was parses _ => by
      cases office_there.symm.trans was
      exact exampleText_recognised resolver parsed parses
  cases (withRecord_same _).symm.trans there
  cases has

end Wgd.Store
