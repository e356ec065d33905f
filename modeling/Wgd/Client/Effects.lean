import Wgd.Client.Requests
import Wgd.Store.Serving

/-! What the requests do to the records, as a client can count on it. -/

set_option autoImplicit false

namespace Wgd.Client

open Wgd.Interaction Wgd.Net Wgd.Links Wgd.Config Wgd.Helper Wgd.Store Wgd.Daemon

variable {crates : Crates} {origin : PeerOrigin} {id : ConnectionId} {state after : StoreState} {response : PrivilegedResponse}

/-! ### The other connections -/

/-- No record but that of this connection is written or removed. -/
def Touches (id : ConnectionId) (_ : StoreState) : StoreOp → Prop
  | .writeRecord stored => stored.id = id
  | .removeRecord other => other = id
  | _ => True

/-- Every other record is as it was. -/
def OthersKept (id : ConnectionId) (before after : StoreState) : Prop :=
  ∀ other, other ≠ id → after.records other = before.records other

theorem Touches.others {op : StoreOp} {reply : op.Reply} (touches : Touches id state op)
    (answered : storeEnvironment state op reply after) : OthersKept id state after := by
  cases op
  case writeRecord stored =>
    cases touches
    cases answered
    intro other different
    cases reply with
    | failed error => rfl
    | written => exact Function.update_of_ne different _ _
    | unsynced error => exact Function.update_of_ne different _ _
  case removeRecord removed =>
    cases touches
    cases answered
    intro other different
    cases reply with
    | error error => rfl
    | ok value => exact Function.update_of_ne different _ _
  all_goals
    intro other _
    exact congrFun (records_unchanged answered (by simp) (by simp)) other

theorem touches_of_looks (id : ConnectionId) (state : StoreState) (op : StoreOp) (looks : Looks op) : Touches id state op := by
  cases op
  case writeRecord stored => exact absurd rfl (looks.write stored)
  case removeRecord other => exact absurd rfl (looks.remove other)
  all_goals trivial

theorem InSection.touches {admitted : Prop} {op : StoreOp} (allowed : InSection crates admitted id state op) :
    Touches id state op := by
  cases op
  case writeRecord stored =>
    obtain ⟨old, -, named, -, change⟩ := allowed
    exact change.scope.1.trans named
  case removeRecord other => exact allowed.1
  all_goals trivial

theorem LockedSection.touches (locked : LockedSection) : Heeds (Touches id) (locked.program crates id) fun _ => True := by
  intro state
  apply ((section_discipline within_storeEnvironment (consults_any _) locked).mono _).relax
  · intro s op allowed
    exact InSection.touches allowed
  · intro result final _
    trivial

theorem about_unique {request : PrivilegedRequest} {other : ConnectionId} (about : About id request)
    (about' : About other request) : other = id := by
  cases request <;> first
    | exact about'.symm.trans about
    | exact about.elim

/-- A request about one connection leaves the records of all others alone. -/
theorem Serves.others {request : PrivilegedRequest} (about : About id request)
    (serves : Serves crates origin request state response after) : OthersKept id state after := by
  obtain ⟨control, control', completes⟩ := serves
  have noAdd : ∀ add, request ≠ .addConnection add := by
    intro add same
    rw [same] at about
    exact about
  have sections : ∀ other (locked : LockedSection), About other request →
      Heeds (Touches id) (locked.program crates other) fun _ => True := by
    intro other locked about'
    rw [about_unique about about']
    exact LockedSection.touches locked
  have whole : Heeds (Touches id) (serveRequest crates control origin request) fun _ => True :=
    serveRequest_heeds (touches_of_looks id) noAdd sections control
  apply (whole state).related (R := OthersKept id) _ _ _ completes
  · intro s other _
    rfl
  · intro first second third earlier later other different
    exact (later other different).trans (earlier other different)
  · intro s op reply next touches answered
    exact touches.others answered

/-! ### Adding -/

/-- The links that are stored for a connection. -/
def linksOf : Option RecordFile → List BypassLink
  | some (.record stored) => stored.bypassLinks
  | _ => []

/-- Its DNS switch. -/
def dnsOf : Option RecordFile → Bool
  | some (.record stored) => stored.dnsDynamicStore
  | _ => false

/-- An add that answers with this id: its links and its DNS switch are what they were, if there was
such a record, and every other record is as it was. -/
structure Added (id : ConnectionId) (before after : StoreState) : Prop where
  record : ∃ stored, after.records id = some (.record stored) ∧ stored.bypassLinks = linksOf (before.records id) ∧
    stored.dnsDynamicStore = dnsOf (before.records id)
  others : OthersKept id before after

/-- A record that an add writes has the links and the DNS switch it had. -/
theorem written_settings {drawn : ConnectionId → Prop} {request : AddRequest} {stored : StoredConnection}
    (write : Fresh drawn request state stored ∨ Resubmitted request state stored) :
    stored.bypassLinks = linksOf (state.records stored.id) ∧ stored.dnsDynamicStore = dnsOf (state.records stored.id) := by
  cases write with
  | inl fresh =>
    rw [fresh.absent]
    exact ⟨fresh.bypassLinks, fresh.dnsDynamicStore⟩
  | inr resubmitted =>
    cases resubmitted with
    | @intro old was now =>
      obtain ⟨same, -, -, dns, links⟩ := resubmission_keeps (resubmission old request) old request
      dsimp only
      rw [same, was]
      exact ⟨links, dns⟩

theorem Serves.adds {request : AddRequest} (serves : Serves crates origin (.addConnection request) state (.connectionId id) after) :
    Added id state after := by
  obtain ⟨control, control', completes⟩ := serves
  have ends := (@serveRequest_adds storeEnvironment (fun _ => True) request state crates origin
    ⟨within_storeEnvironment, fun _ _ _ _ => trivial⟩ control).completes completes
  cases ends with
  | same records answered =>
    obtain ⟨stored, there⟩ := answered id rfl
    refine ⟨⟨stored, ?_, ?_, ?_⟩, fun other _ => congrFun records other⟩
    · rw [records]
      exact there
    · rw [there]
      rfl
    · rw [there]
      rfl
  | @written stored write records answered =>
    cases answered id rfl
    obtain ⟨links, dns⟩ := written_settings write
    constructor
    · exact ⟨stored, by rw [records, Function.update_self], links, dns⟩
    · intro other different
      rw [records, Function.update_of_ne different]

/-- A refused request has left every record as it was. -/
theorem Serves.refused {request : PrivilegedRequest} (serves : Serves crates origin request state response after)
    (refuses : response.refuses = true) : after.records = state.records := by
  obtain ⟨control, control', completes⟩ := serves
  have kept := (serveRequest_discipline within_storeEnvironment (consults_any _) control origin request).completes completes
  exact (kept refuses).1

/-! ### Listing -/

/-- The summaries of a listing are of records that are there. -/
def Lists (crates : Crates) (state : StoreState) (summaries : List ConnectionSummary) : Prop :=
  ∀ summary ∈ summaries, ∃ stored connected, state.records summary.id = some (.record stored) ∧
    summary = summarize crates stored connected false

theorem summarizeAll_issues (connections : List StoredConnection) :
    @Issues storeCommands _ (fun _ => True) (summarizeAll crates connections) (fun summaries =>
      ∀ summary ∈ summaries, ∃ stored ∈ connections, ∃ connected, summary = summarize crates stored connected false) := by
  induction connections with
  | nil =>
    intro summary member
    cases member
  | cons stored rest ih =>
    apply (Issues.any (isConnected stored.id)).bind
    intro connected _
    apply ih.bind
    intro summaries known summary member
    cases List.mem_cons.mp member with
    | inl same => exact ⟨stored, List.mem_cons_self, connected, same⟩
    | inr later =>
      obtain ⟨other, among, shown⟩ := known summary later
      exact ⟨other, List.mem_cons_of_mem _ among, shown⟩

theorem loadAll_ensures : @Ensures storeCommands _ _ storeEnvironment (fun _ _ => True) loadAll
    (fun found final => final = state ∧ ∀ connections, found = .ok connections → ∀ stored ∈ connections,
      state.records stored.id = some (.record stored)) state := by
  apply ensures_call within_storeEnvironment trivial
  intro reply after answered
  cases reply with
  | error error =>
    refine ⟨answered, ?_⟩
    intro connections same
    cases same
  | ok entries =>
    obtain ⟨listed, rfl⟩ := answered
    refine ⟨rfl, ?_⟩
    intro connections same stored member
    cases same
    obtain ⟨entry, among, read⟩ := List.mem_filterMap.mp member
    have whole : entry.read = .ok stored := by
      unfold readable at read
      cases outcome : entry.read with
      | ok value =>
        rw [outcome] at read
        rw [Option.some.inj read]
      | error error =>
        rw [outcome] at read
        cases read
    exact (listed.read_ok among whole).2.1

theorem Serves.lists {scope : ConnectionScope} (serves : Serves crates origin (.listConnections scope) state response after) :
    after = state ∧ ∀ summaries, response = .connectionList summaries → Lists crates state summaries := by
  have lists : @Ensures storeCommands _ _ storeEnvironment (fun _ _ => True) (handleListConnections crates origin scope)
      (fun response final => final = state ∧ ∀ summaries, response = .connectionList summaries → Lists crates state summaries)
      state := by
    have other : ∀ response, Fails response → ∀ summaries, response = .connectionList summaries → Lists crates state summaries := by
      intro response fails summaries same
      obtain ⟨_, _, rfl⟩ := fails
      cases same
    unfold handleListConnections
    split
    · exact ⟨rfl, other _ ⟨_, _, rfl⟩⟩
    · apply ensures_orRespond loadAll_ensures
      · intro error final holds
        exact ⟨holds.1, other _ (fails_errorResponse error)⟩
      · intro all final holds
        obtain ⟨rfl, loaded⟩ := holds
        have quiet := (@Issues.keeps storeCommands _ _ _ _ _ storeEnvironment (fun s => s = final) final
          (@summarizeAll_looks crates (all.filter (inScope origin scope)))
          (fun s op reply after looks same answered => (looks.quiet _ _ _ answered).trans same) rfl).relax (fun _ _ _ => trivial)
        apply ensures_bind (Ensures.and_issues quiet (summarizeAll_issues _))
        intro summaries last shown
        obtain ⟨⟨rfl, -⟩, shown⟩ := shown
        refine ⟨rfl, ?_⟩
        intro given same summary member
        cases same
        obtain ⟨stored, among, connected, rfl⟩ := shown summary member
        exact ⟨stored, connected, loaded all rfl stored (List.mem_of_mem_filter among), rfl⟩
  exact serves.immediately (fun _ => rfl) lists

end Wgd.Client
