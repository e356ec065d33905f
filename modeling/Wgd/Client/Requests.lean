import Wgd.Links.Merging
import Wgd.Store.Requests

/-! The client's side of the requests (`privileged_client/mod.rs`), and the daemon it talks to. -/

set_option autoImplicit false

namespace Wgd.Client

open Wgd.Interaction Wgd.Links Wgd.Config Wgd.Helper Wgd.Store

/-- A request goes out; its response comes back, or the transport fails. -/
def clientCommands : Commands := ⟨PrivilegedRequest, fun _ => Except AppError PrivilegedResponse⟩

abbrev ClientProgram := Program clientCommands

def mapPrivilegedError : PrivilegedResponse → Except AppError PrivilegedResponse
  | .error .wireGuard message => .error (.wireGuard message)
  | .error .auth message => .error (.auth message)
  | .error .authRequired message => .error (.authRequired message)
  | .error .busy message => .error (.busy message)
  | .error .notFound message => .error (.notFound s!"not found: {message}")
  | .error _ message => .error (.other message)
  | response => .ok response

theorem mapPrivilegedError_ok {response mapped : PrivilegedResponse} (fine : mapPrivilegedError response = .ok mapped) :
    response = mapped := by
  unfold mapPrivilegedError at fine
  split at fine
  all_goals cases fine
  rfl

def send (request : PrivilegedRequest) : ClientProgram (Except AppError PrivilegedResponse) :=
  .call request fun
    | .ok response => .done (mapPrivilegedError response)
    | .error error => .done (.error error)

def invalidResponse (request : String) : AppError := .other s!"invalid privileged response for {request}"

def getConnection (id : ConnectionId) : ClientProgram (Except AppError ConnectionSummary) :=
  (send (.getConnection id)).attempt fun
    | .connection summary => .done (.ok summary)
    | _ => .done (.error (invalidResponse "GetConnection"))

def setConnectionBypassLinks (id : ConnectionId) (links : List BypassLink) : ClientProgram (Except AppError Unit) :=
  (send (.setConnectionBypassLinks id links)).attempt fun _ => .done (.ok ())

def setConnectionDnsDynamicStore (id : ConnectionId) (enabled : Bool) : ClientProgram (Except AppError Unit) :=
  (send (.setConnectionDnsDynamicStore id enabled)).attempt fun _ => .done (.ok ())

def reconnectConnection (id : ConnectionId) : ClientProgram (Except AppError Bool) :=
  (send (.reconnectConnection id)).attempt fun
    | .bool reconnected => .done (.ok reconnected)
    | _ => .done (.error (invalidResponse "ReconnectConnection"))

/-! ### The daemon -/

/-- The daemon works a request off, from its arrival to its answer. -/
def Serves (crates : Crates) (origin : PeerOrigin) (request : PrivilegedRequest) (state : StoreState)
    (response : PrivilegedResponse) (after : StoreState) : Prop :=
  ∃ control control', @Completes storeCommands _ _ storeEnvironment (serveRequest crates control origin request) state
    (response, control') after

/-- Each request is one step of the daemon. A client that gets no response cannot tell whether
its request was served. -/
def daemon (crates : Crates) (origin : PeerOrigin) : Environment clientCommands StoreState := fun state request reply after =>
  match reply with
  | .ok response => Serves crates origin request state response after
  | .error _ => after = state ∨ ∃ response, Serves crates origin request state response after

variable {crates : Crates} {origin : PeerOrigin} {id : ConnectionId} {state after : StoreState}
  {response : PrivilegedResponse}

/-- What every run of a handler on the accept thread ensures holds once the request is served. -/
theorem Serves.immediately {request : PrivilegedRequest} {handler : StoreProgram PrivilegedResponse}
    {post : PrivilegedResponse → StoreState → Prop}
    (dispatched : ∀ control, dispatch crates control origin request = Store.immediately control handler)
    (ensured : @Ensures storeCommands _ _ storeEnvironment (fun _ _ => True) handler post state)
    (serves : Serves crates origin request state response after) : post response after := by
  obtain ⟨control, control', completes⟩ := serves
  have whole : @Ensures storeCommands _ _ storeEnvironment (fun _ _ => True) (serveRequest crates control origin request)
      (fun answer final => post answer.1 final) state := by
    rw [serveRequest, dispatched]
    apply ensures_bind (ensures_bind ensured _)
    · intro outcome final holds
      exact holds
    · intro answer final holds
      exact holds
  exact whole.completes completes

/-! ### What the requests of `connection config` do to the links -/

theorem bypassLinkSummaries_links (stored : StoredConnection) :
    (bypassLinkSummaries stored).map Prod.fst = stored.bypassLinks.map canonicalLink := by
  rw [bypassLinkSummaries, List.map_map, ← checkLinks_links stored.bypassLinks stored.allowedIps]
  apply List.map_congr_left
  intro verdict _
  rfl

/-- A response that the client reports as an error. -/
def Fails (response : PrivilegedResponse) : Prop := ∃ code message, response = .error code message

theorem fails_errorResponse (error : AppError) : Fails (errorResponse error) := by
  cases error <;> exact ⟨_, _, rfl⟩

theorem Fails.mapped (fails : Fails response) (reply : PrivilegedResponse) : mapPrivilegedError response ≠ .ok reply := by
  obtain ⟨code, message, rfl⟩ := fails
  cases code <;> simp [mapPrivilegedError]

theorem fails_lockErrorResponse (error : IoError) : Fails (lockErrorResponse error) := by
  unfold lockErrorResponse
  split
  · exact ⟨_, _, rfl⟩
  · exact fails_errorResponse _

/-- A look at a connection shows it as it is stored. -/
theorem Serves.looksUp (serves : Serves crates origin (.getConnection id) state response after) :
    after = state ∧ ∀ summary, response = .connection summary → ∃ stored connected,
      state.records id = some (.record stored) ∧ summary = summarize crates stored connected true := by
  have other : ∀ response, Fails response → ∀ summary, response = .connection summary → ∃ stored connected,
      state.records id = some (.record stored) ∧ summary = summarize crates stored connected true := by
    intro response fails summary same
    obtain ⟨_, _, rfl⟩ := fails
    cases same
  have shown : @Ensures storeCommands _ _ storeEnvironment (fun _ _ => True) (handleGetConnection crates origin id)
      (fun response final => final = state ∧ ∀ summary, response = .connection summary → ∃ stored connected,
        state.records id = some (.record stored) ∧ summary = summarize crates stored connected true) state := by
    apply ensures_withAuthorized within_storeEnvironment trivial
    · intro error _
      exact ⟨rfl, other _ (fails_errorResponse error)⟩
    · exact ⟨rfl, other _ ⟨_, _, rfl⟩⟩
    · exact ⟨rfl, other _ ⟨_, _, rfl⟩⟩
    · intro stored there _ _ _
      have looked := (@Issues.keeps storeCommands _ _ _ _ _ storeEnvironment (fun s => s = state) state
        (@isConnected_looks id) (fun s op reply after looks same answered => (looks.quiet _ _ _ answered).trans same)
        rfl).relax (fun _ _ _ => trivial)
      apply ensures_bind looked
      intro connected final holds
      constructor
      · exact holds.1
      · intro summary same
        cases same
        exact ⟨stored, connected, there, rfl⟩
  exact serves.immediately (fun _ => rfl) shown

/-- Its links are shown as they are stored. -/
theorem Serves.shows (serves : Serves crates origin (.getConnection id) state response after) :
    after = state ∧ ∀ summary, response = .connection summary → ∃ stored, state.records id = some (.record stored) ∧
      summary.bypassLinks.map Prod.fst = stored.bypassLinks.map canonicalLink := by
  obtain ⟨same, shown⟩ := serves.looksUp
  refine ⟨same, fun summary answered => ?_⟩
  obtain ⟨stored, connected, there, rfl⟩ := shown summary answered
  exact ⟨stored, there, bypassLinkSummaries_links stored⟩

/-- A setting fails and leaves the record, or changes it in this way; a response that tells of a
failure may come with either. -/
def Sets (id : ConnectionId) (change : StoredConnection → StoredConnection) (state : StoreState)
    (response : PrivilegedResponse) (after : StoreState) : Prop :=
  (Fails response ∧ after.records id = state.records id) ∨
    ∃ old now, state.records id = some (.record old) ∧ after.records id = some (.record { change old with updatedAt := now })

/-- The same, of its links alone. -/
def Resets (id : ConnectionId) (change : List BypassLink → List BypassLink) (state : StoreState)
    (response : PrivilegedResponse) (after : StoreState) : Prop :=
  (Fails response ∧ after.records id = state.records id) ∨
    ∃ old stored, state.records id = some (.record old) ∧ after.records id = some (.record stored) ∧
      stored.bypassLinks = change old.bypassLinks

theorem Sets.resets {change : StoredConnection → StoredConnection} {links : List BypassLink → List BypassLink}
    (changes : ∀ stored, (change stored).bypassLinks = links stored.bypassLinks) (sets : Sets id change state response after) :
    Resets id links state response after := by
  cases sets with
  | inl failed => exact .inl failed
  | inr stored =>
    obtain ⟨old, now, there, written⟩ := stored
    exact .inr ⟨old, _, there, written, changes old⟩

variable {change : StoredConnection → StoredConnection}

theorem setStored_sets {stored : StoredConnection} (there : state.records id = some (.record stored))
    (own : (change stored).id = id) :
    @Ensures storeCommands _ _ storeEnvironment (fun _ _ => True) (setStored stored (change stored)) (Sets id change state)
      state := by
  unfold setStored
  split
  · next same => exact .inr ⟨stored, stored.updatedAt, there, by rw [same]; exact there⟩
  · apply ensures_quiet within_storeEnvironment (by exact fun _ _ answered => answered) trivial
    intro now
    have written : (state.withRecord { change stored with updatedAt := now }).records id =
        some (.record { change stored with updatedAt := now }) := by
      rw [← own]
      exact withRecord_same _
    apply ensures_save within_storeEnvironment trivial
    · intro error _
      exact .inl ⟨fails_errorResponse error, rfl⟩
    · intro error _
      exact .inr ⟨stored, now, there, written⟩
    · exact .inr ⟨stored, now, there, written⟩

theorem lock_sets {wait : LockWait} {body : StoreProgram PrivilegedResponse}
    (inside : @Ensures storeCommands _ _ storeEnvironment (fun _ _ => True) body (Sets id change state) state) :
    @Ensures storeCommands _ _ storeEnvironment (fun _ _ => True) (withConnectionLock id wait body) (Sets id change state)
      state := by
  apply ensures_quiet within_storeEnvironment (by exact fun _ _ answered => answered) trivial
  intro reply
  cases reply with
  | error error => exact .inl ⟨fails_lockErrorResponse error, rfl⟩
  | ok value =>
    apply ensures_bind inside
    intro response final sets
    apply ensures_quiet within_storeEnvironment (by exact fun _ _ answered => answered) trivial
    intro _
    exact sets

theorem withAuthorized_sets {body : StoredConnection → StoreProgram PrivilegedResponse}
    (go : ∀ stored, state.records id = some (.record stored) → stored.id = id →
      @Ensures storeCommands _ _ storeEnvironment (fun _ _ => True) (body stored) (Sets id change state) state) :
    @Ensures storeCommands _ _ storeEnvironment (fun _ _ => True) (withAuthorized id origin body) (Sets id change state)
      state := by
  apply ensures_withAuthorized within_storeEnvironment trivial
  · intro error _
    exact .inl ⟨fails_errorResponse error, rfl⟩
  · exact .inl ⟨⟨_, _, rfl⟩, rfl⟩
  · exact .inl ⟨⟨_, _, rfl⟩, rfl⟩
  · intro stored there named _ _
    exact go stored there named

/-- Links are stored as a whole, or not at all. -/
theorem Serves.storesLinks {links : List BypassLink}
    (serves : Serves crates origin (.setConnectionBypassLinks id links) state response after) :
    Sets id (fun stored => { stored with bypassLinks := links.map canonicalLink }) state response after := by
  have sets : @Ensures storeCommands _ _ storeEnvironment (fun _ _ => True) (handleSetConnectionBypassLinks origin id links)
      (Sets id (fun stored => { stored with bypassLinks := links.map canonicalLink }) state) state := by
    apply lock_sets
    apply withAuthorized_sets
    intro stored there named
    cases valid : validateLinksStrict links stored.allowedIps with
    | error error => exact .inl ⟨⟨_, _, rfl⟩, rfl⟩
    | ok given =>
      obtain rfl := (strict_canonical valid).2
      exact @setStored_sets id state (fun stored => { stored with bypassLinks := links.map canonicalLink }) stored there named
  exact serves.immediately (fun _ => rfl) sets

theorem Serves.setsLinks {links : List BypassLink}
    (serves : Serves crates origin (.setConnectionBypassLinks id links) state response after) :
    Resets id (fun _ => links.map canonicalLink) state response after :=
  serves.storesLinks.resets (by exact fun _ => rfl)

theorem Serves.storesDns {enabled : Bool}
    (serves : Serves crates origin (.setConnectionDnsDynamicStore id enabled) state response after) :
    Sets id (fun stored => { stored with dnsDynamicStore := enabled }) state response after := by
  have sets : @Ensures storeCommands _ _ storeEnvironment (fun _ _ => True)
      (handleSetConnectionDnsDynamicStore origin id enabled)
      (Sets id (fun stored => { stored with dnsDynamicStore := enabled }) state) state := by
    apply lock_sets
    apply withAuthorized_sets
    intro stored there named
    exact @setStored_sets id state (fun stored => { stored with dnsDynamicStore := enabled }) stored there named
  exact serves.immediately (fun _ => rfl) sets

theorem Serves.setsDns {enabled : Bool}
    (serves : Serves crates origin (.setConnectionDnsDynamicStore id enabled) state response after) :
    Resets id (fun links => links) state response after :=
  serves.storesDns.resets (by exact fun _ => rfl)

/-- A call that is for other things than the records. -/
def SparesRecords (op : StoreOp) : Prop := (∀ stored, op ≠ .writeRecord stored) ∧ ∀ other, op ≠ .removeRecord other

theorem sparesRecords_onTunnel {op : StoreOp} (tunnel : OnTunnel id op) : SparesRecords op := by
  constructor
  · intro stored same
    rw [same] at tunnel
    exact tunnel
  · intro other same
    rw [same] at tunnel
    exact tunnel

theorem Tunnels.sparesRecords {A : Type} {p : StoreProgram (Except AppError A)} {post : A → Prop} (tunnels : Tunnels id p post) :
    @Issues storeCommands _ SparesRecords p fun _ => True :=
  (Issues.relax (fun _ => sparesRecords_onTunnel) tunnels).mono fun _ _ => trivial

theorem reconnectConnection_sparesRecords :
    @Issues storeCommands _ SparesRecords (Store.reconnectConnection crates id) fun _ => True := by
  have plain : ∀ path, SparesRecords (.tryExists path) := by
    intro path
    exact ⟨by simp, by simp⟩
  apply Issues.bind (activeDebug_issues ⟨by simp, by simp⟩ plain)
  intro active _
  cases active with
  | error error => trivial
  | ok active =>
    cases active with
    | none => trivial
    | some debug =>
      have lowered : @Issues storeCommands _ SparesRecords (disconnectForReconnect crates id) fun _ => True := by
        apply Issues.bind (Tunnels.sparesRecords (@disconnect_teardown id crates).tunnels)
        intro outcome _
        cases outcome <;> trivial
      apply Issues.bind lowered
      intro outcome _
      cases outcome with
      | error response => trivial
      | ok value =>
        apply Issues.bind (Tunnels.sparesRecords (connect_tunnels debug))
        intro outcome _
        cases outcome <;> trivial

/-- A reconnect leaves the records as they are. -/
theorem Serves.reconnects (serves : Serves crates origin (.reconnectConnection id) state response after) :
    after.records = state.records := by
  obtain ⟨control, control', completes⟩ := serves
  have worker : @Issues storeCommands _ SparesRecords (withConnectionLock id .patient (Store.reconnectConnection crates id))
      fun _ => True := by
    apply issues_call ⟨by simp, by simp⟩
    intro reply
    cases reply with
    | error error => trivial
    | ok value =>
      apply Issues.bind reconnectConnection_sparesRecords
      intro response _
      apply issues_call ⟨by simp, by simp⟩
      intro _
      trivial
  have dispatched : @Issues storeCommands _ SparesRecords (handleReconnectConnection crates origin id)
      (fun outcome => @Issues storeCommands _ SparesRecords outcome.run fun _ => True) := by
    apply Issues.bind (load_issues ⟨by simp, by simp⟩)
    intro found _
    cases found with
    | error error => trivial
    | ok found =>
      cases found with
      | none => trivial
      | some stored =>
        dsimp only
        split
        · trivial
        · exact worker
  have whole : @Issues storeCommands _ SparesRecords (serveRequest crates control origin (.reconnectConnection id))
      fun _ => True := by
    have started : @Issues storeCommands _ SparesRecords (dispatch crates control origin (.reconnectConnection id))
        (fun outcome => @Issues storeCommands _ SparesRecords outcome.1.run fun _ => True) := by
      apply Issues.bind dispatched
      intro outcome served
      exact served
    apply Issues.bind started
    intro outcome served
    apply Issues.bind served
    intro response _
    trivial
  have kept := @Issues.keeps storeCommands _ _ _ _ _ storeEnvironment (fun s => s.records = state.records) state whole
    (fun s op reply later spares same answered => (records_unchanged answered spares.1 spares.2).trans same) rfl
  exact (kept.completes completes).1

end Wgd.Client
