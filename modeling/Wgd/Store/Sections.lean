import Wgd.Store.Accessors

/-! What a handler does while it holds the lock of one connection. Sections of one id
never overlap, so any interleaving of handlers runs them one after the other. -/

set_option autoImplicit false

namespace Wgd.Store

open Wgd.Interaction Wgd.Net Wgd.Links Wgd.Config Wgd.Helper

/-- The daemon's own connect at boot (`connection_store.rs`): under the lock only
`user_disconnected` is read again. -/
def reconcileLocked (crates : Crates) (id : ConnectionId) : StoreProgram (Except AppError Unit) :=
  Program.attempt (load id) fun
    | some stored => if stored.userDisconnected then .done (.ok ()) else connect crates id false
    | none => connect crates id false

inductive LockedSection where
  | connect (debug : Bool) (reason : ConnectReason)
  | disconnect (reason : DisconnectReason)
  | reconnect
  | refresh (confText : String) (sourcePath : Option String) (form : Option (List UInt8))
  | setMode (origin : PeerOrigin) (startMode : ConnectionStartMode) (form : Option (List UInt8))
  | setDnsDynamicStore (origin : PeerOrigin) (enabled : Bool)
  | setBypassLinks (origin : PeerOrigin) (links : List BypassLink)
  | remove (form : Option (List UInt8))
  | reconcile

def LockedSection.program (crates : Crates) (id : ConnectionId) : LockedSection → StoreProgram PrivilegedResponse
  | .connect debug reason => connectLocked crates id debug reason
  | .disconnect reason => disconnectLocked crates id reason
  | .reconnect => reconnectConnection crates id
  | .refresh confText sourcePath form => refreshLocked crates id confText sourcePath form
  | .setMode origin startMode form => setModeLocked origin id startMode form
  | .setDnsDynamicStore origin enabled => setDnsDynamicStoreLocked origin id enabled
  | .setBypassLinks origin links => setBypassLinksLocked origin id links
  | .remove form => removeLocked id form
  | .reconcile => answer .unit (reconcileLocked crates id)

/-- The authorization form that comes with the request. -/
def LockedSection.form : LockedSection → Option (List UInt8)
  | .refresh _ _ form | .setMode _ _ form | .remove form => form
  | _ => none

/-- What a handler may make of a record that is there; a name may be forced. -/
inductive RecordChange (crates : Crates) (admitted : Prop) (force : Bool) (state : StoreState) (old : StoredConnection) :
    StoredConnection → Prop where
  | wish (userDisconnected : Bool) :
      RecordChange crates admitted force state old { old with userDisconnected := userDisconnected }
  | source (sourcePath : Option String) (now : Nat) :
      RecordChange crates admitted force state old { old with sourcePath := sourcePath, updatedAt := now }
  | mode (startMode : ConnectionStartMode) (now : Nat) (elevation : elevates old startMode = true → admitted) :
      RecordChange crates admitted force state old { old.inMode startMode with updatedAt := now }
  | dnsStore (enabled : Bool) (now : Nat) :
      RecordChange crates admitted force state old { old with dnsDynamicStore := enabled, updatedAt := now }
  | links {requested links : List BypassLink} (valid : validateLinksStrict requested old.allowedIps = .ok links) (now : Nat) :
      RecordChange crates admitted force state old { old with bypassLinks := links, updatedAt := now }
  | config {resolver : Resolver} {confText : String} {parsed : ConnectionConfig}
      (parses : parseConnectionConfig crates resolver confText = .ok parsed)
      (free : Cleared state (hasIdentity (fingerprint crates parsed) old.global old.ownerUid) (some old.id)) (allowed : admitted)
      (sourcePath : Option String) (now : Nat) :
      RecordChange crates admitted force state old
        { (old.refreshed (fingerprint crates parsed) parsed confText sourcePath).1 with updatedAt := now }
  | resubmitted {request : AddRequest}
      (nameFree : force = false → ∀ name, request.name = some name → request.name ≠ old.name →
        Cleared state (hasName name old.global old.ownerUid) (some old.id))
      (elevation : elevates old request.startMode = true → admitted) (now : Nat) :
      RecordChange crates admitted force state old { (resubmission old request).apply old request with updatedAt := now }

variable {env : Environment storeCommands StoreState} {state after : StoreState} {id : ConnectionId} {crates : Crates}
  {admitted : Prop} {force : Bool}

/-- A record keeps whose it is. -/
theorem RecordChange.scope {old stored : StoredConnection} (change : RecordChange crates admitted force state old stored) :
    stored.id = old.id ∧ stored.global = old.global ∧ stored.ownerUid = old.ownerUid ∧ stored.interface = old.interface := by
  cases change with
  | resubmitted nameFree elevation now =>
    unfold Resubmission.apply StoredConnection.inMode
    dsimp only
    split_ifs <;> exact ⟨rfl, rfl, rfl, rfl⟩
  | _ => exact ⟨rfl, rfl, rfl, rfl⟩

theorem RecordChange.relax {old stored : StoredConnection} (change : RecordChange crates admitted false state old stored) :
    RecordChange crates admitted force state old stored := by
  cases change with
  | wish userDisconnected => exact .wish userDisconnected
  | source sourcePath now => exact .source sourcePath now
  | mode startMode now elevation => exact .mode startMode now elevation
  | dnsStore enabled now => exact .dnsStore enabled now
  | links valid now => exact .links valid now
  | config parses free allowed sourcePath now => exact .config parses free allowed sourcePath now
  | resubmitted nameFree elevation now => exact .resubmitted (fun _ => nameFree rfl) elevation now

/-- The calls of a section: only the connection's own record, marker and helper are
touched, and the record changes in one of these ways. -/
def InSection (crates : Crates) (admitted : Prop) (id : ConnectionId) (state : StoreState) : StoreOp → Prop
  | .writeRecord stored => ∃ old, state.records id = some (.record old) ∧ old.id = id ∧ old.interface = id.interfaceName ∧
      RecordChange crates admitted false state old stored
  | .removeRecord other => other = id ∧ admitted
  | .lockIndex | .lockConnection _ _ | .unlockConnection _ => False
  | .unlockIndex | .listRecords | .custodyStatus | .verifyExternalForm _ | .newConnectionId | .sudoUid | .wgShow _
  | .networkOverview _ | .leaseTokenIsLive _ => True
  | op => OnTunnel id op

/-- The answers that refuse a request for want of authorization. -/
def PrivilegedResponse.refuses : PrivilegedResponse → Bool
  | .error .auth _ | .error .authRequired _ => true
  | _ => false

/-- A refusal leaves the records and the markers as they were. -/
def RefusalKeeps (state : StoreState) (response : PrivilegedResponse) (final : StoreState) : Prop :=
  response.refuses = true → final.records = state.records ∧ final.active = state.active

theorem RefusalKeeps.same (response : PrivilegedResponse) : RefusalKeeps state response state := fun _ => ⟨rfl, rfl⟩

/-- No other answer has anything to keep. -/
theorem RefusalKeeps.of_granted {response : PrivilegedResponse} (granted : response.refuses = false) (final : StoreState) :
    RefusalKeeps state response final := by
  intro refused
  rw [granted] at refused
  cases refused

theorem errorResponse_granted {error : AppError} (other : NotAuth error) : (errorResponse error).refuses = false := by
  cases error with
  | auth message => exact absurd rfl (other message)
  | _ => rfl

theorem OnTunnel.inSection {op : StoreOp} (tunnel : OnTunnel id op) : InSection crates admitted id state op := by
  cases op <;> first
    | exact tunnel
    | exact tunnel.elim

theorem OnTunnel.records {op : StoreOp} {reply : op.Reply} (tunnel : OnTunnel id op)
    (answered : storeEnvironment state op reply after) : after.records = state.records := by
  apply records_unchanged answered
  · rintro stored rfl
    exact tunnel
  · rintro other rfl
    exact tunnel

/-- A program of the tunnel, in a section: the records stay as they are. -/
theorem Tunnels.ensures (within : Within env) {A : Type} {p : StoreProgram (Except AppError A)} {post : A → Prop}
    (tunnels : Tunnels id p post) :
    @Ensures storeCommands _ _ env (InSection crates admitted id) p
      (fun result final => final.records = state.records ∧ Outcome NotAuth post result) state := by
  have kept := @Issues.keeps storeCommands _ _ _ _ _ env (fun s => s.records = state.records) state tunnels
    (fun s op reply after tunnel same answered => (tunnel.records (within _ _ _ _ answered)).trans same) rfl
  exact kept.relax fun _ _ both => both.2.inSection

/-- A tunnel's program as the last thing a handler does. -/
theorem Tunnels.answer (within : Within env) {start : StoreState} {p : StoreProgram (Except AppError Unit)}
    {post : Unit → Prop} (tunnels : Tunnels id p post) {response : PrivilegedResponse} (granted : response.refuses = false) :
    @Ensures storeCommands _ _ env (InSection crates admitted id) (Wgd.Store.answer response p) (RefusalKeeps start) state := by
  apply ensures_orRespond (Tunnels.ensures within tunnels)
  · intro error final holds
    exact .of_granted (errorResponse_granted holds.2) final
  · intro value final _
    exact .of_granted granted final

end Wgd.Store
