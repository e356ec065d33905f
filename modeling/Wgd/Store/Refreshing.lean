import Wgd.Interaction.Observed
import Wgd.Links.Pruning
import Wgd.Store.Discipline
import Wgd.Store.Script

/-! What a refresh makes of the stored record: nothing, or one replacement of the
configuration and everything that follows from it, written at once. -/

set_option autoImplicit false

namespace Wgd.Store

open Wgd.Interaction Wgd.Net Wgd.Links Wgd.Config Wgd.Helper

/-- A ghost of the records given to the store to write, the last one first. -/
def recordWrites (written : List StoredConnection) (op : StoreOp) (_ : op.Reply) : List StoredConnection :=
  match op with
  | .writeRecord stored => stored :: written
  | _ => written

/-- The store, with its writes noted. -/
abbrev noted : Environment storeCommands (StoreState × List StoredConnection) :=
  @Environment.observe storeCommands _ _ storeEnvironment recordWrites

/-- The configuration is the stored one; at most the source path is new. -/
inductive Resourced (crates : Crates) (confText : String) (old : StoredConnection) : StoredConnection → Prop where
  | intro {resolver : Resolver} {parsed : ConnectionConfig}
      (parses : parseConnectionConfig crates resolver (overriddenText confText old.mtuOverride) = .ok parsed)
      (same : fingerprint crates parsed = old.fingerprint) (sourcePath : Option String) (now : Nat) :
      Resourced crates confText old { old with sourcePath := sourcePath, updatedAt := now }

/-- Configuration, text, fingerprint and links are replaced together. -/
inductive Replaced (crates : Crates) (confText : String) (old : StoredConnection) : StoredConnection → Prop where
  | intro {resolver : Resolver} {parsed : ConnectionConfig}
      (parses : parseConnectionConfig crates resolver (overriddenText confText old.mtuOverride) = .ok parsed)
      (differs : fingerprint crates parsed ≠ old.fingerprint) (sourcePath : Option String) (now : Nat) :
      Replaced crates confText old
        { old with
          fingerprint := fingerprint crates parsed
          config := parsed
          rawConf := overriddenText confText old.mtuOverride
          bypassLinks := (pruneLinks old.bypassLinks (parsed.peers.flatMap ConnectionPeer.allowedIps)).links
          sourcePath := sourcePath
          updatedAt := now }

/-- The one write there may be. -/
structure Rewritten (crates : Crates) (id : ConnectionId) (confText : String) (start : StoreState)
    (config : StoreState × List StoredConnection) (old new : StoredConnection) : Prop where
  was : start.records id = some (.record old)
  once : config.2 = [new]
  becomes : Resourced crates confText old new ∨ Replaced crates confText old new

/-- Nothing is written yet, or one record was, which a failed write may have left as it was. -/
def Refreshing (crates : Crates) (id : ConnectionId) (confText : String) (start : StoreState)
    (config : StoreState × List StoredConnection) : Prop :=
  (config.2 = [] ∧ config.1.records = start.records) ∨
    ∃ old new, Rewritten crates id confText start config old new ∧
      (config.1.records = start.records ∨ config.1.records = Function.update start.records id (some (.record new)))

/-- What a refresh that succeeds has done. -/
def RefreshDone (crates : Crates) (id : ConnectionId) (confText : String) (start : StoreState) (outcome : RefreshOutcome)
    (config : StoreState × List StoredConnection) : Prop :=
  match outcome.changed with
  | true => ∃ old new, start.records id = some (.record old) ∧ config.2 = [new] ∧ Replaced crates confText old new ∧
      config.1.records = Function.update start.records id (some (.record new))
  | false => (config.2 = [] ∧ config.1.records = start.records) ∨
      ∃ old new, start.records id = some (.record old) ∧ config.2 = [new] ∧ Resourced crates confText old new ∧
        config.1.records = Function.update start.records id (some (.record new))

/-- How a refresh ends. -/
structure RefreshEnd (crates : Crates) (id : ConnectionId) (confText : String) (start : StoreState)
    (response : PrivilegedResponse) (config : StoreState × List StoredConnection) : Prop where
  state : Refreshing crates id confText start config
  done : ∀ outcome, response = .refreshed outcome → RefreshDone crates id confText start outcome config

variable {crates : Crates} {id : ConnectionId} {confText : String} {start state after : StoreState}
  {config : StoreState × List StoredConnection} {accepts : List UInt8 → Prop}

/-- Moments of a refresh, whatever is to be done next. -/
abbrev During (crates : Crates) (id : ConnectionId) (confText : String) (start : StoreState)
    (config : StoreState × List StoredConnection) (_ : StoreOp) : Prop :=
  Refreshing crates id confText start config

/-- An answer that is no outcome of a refresh. -/
def NoOutcome (response : PrivilegedResponse) : Prop := ∀ outcome, response ≠ .refreshed outcome

theorem errorResponse_noOutcome (error : AppError) : NoOutcome (errorResponse error) := by
  intro outcome same
  cases error <;> cases same

theorem lockErrorResponse_noOutcome (error : IoError) : NoOutcome (lockErrorResponse error) := by
  intro outcome same
  unfold lockErrorResponse at same
  split at same <;> cases same

theorem RefreshEnd.unwritten {response : PrivilegedResponse} (same : state.records = start.records)
    (other : NoOutcome response) : RefreshEnd crates id confText start response (state, []) :=
  ⟨.inl ⟨rfl, same⟩, fun outcome here => absurd here (other outcome)⟩

/-! ### Before the write -/

/-- The records are as they were, and this call writes none. -/
def Unwritten (start state : StoreState) (op : StoreOp) : Prop :=
  state.records = start.records ∧ ∀ stored, op ≠ .writeRecord stored

/-- What leaves the records alone goes on with nothing written. -/
theorem before_write {A : Type} {p : StoreProgram A} {post : A → StoreState → Prop}
    (ensured : @Ensures storeCommands _ _ storeEnvironment (Unwritten start) p post state) :
    @Ensures storeCommands _ _ noted (During crates id confText start) p
      (fun result config => post result config.1 ∧ config.2 = []) (state, []) := by
  have blind : ∀ s op (reply : op.Reply), Unwritten start s op → recordWrites [] op reply = [] := by
    intro s op reply quiet
    cases op
    case writeRecord stored => exact absurd rfl (quiet.2 stored)
    all_goals rfl
  have unseen := @Ensures.unseen storeCommands _ _ _ storeEnvironment recordWrites _ _ _ _ [] blind ensured
  exact unseen.relax fun config op holds => .inl ⟨holds.2, holds.1.1⟩

/-- The rule for a part that leaves the records alone, before the write. -/
theorem before_bind {A : Type} {p : StoreProgram A} {f : A → StoreProgram PrivilegedResponse}
    {mid : A → StoreState → Prop} {post : PrivilegedResponse → StoreState × List StoredConnection → Prop}
    (first : @Ensures storeCommands _ _ storeEnvironment (Unwritten start) p mid state)
    (rest : ∀ value after, mid value after →
      @Ensures storeCommands _ _ noted (During crates id confText start) (f value) post (after, [])) :
    @Ensures storeCommands _ _ noted (During crates id confText start) (p >>= f) post (state, []) := by
  apply ensures_bind (before_write first)
  rintro value ⟨after, written⟩ ⟨holds, rfl⟩
  exact rest value after holds

/-- The rule for a call that leaves everything as it is, before the write. -/
theorem before_quiet {A : Type} {op : StoreOp} {f : op.Reply → StoreProgram A} {post : A → StoreState × List StoredConnection → Prop}
    (quiet : ∀ reply after, storeEnvironment state op reply after → after = state) (noWrite : ∀ stored, op ≠ .writeRecord stored)
    (same : state.records = start.records)
    (rest : ∀ reply, @Ensures storeCommands _ _ noted (During crates id confText start) (f reply) post (state, [])) :
    @Ensures storeCommands _ _ noted (During crates id confText start) (storeCall op >>= f) post (state, []) := by
  apply Ensures.bind_iff.mpr
  refine ⟨.inl ⟨rfl, same⟩, ?_⟩
  intro reply config answered
  obtain ⟨after, written⟩ := config
  obtain ⟨answered, noting⟩ := answered
  dsimp only at answered noting
  cases quiet reply after answered
  have blind : recordWrites [] op reply = [] := by
    cases op
    case writeRecord stored => exact absurd rfl (noWrite stored)
    all_goals rfl
  rw [noting, blind]
  exact rest reply

/-- A program of the tunnel. -/
theorem tunnel_unwritten {A : Type} {p : StoreProgram (Except AppError A)} {known : A → Prop} (tunnels : Tunnels id p known)
    (same : state.records = start.records) :
    @Ensures storeCommands _ _ storeEnvironment (Unwritten start) p (fun _ after => after.records = start.records) state := by
  have kept := @Issues.keeps storeCommands _ _ _ _ _ storeEnvironment (fun s => s.records = start.records) state tunnels
    (fun s op reply after tunnel same answered => (tunnel.records answered).trans same) same
  refine (kept.mono fun _ _ holds => holds.1).relax fun s op holds => ⟨holds.1, ?_⟩
  rintro stored rfl
  exact holds.2

theorem requireAdminAuth_noOutcome (form : Option (List UInt8)) (cause : String) :
    @Issues storeCommands _ (fun _ => True) (requireAdminAuth form cause) (Outcome NoOutcome fun _ => True) := by
  cases form with
  | none =>
    intro outcome same
    cases same
  | some bytes =>
    apply issues_call trivial
    intro reply
    cases reply with
    | ok value => trivial
    | error error =>
      cases error <;>
        · intro outcome same
          cases same

theorem checkIdentityFree_noOutcome (stored : StoredConnection) (fingerprint : String) :
    @Issues storeCommands _ (fun _ => True) (checkIdentityFree stored fingerprint) (Outcome NoOutcome fun _ => True) := by
  apply Issues.bind (Issues.any _)
  intro found _
  cases found with
  | error error => exact errorResponse_noOutcome error
  | ok found =>
    cases found with
    | none => trivial
    | some other =>
      dsimp only
      split
      · trivial
      · intro outcome same
        cases same

theorem disconnectForRefresh_noOutcome (active : Option Bool) :
    @Issues storeCommands _ (fun _ => True) (disconnectForRefresh crates id active) (Outcome NoOutcome fun _ => True) := by
  cases active with
  | none => trivial
  | some debug =>
    apply Issues.bind (Issues.any _)
    intro outcome _
    cases outcome with
    | ok value => trivial
    | error error =>
      intro outcome same
      cases same

theorem disconnectForRefresh_unwritten (active : Option Bool) (same : state.records = start.records) :
    @Ensures storeCommands _ _ storeEnvironment (Unwritten start) (disconnectForRefresh crates id active)
      (fun _ after => after.records = start.records) state := by
  cases active with
  | none => exact same
  | some debug =>
    apply ensures_bind (tunnel_unwritten (@disconnect_teardown id crates).tunnels same)
    intro outcome after same
    cases outcome with
    | ok value => exact same
    | error error => exact same

/-! ### The write and what follows -/

/-- After the write nothing else happens to the records. -/
theorem after_write {A : Type} {p : StoreProgram A} {known : A → Prop} {settled : StoreState × List StoredConnection → Prop}
    {allowed : StoreOp → Prop} (issues : @Issues storeCommands _ allowed p known)
    (quiet : ∀ op, allowed op → (∀ stored, op ≠ .writeRecord stored) ∧ ∀ other, op ≠ .removeRecord other)
    (depends : ∀ first second, settled first → second.1.records = first.1.records → second.2 = first.2 → settled second)
    (here : settled config) :
    @Ensures storeCommands _ _ noted (fun config _ => settled config) p (fun result config => settled config ∧ known result)
      config := by
  have kept := @Issues.keeps storeCommands _ _ _ _ _ noted settled config issues ?_ here
  · exact kept.relax fun _ _ holds => holds.1
  intro s op reply after permitted holds answered
  obtain ⟨noWrite, noRemoval⟩ := quiet op permitted
  obtain ⟨answered, same⟩ := answered
  refine depends s after holds (records_unchanged answered noWrite noRemoval) (same.trans ?_)
  cases op
  case writeRecord stored => exact absurd rfl (noWrite stored)
  all_goals rfl

/-- What a save of the new record may come to. -/
def SavedOnce (start : StoreState) (new : StoredConnection) (result : Except AppError Unit)
    (config : StoreState × List StoredConnection) : Prop :=
  config.2 = [new] ∧
    match result with
    | .ok () => config.1.records = Function.update start.records new.id (some (.record new))
    | .error _ => config.1.records = start.records ∨
        config.1.records = Function.update start.records new.id (some (.record new))

theorem save_noted {new : StoredConnection} (same : state.records = start.records) :
    @Ensures storeCommands _ _ noted (During crates id confText start) (save new) (SavedOnce start new) (state, []) := by
  apply Ensures.bind_iff.mpr
  refine ⟨.inl ⟨rfl, same⟩, ?_⟩
  intro outcome config answered
  obtain ⟨after, written⟩ := config
  obtain ⟨answered, noting⟩ := answered
  dsimp only at answered noting
  subst noting
  refine ⟨rfl, ?_⟩
  rw [← same]
  cases answered
  cases outcome with
  | written => rfl
  | failed error => exact .inl rfl
  | unsynced error => exact .inr rfl

/-! ### The refresh -/

variable {old : StoredConnection}

theorem refreshUnchanged_noted (there : start.records id = some (.record old)) (named : old.id = id)
    {resolver : Resolver} {parsed : ConnectionConfig}
    (parses : parseConnectionConfig crates resolver (overriddenText confText old.mtuOverride) = .ok parsed)
    (same : fingerprint crates parsed = old.fingerprint) (sourcePath : Option String) :
    @Ensures storeCommands _ _ noted (During crates id confText start) (refreshUnchanged old sourcePath)
      (RefreshEnd crates id confText start) (start, []) := by
  subst named
  apply before_quiet (by exact fun _ _ answered => answered) (by simp) rfl
  intro _
  split
  · apply before_quiet (by exact fun _ _ answered => answered) (by simp) rfl
    intro now
    have resourced : Resourced crates confText old { old with sourcePath := sourcePath, updatedAt := now } :=
      .intro parses same sourcePath now
    apply ensures_orRespond (save_noted rfl)
    · intro error config saved
      exact ⟨.inr ⟨old, _, ⟨there, saved.1, .inl resourced⟩, saved.2⟩,
        fun outcome here => absurd here (errorResponse_noOutcome error outcome)⟩
    · intro value config saved
      refine ⟨.inr ⟨old, _, ⟨there, saved.1, .inl resourced⟩, .inr saved.2⟩, ?_⟩
      intro outcome here
      cases here
      exact .inr ⟨old, _, there, saved.1, resourced, saved.2⟩
  · refine ⟨.inl ⟨rfl, rfl⟩, ?_⟩
    intro outcome here
    cases here
    exact .inl ⟨rfl, rfl⟩

/-- The new record is there, and what follows leaves it. -/
def Placed (start : StoreState) (id : ConnectionId) (new : StoredConnection) (config : StoreState × List StoredConnection) :
    Prop :=
  config.2 = [new] ∧ config.1.records = Function.update start.records id (some (.record new))

theorem reconnectAfterRefresh_noted {new : StoredConnection} (there : start.records id = some (.record old))
    (replaced : Replaced crates confText old new) (placed : Placed start id new config) (active : Option Bool)
    (linksRemoved : List String) :
    @Ensures storeCommands _ _ noted (During crates id confText start) (reconnectAfterRefresh crates id active linksRemoved)
      (RefreshEnd crates id confText start) config := by
  have ends : ∀ {response config}, Placed start id new config →
      (∀ outcome, response = .refreshed outcome → outcome.changed = true) →
      RefreshEnd crates id confText start response config := by
    intro response config placed changes
    refine ⟨.inr ⟨old, new, ⟨there, placed.1, .inr replaced⟩, .inr placed.2⟩, ?_⟩
    intro outcome here
    rw [RefreshDone, changes outcome here]
    exact ⟨old, new, there, placed.1, replaced, placed.2⟩
  cases active with
  | none =>
    apply ends placed
    intro outcome here
    cases here
    rfl
  | some debug =>
    have quiet : ∀ op, OnTunnel id op → (∀ stored, op ≠ .writeRecord stored) ∧ ∀ other, op ≠ .removeRecord other := by
      intro op tunnel
      cases op <;> first
        | exact tunnel.elim
        | exact ⟨by simp, by simp⟩
    have kept := @after_write config _ _ _ (Placed start id new) _ (@connect_tunnels id crates debug) quiet
      (fun first second settled records written => ⟨written.trans settled.1, records.trans settled.2⟩) placed
    apply ensures_bind (kept.relax fun config _ placed => .inr ⟨old, new, ⟨there, placed.1, .inr replaced⟩, .inr placed.2⟩)
    intro outcome config settled
    cases outcome with
    | ok value =>
      apply ends settled.1
      intro outcome here
      cases here
      rfl
    | error error =>
      apply ends settled.1
      intro outcome here
      cases here

theorem replaceConfiguration_noted (there : start.records id = some (.record old)) (named : old.id = id)
    {resolver : Resolver} {parsed : ConnectionConfig}
    (parses : parseConnectionConfig crates resolver (overriddenText confText old.mtuOverride) = .ok parsed)
    (differs : fingerprint crates parsed ≠ old.fingerprint) (sourcePath : Option String) (form : Option (List UInt8)) :
    @Ensures storeCommands _ _ noted (During crates id confText start)
      (replaceConfiguration crates old (fingerprint crates parsed) parsed (overriddenText confText old.mtuOverride) sourcePath form)
      (RefreshEnd crates id confText start) (start, []) := by
  subst named
  have unwritten : ∀ {op : StoreOp}, (∀ stored, op ≠ .writeRecord stored) → Unwritten start start op := fun none => ⟨rfl, none⟩
  apply before_bind ((checkIdentityFree_ensures within_storeEnvironment (unwritten (by simp))).and_issues
    (checkIdentityFree_noOutcome old (fingerprint crates parsed)))
  rintro outcome _ ⟨⟨rfl, -⟩, refused⟩
  cases outcome with
  | error response => exact .unwritten rfl refused
  | ok value =>
  apply before_bind ((requireAdminAuth_ensures within_storeEnvironment fun bytes => unwritten (by simp)).and_issues
    (requireAdminAuth_noOutcome form refreshCause))
  rintro outcome _ ⟨rfl, refused⟩
  cases outcome with
  | error response => exact .unwritten rfl refused
  | ok value =>
  apply before_bind (activeDebug_ensures within_storeEnvironment (unwritten (by simp)) fun path => unwritten (by simp))
  rintro active _ ⟨rfl, -⟩
  cases active with
  | error error => exact .unwritten rfl (errorResponse_noOutcome error)
  | ok active =>
  apply before_bind ((disconnectForRefresh_unwritten active rfl).and_issues (disconnectForRefresh_noOutcome active))
  rintro outcome after ⟨same, refused⟩
  cases outcome with
  | error response => exact .unwritten same refused
  | ok value =>
  apply before_quiet (by exact fun _ _ answered => answered) (by simp) same
  intro now
  have replaced : Replaced crates confText old
      { (old.refreshed (fingerprint crates parsed) parsed (overriddenText confText old.mtuOverride) sourcePath).1 with
        updatedAt := now } := .intro parses differs _ now
  apply ensures_orRespond (save_noted same)
  · intro error config saved
    exact ⟨.inr ⟨old, _, ⟨there, saved.1, .inr replaced⟩, saved.2⟩,
      fun outcome here => absurd here (errorResponse_noOutcome error outcome)⟩
  · intro value config saved
    have placed : Placed _ _ _ config := saved
    have unlocked := @after_write config _ _ _ (Placed _ _ _) (· = .unlockIndex) (Issues.command_iff.mpr ⟨rfl, fun _ => trivial⟩)
      (fun op same => by subst same; exact ⟨by simp, by simp⟩)
      (fun first second settled records written => ⟨written.trans settled.1, records.trans settled.2⟩) placed
    apply ensures_bind (unlocked.relax fun config _ placed => .inr ⟨old, _, ⟨there, placed.1, .inr replaced⟩, .inr placed.2⟩)
    intro _ config settled
    exact reconnectAfterRefresh_noted there replaced settled.1 active _

/-- Under both locks. -/
theorem refreshLocked_noted (sourcePath : Option String) (form : Option (List UInt8)) :
    @Ensures storeCommands _ _ noted (During crates id confText start) (refreshLocked crates id confText sourcePath form)
      (RefreshEnd crates id confText start) (start, []) := by
  have unwritten : ∀ {op : StoreOp}, (∀ stored, op ≠ .writeRecord stored) → Unwritten start start op := fun none => ⟨rfl, none⟩
  apply before_bind (load_ensures within_storeEnvironment (unwritten (by simp)))
  rintro found _ ⟨rfl, loaded⟩
  cases found with
  | error error => exact .unwritten rfl (errorResponse_noOutcome error)
  | ok found =>
  cases found with
  | none => exact .unwritten rfl (fun outcome same => by cases same)
  | some old =>
  obtain ⟨there, named, -⟩ := loaded
  apply before_quiet (by exact fun _ _ answered => answered) (by simp) rfl
  intro resolver
  split
  next error failed => exact .unwritten rfl (errorResponse_noOutcome error)
  next parsed parses =>
    split
    next same => exact refreshUnchanged_noted there named parses same sourcePath
    next differs => exact replaceConfiguration_noted there named parses differs sourcePath form

theorem RefreshEnd.depends {response : PrivilegedResponse} {first second : StoreState × List StoredConnection}
    (ends : RefreshEnd crates id confText start response first) (records : second.1.records = first.1.records)
    (written : second.2 = first.2) : RefreshEnd crates id confText start response second := by
  obtain ⟨firstState, firstWritten⟩ := first
  obtain ⟨secondState, secondWritten⟩ := second
  dsimp only at records written
  subst written
  obtain ⟨state, done⟩ := ends
  constructor
  · rcases state with ⟨none, same⟩ | ⟨old, new, ⟨was, once, becomes⟩, there⟩
    · exact .inl ⟨none, records.trans same⟩
    · exact .inr ⟨old, new, ⟨was, once, becomes⟩, by rwa [records]⟩
  · intro outcome here
    have holds := done outcome here
    unfold RefreshDone at holds ⊢
    rw [records]
    exact holds

/-- A lock is taken before and given back after. -/
theorem withLock_noted {lock unlock : StoreOp} {f : lock.Reply → StoreProgram PrivilegedResponse}
    {body : StoreProgram PrivilegedResponse}
    (quiet : ∀ reply after, storeEnvironment start lock reply after → after = start) (noWrite : ∀ stored, lock ≠ .writeRecord stored)
    (gives : (∀ stored, unlock ≠ .writeRecord stored) ∧ ∀ other, unlock ≠ .removeRecord other)
    (held : @Ensures storeCommands _ _ noted (During crates id confText start) body (RefreshEnd crates id confText start) (start, []))
    (takes : ∀ reply, (∃ response, f reply = pure response ∧ NoOutcome response) ∨
      f reply = body >>= fun response => storeCall unlock >>= fun _ => pure response) :
    @Ensures storeCommands _ _ noted (During crates id confText start) (storeCall lock >>= f) (RefreshEnd crates id confText start)
      (start, []) := by
  apply before_quiet quiet noWrite rfl
  intro reply
  rcases takes reply with ⟨response, refused, other⟩ | taken
  · rw [refused]
    exact .unwritten rfl other
  · rw [taken]
    apply ensures_bind held
    intro response config ends
    have unlocked := @after_write config _ _ _ (RefreshEnd crates id confText start response) (· = unlock)
      (Issues.command_iff.mpr ⟨rfl, fun _ => trivial⟩) (fun op same => by subst same; exact gives)
      (fun first second ends records written => ends.depends records written) ends
    apply ensures_bind (unlocked.relax fun config _ ends => ends.state)
    intro _ config settled
    exact settled.1

theorem refreshConnection_noted (sourcePath : Option String) (form : Option (List UInt8)) :
    @Ensures storeCommands _ _ noted (During crates id confText start) (refreshConnection crates id confText sourcePath form)
      (RefreshEnd crates id confText start) (start, []) := by
  have inner : @Ensures storeCommands _ _ noted (During crates id confText start)
      (withConnectionLock id .bounded (refreshLocked crates id confText sourcePath form)) (RefreshEnd crates id confText start)
      (start, []) := by
    apply @withLock_noted crates id confText start (.lockConnection id .bounded) (.unlockConnection id)
      _ _ (by exact fun _ _ answered => answered) (by simp) ⟨by simp, by simp⟩ (refreshLocked_noted sourcePath form)
    intro reply
    cases reply with
    | error error => exact .inl ⟨_, rfl, lockErrorResponse_noOutcome error⟩
    | ok value => exact .inr rfl
  apply @withLock_noted crates id confText start .lockIndex .unlockIndex
    _ _ (by exact fun _ _ answered => answered) (by simp) ⟨by simp, by simp⟩ inner
  intro reply
  cases reply with
  | error error => exact .inl ⟨_, rfl, lockErrorResponse_noOutcome error⟩
  | ok value => exact .inr rfl

/-! ### The whole run -/

/-- At any moment of a refresh, and whatever the resolver, the authorization, the disconnect and the disk
say: until the one write the records are as they were; the write replaces configuration, text, fingerprint
and links together, or only the source path when the fingerprint is the stored one, and keeps everything
else; and what the answer tells is what was written. The links then validate if there were not too many. -/
theorem refresh_atomic {sourcePath : Option String} {form : Option (List UInt8)} {written : List StoredConnection}
    {rest : StoreProgram PrivilegedResponse}
    (run : @Runs storeCommands _ _ noted ((start, []), refreshConnection crates id confText sourcePath form)
      ((state, written), rest)) :
    (written = [] → state.records = start.records) ∧
    (∀ new ∈ written, written = [new] ∧ ∃ old, start.records id = some (.record old) ∧
      (state.records = start.records ∨ state.records = Function.update start.records id (some (.record new))) ∧
      ∃ resolver parsed,
        parseConnectionConfig crates resolver (overriddenText confText old.mtuOverride) = .ok parsed ∧
        (fingerprint crates parsed = old.fingerprint →
          new = { old with sourcePath := new.sourcePath, updatedAt := new.updatedAt }) ∧
        (fingerprint crates parsed ≠ old.fingerprint →
          new = { old with
            fingerprint := fingerprint crates parsed
            config := parsed
            rawConf := overriddenText confText old.mtuOverride
            bypassLinks := (pruneLinks old.bypassLinks (parsed.peers.flatMap ConnectionPeer.allowedIps)).links
            sourcePath := new.sourcePath
            updatedAt := new.updatedAt } ∧
          (Sized old.bypassLinks → Validates new.bypassLinks new.allowedIps))) ∧
    ∀ outcome, rest = .done (.refreshed outcome) → RefreshDone crates id confText start outcome (state, written) := by
  have ensured := (refreshConnection_noted sourcePath form).runs run
  have moment : Refreshing crates id confText start (state, written) := by
    cases rest with
    | done response => exact RefreshEnd.state ensured
    | call op next => exact ensured.1
  refine ⟨?_, ?_, ?_⟩
  · intro none
    rcases moment with ⟨-, same⟩ | ⟨old, new, rewritten, -⟩
    · exact same
    · cases none.symm.trans rewritten.once
  · intro new member
    rcases moment with ⟨none, -⟩ | ⟨old, other, rewritten, records⟩
    · cases none
      cases member
    obtain ⟨was, once, becomes⟩ := rewritten
    dsimp only at once records
    subst once
    cases List.mem_singleton.mp member
    refine ⟨rfl, old, was, records, ?_⟩
    rcases becomes with becomes | becomes
    · cases becomes with
      | intro parses same source now => exact ⟨_, _, parses, fun _ => rfl, fun differs => absurd same differs⟩
    · cases becomes with
      | intro parses differs source now =>
        exact ⟨_, _, parses, fun same => absurd same differs, fun _ => ⟨rfl, fun sized => (pruning_exact sized).1⟩⟩
  · intro outcome here
    subst here
    exact RefreshEnd.done ensured outcome rfl

theorem oversized_anchor : 32 ≤ (IpAddr.v4 0x0a000002).hostPrefix := by decide

theorem oversized_network : 8 ≤ (IpAddr.v4 0x0a000000).hostPrefix := by decide

/-- Its fingerprint is of another text, and it has more links than may be stored. -/
def oversized : StoredConnection :=
  { exampleStored with
    fingerprint := "of another text"
    bypassLinks := List.replicate 33 (.new ⟨.v4 0x0a000002, 32, oversized_anchor⟩ [⟨.v4 0x0a000000, 8, oversized_network⟩]) }

def bothText : String :=
  "[Interface]\nPrivateKey = AAAAAAAAAAAAAAAAAAAAAAAAAAAAAAAAAAAAAAAAAAA=\nAddress = 10.0.0.2/32\n" ++
    "[Peer]\nPublicKey = AAAAAAAAAAAAAAAAAAAAAAAAAAAAAAAAAAAAAAAAAAA=\nAllowedIPs = 10.0.0.0/8, 10.0.0.2/32\n"

def refreshScript (stored : StoredConnection) : PrivilegedResponse × Scripted × List StoredConnection :=
  interpret (@Handler.observe storeCommands _ _ (scriptedStore { workingCues with accepts := fun _ => true }) recordWrites)
    (refreshConnection exampleCrates exampleId bothText none (some [1])) (emptyScript.putRecord stored, [])

theorem refreshScript_runs (stored : StoredConnection) :
    @Completes storeCommands _ _ noted (refreshConnection exampleCrates exampleId bothText none (some [1]))
      ((emptyScript.putRecord stored).state, []) (refreshScript stored).1
      ((refreshScript stored).2.1.state, (refreshScript stored).2.2) :=
  interpret_completes ((scriptedStore_faithful { workingCues with accepts := fun _ => true }).observe recordWrites)
    (emptyScript.putRecord stored, []) (refreshConnection exampleCrates exampleId bothText none (some [1]))

/-- A refresh that replaces the configuration, of a record with few enough links. -/
def driftedStored : StoredConnection := { exampleStored with fingerprint := "of another text" }

theorem refresh_atomic_drifted : ∃ new, (refreshScript driftedStored).2.2 = [new] ∧
    new.rawConf = bothText ∧ Validates new.bypassLinks new.allowedIps := by
  have one : (refreshScript driftedStored).2.2.length = 1 := by decide +kernel
  obtain ⟨new, written⟩ := List.length_eq_one_iff.mp one
  obtain ⟨-, writes, -⟩ := refresh_atomic (refreshScript_runs driftedStored)
  obtain ⟨-, old, was, -, resolver, parsed, -, -, replaces⟩ := writes new (by rw [written]; exact List.mem_cons_self)
  have there : (emptyScript.putRecord driftedStored).state.records exampleId = some (.record driftedStored) := withRecord_same _
  cases was.symm.trans there
  have differs : fingerprint exampleCrates parsed ≠ driftedStored.fingerprint := by
    have same : fingerprint exampleCrates parsed = fingerprint exampleCrates exampleConfig := rfl
    rw [same]
    decide +kernel
  obtain ⟨replaced, validates⟩ := replaces differs
  refine ⟨new, written, ?_, validates ⟨by decide, by simp [driftedStored, exampleStored]⟩⟩
  rw [replaced]
  rfl

/-- No size is checked when links are pruned. -/
theorem not_validates_oversized : ¬∀ (crates : Crates) (id : ConnectionId) (confText : String) (sourcePath : Option String)
    (form : Option (List UInt8)) (start state : StoreState) (new : StoredConnection) (outcome : RefreshOutcome),
    @Completes storeCommands _ _ noted (refreshConnection crates id confText sourcePath form) (start, []) (.refreshed outcome)
      (state, [new]) → Validates new.bypassLinks new.allowedIps := by
  intro all
  have one : (refreshScript oversized).2.2.length = 1 := by decide +kernel
  obtain ⟨new, written⟩ := List.length_eq_one_iff.mp one
  have answered : (refreshScript oversized).1 = .refreshed ⟨true, false, []⟩ := by decide +kernel
  have valid := all exampleCrates exampleId bothText none (some [1]) (emptyScript.putRecord oversized).state
    (refreshScript oversized).2.1.state new ⟨true, false, []⟩
  rw [← answered, ← written] at valid
  have invalid : ((refreshScript oversized).2.2.all fun new => (validateLinks new.bypassLinks new.allowedIps).invalid.isEmpty) = false := by
    decide +kernel
  rw [written] at invalid
  have holds := valid (refreshScript_runs oversized)
  simp only [Validates] at holds
  simp [holds] at invalid

end Wgd.Store
