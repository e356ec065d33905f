import Wgd.Client.Requests
import Wgd.Interaction.Parallel
import Wgd.Store.Script

/-! `connection config` (`connection_cli.rs`), and several of it at a time on one connection: what
`--add-link` adds, and what was stored before, is still stored when all are done, unless a link was
stored behind a command's back. -/

set_option autoImplicit false

namespace Wgd.Client

open Wgd.Interaction Wgd.Net Wgd.Links Wgd.Config Wgd.Helper Wgd.Store

/-! ### The command -/

inductive LinkChange where
  | set (links : List BypassLink)
  | add (links : List BypassLink)

/-- The list to store, from what the connection showed before. -/
def LinkChange.links (before : ConnectionSummary) : LinkChange → List BypassLink
  | .set links => links
  | .add added => mergeLinks (before.bypassLinks.map Prod.fst) added

def changeLinks (id : ConnectionId) (before : ConnectionSummary) : Option LinkChange → ClientProgram (Except AppError Unit)
  | some change => setConnectionBypassLinks id (change.links before)
  | none => .done (.ok ())

def changeDns (id : ConnectionId) : Option Bool → ClientProgram (Except AppError Unit)
  | some enabled => setConnectionDnsDynamicStore id enabled
  | none => .done (.ok ())

def reconnect (conn : ConnectionSummary) : ClientProgram (Except AppError Unit) := do
  match ← reconnectConnection conn.id with
  | .ok _ => return .ok ()
  | .error error =>
    return .error (.other
      s!"could not apply the change to {label conn.id conn.name} by reconnecting it: {error.toText}")

/-- Whether a reconnect would bring anything new. -/
def changed (before conn : ConnectionSummary) : Bool :=
  conn.dnsDynamicStore != before.dnsDynamicStore || conn.bypassLinks != before.bypassLinks

/-- Links first: the daemon may reject them, and that must not leave the DNS switch half applied. -/
def cmdConfig (id : ConnectionId) (dns : Option Bool) (links : Option LinkChange) (apply : Bool) :
    ClientProgram (Except AppError Unit) :=
  (getConnection id).attempt fun before =>
    if dns.isNone && links.isNone then .done (.ok ())
    else
      (changeLinks id before links).attempt fun () =>
      (changeDns id dns).attempt fun () =>
      (getConnection id).attempt fun conn =>
        if conn.connected && changed before conn && apply then reconnect conn else .done (.ok ())

/-! ### Several commands -/

section Commands

variable {I : Type} [DecidableEq I]

/-- The links each command has last seen. -/
def noteShown (party : I) (shown : I → List BypassLink) (request : PrivilegedRequest)
    (reply : Except AppError PrivilegedResponse) : I → List BypassLink :=
  match request, reply with
  | .getConnection _, .ok (.connection summary) => Function.update shown party (summary.bypassLinks.map Prod.fst)
  | _, _ => shown

/-- The daemon as each command meets it. -/
def commandEnvironment (crates : Crates) (origin : I → PeerOrigin) (party : I) :
    Environment clientCommands (StoreState × (I → List BypassLink)) :=
  @Environment.observe clientCommands _ _ (daemon crates (origin party)) (noteShown party)

/-- Whatever is stored when the command's list comes in, the command has seen, or adds itself. -/
def UpToDate (id : ConnectionId) (added : I → List BypassLink) (party : I)
    (config : StoreState × (I → List BypassLink)) (request : PrivilegedRequest) : Prop :=
  match request with
  | .setConnectionBypassLinks _ _ => ∀ stored, config.1.records id = some (.record stored) → ∀ anchor network,
      Linked stored.bypassLinks anchor network → Linked (config.2 party ++ added party) anchor network
  | _ => True

/-- The daemon in runs in which every list that comes in is up to date. -/
def upToDateEnvironment (crates : Crates) (origin : I → PeerOrigin) (id : ConnectionId) (added : I → List BypassLink)
    (party : I) : Environment clientCommands (StoreState × (I → List BypassLink)) :=
  (commandEnvironment crates origin party).meeting fun config request _ => UpToDate id added party config request

/-! ### What a command relies on, and what it does -/

/-- Nothing stored is lost. -/
def Grows (id : ConnectionId) (before after : StoreState) : Prop :=
  ∀ old, before.records id = some (.record old) → ∃ stored, after.records id = some (.record stored) ∧
    ∀ anchor network, Linked old.bypassLinks anchor network → Linked stored.bypassLinks anchor network

theorem Grows.refl (id : ConnectionId) (state : StoreState) : Grows id state state :=
  fun old there => ⟨old, there, fun _ _ linked => linked⟩

theorem Grows.trans {id : ConnectionId} {first second third : StoreState} (earlier : Grows id first second)
    (later : Grows id second third) : Grows id first third := by
  intro old there
  obtain ⟨middle, between, kept⟩ := earlier old there
  obtain ⟨stored, now, kept'⟩ := later middle between
  exact ⟨stored, now, fun anchor network linked => kept' anchor network (kept anchor network linked)⟩

instance (id : ConnectionId) : Std.Refl (Grows id) := ⟨Grows.refl id⟩

instance (id : ConnectionId) : IsTrans StoreState (Grows id) := ⟨fun _ _ _ => Grows.trans⟩

/-- What one command relies on: the others lose nothing, and cannot change what it has seen. -/
def relies (id : ConnectionId) (party : I) (before after : StoreState × (I → List BypassLink)) : Prop :=
  Grows id before.1 after.1 ∧ after.2 party = before.2 party

instance (id : ConnectionId) (party : I) : Std.Refl (relies id party) := ⟨fun config => ⟨.refl id config.1, rfl⟩⟩

instance (id : ConnectionId) (party : I) : IsTrans (StoreState × (I → List BypassLink)) (relies id party) :=
  ⟨fun _ _ _ earlier later => ⟨earlier.1.trans later.1, later.2.trans earlier.2⟩⟩

/-- The list that comes in is what the command saw with what it adds. -/
def merges (id : ConnectionId) (added : I → List BypassLink) (party : I) (config : StoreState × (I → List BypassLink)) :
    PrivilegedRequest → Prop
  | .setConnectionBypassLinks other links => other = id ∧ links = mergeLinks (config.2 party) (added party)
  | .setConnectionDnsDynamicStore other _ => other = id
  | .getConnection _ | .reconnectConnection _ => True
  | _ => False

/-- What the command adds is stored. -/
def Stores (id : ConnectionId) (added : List BypassLink) (state : StoreState) : Prop :=
  ∃ stored, state.records id = some (.record stored) ∧ ∀ anchor network, Linked added anchor network →
    Linked stored.bypassLinks anchor network

theorem Stores.grows {id : ConnectionId} {added : List BypassLink} {before after : StoreState}
    (stores : Stores id added before) (grows : Grows id before after) : Stores id added after := by
  obtain ⟨old, there, kept⟩ := stores
  obtain ⟨stored, now, kept'⟩ := grows old there
  exact ⟨stored, now, fun anchor network linked => kept' anchor network (kept anchor network linked)⟩

theorem Grows.of_records {id : ConnectionId} {before after : StoreState} (same : after.records id = before.records id) :
    Grows id before after :=
  fun old there => ⟨old, same.trans there, fun _ _ linked => linked⟩

/-- A setting loses nothing if the new links have all the old ones. -/
theorem Resets.grows {id : ConnectionId} {change : List BypassLink → List BypassLink} {before after : StoreState}
    {response : PrivilegedResponse} (resets : Resets id change before response after)
    (keeps : ∀ old, before.records id = some (.record old) → ∀ anchor network,
      Linked old.bypassLinks anchor network → Linked (change old.bypassLinks) anchor network) : Grows id before after := by
  cases resets with
  | inl failed => exact .of_records failed.2
  | inr changed =>
    obtain ⟨old, stored, there, now, links⟩ := changed
    intro other there'
    cases there.symm.trans there'
    refine ⟨stored, now, fun anchor network linked => ?_⟩
    rw [links]
    exact keeps old there anchor network linked

theorem daemon_serves {crates : Crates} {origin : PeerOrigin} {state after : StoreState} {request : PrivilegedRequest}
    {reply : Except AppError PrivilegedResponse} (answered : daemon crates origin state request reply after) :
    after = state ∨ ∃ response, Serves crates origin request state response after := by
  cases reply with
  | ok response => exact .inr ⟨response, answered⟩
  | error error => exact answered

variable {crates : Crates} {origin : I → PeerOrigin} {id : ConnectionId} {added : I → List BypassLink}
  {config after : StoreState × (I → List BypassLink)} {request : PrivilegedRequest} {reply : Except AppError PrivilegedResponse}

/-- A list that is up to date loses nothing. -/
theorem merges_grow {party : I} (permitted : merges id added party config request)
    (answered : upToDateEnvironment crates origin id added party config request reply after) :
    Grows id config.1 after.1 := by
  obtain ⟨upToDate, answered, -⟩ := answered
  cases daemon_serves answered with
  | inl same => exact .of_records (by rw [same])
  | inr served =>
    obtain ⟨response, serves⟩ := served
    cases request with
    | setConnectionBypassLinks other links =>
      obtain ⟨rfl, rfl⟩ := permitted
      apply serves.setsLinks.grows
      intro old there anchor network linked
      rw [linked_canonical, linked_mergeLinks, ← linked_append]
      exact upToDate old there anchor network linked
    | setConnectionDnsDynamicStore other enabled =>
      cases permitted
      exact serves.setsDns.grows fun _ _ _ _ linked => linked
    | getConnection other => exact .of_records (by rw [serves.shows.1])
    | reconnectConnection other => exact .of_records (by rw [serves.reconnects])
    | _ => exact permitted.elim

theorem noteShown_other {mover other : I} (apart : mover ≠ other) (shown : I → List BypassLink) :
    noteShown mover shown request reply other = shown other := by
  unfold noteShown
  split
  · exact Function.update_of_ne (Ne.symm apart) _ _
  · rfl

omit [DecidableEq I] in
/-- The moves of the others leave a command's next request as it should be. -/
theorem merges_steady {party : I} (relied : relies id party config after) (permitted : merges id added party config request) :
    merges id added party after request := by
  cases request with
  | setConnectionBypassLinks other links =>
    constructor
    · exact permitted.1
    · rw [relied.2]
      exact permitted.2
  | _ => exact permitted

/-- What a command relies on is what all the others keep to. -/
theorem merges_compatible : @Compatible clientCommands _ (Except AppError Unit) I (upToDateEnvironment crates origin id added)
    (relies id) (merges id added) (fun party result config => result = .ok () → Stores id (added party) config.1) := by
  constructor
  · intro party before after request relied permitted
    exact merges_steady relied permitted
  · intro party before after result relied posted fine
    exact (posted fine).grows relied.1
  · intro mover other before after request reply apart permitted answered
    constructor
    · exact merges_grow permitted answered
    · rw [answered.2.2]
      exact noteShown_other apart before.2

/-! ### One command among the others -/

/-- A request among the moves of the others: nothing is lost, and a response is one to the request
as it came in. -/
theorem send_ensures {party : I} (permitted : merges id added party config request) :
    @Ensures clientCommands _ _ ((upToDateEnvironment crates origin id added party).after (relies id party))
      (merges id added party) (send request)
      (fun result final => Grows id config.1 final.1 ∧ ∀ response, result = .ok response →
        ¬Fails response ∧ ∃ changed, upToDateEnvironment crates origin id added party changed request (.ok response) final)
      config := by
  constructor
  · exact permitted
  · intro reply final answered
    obtain ⟨changed, changes, answered⟩ := answered
    have relied : relies id party config changed := by rwa [Relation.reflTransGen_eq_self] at changes
    have grown : Grows id config.1 final.1 := relied.1.trans (merges_grow (merges_steady relied permitted) answered)
    cases reply with
    | error error => exact ⟨grown, fun response same => by cases same⟩
    | ok raw =>
      constructor
      · exact grown
      · intro response same
        cases mapPrivilegedError_ok same
        exact ⟨fun fails => fails.mapped raw same, changed, answered⟩

/-- What a command has seen is what the connection showed it. -/
theorem getConnection_ensures {party : I} :
    @Ensures clientCommands _ _ ((upToDateEnvironment crates origin id added party).after (relies id party))
      (merges id added party) (getConnection id)
      (fun result final => Grows id config.1 final.1 ∧ ∀ summary, result = .ok summary →
        final.2 party = summary.bypassLinks.map Prod.fst) config := by
  apply Ensures.attempt_iff.mpr
  have asked : merges id added party config (.getConnection id) := trivial
  apply (send_ensures asked).mono
  intro outcome final sent
  cases outcome with
  | error error => exact ⟨sent.1, fun summary same => by cases same⟩
  | ok response =>
    obtain ⟨grown, shown⟩ := sent
    obtain ⟨-, changed, answered⟩ := shown response rfl
    have noted : final.2 = noteShown party changed.2 (.getConnection id) (.ok response) := answered.2.2
    cases response with
    | connection summary =>
      constructor
      · exact grown
      · intro other same
        cases same
        rw [noted]
        exact Function.update_self _ _ _
    | _ => exact ⟨grown, fun summary same => by cases same⟩

/-- Once the list is in, what the command adds is stored. -/
theorem changeLinks_ensures {party : I} {before : ConnectionSummary}
    (seen : config.2 party = before.bypassLinks.map Prod.fst) :
    @Ensures clientCommands _ _ ((upToDateEnvironment crates origin id added party).after (relies id party))
      (merges id added party) (changeLinks id before (some (.add (added party))))
      (fun result final => result = .ok () → Stores id (added party) final.1) config := by
  have permitted : merges id added party config
      (.setConnectionBypassLinks id (mergeLinks (before.bypassLinks.map Prod.fst) (added party))) := ⟨rfl, by rw [seen]⟩
  apply Ensures.attempt_iff.mpr
  apply (send_ensures permitted).mono
  intro outcome final sent
  cases outcome with
  | error error => exact fun same => by cases same
  | ok response =>
    intro _
    obtain ⟨fine, changed, answered⟩ := sent.2 response rfl
    have serves : Serves crates (origin party) _ changed.1 response final.1 := answered.2.1
    cases serves.setsLinks with
    | inl failed => exact absurd failed.1 fine
    | inr stored =>
      obtain ⟨_, stored, _, now, links⟩ := stored
      refine ⟨stored, now, fun anchor network linked => ?_⟩
      rw [links, linked_canonical, linked_mergeLinks]
      exact .inr linked

theorem changeDns_ensures {party : I} (dns : Option Bool) :
    @Ensures clientCommands _ _ ((upToDateEnvironment crates origin id added party).after (relies id party))
      (merges id added party) (changeDns id dns) (fun _ final => Grows id config.1 final.1) config := by
  cases dns with
  | none => exact .refl id config.1
  | some enabled =>
    have asked : merges id added party config (.setConnectionDnsDynamicStore id enabled) := rfl
    apply Ensures.attempt_iff.mpr
    apply (send_ensures asked).mono
    intro outcome final sent
    cases outcome <;> exact sent.1

theorem reconnect_ensures {party : I} (conn : ConnectionSummary) :
    @Ensures clientCommands _ _ ((upToDateEnvironment crates origin id added party).after (relies id party))
      (merges id added party) (reconnect conn) (fun _ final => Grows id config.1 final.1) config := by
  have asked : merges id added party config (.reconnectConnection conn.id) := trivial
  apply Ensures.bind_iff.mpr
  apply Ensures.attempt_iff.mpr
  apply (send_ensures asked).mono
  intro outcome final sent
  cases outcome with
  | error error => exact sent.1
  | ok response =>
    cases response <;> exact sent.1

/-- A command that succeeds has stored what it adds, and nothing has been lost since. -/
theorem cmdConfig_ensures {party : I} (dns : Option Bool) (apply : Bool) :
    @Ensures clientCommands _ _ ((upToDateEnvironment crates origin id added party).after (relies id party))
      (merges id added party) (cmdConfig id dns (some (.add (added party))) apply)
      (fun result final => result = .ok () → Stores id (added party) final.1) config := by
  have stops : ∀ (error : AppError) (final : StoreState × (I → List BypassLink)),
      (Except.error error : Except AppError Unit) = .ok () → Stores id (added party) final.1 := by
    intro error final same
    cases same
  apply Ensures.attempt_iff.mpr
  apply getConnection_ensures.mono
  intro before looked shown
  cases before with
  | error error => exact stops error looked
  | ok before =>
    simp only [Option.isNone_some, Bool.and_false, Bool.false_eq_true, if_false]
    apply Ensures.attempt_iff.mpr
    apply (changeLinks_ensures (shown.2 before rfl)).mono
    intro linked relinked stored
    cases linked with
    | error error => exact stops error relinked
    | ok value =>
      apply Ensures.attempt_iff.mpr
      apply (changeDns_ensures dns).mono
      intro switched settled grown
      cases switched with
      | error error => exact stops error settled
      | ok value =>
        apply Ensures.attempt_iff.mpr
        apply getConnection_ensures.mono
        intro conn again grown'
        have kept : Stores id (added party) again.1 := ((stored rfl).grows grown).grows grown'.1
        cases conn with
        | error error => exact stops error again
        | ok conn =>
          dsimp only
          split
          · apply (reconnect_ensures conn).mono
            intro result final grown'' _
            exact kept.grows grown''
          · exact fun _ => kept

/-- Commands that add links lose nothing between them, whatever the order of their requests, as
long as each list is up to date when it comes in. -/
theorem added_links_kept {dns : I → Option Bool} {apply : I → Bool} {start later : StoreState} {stored : StoredConnection}
    {seen : I → List BypassLink} {rest : I → ClientProgram (Except AppError Unit)}
    (there : start.records id = some (.record stored))
    (run : @Interleaved clientCommands _ _ I _ (upToDateEnvironment crates origin id added)
      ((start, fun _ => []), fun party => cmdConfig id (dns party) (some (.add (added party))) (apply party))
      ((later, seen), rest)) :
    ∃ stored', later.records id = some (.record stored') ∧
      (∀ anchor network, Linked stored.bypassLinks anchor network → Linked stored'.bypassLinks anchor network) ∧
      ∀ party, rest party = .done (.ok ()) →
        ∀ anchor network, Linked (added party) anchor network → Linked stored'.bypassLinks anchor network := by
  obtain ⟨ensured, moves⟩ := Interleaved.kept merges_compatible
    (fun party => cmdConfig_ensures (dns party) (apply party)) run
  have grows : Relation.ReflTransGen (Grows id) start later := by
    apply moves.lift (fun config => config.1)
    intro before after move
    obtain ⟨party, request, reply, permitted, answered⟩ := move
    exact merges_grow permitted answered
  have grown : Grows id start later := by rwa [Relation.reflTransGen_eq_self] at grows
  obtain ⟨stored', now, kept⟩ := grown stored there
  refine ⟨stored', now, kept, ?_⟩
  intro party done anchor network linked
  have holds := ensured party
  rw [done] at holds
  obtain ⟨other, now', adds⟩ := holds rfl
  cases now.symm.trans now'
  exact adds anchor network linked

end Commands

/-! ### Two commands -/

def lan : IpNet := ⟨.v4 0x0a424d00, 24, by decide⟩

def printer : IpNet := ⟨.v4 0xc0a8bc01, 32, by decide⟩

def camera : IpNet := ⟨.v4 0x64400100, 24, by decide⟩

/-- A connection whose tunnel routes a network at home, and two behind it. -/
def homeStored : StoredConnection :=
  { exampleStored with
    config := { exampleConfig with peers := [⟨exampleKey, none, [lan, printer, camera], none, none, none⟩] } }

def homeScript : Scripted × (Bool → List BypassLink) := (emptyScript.putRecord homeStored, fun _ => [])

/-- One command adds the printer, the other the camera. -/
def twoAdditions (party : Bool) : List BypassLink := [.new lan [if party then printer else camera]]

theorem twoAdditions_linked (party : Bool) : Linked (twoAdditions party) lan (if party then printer else camera) := by
  have trunc : (if party then printer else camera).trunc = if party then printer else camera := by
    cases party <;> decide
  exact ⟨_, List.mem_singleton_self _, (by decide : lan.trunc = lan), _, List.mem_singleton_self _, trunc⟩

def twoCommands (party : Bool) : ClientProgram (Except AppError Unit) :=
  cmdConfig exampleId none (some (.add (twoAdditions party))) false

/-- The daemon, with a script for what it finds. -/
def scriptedDaemon (party : Bool) : Handler clientCommands (Scripted × (Bool → List BypassLink)) :=
  @Handler.observe clientCommands _ _ (fun script request =>
    let answer := play workingCues (serveRequest exampleCrates ⟨[], false, false⟩ (.socket 0) request) script
    (.ok answer.1.1, answer.2)) (noteShown party)

theorem scriptedDaemon_faithful (party : Bool) :
    (scriptedDaemon party).Faithful (fun script => (script.1.state, script.2))
      (commandEnvironment exampleCrates (fun _ => .socket 0) party) := by
  apply Handler.Faithful.observe
  intro script request
  exact ⟨_, _, play_completes rfl⟩

/-- A list that comes in meets nothing but what its command has seen. -/
def seenAll (party : Bool) (script : Scripted × (Bool → List BypassLink)) (request : PrivilegedRequest) : Bool :=
  match request, script.1.state.records exampleId with
  | .setConnectionBypassLinks _ _, some (.record stored) => stored.bypassLinks == script.2 party
  | _, _ => true

theorem upToDate_of_seenAll {party : Bool} {script : Scripted × (Bool → List BypassLink)} {request : PrivilegedRequest}
    (seen : seenAll party script request = true) :
    UpToDate exampleId twoAdditions party (script.1.state, script.2) request := by
  cases request with
  | setConnectionBypassLinks other links =>
    intro stored there anchor network linked
    unfold seenAll at seen
    rw [there] at seen
    rw [linked_append, ← beq_iff_eq.mp seen]
    exact .inl linked
  | _ => trivial

def takeTurns (turns : List Bool) : (Scripted × (Bool → List BypassLink)) × (Bool → ClientProgram (Except AppError Unit)) :=
  @interleave clientCommands _ Bool _ _ scriptedDaemon turns (homeScript, twoCommands)

def linksAfter (turns : List Bool) : Option (List BypassLink) :=
  match (takeTurns turns).1.1.state.records exampleId with
  | some (.record stored) => some stored.bypassLinks
  | _ => none

def succeeded (turns : List Bool) (party : Bool) : Bool :=
  match (takeTurns turns).2 party with
  | .done (.ok ()) => true
  | _ => false

theorem done_of_succeeded {turns : List Bool} {party : Bool} (fine : succeeded turns party = true) :
    (takeTurns turns).2 party = .done (.ok ()) := by
  unfold succeeded at fine
  split at fine
  · assumption
  · cases fine

theorem homeScript_stored : homeScript.1.state.records exampleId = some (.record homeStored) := rfl

theorem takeTurns_interleaved (turns : List Bool) :
    @Interleaved clientCommands _ _ Bool _ (commandEnvironment exampleCrates fun _ => .socket 0)
      ((homeScript.1.state, fun _ => []), fun party => cmdConfig exampleId none (some (.add (twoAdditions party))) false)
      (((takeTurns turns).1.1.state, (takeTurns turns).1.2), (takeTurns turns).2) :=
  interleave_interleaved scriptedDaemon_faithful turns homeScript twoCommands

theorem takeTurns_upToDate {turns : List Bool} (met : @interleaveMeets clientCommands _ Bool _ _ scriptedDaemon
      (fun party script request _ => seenAll party script request) turns (homeScript, twoCommands) = true) :
    @Interleaved clientCommands _ _ Bool _ (upToDateEnvironment exampleCrates (fun _ => .socket 0) exampleId twoAdditions)
      ((homeScript.1.state, fun _ => []), fun party => cmdConfig exampleId none (some (.add (twoAdditions party))) false)
      (((takeTurns turns).1.1.state, (takeTurns turns).1.2), (takeTurns turns).2) :=
  @interleave_meeting clientCommands _ _ Bool _ _ _ _ _ (fun party config request _ => UpToDate exampleId twoAdditions party config request)
    (fun party script request _ => seenAll party script request) scriptedDaemon_faithful (fun _ _ _ _ => upToDate_of_seenAll)
    turns homeScript twoCommands met

/-- One command after the other. -/
def inTurn : List Bool := [true, true, true, false, false, false]

theorem added_links_kept_in_turn : ∃ stored, (takeTurns inTurn).1.1.state.records exampleId = some (.record stored) ∧
    Linked stored.bypassLinks lan printer ∧ Linked stored.bypassLinks lan camera := by
  have met : @interleaveMeets clientCommands _ Bool _ _ scriptedDaemon (fun party script request _ => seenAll party script request)
      inTurn (homeScript, twoCommands) = true := by decide +kernel
  have run := takeTurns_upToDate met
  obtain ⟨stored, now, -, adds⟩ := @added_links_kept Bool _ exampleCrates (fun _ => .socket 0) exampleId twoAdditions
    (fun _ => none) (fun _ => false) homeScript.1.state _ homeStored _ _ homeScript_stored run
  have first : (takeTurns inTurn).2 true = .done (.ok ()) := done_of_succeeded (by decide +kernel)
  have second : (takeTurns inTurn).2 false = .done (.ok ()) := done_of_succeeded (by decide +kernel)
  exact ⟨stored, now, adds true first lan printer (twoAdditions_linked true),
    adds false second lan camera (twoAdditions_linked false)⟩

/-- Both commands look at the connection before either stores its list: the second takes the
first one's link away. -/
def crossed : List Bool := [true, false, true, false, true, false]

theorem crossed_additions_lost :
    ¬ ∀ (crates : Crates) (origin : Bool → PeerOrigin) (id : ConnectionId) (added : Bool → List BypassLink)
      (start later : StoreState) (stored : StoredConnection) (seen : Bool → List BypassLink)
      (rest : Bool → ClientProgram (Except AppError Unit)), start.records id = some (.record stored) →
      @Interleaved clientCommands _ _ Bool _ (commandEnvironment crates origin)
        ((start, fun _ => []), fun party => cmdConfig id none (some (.add (added party))) false) ((later, seen), rest) →
      (∀ party, rest party = .done (.ok ())) →
      ∃ stored', later.records id = some (.record stored') ∧
        (∀ anchor network, Linked stored.bypassLinks anchor network → Linked stored'.bypassLinks anchor network) ∧
        ∀ party anchor network, Linked (added party) anchor network → Linked stored'.bypassLinks anchor network := by
  intro kept
  have run := takeTurns_interleaved crossed
  have fine : ∀ party, (takeTurns crossed).2 party = .done (.ok ()) := by
    intro party
    apply done_of_succeeded
    cases party <;> decide +kernel
  obtain ⟨stored, now, -, adds⟩ := kept exampleCrates (fun _ => .socket 0) exampleId twoAdditions homeScript.1.state _
    homeStored _ _ homeScript_stored run fine
  have linked := adds true lan printer (twoAdditions_linked true)
  have left : linksAfter crossed = some [.new lan [camera]] := by decide +kernel
  have same : linksAfter crossed = some stored.bypassLinks := by
    unfold linksAfter
    rw [show (takeTurns crossed).1.1.state.records exampleId = some (.record stored) from now]
  have alone : [BypassLink.new lan [camera]] = stored.bypassLinks := Option.some.inj (left.symm.trans same)
  rw [← alone] at linked
  obtain ⟨link, member, -, bypassed, among, same⟩ := linked
  rw [List.mem_singleton.mp member] at among
  rw [List.mem_singleton.mp among] at same
  exact absurd same (by decide)

end Wgd.Client
