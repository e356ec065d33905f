import Wgd.Client.Adding
import Wgd.Client.Effects
import Wgd.Links.Completion
import Wgd.Links.Pruning

/-! `connection add` (`connection_cli.rs`): with `--force` the connection takes over from all others of
its name, which are then removed. -/

set_option autoImplicit false

namespace Wgd.Client

open Wgd.Interaction Wgd.Net Wgd.Links Wgd.Config Wgd.Helper Wgd.Store

/-! ### The requests -/

/-- What the user's authorization of a request comes to. -/
abbrev Prompt : Type := PrivilegedRequest → Except AppError (List UInt8)

/-- A request that needs an authorization is sent once more with it. -/
def sendWithAdminAuthRetry (prompt : Prompt) (buildRequest : Option (List UInt8) → PrivilegedRequest) :
    ClientProgram (Except AppError PrivilegedResponse) := do
  match ← send (buildRequest none) with
  | .error (.authRequired _) =>
    match prompt (buildRequest none) with
    | .ok form => send (buildRequest (some form))
    | .error error => return .error error
  | outcome => return outcome

def addConnection (prompt : Prompt) (request : AddRequest) : ClientProgram (Except AppError ConnectionId) :=
  (sendWithAdminAuthRetry prompt fun form => .addConnection { request with authExternalForm := form }).attempt fun
    | .connectionId id => .done (.ok id)
    | _ => .done (.error (invalidResponse "AddConnection"))

def listConnections (scope : ConnectionScope) : ClientProgram (Except AppError (List ConnectionSummary)) :=
  (send (.listConnections scope)).attempt fun
    | .connectionList summaries => .done (.ok summaries)
    | _ => .done (.error (invalidResponse "ListConnections"))

def disconnectConnection (id : ConnectionId) : ClientProgram (Except AppError Unit) :=
  (send (.disconnectConnection id .user)).attempt fun _ => .done (.ok ())

def removeConnection (prompt : Prompt) (id : ConnectionId) : ClientProgram (Except AppError Unit) :=
  (sendWithAdminAuthRetry prompt fun form => .removeConnection id form).attempt fun _ => .done (.ok ())

/-! ### The command -/

/-- One round of the removal; a record that is gone already is as good as removed. -/
def removeStaleOnce (prompt : Prompt) (id : ConnectionId) (busy : AppError → ClientProgram (Except AppError Unit)) :
    ClientProgram (Except AppError Unit) := do
  match ← (disconnectConnection id).attempt fun () => removeConnection prompt id with
  | .ok () | .error (.notFound _) => return .ok ()
  | .error (.busy message) => busy (.busy message)
  | .error error => return .error error

/-- The clock is found before the deadline this many times. -/
def disconnectAndRemoveStale (prompt : Nat → Prompt) (id : ConnectionId) : Nat → ClientProgram (Except AppError Unit)
  | 0 => removeStaleOnce (prompt 0) id fun error => .done (.error error)
  | tries + 1 => removeStaleOnce (prompt (tries + 1)) id fun _ => disconnectAndRemoveStale prompt id tries

/-- What the new AllowedIPs still support of the old links replaces the links of the new record. -/
def carryOverLinks (crates : Crates) (id : ConnectionId) (old : ConnectionSummary) : ClientProgram (Except AppError Unit) :=
  (getConnection id).attempt fun new =>
    let allowed := new.peers.flatMap fun peer => peer.allowedIps.filterMap fun entry => crates.parseIpNet entry.toList
    let pruned := pruneLinks (old.bypassLinks.map Prod.fst) allowed
    if pruned.links.isEmpty then .done (.ok ()) else setConnectionBypassLinks id pruned.links

def keepDns (id : ConnectionId) (stale : List ConnectionSummary) : ClientProgram (Except AppError Unit) :=
  if stale.any ConnectionSummary.dnsDynamicStore then setConnectionDnsDynamicStore id true else .done (.ok ())

/-- Only the first record with links is looked at. -/
def keepLinks (crates : Crates) (id : ConnectionId) (stale : List ConnectionSummary) : ClientProgram (Except AppError Unit) :=
  match stale.find? fun conn => !conn.bypassLinks.isEmpty with
  | none => .done (.ok ())
  | some conn => do
    match ← carryOverLinks crates id conn with
    | .ok () => return .ok ()
    | .error error =>
      return .error (.other
        s!"could not keep the links of {label conn.id conn.name}; it was not removed, run the command again: {error.toText}")

def supersede (crates : Crates) (prompt : Nat → Prompt) (tries : ConnectionId → Nat) (id : ConnectionId)
    (stale : List ConnectionSummary) : ClientProgram (Except AppError Unit) :=
  (keepDns id stale).attempt fun () =>
  (keepLinks crates id stale).attempt fun () =>
  Program.forEach (fun conn => disconnectAndRemoveStale prompt conn.id (tries conn.id)) stale

def cmdAdd (crates : Crates) (prompt : Nat → Prompt) (tries : ConnectionId → Nat) (request : AddRequest) :
    ClientProgram (Except AppError Unit) :=
  (addConnection (prompt 0) request).attempt fun id =>
    if request.force then
      match request.name with
      | none => .done (.error (.other "clap enforces --force requires --name"))
      | some name =>
        (listConnections (if request.global then .global else .mine)).attempt fun listed =>
          supersede crates prompt tries id (listed.filter fun conn => conn.id ≠ id && conn.name = some name)
    else .done (.ok ())

/-! ### What becomes of the settings -/

/-- What has been seen of the command: the id it got, and the connections it was then shown. -/
structure AddSeen where
  target : Option ConnectionId
  listed : List ConnectionId

def AddSeen.note (seen : AddSeen) (request : PrivilegedRequest) (reply : Except AppError PrivilegedResponse) : AddSeen :=
  match request, reply with
  | .addConnection _, .ok (.connectionId id) => { seen with target := some id }
  | .listConnections _, .ok (.connectionList summaries) => { seen with listed := summaries.map ConnectionSummary.id }
  | _, _ => seen

/-- Only the daemon asks for an authorization, not the transport. -/
def Transported (reply : Except AppError PrivilegedResponse) : Prop := ∀ message, reply ≠ .error (.authRequired message)

def addEnvironment (crates : Crates) (origin : PeerOrigin) : Environment clientCommands (StoreState × AddSeen) :=
  @Environment.observe clientCommands _ _
    (@Environment.meeting clientCommands _ (daemon crates origin) fun _ _ reply => Transported reply) AddSeen.note

/-- The record of this id, if it is another of the name. -/
def givesWay (state : StoreState) (target : ConnectionId) (name : String) (id : ConnectionId) : Option StoredConnection :=
  match state.records id with
  | some (.record stored) => if id ≠ target && stored.name = some name then some stored else none
  | _ => none

/-- The records of the name that give way to the target. -/
def superseded (state : StoreState) (target : ConnectionId) (name : String) (listed : List ConnectionId) :
    List StoredConnection :=
  listed.filterMap (givesWay state target name)

/-- All that is bypassed with these links is bypassed with those. -/
def Covers (links other : List BypassLink) : Prop := ∀ anchor network, Linked other anchor network → Linked links anchor network

/-- The target has kept its own settings, and has those of the records that gave way. -/
structure KeepsSettings (before : Option RecordFile) (stale : List StoredConnection) (record : StoredConnection) : Prop where
  own : Covers record.bypassLinks (linksOf before)
  links : ∀ old ∈ stale, Covers record.bypassLinks (pruneLinks old.bypassLinks record.allowedIps).links
  dns : (dnsOf before = true ∨ ∃ old ∈ stale, old.dnsDynamicStore = true) → record.dnsDynamicStore = true

/-- What AllowedIPs support of the links of the first record that has any. -/
def firstLinks (stale : List StoredConnection) (allowedIps : List IpNet) : List BypassLink :=
  match stale.find? fun old => !old.bypassLinks.isEmpty with
  | some old => (pruneLinks old.bypassLinks allowedIps).links
  | none => []

/-- Those links make up for the target's own and for all others, or there are none and the target's
own make up for all. -/
def Suffice (own : List BypassLink) (stale : List StoredConnection) (allowedIps : List IpNet) : Prop :=
  if firstLinks stale allowedIps = [] then ∀ old ∈ stale, Covers own (pruneLinks old.bypassLinks allowedIps).links
  else Covers (firstLinks stale allowedIps) own ∧
    ∀ old ∈ stale, Covers (firstLinks stale allowedIps) (pruneLinks old.bypassLinks allowedIps).links

section Settings

variable {crates : Crates} {origin : PeerOrigin} {id target : ConnectionId} {name : String} {request : PrivilegedRequest}
  {config : StoreState × AddSeen} {prompt : Prompt}

abbrev addEnsures (crates : Crates) (origin : PeerOrigin) {A : Type} (p : ClientProgram A)
    (post : A → StoreState × AddSeen → Prop) (config : StoreState × AddSeen) : Prop :=
  @Ensures clientCommands _ _ (addEnvironment crates origin) (fun _ _ => True) p post config

/-- What sending a request does, whatever comes of it. -/
structure SentOnce (crates : Crates) (origin : PeerOrigin) (request : PrivilegedRequest) (config : StoreState × AddSeen)
    (outcome : Except AppError PrivilegedResponse) (final : StoreState × AddSeen) : Prop where
  served : ∀ response, outcome = .ok response → Serves crates origin request config.1 response final.1 ∧
    ¬Fails response ∧ final.2 = config.2.note request (.ok response)
  asked : ∀ message, outcome = .error (.authRequired message) → final.1.records = config.1.records ∧ final.2 = config.2
  about : ∀ id, About id request → OthersKept id config.1 final.1 ∧ final.2 = config.2

theorem note_about {seen : AddSeen} {reply : Except AppError PrivilegedResponse} (about : About id request) :
    seen.note request reply = seen := by
  cases request <;> first
    | rfl
    | exact about.elim

theorem note_fails {seen : AddSeen} {response : PrivilegedResponse} (fails : Fails response) :
    seen.note request (.ok response) = seen := by
  obtain ⟨code, message, rfl⟩ := fails
  cases request <;> rfl

theorem mapPrivilegedError_authRequired {response : PrivilegedResponse} {message : String}
    (asked : mapPrivilegedError response = .error (.authRequired message)) : response = .error .authRequired message := by
  unfold mapPrivilegedError at asked
  split at asked
  all_goals cases asked
  rfl

theorem send_sent : addEnsures crates origin (send request) (SentOnce crates origin request config) config := by
  refine ⟨trivial, ?_⟩
  intro reply final answered
  obtain ⟨⟨transported, replied⟩, noted⟩ := answered
  cases reply with
  | ok response =>
    have serves : Serves crates origin request config.1 response final.1 := replied
    constructor
    · intro given same
      have plain : response = given := mapPrivilegedError_ok same
      subst plain
      exact ⟨serves, fun fails => fails.mapped _ same, noted⟩
    · intro message same
      obtain rfl := mapPrivilegedError_authRequired same
      exact ⟨serves.refused rfl, noted.trans (note_fails ⟨_, _, rfl⟩)⟩
    · intro id about
      exact ⟨serves.others about, noted.trans (note_about about)⟩
  | error error =>
    constructor
    · intro given same
      cases same
    · intro message same
      cases same
      exact absurd rfl (transported message)
    · intro id about
      refine ⟨?_, noted.trans (note_about about)⟩
      cases replied with
      | inl unserved =>
        rw [unserved]
        intro other _
        rfl
      | inr served =>
        obtain ⟨response, serves⟩ := served
        exact serves.others about

/-! ### Each request -/

theorem Added.of_records {before start after : StoreState} (same : before.records = start.records) (added : Added id before after) :
    Added id start after := by
  obtain ⟨record, others⟩ := added
  exact ⟨same ▸ record, fun other different => (others other different).trans (congrFun same other)⟩

/-- Whatever is sent twice is served at most once. -/
theorem retry_sent {buildRequest : Option (List UInt8) → PrivilegedRequest} :
    addEnsures crates origin (sendWithAdminAuthRetry prompt buildRequest) (fun outcome final =>
      (∀ response, outcome = .ok response → ∃ form before, before.records = config.1.records ∧
        Serves crates origin (buildRequest form) before response final.1 ∧
        final.2 = config.2.note (buildRequest form) (.ok response)) ∧
      ∀ id, (∀ form, About id (buildRequest form)) → OthersKept id config.1 final.1 ∧ final.2 = config.2) config := by
  apply Ensures.bind_iff.mpr
  apply send_sent.mono
  intro outcome middle sent
  have once : (∀ response, outcome = .ok response → ∃ form before, before.records = config.1.records ∧
      Serves crates origin (buildRequest form) before response middle.1 ∧
      middle.2 = config.2.note (buildRequest form) (.ok response)) ∧
      ∀ id, (∀ form, About id (buildRequest form)) → OthersKept id config.1 middle.1 ∧ middle.2 = config.2 := by
    constructor
    · intro response same
      obtain ⟨serves, -, noted⟩ := sent.served response same
      exact ⟨none, config.1, rfl, serves, noted⟩
    · intro id about
      exact sent.about id (about none)
  cases outcome with
  | ok response => exact once
  | error error =>
    cases error
    case authRequired message =>
      obtain ⟨same, unseen⟩ := sent.asked message rfl
      dsimp only
      cases prompt (buildRequest none) with
      | error error =>
        constructor
        · intro response none
          cases none
        · exact once.2
      | ok form =>
        apply send_sent.mono
        intro outcome final again
        constructor
        · intro response fine
          obtain ⟨serves, -, noted⟩ := again.served response fine
          exact ⟨some form, middle.1, same, serves, by rw [noted, unseen]⟩
        · intro id about
          obtain ⟨earlier, seen⟩ := once.2 id about
          obtain ⟨later, seen'⟩ := again.about id (about (some form))
          exact ⟨fun other different => (later other different).trans (earlier other different), seen'.trans seen⟩
    all_goals exact once

theorem addConnection_ensures {add : AddRequest} : addEnsures crates origin (addConnection prompt add) (fun outcome final =>
    ∀ id, outcome = .ok id → Added id config.1 final.1 ∧ final.2 = { config.2 with target := some id }) config := by
  apply Ensures.attempt_iff.mpr
  apply retry_sent.mono
  intro outcome final sent
  cases outcome with
  | error error =>
    intro id same
    cases same
  | ok response =>
    obtain ⟨form, before, same, serves, noted⟩ := sent.1 response rfl
    cases response with
    | connectionId given =>
      intro id same
      cases same
      exact ⟨serves.adds.of_records same, noted⟩
    | _ =>
      intro id same
      cases same

theorem listConnections_ensures {scope : ConnectionScope} :
    addEnsures crates origin (listConnections scope) (fun outcome final => ∀ summaries, outcome = .ok summaries →
      final.1 = config.1 ∧ Lists crates config.1 summaries ∧
      final.2 = { config.2 with listed := summaries.map ConnectionSummary.id }) config := by
  apply Ensures.attempt_iff.mpr
  apply send_sent.mono
  intro outcome final sent
  cases outcome with
  | error error =>
    intro summaries same
    cases same
  | ok response =>
    obtain ⟨serves, -, noted⟩ := sent.served response rfl
    obtain ⟨unchanged, lists⟩ := serves.lists
    cases response with
    | connectionList given =>
      intro summaries same
      cases same
      exact ⟨unchanged, lists _ rfl, noted⟩
    | _ =>
      intro summaries same
      cases same

/-- The record of the target, with nothing noted since. -/
structure Holds (target : ConnectionId) (record : StoredConnection) (seen : AddSeen) (config : StoreState × AddSeen) : Prop where
  stored : config.1.records target = some (.record record)
  noted : config.2 = seen

variable {record : StoredConnection} {seen : AddSeen} {stale : List ConnectionSummary}

theorem keepDns_ensures (holds : Holds target record seen config) :
    addEnsures crates origin (keepDns target stale) (fun outcome final => outcome = .ok () → ∃ now,
      Holds target { record with
        dnsDynamicStore := stale.any ConnectionSummary.dnsDynamicStore || record.dnsDynamicStore, updatedAt := now } seen final)
      config := by
  unfold keepDns
  split
  · next wanted =>
    apply Ensures.attempt_iff.mpr
    apply send_sent.mono
    intro outcome final sent
    cases outcome with
    | error error =>
      intro same
      cases same
    | ok response =>
      intro _
      obtain ⟨serves, fine, noted⟩ := sent.served response rfl
      cases serves.storesDns with
      | inl failed => exact absurd failed.1 fine
      | inr stored =>
        obtain ⟨old, now, there, written⟩ := stored
        cases holds.stored.symm.trans there
        rw [wanted]
        exact ⟨now, written, noted.trans holds.noted⟩
  · next none =>
    intro _
    rw [Bool.not_eq_true] at none
    rw [none]
    exact ⟨record.updatedAt, holds⟩

/-- A connection shows its AllowedIPs, as far as they are read as they are written. -/
theorem shown_allowedIps (reads : ∀ net : IpNet, crates.parseIpNet net.toText.toList = some net) (connected : Bool) :
    ((summarize crates record connected true).peers.flatMap fun peer =>
      peer.allowedIps.filterMap fun entry => crates.parseIpNet entry.toList) = record.allowedIps := by
  have read : ∀ nets : List IpNet, ((nets.map IpNet.toText).filterMap fun entry => crates.parseIpNet entry.toList) = nets := by
    intro nets
    have each : nets.filterMap (fun net => crates.parseIpNet net.toText.toList) = nets.filterMap some :=
      List.filterMap_congr fun net _ => reads net
    rw [List.filterMap_map]
    exact each.trans List.filterMap_some
  simp only [summarize, List.flatMap_map, read]
  rfl

theorem pruneLinks_canonical (links : List BypassLink) (allowedIps : List IpNet) :
    pruneLinks (links.map canonicalLink) allowedIps = pruneLinks links allowedIps := by
  have fixed : (links.map canonicalLink).map canonicalLink = links.map canonicalLink := by
    rw [List.map_map]
    apply List.map_congr_left
    intro link _
    exact (canonicalLink_canonical link).fixed
  rw [pruneLinks, fixed, ← pruneLinks]

/-- The links of the target once the old ones have been carried over. -/
def carried (own : List BypassLink) (old : Option (List BypassLink)) (allowedIps : List IpNet) : List BypassLink :=
  match old with
  | none => own
  | some old => if (pruneLinks old allowedIps).links = [] then own else (pruneLinks old allowedIps).links.map canonicalLink

theorem carryOverLinks_ensures (reads : ∀ net : IpNet, crates.parseIpNet net.toText.toList = some net)
    {old : ConnectionSummary} (holds : Holds target record seen config) :
    addEnsures crates origin (carryOverLinks crates target old) (fun outcome final => outcome = .ok () → ∃ now,
      Holds target { record with
        bypassLinks := carried record.bypassLinks (some (old.bypassLinks.map Prod.fst)) record.allowedIps, updatedAt := now }
        seen final) config := by
  apply Ensures.attempt_iff.mpr
  apply Ensures.attempt_iff.mpr
  apply send_sent.mono
  intro outcome middle sent
  cases outcome with
  | error error =>
    intro same
    cases same
  | ok response =>
    obtain ⟨serves, -, noted⟩ := sent.served response rfl
    obtain ⟨unchanged, shown⟩ := serves.looksUp
    have kept : Holds target record seen middle := ⟨unchanged ▸ holds.stored, noted.trans holds.noted⟩
    cases response with
    | connection new =>
      obtain ⟨stored, connected, there, rfl⟩ := shown new rfl
      cases holds.stored.symm.trans there
      simp only [Ensures.done_iff, shown_allowedIps reads]
      cases empty : (pruneLinks (old.bypassLinks.map Prod.fst) record.allowedIps).links with
      | nil =>
        intro _
        exact ⟨record.updatedAt, by simpa [carried, empty] using kept⟩
      | cons link rest =>
        apply Ensures.attempt_iff.mpr
        apply send_sent.mono
        intro outcome final sent
        cases outcome with
        | error error =>
          intro same
          cases same
        | ok response =>
          intro _
          obtain ⟨serves, fine, noted⟩ := sent.served response rfl
          cases serves.storesLinks with
          | inl failed => exact absurd failed.1 fine
          | inr stored =>
            obtain ⟨before, now, there, written⟩ := stored
            cases kept.stored.symm.trans there
            refine ⟨now, ?_, noted.trans kept.noted⟩
            simpa [carried, empty] using written
    | _ =>
      intro same
      cases same

theorem keepLinks_ensures (reads : ∀ net : IpNet, crates.parseIpNet net.toText.toList = some net)
    (holds : Holds target record seen config) :
    addEnsures crates origin (keepLinks crates target stale) (fun outcome final => outcome = .ok () → ∃ now,
      Holds target { record with
        bypassLinks := carried record.bypassLinks ((stale.find? fun conn => !conn.bypassLinks.isEmpty).map fun conn =>
          conn.bypassLinks.map Prod.fst) record.allowedIps, updatedAt := now } seen final) config := by
  unfold keepLinks
  cases stale.find? fun conn => !conn.bypassLinks.isEmpty with
  | none =>
    intro _
    exact ⟨record.updatedAt, holds⟩
  | some conn =>
    apply Ensures.bind_iff.mpr
    apply (carryOverLinks_ensures reads holds).mono
    intro outcome final kept
    cases outcome with
    | error error =>
      intro same
      cases same
    | ok value => exact kept

/-! ### The removal -/

/-- The removal of another connection. -/
def Spares (target : ConnectionId) (config final : StoreState × AddSeen) : Prop :=
  final.1.records target = config.1.records target ∧ final.2 = config.2

theorem Spares.trans {first second third : StoreState × AddSeen} (earlier : Spares target first second)
    (later : Spares target second third) : Spares target first third :=
  ⟨later.1.trans earlier.1, later.2.trans earlier.2⟩

theorem removeStaleOnce_ensures {start : StoreState × AddSeen} (other : target ≠ id)
    {busy : AppError → ClientProgram (Except AppError Unit)}
    (again : ∀ error later, Spares target start later →
      addEnsures crates origin (busy error) (fun _ final => Spares target start final) later)
    (spares : Spares target start config) :
    addEnsures crates origin (removeStaleOnce prompt id busy) (fun _ final => Spares target start final) config := by
  have round : addEnsures crates origin ((disconnectConnection id).attempt fun () => removeConnection prompt id)
      (fun _ final => Spares target start final) config := by
    apply Ensures.attempt_iff.mpr
    apply Ensures.attempt_iff.mpr
    apply send_sent.mono
    intro outcome middle sent
    have first : Spares target start middle := by
      obtain ⟨kept, unseen⟩ := sent.about id rfl
      exact spares.trans ⟨kept target other, unseen⟩
    cases outcome with
    | error error => exact first
    | ok response =>
      apply Ensures.attempt_iff.mpr
      apply retry_sent.mono
      intro outcome final removed
      obtain ⟨kept, unseen⟩ := removed.2 id fun _ => rfl
      have both : Spares target start final := first.trans ⟨kept target other, unseen⟩
      cases outcome <;> exact both
  apply Ensures.bind_iff.mpr
  apply round.mono
  intro outcome final later
  cases outcome with
  | ok value => exact later
  | error error =>
    cases error
    case busy message => exact again (.busy message) final later
    all_goals exact later

theorem disconnectAndRemoveStale_ensures {prompts : Nat → Prompt} {start : StoreState × AddSeen} (other : target ≠ id)
    (tries : Nat) (spares : Spares target start config) :
    addEnsures crates origin (disconnectAndRemoveStale prompts id tries) (fun _ final => Spares target start final) config := by
  induction tries generalizing config with
  | zero => exact removeStaleOnce_ensures other (fun _ _ later => later) spares
  | succ tries ih => exact removeStaleOnce_ensures other (fun _ _ later => ih later) spares

/-! ### The whole command -/

/-- What the command makes of the target. -/
structure Supersedes (record : StoredConnection) (stale : List ConnectionSummary) (result : StoredConnection) : Prop where
  allowed : result.allowedIps = record.allowedIps
  links : result.bypassLinks = carried record.bypassLinks ((stale.find? fun conn => !conn.bypassLinks.isEmpty).map fun conn =>
    conn.bypassLinks.map Prod.fst) record.allowedIps
  dns : result.dnsDynamicStore = (stale.any ConnectionSummary.dnsDynamicStore || record.dnsDynamicStore)

theorem supersede_ensures (reads : ∀ net : IpNet, crates.parseIpNet net.toText.toList = some net)
    {prompts : Nat → Prompt} {tries : ConnectionId → Nat} (others : ∀ conn ∈ stale, conn.id ≠ target)
    (holds : Holds target record seen config) :
    addEnsures crates origin (supersede crates prompts tries target stale) (fun outcome final => outcome = .ok () →
      ∃ result, Holds target result seen final ∧ Supersedes record stale result) config := by
  apply Ensures.attempt_iff.mpr
  apply (keepDns_ensures holds).mono
  intro outcome switched stored
  cases outcome with
  | error error =>
    intro same
    cases same
  | ok value =>
    obtain ⟨now, holds⟩ := stored rfl
    apply Ensures.attempt_iff.mpr
    apply (keepLinks_ensures reads holds).mono
    intro outcome linked stored
    cases outcome with
    | error error =>
      intro same
      cases same
    | ok value =>
      obtain ⟨later, holds⟩ := stored rfl
      have removed : addEnsures crates origin
          (Program.forEach (fun conn => disconnectAndRemoveStale prompts conn.id (tries conn.id)) stale)
          (fun _ final => Spares target linked final) linked := by
        apply Ensures.forEach (fun rest final => (∀ conn ∈ rest, conn.id ≠ target) ∧ Spares target linked final)
        · intro conn rest config kept
          obtain ⟨others, spares⟩ := kept
          rw [List.forall_mem_cons] at others
          apply (disconnectAndRemoveStale_ensures others.1.symm _ spares).mono
          intro outcome final spares
          cases outcome with
          | error error => exact spares
          | ok value => exact ⟨others.2, spares⟩
        · intro final kept
          exact kept.2
        · exact ⟨others, rfl, rfl⟩
      apply removed.mono
      intro outcome final spares _
      exact ⟨_, ⟨spares.1.trans holds.stored, spares.2.trans holds.noted⟩, rfl, rfl, rfl⟩

end Settings

/-! ### The records that give way -/

/-- The settings that are carried over, as a connection shows them. -/
def shownSettings (conn : ConnectionSummary) : List BypassLink × Bool := (conn.bypassLinks.map Prod.fst, conn.dnsDynamicStore)

def storedSettings (stored : StoredConnection) : List BypassLink × Bool :=
  (stored.bypassLinks.map canonicalLink, stored.dnsDynamicStore)

section Stale

variable {crates : Crates} {start middle : StoreState} {target : ConnectionId} {name : String} {own : List BypassLink}
  {before : Option RecordFile} {stale : List ConnectionSummary} {old : List StoredConnection} {record result : StoredConnection}
  {allowedIps : List IpNet}

/-- What is listed of the other connections is what was stored for them before the command. -/
theorem stale_settings {listed : List ConnectionSummary} (lists : Lists crates middle listed)
    (others : OthersKept target start middle) :
    (listed.filter fun conn => conn.id ≠ target && conn.name = some name).map shownSettings =
      (superseded start target name (listed.map ConnectionSummary.id)).map storedSettings := by
  induction listed with
  | nil => rfl
  | cons conn rest ih =>
    have later : Lists crates middle rest := fun summary member => lists summary (List.mem_cons_of_mem _ member)
    obtain ⟨stored, connected, there, rfl⟩ := lists conn List.mem_cons_self
    have tail := ih later
    rw [List.filter_cons, List.map_cons, superseded, List.filterMap_cons]
    by_cases own : stored.id = target
    · have stays : givesWay start target name (summarize crates stored connected false).id = none := by
        unfold givesWay
        split
        · simp [summarize, own]
        · rfl
      rw [stays, if_neg (by simp [summarize, own])]
      exact tail
    · have same : start.records (summarize crates stored connected false).id = some (.record stored) :=
        (others stored.id own).symm.trans there
      by_cases named : stored.name = some name
      · have goes : givesWay start target name (summarize crates stored connected false).id = some stored := by
          unfold givesWay
          rw [same]
          simp [summarize, own, named]
        have head : shownSettings (summarize crates stored connected false) = storedSettings stored := by
          simp only [shownSettings, storedSettings, summarize, bypassLinkSummaries_links]
        rw [goes, if_pos (by simp [summarize, own, named]), List.map_cons, List.map_cons, head]
        exact congrArg _ tail
      · have stays : givesWay start target name (summarize crates stored connected false).id = none := by
          unfold givesWay
          rw [same]
          simp [named]
        rw [stays, if_neg (by simp [summarize, named])]
        exact tail

theorem find_settings (settings : stale.map shownSettings = old.map storedSettings) :
    (stale.find? fun conn => !conn.bypassLinks.isEmpty).map (fun conn => conn.bypassLinks.map Prod.fst) =
      (old.find? fun stored => !stored.bypassLinks.isEmpty).map fun stored => stored.bypassLinks.map canonicalLink := by
  have found := congrArg (fun all => ((all.find? fun shown => !shown.1.isEmpty).map Prod.fst)) settings
  simpa [List.find?_map, Function.comp_def, shownSettings, storedSettings] using found

theorem any_settings (settings : stale.map shownSettings = old.map storedSettings) :
    stale.any ConnectionSummary.dnsDynamicStore = old.any StoredConnection.dnsDynamicStore := by
  have found := congrArg (fun all => all.any Prod.snd) settings
  simpa [List.any_map, Function.comp_def, shownSettings, storedSettings] using found

/-- The links the target has in the end: what was carried over, or else its own. -/
theorem linked_carried {anchor network : IpNet} :
    Linked (carried own ((old.find? fun stored => !stored.bypassLinks.isEmpty).map fun stored =>
      stored.bypassLinks.map canonicalLink) allowedIps) anchor network ↔
      Linked (if firstLinks old allowedIps = [] then own else firstLinks old allowedIps) anchor network := by
  unfold firstLinks
  cases old.find? fun stored => !stored.bypassLinks.isEmpty with
  | none => rfl
  | some first =>
    simp only [Option.map_some, carried, pruneLinks_canonical]
    split
    · rfl
    · exact linked_canonical

theorem keeps_iff (supersedes : Supersedes record stale result) (settings : stale.map shownSettings = old.map storedSettings)
    (links : record.bypassLinks = linksOf before) (dns : record.dnsDynamicStore = dnsOf before) :
    KeepsSettings before old result ↔ Suffice (linksOf before) old result.allowedIps := by
  have stored : ∀ anchor network, Linked result.bypassLinks anchor network ↔
      Linked (if firstLinks old result.allowedIps = [] then linksOf before else firstLinks old result.allowedIps)
        anchor network := by
    intro anchor network
    rw [supersedes.links, find_settings settings, links, ← supersedes.allowed]
    exact linked_carried
  have switch : (dnsOf before = true ∨ ∃ other ∈ old, other.dnsDynamicStore = true) → result.dnsDynamicStore = true := by
    intro wanted
    rw [supersedes.dns, any_settings settings, dns, Bool.or_eq_true, List.any_eq_true]
    exact wanted.symm
  have covers : ∀ other, Covers result.bypassLinks other ↔
      Covers (if firstLinks old result.allowedIps = [] then linksOf before else firstLinks old result.allowedIps) other := by
    intro other
    constructor
    · intro covers anchor network linked
      exact (stored anchor network).mp (covers anchor network linked)
    · intro covers anchor network linked
      exact (stored anchor network).mpr (covers anchor network linked)
  unfold Suffice
  constructor
  · intro keeps
    have own := (covers _).mp keeps.own
    have all := fun other member => (covers _).mp (keeps.links other member)
    split at own
    · next none =>
      rw [if_pos none]
      simpa only [none, if_true] using all
    · next some =>
      rw [if_neg some]
      exact ⟨own, by simpa only [some, if_false] using all⟩
  · intro suffice
    split at suffice
    · next none =>
      simp only [none, if_true] at covers
      exact ⟨(covers _).mpr fun _ _ linked => linked, fun other member => (covers _).mpr (suffice other member), switch⟩
    · next some =>
      simp only [some, if_false] at covers
      exact ⟨(covers _).mpr suffice.1, fun other member => (covers _).mpr (suffice.2 other member), switch⟩

end Stale

/-! ### What the command keeps -/

/-- What has been seen before a command. -/
def AddSeen.none : AddSeen := ⟨Option.none, []⟩

/-- A forced add keeps the settings of the target and of all records that give way, exactly when the
links of the first of these that has any suffice. -/
theorem forced_add_keeps_iff {crates : Crates} {origin : PeerOrigin} {prompt : Nat → Prompt} {tries : ConnectionId → Nat}
    {request : AddRequest} {name : String} {start final : StoreState} {seen : AddSeen}
    (reads : ∀ net : IpNet, crates.parseIpNet net.toText.toList = some net) (forced : request.force = true)
    (named : request.name = some name)
    (run : @Completes clientCommands _ _ (addEnvironment crates origin) (cmdAdd crates prompt tries request)
      (start, .none) (.ok ()) (final, seen)) :
    ∃ target record, seen.target = some target ∧ final.records target = some (.record record) ∧
      (KeepsSettings (start.records target) (superseded start target name seen.listed) record ↔
        Suffice (linksOf (start.records target)) (superseded start target name seen.listed) record.allowedIps) := by
  have ensured : addEnsures crates origin (cmdAdd crates prompt tries request) (fun outcome final => outcome = .ok () →
      ∃ target record, final.2.target = some target ∧ final.1.records target = some (.record record) ∧
        (KeepsSettings (start.records target) (superseded start target name final.2.listed) record ↔
          Suffice (linksOf (start.records target)) (superseded start target name final.2.listed) record.allowedIps))
      (start, .none) := by
    apply Ensures.attempt_iff.mpr
    apply addConnection_ensures.mono
    intro outcome stored added
    cases outcome with
    | error error =>
      intro same
      cases same
    | ok target =>
      obtain ⟨⟨⟨record, there, links, dns⟩, others⟩, noted⟩ := added target rfl
      simp only [forced, if_true, named]
      apply Ensures.attempt_iff.mpr
      apply listConnections_ensures.mono
      intro outcome shown listed
      cases outcome with
      | error error =>
        intro same
        cases same
      | ok listed' =>
        obtain ⟨unchanged, lists, noted'⟩ := listed listed' rfl
        have holds : Holds target record ⟨some target, listed'.map ConnectionSummary.id⟩ shown := by
          constructor
          · rw [unchanged]
            exact there
          · rw [noted', noted]
        apply (supersede_ensures reads _ holds).mono
        · intro outcome final superseded same
          obtain ⟨result, holds, supersedes⟩ := superseded same
          refine ⟨target, result, by rw [holds.noted], holds.stored, ?_⟩
          rw [holds.noted]
          exact keeps_iff supersedes (stale_settings lists others) links dns
        · intro conn member
          have kept := (List.mem_filter.mp member).2
          simp only [Bool.and_eq_true, decide_eq_true_eq] at kept
          exact kept.1
  exact ensured.completes run rfl

/-! ### Two records of one network -/

def officeText (address : String) : String :=
  s!"[Interface]\nPrivateKey = {String.ofList exampleKeyText}\nAddress = {address}\n" ++
    s!"[Peer]\nPublicKey = {String.ofList exampleKeyText}\nAllowedIPs = 10.66.77.0/24, 192.168.188.1/32, 100.64.1.0/24\n"

def officeConfig (address : IpNet) : ConnectionConfig :=
  ⟨exampleKey, [address], [], none, [], [], [], [], [⟨exampleKey, none, [lan, printer, camera], none, none, none⟩]⟩

def oldAddress : IpNet := ⟨.v4 0x0a000003, 32, by decide⟩

theorem newAddress_valid : 32 ≤ (IpAddr.v4 0x0a000002).hostPrefix := by decide

def newAddress : IpNet := ⟨.v4 0x0a000002, 32, newAddress_valid⟩

/-- The libraries, as far as the new configuration needs them. -/
def officeCrates : Crates :=
  { exampleCrates with
    parseIpNet := networkCrates.parseIpNet
    sha256 := fun _ => [90, 89, 113, 79, 229, 64, 20, 136, 207, 77, 132, 93, 181, 247, 84, 185, 159, 124, 151, 136, 91, 165,
      143, 220, 142, 153, 99, 197, 174, 165, 28, 129] }

/-- The connection that is to be replaced; the printer is reached past it. -/
def oldOffice : StoredConnection :=
  { exampleStored with
    id := ⟨2⟩
    fingerprint := "sha256:46b7dea1dd27070d2cd08e2196b0fe20ecfddc918ce735c9f10e5cf99c46a3c4"
    global := false
    ownerUid := some 501
    config := officeConfig oldAddress
    rawConf := officeText "10.0.0.3/32"
    interface := (⟨2⟩ : ConnectionId).interfaceName
    bypassLinks := [.new lan [printer]] }

/-- The new configuration, stored under another name already. -/
def newOffice (own : List BypassLink) : StoredConnection :=
  { exampleStored with
    fingerprint := fingerprint officeCrates (officeConfig newAddress)
    global := false
    ownerUid := some 501
    name := some "moving"
    config := officeConfig newAddress
    rawConf := officeText "10.0.0.2/32"
    bypassLinks := own }

def officeScript (own : List BypassLink) : Scripted := (emptyScript.putRecord oldOffice).putRecord (newOffice own)

def officeRequest : AddRequest :=
  ⟨officeText "10.0.0.2/32", false, .automatic, some "office", none, true, none, none⟩

/-- Every authorization is accepted. -/
def adminCues : Cues := { workingCues with accepts := fun _ => true }

def officeDaemon : Handler clientCommands (Scripted × AddSeen) :=
  @Handler.observe clientCommands _ _ (fun script request =>
    let answer := play adminCues (serveRequest officeCrates ⟨[], false, false⟩ (.socket 501) request) script
    (.ok answer.1.1, answer.2)) AddSeen.note

theorem officeDaemon_faithful :
    officeDaemon.Faithful (fun script => (script.1.state, script.2)) (addEnvironment officeCrates (.socket 501)) := by
  apply Handler.Faithful.observe
  intro script request
  refine ⟨?_, ⟨_, _, play_completes rfl⟩⟩
  intro message same
  cases same

/-- A command against that daemon. -/
def officeRun (p : ClientProgram (Except AppError Unit)) (script : Scripted × AddSeen) : Except AppError Unit × Scripted × AddSeen :=
  @interpret clientCommands _ _ officeDaemon p script

theorem officeRun_completes (p : ClientProgram (Except AppError Unit)) (script : Scripted × AddSeen) :
    @Completes clientCommands _ _ (addEnvironment officeCrates (.socket 501)) p (script.1.state, script.2)
      (officeRun p script).1 ((officeRun p script).2.1.state, (officeRun p script).2.2) :=
  interpret_completes officeDaemon_faithful script p

theorem officeCrates_reads (net : IpNet) : officeCrates.parseIpNet net.toText.toList = some net := networkCrates_reads.display net

/-- Whether a command succeeded with this target, and having seen these records. -/
def ended (result : Except AppError Unit × Scripted × AddSeen) (target : ConnectionId) (listed : List ConnectionId) : Bool :=
  result.1.isOk && result.2.2.target = some target && result.2.2.listed = listed

def storedLinks (result : Except AppError Unit × Scripted × AddSeen) (id : ConnectionId) : Option (List BypassLink) :=
  match result.2.1.state.records id with
  | some (.record stored) => some stored.bypassLinks
  | _ => none

theorem ended_ok {result : Except AppError Unit × Scripted × AddSeen} {target : ConnectionId} {listed : List ConnectionId}
    (fine : ended result target listed = true) : result.1 = .ok () ∧ result.2.2 = ⟨some target, listed⟩ := by
  obtain ⟨outcome, script, seen⟩ := result
  simp only [ended, Bool.and_eq_true, decide_eq_true_eq] at fine
  obtain ⟨⟨done, found⟩, shown⟩ := fine
  rw [← found, ← shown]
  cases outcome with
  | ok value => exact ⟨rfl, rfl⟩
  | error error => cases done

theorem ended_completes {p : ClientProgram (Except AppError Unit)} {script : Scripted × AddSeen} {target : ConnectionId}
    {listed : List ConnectionId} (fine : ended (officeRun p script) target listed = true) :
    @Completes clientCommands _ _ (addEnvironment officeCrates (.socket 501)) p (script.1.state, script.2) (.ok ())
      ((officeRun p script).2.1.state, ⟨some target, listed⟩) := by
  obtain ⟨done, seen⟩ := ended_ok fine
  have run := officeRun_completes p script
  rw [done, seen] at run
  exact run

theorem storedLinks_eq {result : Except AppError Unit × Scripted × AddSeen} {id : ConnectionId} {record : StoredConnection}
    (there : result.2.1.state.records id = some (.record record)) : storedLinks result id = some record.bypassLinks := by
  unfold storedLinks
  rw [there]

def officeSeen : List ConnectionId := [exampleId, ⟨2⟩]

def officeCommand : ClientProgram (Except AppError Unit) :=
  cmdAdd officeCrates (fun _ _ => .ok [1]) (fun _ => 0) officeRequest

/-- The new connection has a link of its own, the old one another. -/
def officeStart : Scripted × AddSeen := (officeScript [.new lan [camera]], .none)

theorem officeCommand_runs : (ended (officeRun officeCommand officeStart) exampleId officeSeen &&
    storedLinks (officeRun officeCommand officeStart) exampleId == some [.new lan [printer]]) = true := by
  decide +kernel

theorem forced_add_keeps_office : ∃ (final : StoreState) (record : StoredConnection),
    final.records exampleId = some (.record record) ∧
    (KeepsSettings (officeStart.1.state.records exampleId)
        (superseded officeStart.1.state exampleId "office" officeSeen) record ↔
      Suffice (linksOf (officeStart.1.state.records exampleId))
        (superseded officeStart.1.state exampleId "office" officeSeen) record.allowedIps) := by
  have run := ended_completes (Bool.and_eq_true_iff.mp officeCommand_runs).1
  obtain ⟨target, record, same, there, keeps⟩ := forced_add_keeps_iff officeCrates_reads rfl rfl run
  obtain rfl : exampleId = target := Option.some.inj same
  exact ⟨_, record, there, keeps⟩

/-- The new connection loses its own link. -/
theorem forced_add_drops_links :
    ¬ ∀ (crates : Crates) (origin : PeerOrigin) (prompt : Nat → Prompt) (tries : ConnectionId → Nat) (request : AddRequest)
      (name : String) (start final : StoreState) (seen : AddSeen) (target : ConnectionId) (record : StoredConnection),
      (∀ net : IpNet, crates.parseIpNet net.toText.toList = some net) → request.force = true → request.name = some name →
      @Completes clientCommands _ _ (addEnvironment crates origin) (cmdAdd crates prompt tries request) (start, .none) (.ok ())
        (final, seen) → seen.target = some target → final.records target = some (.record record) →
      KeepsSettings (start.records target) (superseded start target name seen.listed) record := by
  intro keeps
  obtain ⟨fine, left⟩ := Bool.and_eq_true_iff.mp officeCommand_runs
  have run := ended_completes fine
  obtain ⟨target, record, same, there, -⟩ := forced_add_keeps_iff officeCrates_reads rfl rfl run
  obtain rfl : exampleId = target := Option.some.inj same
  have kept := keeps _ _ _ _ _ _ _ _ _ _ record officeCrates_reads rfl rfl run rfl there
  have linked : Linked record.bypassLinks lan camera := by
    apply kept.own
    exact ⟨_, List.mem_singleton_self _, (by decide : lan.trunc = lan), _, List.mem_singleton_self _,
      (by decide : camera.trunc = camera)⟩
  have alone : record.bypassLinks = [.new lan [printer]] :=
    Option.some.inj ((storedLinks_eq there).symm.trans (beq_iff_eq.mp left))
  rw [alone] at linked
  obtain ⟨link, member, -, bypassed, among, same⟩ := linked
  rw [List.mem_singleton.mp member] at among
  rw [List.mem_singleton.mp among] at same
  exact absurd same (by decide)

end Wgd.Client
