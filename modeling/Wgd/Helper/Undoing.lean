import Wgd.Helper.Startup
import Wgd.Dns.Script
import Wgd.Interaction.Footprint
import Wgd.Routes.Keeping
import Wgd.Routes.Script

/-! What a startup that fails leaves behind, whatever the system answers. -/

set_option autoImplicit false

namespace Wgd.Helper.Startup

open Wgd.Net Wgd.Interaction Wgd.Routes Wgd.Dns

/-- What a helper has done to the host and not yet tried to undo. -/
structure Doing where
  /-- The services the helper remembers, with their originals. -/
  services : List MacosDnsServiceState
  /-- The services whose DNS was written since the last write of a remembered original. -/
  changed : List String
  /-- The routes that were installed since the last attempt to delete them. -/
  installed : List MacosRoute
  /-- The device's name could not be written while there was something to undo. -/
  unnamed : Bool
  deriving DecidableEq, Repr

namespace Doing

def fresh : Doing := ⟨[], [], [], false⟩

/-- Every restore and every delete that was due has been attempted. -/
def Settled (doing : Doing) : Prop := doing.changed = [] ∧ doing.installed = []

instance (doing : Doing) : Decidable doing.Settled := by
  unfold Settled
  infer_instance

/-- The setting is the one remembered for the service. -/
def remembers (doing : Doing) (service : String) (servers : Setting) : Bool :=
  doing.services.any fun state => state.service == service && state.dnsServers == servers

def names (doing : Doing) : List String := doing.services.map MacosDnsServiceState.service

end Doing

/-- Any answer is possible. A route counts as installed once an add of it has worked. -/
def routeDoing : Environment routeCommands Doing := fun doing op reply final => match op, reply with
  | .routeAdd route _ none, .ok _ => final = { doing with installed := route :: doing.installed }
  | .routeDelete route _ none, _ => final = { doing with installed := doing.installed.filter (· != route) }
  | _, _ => final = doing

/-- Any answer is possible but about the helper's own memory. A write counts whether it is
reported to have worked or not: one of the remembered original as an attempt to restore
the service, and any other as a change. -/
def dnsDoing : Environment dnsCommands Doing := fun doing op reply final => match op, reply with
  | .dnsState, memory => memory.services = doing.services ∧ final = doing
  | .pushService state, () => final = { doing with services := doing.services ++ [state] }
  | .retainServices without, () => final = { doing with services := retained without doing.services }
  | .setDnsServers service servers, _ => final = { doing with
      changed := if doing.remembers service servers then doing.changed.filter (· != service)
        else service :: doing.changed }
  | _, _ => final = doing

def networkDoing : Environment helperCommands Doing := routeDoing.both dnsDoing

def startupDoing (interface : String) : Environment startupOnly Doing := fun doing op reply final => match op, reply with
  | .writeRuntimeFile path _, .error _ => final =
      if path = gotatunNamePath interface ∧ ¬ doing.Settled then { doing with unnamed := true } else doing
  | _, _ => final = doing

/-- The host of the helper of an interface, whatever works there and whatever does not. -/
def system (interface : String) : Environment startupCommands Doing := networkDoing.both (startupDoing interface)

variable {A : Type} {doing before : Doing} {owned : List MacosRoute}

/-! ### Routes -/

/-- Only these routes are left to undo, and nothing but routes has changed. -/
structure Tracks (before : Doing) (owned : List MacosRoute) (doing : Doing) : Prop where
  installed : doing.installed ⊆ owned
  rest : doing = { before with installed := doing.installed }

theorem Tracks.mono {more : List MacosRoute} (tracks : Tracks before owned doing) (less : owned ⊆ more) :
    Tracks before more doing :=
  ⟨fun _ member => less (tracks.installed member), tracks.rest⟩

theorem routeDoing_quiet {op : RouteOp} {reply : op.Reply} {after : Doing} (answered : routeDoing doing op reply after)
    (silent : op.writesTable = false) : after = doing := by
  cases op with
  | routeAdd route kind ifscope =>
    cases ifscope with
    | none => cases silent
    | some device => exact answered
  | routeDelete route kind ifscope => cases silent
  | _ => exact answered

theorem Tracks.quiet {op : RouteOp} {reply : op.Reply} {after : Doing} (tracks : Tracks before owned doing)
    (answered : routeDoing doing op reply after) (silent : op.writesTable = false) : Tracks before owned after := by
  rw [routeDoing_quiet answered silent]
  exact tracks

/-- A delete is one attempt at its route, and leaves the others. -/
theorem Tracks.attempted {route : MacosRoute} {kind : TargetKind} {ifscope : Option String}
    {reply : (RouteOp.routeDelete route kind ifscope).Reply} {after : Doing} (tracks : Tracks before owned doing)
    (answered : routeDoing doing (.routeDelete route kind ifscope) reply after) : Tracks before owned after := by
  cases ifscope with
  | some device =>
    cases answered
    exact tracks
  | none =>
    cases answered
    constructor
    · intro other member
      exact tracks.installed (List.mem_filter.mp member).1
    · rw [tracks.rest]

theorem delMacosRoute_tracks {route : MacosRoute} {rest : List MacosRoute}
    (others : ∀ other ∈ owned, other = route ∨ other ∈ rest) (tracks : Tracks before owned doing) :
    Ensures routeDoing (fun _ _ => True) (delMacosRoute route) (fun _ after => Tracks before rest after) doing := by
  rw [delMacosRoute, Ensures.attempt_iff, Routes.issue_iff]
  refine ⟨trivial, ?_⟩
  intro reply after answered
  cases answered
  have left : Tracks before rest { doing with installed := doing.installed.filter (· != route) } := by
    constructor
    · intro other member
      obtain ⟨member, different⟩ := List.mem_filter.mp member
      exact (others other (tracks.installed member)).resolve_left (by simpa using different)
    · rw [tracks.rest]
  cases reply with
  | error error => exact left
  | ok removed => exact left

theorem addMacosRoute_tracks (route : MacosRoute) (tracks : Tracks before owned doing) :
    Ensures routeDoing (fun _ _ => True) (addMacosRoute route) (fun outcome after => match outcome with
      | .ok .owned => Tracks before (owned ++ [route]) after
      | .ok .foreign | .error _ => Tracks before owned after) doing := by
  have add : ∀ doing, Tracks before owned doing → Ensures routeDoing (fun _ _ => True)
      ((Routes.issue (.routeAdd route none none)).attempt fun _ => Program.done (.ok MacosRouteInstall.owned))
      (fun outcome after => match outcome with
        | .ok .owned => Tracks before (owned ++ [route]) after
        | .ok .foreign | .error _ => Tracks before owned after) doing := by
    intro doing tracks
    rw [Ensures.attempt_iff, Routes.issue_iff]
    refine ⟨trivial, ?_⟩
    intro reply after answered
    cases reply with
    | error error =>
      cases answered
      exact tracks
    | ok created =>
      cases answered
      constructor
      · intro other member
        rcases List.mem_cons.mp member with rfl | member
        · simp
        · exact List.mem_append_left _ (tracks.installed member)
      · rw [tracks.rest]
  rw [addMacosRoute]
  split
  · rename_i tunnel _ _
    rw [Ensures.bind_iff]
    apply (prefixIsForeign_keeps tunnel (fun _ _ _ _ tracks answered silent => tracks.quiet answered silent)
      (fun _ _ _ _ _ tracks answered => Tracks.attempted tracks answered) tracks).mono
    intro isForeign after tracks
    cases isForeign with
    | true => exact tracks
    | false => exact add after tracks
  · exact add doing tracks

theorem tracks_keeps (args : HelperArgs) (before : Doing) : Keeps routeDoing args (Tracks before) where
  quiet := fun _ _ _ _ _ tracks answered silent => tracks.quiet answered silent
  add := fun _ _ route _ _ tracks _ => addMacosRoute_tracks route tracks
  delete := by
    intro earlier route rest doing tracks
    apply (delMacosRoute_tracks (fun other member => ?_) tracks).mono
    rotate_left
    · exact earlier ++ rest
    · simp only [List.mem_append, List.mem_cons] at member ⊢
      tauto
    · intro outcome after tracks
      cases outcome with
      | ok value => exact tracks
      | error error =>
        apply tracks.mono
        intro other member
        simp only [List.mem_append, List.mem_cons] at member ⊢
        tauto

/-- The deletes of a rollback or a teardown try every route. -/
theorem deleteRoutes_settles (localSubnets : List Subnet) (interface : String) (tracks : Tracks before owned doing) :
    Ensures routeDoing (fun _ _ => True) (deleteRoutes owned localSubnets interface)
      (fun _ after => Tracks before [] after) doing := by
  rw [deleteRoutes]
  apply Ensures.foldlM (fun rest _ after => Tracks before rest after)
  · intro route rest errors doing tracks
    rw [deleteRoute, Ensures.bind_iff]
    apply (delMacosRoute_tracks (fun other member => List.mem_cons.mp member) tracks).mono
    intro outcome after tracks
    cases outcome with
    | error error => exact tracks
    | ok value =>
      dsimp only
      rw [Ensures.bind_iff]
      apply (restore_keeps (fun _ _ _ _ tracks answered silent => tracks.quiet answered silent) tracks).mono
      intro _ final tracks
      exact tracks
  · exact tracks.mono fun route member => List.mem_reverse.mpr member

/-! ### DNS -/

/-- The command neither writes a service's DNS nor changes what the helper remembers. -/
def Watches : DnsOp → Prop
  | .setDnsServers _ _ | .pushService _ | .retainServices _ => False
  | _ => True

theorem dnsDoing_watches {op : DnsOp} {reply : op.Reply} {after : Doing} (watches : Watches op)
    (answered : dnsDoing doing op reply after) : after = doing := by
  cases op with
  | setDnsServers service servers => exact watches.elim
  | pushService state => exact watches.elim
  | retainServices without => exact watches.elim
  | dnsState => exact answered.2
  | _ => exact answered

/-- A program that only watches leaves everything as it was. -/
theorem watching {p : DnsProgram A} {post : A → Prop} (issues : @Issues dnsCommands A Watches p post) :
    Ensures dnsDoing (fun _ _ => True) p (fun result after => after = doing ∧ post result) doing := by
  have kept := @Issues.keeps dnsCommands Doing A Watches p post dnsDoing (· = doing) doing issues
    (fun _ _ _ _ watches same answered => (dnsDoing_watches watches answered).trans same) rfl
  exact kept.relax fun _ _ _ => trivial

theorem fingerprint_watches : @Issues dnsCommands _ Watches macosCurrentDnsFingerprint fun _ => True := by
  have observe : ∀ observed service, @Issues dnsCommands _ Watches (observeService observed service) fun _ => True := by
    intro observed service
    refine ⟨trivial, ?_⟩
    intro reply
    cases reply <;> trivial
  refine ⟨trivial, ?_⟩
  intro listing
  cases listing with
  | error error => trivial
  | ok listing =>
    dsimp only [Program.bind]
    split
    · trivial
    · rw [Issues.bind_iff]
      apply (Issues.foldlM (fun service _ observed => observe observed service) []).mono
      intro observed _
      exact ⟨trivial, fun _ => trivial⟩

theorem capture_watches (service : String) (tunnelDns : List String) :
    @Issues dnsCommands _ Watches (captureMacosDnsService service tunnelDns)
      (Outcome (fun _ => True) fun state => state.service = service) := by
  refine ⟨trivial, ?_⟩
  intro dns
  cases dns with
  | error error => trivial
  | ok dns =>
    dsimp only [Program.bind]
    split
    · rfl
    · refine ⟨trivial, ?_⟩
      intro search
      cases search with
      | error error => trivial
      | ok search => rfl

theorem persist_watches (services : List MacosDnsServiceState) (inputs : MacosReconcileInputs) :
    @Issues dnsCommands _ Watches (persistDnsCustody services inputs) fun _ => True := by
  unfold persistDnsCustody
  split
  · trivial
  split
  · trivial
  split
  · exact ⟨trivial, fun _ => trivial⟩
  · refine ⟨trivial, ?_⟩
    intro written
    cases written with
    | error error => trivial
    | ok value => exact ⟨trivial, fun _ => trivial⟩

/-- Every service whose DNS was changed is remembered, and nothing but DNS has changed. -/
structure Remembers (before doing : Doing) : Prop where
  changed : doing.changed ⊆ doing.names
  rest : doing = { before with services := doing.services, changed := doing.changed }

theorem takeService_remembers (inputs : MacosReconcileInputs) (service : String) (remembers : Remembers before doing) :
    Ensures dnsDoing (fun _ _ => True) (takeService inputs service) (fun _ after => Remembers before after) doing := by
  rw [takeService, Ensures.attempt_iff]
  apply (watching (capture_watches service inputs.dnsServers)).mono
  intro outcome captured seen
  obtain ⟨rfl, named⟩ := seen
  cases outcome with
  | error error => exact remembers
  | ok state =>
    dsimp only
    rw [Ensures.bind_iff, Dns.issue_iff]
    refine ⟨trivial, ?_⟩
    intro _ pushed answered
    cases answered
    rw [Ensures.bind_iff, Dns.issue_iff]
    refine ⟨trivial, ?_⟩
    intro memory read answered
    obtain ⟨-, rfl⟩ := answered
    rw [Ensures.bind_iff]
    apply (watching (persist_watches memory.services inputs)).mono
    intro _ recorded same
    rw [same.1, assertTunnelDns, Ensures.attempt_iff, Dns.issue_iff]
    refine ⟨trivial, ?_⟩
    intro reply written answered
    -- The service was pushed before its DNS is written.
    have kept : Remembers before written := by
      cases answered
      constructor
      · intro other member
        simp only [Doing.names, List.map_append, List.mem_append]
        split at member
        · exact .inl (remembers.changed (List.mem_filter.mp member).1)
        · rcases List.mem_cons.mp member with rfl | member
          · exact .inr (by simpa using named.symm)
          · exact .inl (remembers.changed member)
      · rw [remembers.rest]
    cases reply with
    | error error => exact kept
    | ok value =>
      dsimp only
      rw [Dns.issue_iff]
      refine ⟨trivial, ?_⟩
      intro reply after answered
      cases answered
      exact kept

theorem setupDns_remembers (args : HelperArgs) (routing : MacosRoutingState) (installed : Except String Unit)
    (remembers : Remembers before doing) :
    Ensures dnsDoing (fun _ _ => True) (setupDns args routing installed) (fun _ after => Remembers before after) doing := by
  unfold setupDns
  split
  · exact remembers
  · rw [configureMacosDns]
    split
    · exact remembers
    rw [Ensures.attempt_iff]
    apply (watching fingerprint_watches).mono
    intro outcome seen same
    rw [same.1]
    cases outcome with
    | error error => exact remembers
    | ok fingerprint =>
      dsimp only
      rw [Ensures.attempt_iff]
      apply Ensures.forEach (fun _ after => Remembers before after)
      · intro service rest doing remembers
        apply (takeService_remembers args.inputs service remembers).mono
        intro outcome after remembers
        cases outcome <;> exact remembers
      · intro taken remembers
        dsimp only
        rw [Ensures.bind_iff]
        apply (watching fingerprint_watches).mono
        intro outcome after same
        rw [same.1]
        cases outcome <;> exact remembers
      · exact remembers
  · exact remembers

/-- Restoring everything that is remembered tries every service that was changed. -/
theorem restore_settles (inputs : MacosReconcileInputs) (changed : doing.changed ⊆ doing.names) :
    Ensures dnsDoing (fun _ _ => True) (restoreMacosDnsServices doing.services inputs)
      (fun _ after => after = { doing with changed := [] }) doing := by
  rw [restoreMacosDnsServices, Ensures.bind_iff]
  apply Ensures.mono _ (Ensures.foldlM (fun rest _ (after : Doing) => rest ⊆ doing.services ∧
    after.changed ⊆ rest.map MacosDnsServiceState.service ∧ after = { doing with changed := after.changed }) _ _)
  · intro failed after restored
    obtain ⟨-, none, same⟩ := restored
    rw [List.map_nil, List.subset_nil] at none
    rw [none] at same
    rw [Ensures.bind_iff]
    apply (watching (persist_watches (failed.map Prod.fst) inputs)).mono
    intro _ recorded kept
    rw [kept.1]
    split
    · rw [Ensures.bind_iff, Dns.issue_iff]
      refine ⟨trivial, ?_⟩
      intro _ flushed answered
      cases answered
      exact same
    · exact same
  · intro state rest failed restoring left
    obtain ⟨part, left, same⟩ := left
    have known : restoring.remembers state.service state.dnsServers = true := by
      rw [same]
      simp only [Doing.remembers, List.any_eq_true]
      exact ⟨state, part List.mem_cons_self, by simp⟩
    have tried : restoring.changed.filter (· != state.service) ⊆ rest.map MacosDnsServiceState.service := by
      intro other member
      obtain ⟨member, different⟩ := List.mem_filter.mp member
      exact (List.mem_cons.mp (left member)).resolve_left (by simpa using different)
    have others : rest ⊆ doing.services := fun _ member => part (List.mem_cons_of_mem _ member)
    rw [restoreOne, Ensures.bind_iff, restoreMacosDnsService, restoreService, Ensures.attempt_iff, Dns.issue_iff]
    refine ⟨trivial, ?_⟩
    intro reply written answered
    have after : written = { doing with changed := restoring.changed.filter (· != state.service) } := by
      cases answered
      rw [if_pos known, same]
    rw [after]
    cases reply with
    | error error => exact ⟨others, tried, rfl⟩
    | ok value =>
      dsimp only
      rw [Dns.issue_iff]
      refine ⟨trivial, ?_⟩
      intro reply final answered
      cases answered
      cases reply <;> exact ⟨others, tried, rfl⟩
  · exact ⟨fun _ member => List.mem_reverse.mp member, fun _ member => by simpa [Doing.names] using changed member, rfl⟩

/-! ### The network as a whole -/

theorem routes_doing {p : RouteProgram A} {post : A → Doing → Prop} :
    Ensures networkDoing (fun _ _ => True) (routes p) post doing ↔ Ensures routeDoing (fun _ _ => True) p post doing :=
  Ensures.inl_iff

theorem dns_doing {p : DnsProgram A} {post : A → Doing → Prop} :
    Ensures networkDoing (fun _ _ => True) (dns p) post doing ↔ Ensures dnsDoing (fun _ _ => True) p post doing :=
  Ensures.inr_iff

/-- What is left to undo is known to what cleans up; without a network there is nothing. -/
def Holding (cleanup : Option (MacosCleanupState × MacosRoutingState)) (doing : Doing) : Prop :=
  match cleanup with
  | none => doing.Settled
  | some (_, routing) => doing.installed ⊆ routing.routesAdded ∧ doing.changed ⊆ doing.names

theorem rollback_settles (args : HelperArgs) (routing : MacosRoutingState) (setupError : String)
    (installed : doing.installed ⊆ routing.routesAdded) (changed : doing.changed ⊆ doing.names) :
    Ensures networkDoing (fun _ _ => True) (rollback args routing setupError)
      (fun _ after => after.Settled ∧ after.unnamed = doing.unnamed) doing := by
  rw [rollback, Ensures.bind_iff, routes_doing]
  apply (deleteRoutes_settles _ _ (⟨installed, rfl⟩ : Tracks doing routing.routesAdded doing)).mono
  intro errors deleted tracks
  have gone : deleted.installed = [] := List.subset_nil.mp tracks.installed
  have same := tracks.rest
  rw [gone] at same
  rw [Ensures.bind_iff, dns_doing, Dns.issue_iff]
  refine ⟨trivial, ?_⟩
  intro memory read answered
  obtain ⟨services, rfl⟩ := answered
  rw [services, Ensures.bind_iff, dns_doing]
  have changed' : read.changed ⊆ read.names := by
    rw [same]
    exact changed
  have named : read.unnamed = doing.unnamed := by rw [same]
  apply (restore_settles args.inputs changed').mono
  intro failed after restored
  rw [restored]
  exact ⟨⟨rfl, gone⟩, named⟩

theorem cleanup_settles (state : MacosCleanupState) (routing : MacosRoutingState)
    (installed : doing.installed ⊆ routing.routesAdded) (changed : doing.changed ⊆ doing.names) :
    Ensures networkDoing (fun _ _ => True) (cleanupNetworkMacos state routing)
      (fun _ after => after.Settled ∧ after.unnamed = doing.unnamed) doing := by
  have rest : Ensures networkDoing (fun _ _ => True) (do
      let owned ← dns (Dns.issue .dnsState)
      let failed ← dns (restoreMacosDnsServices owned.services state.reconcile)
      let connected ← routes (Routes.issue (.macosConnectedSubnetsByDevice state.reconcile.interface))
      let errors ← routes (deleteRoutes routing.routesAdded (macosLocalConnectedSubnets connected)
        state.reconcile.interface)
      return failed.map restoreMessage ++ errors)
      (fun _ after => after.Settled ∧ after.unnamed = doing.unnamed) doing := by
    rw [Ensures.bind_iff, dns_doing, Dns.issue_iff]
    refine ⟨trivial, ?_⟩
    intro memory read answered
    obtain ⟨services, rfl⟩ := answered
    rw [services, Ensures.bind_iff, dns_doing]
    apply (restore_settles state.reconcile changed).mono
    intro failed restored same
    rw [Ensures.bind_iff, routes_doing, Routes.issue_iff]
    refine ⟨trivial, ?_⟩
    intro connected listed answered
    cases answered
    rw [Ensures.bind_iff, routes_doing]
    have tracks : Tracks restored routing.routesAdded restored := by
      refine ⟨?_, rfl⟩
      rw [same]
      exact installed
    apply (deleteRoutes_settles _ _ tracks).mono
    intro errors after tracks
    have changed' : after.changed = [] := by rw [tracks.rest, same]
    have named : after.unnamed = read.unnamed := by rw [tracks.rest, same]
    exact ⟨⟨changed', List.subset_nil.mp tracks.installed⟩, named⟩
  rw [cleanupNetworkMacos]
  split
  · rw [Ensures.bind_iff, dns_doing, Dns.issue_iff]
    refine ⟨trivial, ?_⟩
    intro _ removed answered
    cases answered
    exact rest
  · exact rest

/-- A setup that fails has rolled back, and one that works holds what it did. -/
theorem configureNetwork_holds (args : HelperArgs) (settled : doing.Settled) :
    Ensures networkDoing (fun _ _ => True) (configureNetworkMacos args) (fun outcome after =>
      after.unnamed = doing.unnamed ∧ match outcome with
        | .error _ => after.Settled
        | .ok cleanup => Holding (some cleanup) after) doing := by
  obtain ⟨unchanged, none⟩ := settled
  have start : Tracks doing [] doing := ⟨by rw [none]; exact List.Subset.refl [], rfl⟩
  rw [configureNetworkMacos, Ensures.bind_iff, routes_doing]
  apply ((tracks_keeps args doing).setup start).mono
  intro result routed tracks
  obtain ⟨routing, installed⟩ := result
  obtain ⟨tracks, -⟩ := tracks
  dsimp only at tracks ⊢
  have first : Remembers routed routed := by
    refine ⟨?_, rfl⟩
    rw [tracks.rest]
    exact unchanged ▸ List.nil_subset _
  rw [Ensures.bind_iff, dns_doing]
  apply (setupDns_remembers args routing installed first).mono
  intro outcome configured remembers
  have held : configured.installed ⊆ routing.routesAdded := by
    rw [remembers.rest]
    exact tracks.installed
  have unnamed : configured.unnamed = doing.unnamed := by rw [remembers.rest, tracks.rest]
  cases outcome with
  | error setupError =>
    dsimp only
    rw [Ensures.bind_iff]
    apply (rollback_settles args routing setupError held remembers.changed).mono
    intro error after undone
    exact ⟨undone.2.trans unnamed, undone.1⟩
  | ok fingerprint =>
    dsimp only
    have key : @Issues dnsCommands _ Watches (startStoreKey args routing) fun _ => True := by
      rw [startStoreKey]
      split
      · exact ⟨trivial, fun _ => trivial⟩
      · trivial
    rw [Ensures.bind_iff, dns_doing]
    apply (watching key).mono
    intro dnsStoreKey started same
    rw [same.1, Ensures.bind_iff, dns_doing, Dns.issue_iff]
    refine ⟨trivial, ?_⟩
    intro _ stored answered
    cases answered
    exact ⟨unnamed, held, remembers.changed⟩

/-! ### Startup -/

variable {interface : String}

theorem network_doing {p : HelperProgram A} {post : A → Doing → Prop} :
    Ensures (system interface) (fun _ _ => True) (network p) post doing ↔
      Ensures networkDoing (fun _ _ => True) p post doing := Ensures.inl_iff

theorem step_doing {op : StartupOp} {post : op.Reply → Doing → Prop} :
    Ensures (system interface) (fun _ _ => True) (issue op) post doing ↔
      True ∧ ∀ reply after, startupDoing interface doing op reply after → post reply after := Iff.rfl

/-- A command of startup that writes no runtime file. -/
def Prepares : startupCommands.Op → Prop
  | .inr (.writeRuntimeFile _ _) | .inl _ => False
  | .inr _ => True

/-- A program that only prepares leaves nothing to undo, and undoes nothing. -/
theorem preparing {p : StartupProgram A} {post : A → Prop} (issues : @Issues startupCommands A Prepares p post) :
    Ensures (system interface) (fun _ _ => True) p (fun result after => after = doing ∧ post result) doing := by
  have stays : ∀ (state : Doing) op reply after, Prepares op → state = doing →
      system interface state op reply after → after = doing := by
    intro state op reply after prepares same answered
    cases op with
    | inl op => exact prepares.elim
    | inr op =>
      cases op with
      | writeRuntimeFile path contents => exact prepares.elim
      | _ => exact Eq.trans answered same
  exact (@Issues.keeps startupCommands Doing A Prepares p post (system interface) (· = doing) doing issues stays rfl).relax
    fun _ _ _ => trivial

theorem issue_prepares {op : StartupOp} (prepares : Prepares (.inr op)) :
    @Issues startupCommands op.Reply Prepares (issue op) fun _ => True :=
  ⟨prepares, fun _ => trivial⟩

theorem failing_prepares {message : String → String} {p : StartupProgram (Except String A)}
    (issues : @Issues startupCommands _ Prepares p fun _ => True) :
    @Issues startupCommands _ Prepares (failing message p) fun _ => True := by
  rw [failing, Issues.bind_iff]
  exact issues.mono fun _ _ => trivial

theorem attempt_prepares {B : Type} {p : StartupProgram (Except String A)} {f : A → StartupProgram (Except String B)}
    (issues : @Issues startupCommands _ Prepares p fun _ => True)
    (rest : ∀ value, @Issues startupCommands _ Prepares (f value) fun _ => True) :
    @Issues startupCommands _ Prepares (p.attempt f) fun _ => True := by
  rw [Program.attempt, Issues.bind_iff]
  apply issues.mono
  intro outcome _
  cases outcome with
  | error error => trivial
  | ok value => exact rest value

theorem abandonDevice_prepares (interface : String) :
    @Issues startupCommands _ Prepares (abandonDevice interface) fun _ => True :=
  ⟨trivial, fun _ => ⟨trivial, fun _ => trivial⟩⟩

theorem publishTunName_prepares (interfaceName : String) :
    @Issues startupCommands _ Prepares (publishTunName interfaceName) fun _ => True := by
  refine ⟨trivial, ?_⟩
  intro nameFile
  cases nameFile with
  | none => trivial
  | some nameFile => exact failing_prepares (issue_prepares trivial)

theorem applyConfig_prepares (interface : String) (config : Option ParsedUserspaceConfig) :
    @Issues startupCommands _ Prepares (applyConfig interface config) fun _ => True := by
  cases config with
  | none => trivial
  | some config =>
    refine ⟨trivial, ?_⟩
    intro applied
    cases applied with
    | ok value =>
      cases value
      trivial
    | error error =>
      dsimp only [Program.bind]
      rw [Issues.bind_iff]
      exact (abandonDevice_prepares interface).mono fun _ _ => trivial

theorem openDevice_prepares (interface : String) :
    @Issues startupCommands _ Prepares (openDevice interface) fun _ => True := by
  rw [openDevice]
  apply attempt_prepares
  · exact issue_prepares trivial
  intro parsedConfig
  apply attempt_prepares
  · exact issue_prepares trivial
  intro bypassLinks
  apply attempt_prepares
  · exact failing_prepares (issue_prepares trivial)
  intro _
  apply attempt_prepares
  · exact failing_prepares (issue_prepares trivial)
  intro interfaceName
  apply attempt_prepares
  · exact publishTunName_prepares interfaceName
  intro _
  apply attempt_prepares
  · exact failing_prepares (issue_prepares trivial)
  intro _
  apply attempt_prepares
  · exact failing_prepares (issue_prepares trivial)
  intro _
  apply attempt_prepares (applyConfig_prepares interface parsedConfig)
  intro _
  trivial

/-- What the environment says of the connection, before the network is configured. -/
theorem identity_prepares (interface : String) :
    @Issues startupCommands _ Prepares (do
      let connectionId ← connectionIdFromEnv
      let dnsMode ← dnsStoreKeyMode connectionId.isSome
      let custody ← custodyFor interface connectionId dnsMode
      return (connectionId, dnsMode, custody)) fun _ => True := by
  have id : @Issues startupCommands _ Prepares connectionIdFromEnv fun _ => True := by
    refine ⟨trivial, ?_⟩
    intro raw
    cases raw with
    | none => trivial
    | some raw => exact issue_prepares trivial
  apply Issues.bind id
  intro connectionId _
  have mode : @Issues startupCommands _ Prepares (dnsStoreKeyMode connectionId.isSome) fun _ => True := by
    refine ⟨trivial, ?_⟩
    intro active
    dsimp only [Program.bind]
    split
    · trivial
    · split <;> trivial
  apply Issues.bind mode
  intro dnsMode _
  have custody : @Issues startupCommands _ Prepares (custodyFor interface connectionId dnsMode) fun _ => True := by
    unfold custodyFor
    split
    · refine ⟨trivial, ?_⟩
      intro helperPid
      refine ⟨trivial, ?_⟩
      intro helperStart
      cases helperStart <;> trivial
    · trivial
  exact Issues.bind custody fun _ _ => trivial

/-- Where the network stands before the device's name is written. -/
theorem configureDevice_holds (interfaceName : String) (bypassLinks : List Wgd.Links.BypassLink)
    (config : Option ParsedUserspaceConfig) (settled : doing.Settled) (named : doing.unnamed = false) :
    Ensures (system interface) (fun _ _ => True) (configureDevice interface interfaceName bypassLinks config)
      (fun outcome after => after.unnamed = false ∧ match outcome with
        | .error _ => after.Settled
        | .ok cleanup => Holding cleanup after) doing := by
  cases config with
  | none => exact ⟨named, settled⟩
  | some config =>
    have identity := @preparing _ doing interface _ _ (identity_prepares interface)
    rw [Ensures.bind_iff] at identity
    rw [configureDevice, Ensures.bind_iff]
    apply identity.mono
    intro connectionId read identity
    rw [Ensures.bind_iff] at identity ⊢
    apply identity.mono
    intro dnsMode asked identity
    rw [Ensures.bind_iff] at identity ⊢
    apply identity.mono
    intro custody known same
    rw [same.1, Ensures.bind_iff, network_doing]
    apply (configureNetwork_holds _ settled).mono
    intro outcome configured holds
    obtain ⟨unnamed, holds⟩ := holds
    cases outcome with
    | ok cleanup => exact ⟨unnamed.trans named, holds⟩
    | error error =>
      dsimp only
      rw [Ensures.bind_iff]
      apply (preparing (abandonDevice_prepares interface)).mono
      intro _ after same
      rw [same.1]
      exact ⟨unnamed.trans named, holds⟩

theorem pidPath_ne_namePath (interface : String) : gotatunPidPath interface ≠ gotatunNamePath interface := by
  intro same
  have texts := congrArg String.toList same
  simp [gotatunPidPath, gotatunNamePath, String.toList_append] at texts

theorem cleanupNetwork_settles {running : RunningDevice} (holding : Holding running.cleanup doing) :
    Ensures (system interface) (fun _ _ => True) (cleanupNetwork running)
      (fun _ after => after.Settled ∧ after.unnamed = doing.unnamed) doing := by
  rw [cleanupNetwork]
  cases held : running.cleanup with
  | none =>
    rw [held] at holding
    exact ⟨holding, rfl⟩
  | some cleanup =>
    obtain ⟨state, routing⟩ := cleanup
    rw [held] at holding
    dsimp only
    rw [network_doing]
    exact cleanup_settles state routing holding.1 holding.2

theorem giveUp_settles {running : RunningDevice} (runtimeFiles : List String) (holding : Holding running.cleanup doing) :
    Ensures (system interface) (fun _ _ => True) (giveUp running runtimeFiles)
      (fun _ after => after.Settled ∧ after.unnamed = doing.unnamed) doing := by
  have files : ∀ paths : List String, @Issues startupCommands _ Prepares
      (paths.forM fun path => issue (.removeFile path)) fun _ => True := by
    intro paths
    induction paths with
    | nil => trivial
    | cons path rest ih => exact ⟨trivial, fun _ => ih⟩
  rw [giveUp, Ensures.bind_iff]
  apply (cleanupNetwork_settles holding).mono
  intro _ cleaned settled
  rw [Ensures.bind_iff, step_doing]
  refine ⟨trivial, ?_⟩
  intro _ stopped answered
  cases answered
  apply (preparing (files _)).mono
  intro _ after same
  rw [same.1]
  exact settled

/-- The judgment on a startup: one that failed has tried to undo everything, exactly if the
device's name was written or there was nothing to undo when it could not be. -/
def Judged (outcome : Except String RunningDevice) (after : Doing) : Prop :=
  ∀ error, outcome = .error error → (after.Settled ↔ after.unnamed = false)

theorem judged_settled {outcome : Except String RunningDevice} (settled : doing.Settled)
    (named : doing.unnamed = false) : Judged outcome doing := by
  intro error _
  exact ⟨fun _ => named, fun _ => settled⟩

/-- After the device's name every failure cleans up. -/
theorem announce_judged {running : RunningDevice} (holding : Holding running.cleanup doing) (named : doing.unnamed = false) :
    Ensures (system interface) (fun _ _ => True) (announce interface running) Judged doing := by
  rw [announce, Ensures.bind_iff, step_doing]
  refine ⟨trivial, ?_⟩
  intro pid started answered
  cases answered
  rw [Ensures.bind_iff, step_doing]
  refine ⟨trivial, ?_⟩
  intro written filed answered
  have same : filed = doing := by
    cases written with
    | ok value => exact answered
    | error error =>
      rw [startupDoing, if_neg fun both => pidPath_ne_namePath interface both.1] at answered
      exact answered
  rw [same]
  cases written with
  | error error =>
    dsimp only
    rw [Ensures.bind_iff]
    apply (giveUp_settles _ holding).mono
    intro _ cleaned settled
    rw [Ensures.bind_iff, step_doing]
    refine ⟨trivial, ?_⟩
    intro told after answered
    cases answered
    exact judged_settled settled.1 (settled.2.trans named)
  | ok value =>
    dsimp only
    rw [Ensures.bind_iff, step_doing]
    refine ⟨trivial, ?_⟩
    intro told heard answered
    cases answered
    cases told with
    | ok value =>
      intro error failed
      cases failed
    | error error =>
      dsimp only
      rw [Ensures.bind_iff]
      apply (giveUp_settles _ holding).mono
      intro _ after settled
      exact judged_settled settled.1 (settled.2.trans named)

/-- The one failure after which nothing is undone. -/
theorem writeName_judged {cleanup : Option (MacosCleanupState × MacosRoutingState)} (interfaceName : String)
    (holding : Holding cleanup doing) (named : doing.unnamed = false) :
    Ensures (system interface) (fun _ _ => True) (writeName interface interfaceName) (fun outcome after => match outcome with
      | .error _ => after.Settled ↔ after.unnamed = false
      | .ok () => Holding cleanup after ∧ after.unnamed = false) doing := by
  rw [writeName, withContext, failing, Ensures.bind_iff, step_doing]
  refine ⟨trivial, ?_⟩
  intro written after answered
  cases written with
  | ok value =>
    cases answered
    exact ⟨holding, named⟩
  | error error =>
    rw [startupDoing] at answered
    by_cases settled : doing.Settled
    · rw [if_neg fun both => both.2 settled] at answered
      rw [answered]
      exact ⟨fun _ => named, fun _ => settled⟩
    · rw [if_pos ⟨rfl, settled⟩] at answered
      rw [answered]
      exact ⟨fun undone => absurd undone settled, fun untrue => Bool.noConfusion untrue⟩

theorem startDevice_judged (settled : doing.Settled) (named : doing.unnamed = false) :
    Ensures (system interface) (fun _ _ => True) (startDevice interface) (fun outcome after => match outcome with
      | .error _ => after.Settled ↔ after.unnamed = false
      | .ok running => Holding running.cleanup after ∧ after.unnamed = false) doing := by
  rw [startDevice, Ensures.attempt_iff]
  apply (preparing (openDevice_prepares interface)).mono
  intro outcome opened same
  rw [same.1]
  cases outcome with
  | error error => exact ⟨fun _ => named, fun _ => settled⟩
  | ok device =>
    obtain ⟨parsedConfig, bypassLinks, interfaceName⟩ := device
    dsimp only
    rw [Ensures.attempt_iff]
    apply (configureDevice_holds interfaceName bypassLinks parsedConfig settled named).mono
    intro outcome configured holds
    cases outcome with
    | error error => exact ⟨fun _ => holds.1, fun _ => holds.2⟩
    | ok cleanup =>
      dsimp only
      rw [Ensures.attempt_iff]
      apply (writeName_judged interfaceName holds.2 holds.1).mono
      intro outcome after judged
      cases outcome <;> exact judged

theorem daemonizeAndRun_judged (interface : String) :
    Ensures (system interface) (fun _ _ => True) (daemonizeAndRun interface) Judged .fresh := by
  have fresh : Doing.fresh.Settled := ⟨rfl, rfl⟩
  have opening : ∀ {f : Unit → StartupProgram (Except String RunningDevice)} {p : StartupProgram (Except String Unit)},
      @Issues startupCommands _ Prepares p (fun _ => True) →
      Ensures (system interface) (fun _ _ => True) (f ()) Judged .fresh →
      Ensures (system interface) (fun _ _ => True) (p.attempt f) Judged .fresh := by
    intro f p issues rest
    rw [Ensures.attempt_iff]
    apply (preparing issues).mono
    intro outcome after same
    rw [same.1]
    cases outcome with
    | error error => exact judged_settled fresh rfl
    | ok value => exact rest
  have prepare : @Issues startupCommands _ Prepares (prepareChild interface) fun _ => True := by
    refine ⟨trivial, ?_⟩
    intro _
    apply attempt_prepares
    · exact issue_prepares trivial
    intro _
    apply attempt_prepares
    · exact issue_prepares trivial
    intro _
    exact failing_prepares (issue_prepares trivial)
  rw [daemonizeAndRun]
  apply opening
  · exact failing_prepares (issue_prepares trivial)
  apply opening
  · exact failing_prepares (issue_prepares trivial)
  apply opening
  · exact failing_prepares (issue_prepares trivial)
  rw [Ensures.bind_iff, step_doing]
  refine ⟨trivial, ?_⟩
  intro result forked answered
  cases answered
  cases result with
  | error error =>
    dsimp only
    rw [Ensures.bind_iff, step_doing]
    refine ⟨trivial, ?_⟩
    intro told after answered
    cases answered
    exact judged_settled fresh rfl
  | ok value =>
    dsimp only
    apply opening prepare
    rw [Ensures.bind_iff]
    apply (startDevice_judged fresh rfl).mono
    intro outcome started judged
    cases outcome with
    | ok running => exact announce_judged judged.1 judged.2
    | error error =>
      dsimp only
      rw [Ensures.bind_iff, step_doing]
      refine ⟨trivial, ?_⟩
      intro told after answered
      cases answered
      exact fun _ _ => judged

/-! ### A laptop on which one runtime file cannot be written -/

/-- One service with DNS of its own, on which everything works. -/
def laptopDns (doing : Doing) : (op : DnsOp) → op.Reply
  | .listNetworkServices => .ok ["Wi-Fi"]
  | .getDnsServers _ => .ok (some ["192.168.1.1"])
  | .macosPrimaryService => some "Wi-Fi"
  | .dnsState => ⟨doing.services, .default⟩
  | op => Wgd.Routes.dnsWorks op

/-- A tunnel for one network, with DNS of its own. -/
def laptopConfig : ParsedUserspaceConfig := ⟨["10.8.0.2/32"], ["10.64.0.1"], none, ["10.0.0.0/8"], .v4 0xcb007107#32⟩

def laptopReply (refused : String) : (op : StartupOp) → op.Reply
  | .processId => 4242
  | .processStartTicks _ => some ⟨1700000000, 5⟩
  | .var name => if name = connectionIdEnv then some "00000000-0000-0000-0000-00000000007f" else none
  | .parseConnectionId _ => some ⟨0x7f#128⟩
  | .parseConfigFromEnv => .ok (some laptopConfig)
  | .bypassLinksFromEnv => .ok []
  | .createDirAll _ | .removeFile _ | .stopDevice => ()
  | .tunName => .ok "utun7"
  | .writeRuntimeFile path _ => if path = refused then .error "No space left on device" else .ok ()
  | .statusSocket | .openOutput _ | .daemonize | .signalParent _ | .initFileSync _ | .buildRuntime | .ensureRootLogDir
  | .writeFile _ _ | .tunDevice _ | .uapiServer _ | .buildDevice | .applyWireguardConfig _ => .ok ()

def laptopRoutes : Handler routeCommands Doing := fun doing op => (Wgd.Dns.routesWork op, match op with
  | .routeAdd route _ none => { doing with installed := route :: doing.installed }
  | .routeDelete route _ none => { doing with installed := doing.installed.filter (· != route) }
  | _ => doing)

def laptopServices : Handler dnsCommands Doing := fun doing op => (laptopDns doing op, match op with
  | .pushService state => { doing with services := doing.services ++ [state] }
  | .retainServices without => { doing with services := retained without doing.services }
  | .setDnsServers service servers => { doing with
      changed := if doing.remembers service servers then doing.changed.filter (· != service)
        else service :: doing.changed }
  | _ => doing)

def laptopFiles (interface refused : String) : Handler startupOnly Doing := fun doing op => (laptopReply refused op, match op with
  | .writeRuntimeFile path _ =>
    if path = refused ∧ path = gotatunNamePath interface ∧ ¬ doing.Settled then { doing with unnamed := true } else doing
  | _ => doing)

def laptop (interface refused : String) : Handler startupCommands Doing :=
  (laptopRoutes.both laptopServices).both (laptopFiles interface refused)

theorem laptop_faithful (interface refused : String) : (laptop interface refused).Faithful id (system interface) := by
  have routed : laptopRoutes.Faithful id routeDoing := by
    intro doing op
    cases op with
    | routeAdd route kind ifscope => cases ifscope <;> rfl
    | routeDelete route kind ifscope => cases ifscope <;> rfl
    | _ => rfl
  have served : laptopServices.Faithful id dnsDoing := by
    intro doing op
    cases op with
    | dnsState => exact ⟨rfl, rfl⟩
    | _ => rfl
  have filed : (laptopFiles interface refused).Faithful id (startupDoing interface) := by
    intro doing op
    cases op with
    | writeRuntimeFile path contents =>
      by_cases same : path = refused
      · subst same
        simp only [laptopFiles, laptopReply, if_true, true_and]
        rfl
      · simp only [laptopFiles, laptopReply, same, if_false, false_and]
        rfl
    | _ => rfl
  exact (routed.both served).both filed

/-- What a startup of `wg-00000000` comes to where one file cannot be written. -/
theorem laptop_completes (refused : String) :
    Completes (system "wg-00000000") (daemonizeAndRun "wg-00000000") .fresh
      (interpret (laptop "wg-00000000" refused) (daemonizeAndRun "wg-00000000") .fresh).1
      (interpret (laptop "wg-00000000" refused) (daemonizeAndRun "wg-00000000") .fresh).2 :=
  interpret_completes (laptop_faithful "wg-00000000" refused) .fresh _

theorem laptop_fails {refused error : String} {final : Doing}
    (ends : interpret (laptop "wg-00000000" refused) (daemonizeAndRun "wg-00000000") .fresh = (.error error, final)) :
    Completes (system "wg-00000000") (daemonizeAndRun "wg-00000000") .fresh (.error error) final := by
  have run := laptop_completes refused
  rw [ends] at run
  exact run

/-- A helper that reports a failed startup has tried to put every changed service back and
to delete every installed route, unless what failed was the write of its device's name
while some of that was due. -/
theorem failed_startup_settled_iff {interface error : String} {final : Doing}
    (failed : Completes (system interface) (daemonizeAndRun interface) .fresh (.error error) final) :
    final.Settled ↔ final.unnamed = false :=
  (daemonizeAndRun_judged interface).completes failed error rfl

/-- Without its pid file a helper undoes everything. -/
theorem failed_startup_settled_without_pid : ∃ error final,
    Completes (system "wg-00000000") (daemonizeAndRun "wg-00000000") .fresh (.error error) final ∧
      (final.Settled ↔ final.unnamed = false) ∧ final.unnamed = false :=
  have run := laptop_fails (show interpret (laptop "wg-00000000" (gotatunPidPath "wg-00000000"))
    (daemonizeAndRun "wg-00000000") .fresh = (.error "failed to write userspace helper pid file", _) by rfl)
  ⟨_, _, run, failed_startup_settled_iff run, rfl⟩

/-- Without the file of its device's name a helper leaves its routes in the table, and the
service with the tunnel's DNS. -/
theorem unnamed_startup_undoes_nothing : ¬ ∀ interface error final,
    Completes (system interface) (daemonizeAndRun interface) .fresh (.error error) final → final.Settled := by
  intro settles
  have run := laptop_fails (show interpret (laptop "wg-00000000" (gotatunNamePath "wg-00000000"))
    (daemonizeAndRun "wg-00000000") .fresh = (.error "failed to write userspace helper interface name",
      ⟨[⟨"Wi-Fi", some ["192.168.1.1"], none⟩], ["Wi-Fi"], [⟨false, "10.0.0.0/8", some "utun7", none⟩], true⟩)
    by decide +kernel)
  have settled := settles _ _ _ run
  exact absurd settled (by decide)

end Wgd.Helper.Startup
