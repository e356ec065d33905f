import Wgd.Config.Fingerprint
import Wgd.Config.Sections

/-! What the resolver decides about a text that was accepted once: whether it is
accepted again, and nothing else. -/

set_option autoImplicit false

namespace Wgd.Config

open Wgd.Net

/-- Keys are matched without regard to case. -/
def Directive.named (directive : Directive) (key : String) : Bool :=
  String.ofList (toAsciiLowercase directive.key.toList) = key

def valuesOf (key : String) (directives : List Directive) : List (List Char) :=
  (directives.filter fun directive => directive.named key).map Directive.value

/-- What the lines of a text say. -/
def readText (text : String) : List Line := (lines text.toList).map readLine

/-- The endpoints a text names, in the order in which the parser resolves them. -/
def endpointValues (text : String) : List (List Char) := (peerSections (readText text)).flatMap (valuesOf "endpoint")

/-- The hooks of one kind, in file order. -/
def hookLines (key text : String) : List String := (valuesOf key (interfaceDirectives (readText text))).map String.ofList

/-- Each of these endpoints is resolved, the first of them as this question. -/
def resolves (resolver : Resolver) (question : Nat) (values : List (List Char)) : Bool :=
  (values.zipIdx question).all fun entry => (parseEndpoint resolver entry.2 entry.1).isOk

/-- The resolver has an answer for every endpoint the text names. -/
def endpointsResolve (resolver : Resolver) (text : String) : Bool := resolves resolver 0 (endpointValues text)

variable {crates : Crates} {resolver other : Resolver} {question : Nat}

theorem valuesOf_cons (key : String) (directive : Directive) (rest : List Directive) :
    valuesOf key (directive :: rest) = if directive.named key then directive.value :: valuesOf key rest else valuesOf key rest := by
  unfold valuesOf
  rw [List.filter_cons]
  split <;> rfl

theorem resolves_cons (value : List Char) (rest : List (List Char)) :
    resolves resolver question (value :: rest) =
      ((parseEndpoint resolver question value).isOk && resolves resolver (question + 1) rest) := by
  simp [resolves, List.zipIdx_cons]

theorem resolves_append (first rest : List (List Char)) :
    resolves resolver question (first ++ rest) =
      (resolves resolver question first && resolves resolver (question + first.length) rest) := by
  simp [resolves, List.zipIdx_append]

/-! ### One peer section -/

def PeerReading.unresolved (reading : PeerReading) : PeerReading :=
  ⟨{ reading.fields with endpoint := none }, reading.endpoints⟩

/-- The endpoint is resolved to an address, and what was written is kept. -/
def PeerReading.answered (reading : PeerReading) (value : List Char) (addr : SocketAddr) : PeerReading where
  fields := { reading.fields with endpoint := some addr, endpointLiteral := some (String.ofList value) }
  endpoints := reading.endpoints + 1

theorem PeerReading.answered_unresolved {reading reading' : PeerReading} (same : reading'.unresolved = reading.unresolved)
    (value : List Char) (addr addr' : SocketAddr) :
    (reading'.answered value addr').unresolved = (reading.answered value addr).unresolved := by
  obtain ⟨fields, endpoints⟩ := reading
  obtain ⟨fields', endpoints'⟩ := reading'
  simp only [PeerReading.unresolved, PeerReading.mk.injEq, PeerFields.mk.injEq] at same
  simp [PeerReading.answered, PeerReading.unresolved, same]

theorem peerStep_endpoint {directive : Directive} (named : directive.named "endpoint" = true) (reading : PeerReading) :
    peerStep crates resolver reading directive =
      (parseEndpoint resolver reading.endpoints directive.value).toOption.map (reading.answered directive.value) := by
  have key : String.ofList (toAsciiLowercase directive.key.toList) = "endpoint" := by simpa [Directive.named] using named
  unfold peerStep peerDirective
  rw [key]
  show (Except.toOption (parseEndpoint resolver reading.endpoints directive.value >>= _)).map _ = _
  cases parseEndpoint resolver reading.endpoints directive.value <;> rfl

/-- No other directive asks the resolver or looks at an endpoint. -/
theorem peerStep_other {directive : Directive} (named : directive.named "endpoint" = false) (reading : PeerReading) :
    (peerStep crates other reading directive).map PeerReading.unresolved =
      peerStep crates resolver reading.unresolved directive := by
  have key : String.ofList (toAsciiLowercase directive.key.toList) ≠ "endpoint" := by simpa [Directive.named] using named
  unfold peerStep peerDirective
  split
  · cases decodeKey32 crates "PublicKey" directive.value <;> rfl
  · cases decodeKey32 crates "PresharedKey" directive.value <;> rfl
  · cases (splitCsv directive.value).mapM (parseIpnet crates) <;> rfl
  next same => exact absurd same key
  · cases parseU16 directive.value <;> rfl
  · rfl

theorem peerStep_counts {directive : Directive} (named : directive.named "endpoint" = false) (reading : PeerReading) :
    (peerStep crates resolver reading directive).map PeerReading.endpoints =
      (peerStep crates resolver reading directive).map fun _ => reading.endpoints := by
  have key : String.ofList (toAsciiLowercase directive.key.toList) ≠ "endpoint" := by simpa [Directive.named] using named
  unfold peerStep peerDirective
  split
  · cases decodeKey32 crates "PublicKey" directive.value <;> rfl
  · cases decodeKey32 crates "PresharedKey" directive.value <;> rfl
  · cases (splitCsv directive.value).mapM (parseIpnet crates) <;> rfl
  next same => exact absurd same key
  · cases parseU16 directive.value <;> rfl
  · rfl

/-- A section that was read once is read again if its endpoints are resolved. -/
theorem peerFold_again {directives : List Directive} {reading reading' final : PeerReading}
    (same : reading'.unresolved = reading.unresolved)
    (read : directives.foldlM (peerStep crates resolver) reading = some final) :
    final.endpoints = reading.endpoints + (valuesOf "endpoint" directives).length ∧
      (directives.foldlM (peerStep crates other) reading').map PeerReading.unresolved =
        if resolves other reading.endpoints (valuesOf "endpoint" directives) then some final.unresolved else none := by
  induction directives generalizing reading reading' with
  | nil =>
    cases read
    simp [valuesOf, resolves, same]
  | cons directive rest ih =>
    rw [List.foldlM_cons, Option.bind_eq_bind, Option.bind_eq_some_iff] at read
    obtain ⟨next, step, read⟩ := read
    rw [List.foldlM_cons, valuesOf_cons]
    cases named : directive.named "endpoint" with
    | true =>
      rw [peerStep_endpoint named, Option.map_eq_some_iff] at step
      obtain ⟨addr, -, rfl⟩ := step
      have count : reading'.endpoints = reading.endpoints := (congrArg PeerReading.endpoints same :)
      have again := fun addr' => ih (reading.answered_unresolved same directive.value addr addr') read
      have counted : final.endpoints = reading.endpoints + 1 + (valuesOf "endpoint" rest).length := (again addr).1
      rw [if_pos rfl, resolves_cons, peerStep_endpoint named, count, counted]
      refine ⟨by rw [List.length_cons, Nat.add_assoc, Nat.add_comm 1], ?_⟩
      cases parseEndpoint other reading.endpoints directive.value with
      | error error => rfl
      | ok addr' => exact (again addr').2
    | false =>
      have counted : next.endpoints = reading.endpoints := by
        have counts := @peerStep_counts crates resolver directive named reading
        rw [step] at counts
        exact Option.some.inj counts
      have steps : (peerStep crates other reading' directive).map PeerReading.unresolved = some next.unresolved := by
        rw [@peerStep_other crates resolver other directive named, same, ← @peerStep_other crates resolver resolver directive named, step]
        rfl
      rw [if_neg Bool.false_ne_true, ← counted]
      obtain ⟨next', step', same'⟩ := Option.map_eq_some_iff.mp steps
      rw [step']
      exact ih same' read

/-! ### All peers -/

theorem PeerFields.finish_unresolved (fields : PeerFields) :
    fields.finish.map ConnectionPeer.unresolved = { fields with endpoint := none }.finish := by
  unfold PeerFields.finish
  cases fields.publicKey with
  | none => rfl
  | some publicKey =>
    dsimp only
    split <;> rfl

theorem peersOf_again {sections : List (List Directive)} {peers : List ConnectionPeer}
    (read : peersOf crates resolver question sections = some peers) :
    (peersOf crates other question sections).map (List.map ConnectionPeer.unresolved) =
      if resolves other question (sections.flatMap (valuesOf "endpoint")) then some (peers.map ConnectionPeer.unresolved) else none := by
  induction sections generalizing question peers with
  | nil =>
    cases read
    simp [peersOf, resolves]
  | cons directives rest ih =>
    simp only [peersOf, Option.bind_eq_bind, Option.bind_eq_some_iff] at read
    obtain ⟨reading, first, peer, done, peers', later, same⟩ := read
    cases same
    have again := @peerFold_again crates resolver other directives ⟨.empty, question⟩ ⟨.empty, question⟩ reading rfl first
    have count : reading.endpoints = question + (valuesOf "endpoint" directives).length := again.1
    rw [List.flatMap_cons, resolves_append, ← count]
    have outcome := again.2
    cases heads : resolves other question (valuesOf "endpoint" directives) with
    | false =>
      rw [heads, if_neg Bool.false_ne_true, Option.map_eq_none_iff] at outcome
      simp [peersOf, outcome]
    | true =>
      rw [heads, if_pos rfl] at outcome
      obtain ⟨reading', first', alike⟩ := Option.map_eq_some_iff.mp outcome
      have finished : reading'.fields.finish.map ConnectionPeer.unresolved = some peer.unresolved := by
        have fields : { reading'.fields with endpoint := none } = { reading.fields with endpoint := none } :=
          (congrArg PeerReading.fields alike :)
        rw [PeerFields.finish_unresolved, fields, ← PeerFields.finish_unresolved, done]
        rfl
      have counted : reading'.endpoints = reading.endpoints := (congrArg PeerReading.endpoints alike :)
      obtain ⟨peer', done', alike'⟩ := Option.map_eq_some_iff.mp finished
      have rests := ih later
      rw [Bool.true_and]
      simp only [peersOf, first', done', counted, Option.bind_eq_bind, Option.bind_some]
      cases tail : resolves other reading.endpoints (rest.flatMap (valuesOf "endpoint")) with
      | false =>
        rw [tail, if_neg Bool.false_ne_true, Option.map_eq_none_iff] at rests
        simp [rests]
      | true =>
        rw [tail, if_pos rfl] at rests
        obtain ⟨others, later', alike''⟩ := Option.map_eq_some_iff.mp rests
        simp [later', alike', alike'']

/-! ### The whole text -/

theorem finish_again (fields : InterfaceFields) {peers peers' : List ConnectionPeer}
    (same : peers'.map ConnectionPeer.unresolved = peers.map ConnectionPeer.unresolved) :
    (finish fields peers').map ConnectionConfig.unresolved = (finish fields peers).map ConnectionConfig.unresolved := by
  have empty : peers'.isEmpty = peers.isEmpty := by
    have empties := congrArg List.isEmpty same
    rwa [List.isEmpty_map, List.isEmpty_map] at empties
  unfold finish
  rw [empty]
  cases fields.privateKey with
  | none => rfl
  | some privateKey =>
    dsimp only
    split
    · rfl
    · simp [ConnectionConfig.unresolved, same]

/-- A text that was accepted once is accepted again if and only if its endpoints are resolved. -/
theorem parse_again {text : String} {config : ConnectionConfig}
    (accepted : parseConnectionConfig crates resolver text = .ok config) :
    (parseConnectionConfig crates other text).toOption.map ConnectionConfig.unresolved =
      if endpointsResolve other text then some config.unresolved else none := by
  have read := toOption_eq_some.mpr accepted
  rw [parseConnectionConfig_sectional] at read ⊢
  unfold endpointsResolve endpointValues readText
  generalize (lines text.toList).map readLine = said at read ⊢
  unfold sectional at read ⊢
  split at read
  · cases read
  next good =>
    rw [if_neg good]
    simp only [Option.bind_eq_bind, Option.bind_eq_some_iff] at read
    obtain ⟨fields, interface, peers, built, whole⟩ := read
    have again := @peersOf_again crates resolver other 0 _ _ built
    rw [interface, Option.bind_eq_bind, Option.bind_some]
    cases peerings : resolves other 0 ((peerSections said).flatMap (valuesOf "endpoint")) with
    | false =>
      rw [peerings, if_neg Bool.false_ne_true, Option.map_eq_none_iff] at again
      simp [again]
    | true =>
      rw [peerings, if_pos rfl] at again
      obtain ⟨peers', built', alike⟩ := Option.map_eq_some_iff.mp again
      rw [built', Option.bind_eq_bind, Option.bind_some, finish_again fields alike, whole]
      rfl

theorem accepted_again {text : String} {config : ConnectionConfig}
    (accepted : parseConnectionConfig crates resolver text = .ok config) :
    (parseConnectionConfig crates other text).isOk = endpointsResolve other text := by
  have again := @parse_again crates resolver other text config accepted
  cases parsed : parseConnectionConfig crates other text with
  | error error =>
    rw [parsed] at again
    cases resolved : endpointsResolve other text with
    | false => rfl
    | true =>
      rw [resolved, if_pos rfl] at again
      cases again
  | ok config' =>
    rw [parsed] at again
    cases resolved : endpointsResolve other text with
    | false =>
      rw [resolved, if_neg Bool.false_ne_true] at again
      cases again
    | true => rfl

/-! ### Hooks -/

/-- The hooks for the way down, and those that a section adds to them. -/
def InterfaceFields.downHooks (fields : InterfaceFields) (directives : List Directive) : List String × List String :=
  (fields.preDown ++ (valuesOf "predown" directives).map String.ofList,
    fields.postDown ++ (valuesOf "postdown" directives).map String.ofList)

theorem downHooks_nil (fields : InterfaceFields) : fields.downHooks [] = (fields.preDown, fields.postDown) := by
  simp [InterfaceFields.downHooks, valuesOf]

/-- A directive under any other key adds none. -/
theorem downHooks_other {directive : Directive} {key : String} (same : String.ofList (toAsciiLowercase directive.key.toList) = key)
    (pre : key ≠ "predown") (post : key ≠ "postdown") (fields : InterfaceFields) (rest : List Directive) :
    fields.downHooks (directive :: rest) = fields.downHooks rest := by
  simp [InterfaceFields.downHooks, valuesOf_cons, Directive.named, same, pre, post]

theorem interfaceStep_hooks (fields : InterfaceFields) (directive : Directive) (rest : List Directive) :
    (interfaceStep crates fields directive).map (fun next => next.downHooks rest) =
      (interfaceStep crates fields directive).map fun _ => fields.downHooks (directive :: rest) := by
  unfold interfaceStep interfaceDirective
  split
  next key =>
    rw [downHooks_other key (by decide) (by decide)]
    cases decodeKey32 crates "PrivateKey" directive.value <;> rfl
  next key =>
    rw [downHooks_other key (by decide) (by decide)]
    cases (splitCsv directive.value).mapM (parseIpnet crates) <;> rfl
  next key =>
    rw [downHooks_other key (by decide) (by decide)]
    cases (splitCsv directive.value).mapM parseDnsEntry <;> rfl
  next key =>
    rw [downHooks_other key (by decide) (by decide)]
    cases parseMtu directive.value <;> rfl
  next key =>
    rw [downHooks_other key (by decide) (by decide)]
    rfl
  next key =>
    rw [downHooks_other key (by decide) (by decide)]
    rfl
  next key =>
    simp [InterfaceFields.downHooks, valuesOf_cons, Directive.named, key, Except.toOption, ParseState.interface,
      InterfaceFields.state]
  next key =>
    simp [InterfaceFields.downHooks, valuesOf_cons, Directive.named, key, Except.toOption, ParseState.interface,
      InterfaceFields.state]
  next key =>
    rw [downHooks_other key (by decide) (by decide)]
    rfl
  next key =>
    rw [downHooks_other key (by decide) (by decide)]
    rfl
  next key =>
    rw [downHooks_other key (by decide) (by decide)]
    rfl
  next key =>
    rw [downHooks_other key (by decide) (by decide)]
    rfl
  · rfl

theorem interfaceFold_hooks {directives : List Directive} {fields final : InterfaceFields}
    (read : directives.foldlM (interfaceStep crates) fields = some final) :
    final.downHooks [] = fields.downHooks directives := by
  induction directives generalizing fields with
  | nil =>
    cases read
    rfl
  | cons directive rest ih =>
    rw [List.foldlM_cons, Option.bind_eq_bind, Option.bind_eq_some_iff] at read
    obtain ⟨next, step, read⟩ := read
    have hooks := @interfaceStep_hooks crates fields directive rest
    rw [step] at hooks
    rw [ih read]
    exact Option.some.inj hooks

theorem finish_hooks {fields : InterfaceFields} {peers : List ConnectionPeer} {config : ConnectionConfig}
    (whole : finish fields peers = some config) : config.preDown = fields.preDown ∧ config.postDown = fields.postDown := by
  unfold finish at whole
  split at whole
  · cases whole
  · split at whole
    · cases whole
    · cases whole
      exact ⟨rfl, rfl⟩

/-- The hooks of a configuration are those its text names, in file order. -/
theorem parse_hooks {text : String} {config : ConnectionConfig} (accepted : parseConnectionConfig crates resolver text = .ok config) :
    config.preDown = hookLines "predown" text ∧ config.postDown = hookLines "postdown" text := by
  have read := toOption_eq_some.mpr accepted
  rw [parseConnectionConfig_sectional] at read
  unfold sectional at read
  split at read
  · cases read
  · simp only [Option.bind_eq_bind, Option.bind_eq_some_iff] at read
    obtain ⟨fields, interface, peers, -, whole⟩ := read
    have hooks := interfaceFold_hooks interface
    rw [downHooks_nil, Prod.mk.injEq] at hooks
    obtain ⟨pre, post⟩ := finish_hooks whole
    rw [pre, post, hooks.1, hooks.2]
    exact ⟨rfl, rfl⟩

end Wgd.Config
