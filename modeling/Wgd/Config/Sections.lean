import Wgd.Config.Lines

/-! The parser is one pass with a mutable peer; what it makes of a text is what its
sections say, each by itself. -/

set_option autoImplicit false

namespace Wgd.Config

open Wgd.Net

/-! ### The sections of a text -/

/-- A directive with a value. -/
structure Directive where
  key : String
  value : List Char
  deriving DecidableEq

/-- A header, and the directives up to the next one. -/
structure Block where
  heading : Heading
  directives : List Directive
  deriving DecidableEq

/-- The directives before the next header. -/
def leading : List Line → List Directive
  | .directive key value :: rest => if value.isEmpty then leading rest else ⟨key, value⟩ :: leading rest
  | .blank :: rest | .unreadable :: rest => leading rest
  | .header _ :: _ | [] => []

def blocks : List Line → List Block
  | .header heading :: rest => ⟨heading, leading rest⟩ :: blocks rest
  | .directive _ _ :: rest | .blank :: rest | .unreadable :: rest => blocks rest
  | [] => []

def interfaceDirectives (text : List Line) : List Directive :=
  ((blocks text).filter fun block => block.heading = .interface).flatMap Block.directives

def peerSections (text : List Line) : List (List Directive) :=
  ((blocks text).filter fun block => block.heading = .peer).map Block.directives

def knownInterfaceKeys : List String :=
  ["privatekey", "address", "dns", "mtu", "preup", "postup", "predown", "postdown", "listenport", "fwmark", "table",
    "saveconfig"]

def knownPeerKeys : List String := ["publickey", "presharedkey", "allowedips", "endpoint", "persistentkeepalive"]

def knownKeys : Section → List String
  | .interface => knownInterfaceKeys
  | .peer => knownPeerKeys
  | .none => []

/-- A line the parser may accept in this section. -/
def Admits (current : Section) : Line → Prop
  | .blank | .header _ => True
  | .directive key value => value = [] ∨ key ∈ knownKeys current
  | .unreadable => False

def sectionAfter (current : Section) : Line → Section
  | .header heading => heading.section
  | _ => current

/-- The section that is open after these lines. -/
def openAfter (before : List Line) : Section := before.foldl sectionAfter .none

/-! ### What each section says by itself -/

structure InterfaceFields where
  privateKey : Option Key
  addresses : List IpNet
  dnsServers : List IpAddr
  mtu : Option UInt16
  preUp : List String
  postUp : List String
  preDown : List String
  postDown : List String
  deriving DecidableEq

def ParseState.interface (state : ParseState) : InterfaceFields :=
  ⟨state.privateKey, state.addresses, state.dnsServers, state.mtu, state.preUp, state.postUp, state.preDown, state.postDown⟩

/-- Nothing is read but these fields. -/
def InterfaceFields.state (fields : InterfaceFields) : ParseState :=
  ⟨.interface, fields.privateKey, fields.addresses, fields.dnsServers, fields.mtu, fields.preUp, fields.postUp, fields.preDown,
    fields.postDown, [], .empty, 0⟩

def InterfaceFields.none : InterfaceFields := ParseState.start.interface

def interfaceStep (crates : Crates) (fields : InterfaceFields) (directive : Directive) : Option InterfaceFields :=
  (interfaceDirective crates fields.state directive.key.toList directive.value).toOption.map ParseState.interface

/-- The interface that these directives describe, in order. -/
def interfaceOf (crates : Crates) (directives : List Directive) : Option InterfaceFields :=
  directives.foldlM (interfaceStep crates) .none

/-- A peer section being read, and how many endpoints were read so far. -/
structure PeerReading where
  fields : PeerFields
  endpoints : Nat
  deriving DecidableEq

def PeerReading.state (reading : PeerReading) : ParseState :=
  { ParseState.start with «section» := .peer, peer := reading.fields, endpoints := reading.endpoints }

def ParseState.reading (state : ParseState) : PeerReading := ⟨state.peer, state.endpoints⟩

def peerStep (crates : Crates) (resolver : Resolver) (reading : PeerReading) (directive : Directive) : Option PeerReading :=
  (peerDirective crates resolver reading.state directive.key.toList directive.value).toOption.map ParseState.reading

/-- The public key and the AllowedIPs are mandatory. -/
def PeerFields.finish (fields : PeerFields) : Option ConnectionPeer :=
  match fields.publicKey with
  | none => none
  | some publicKey =>
    if fields.allowedIps.isEmpty then none
    else some ⟨publicKey, fields.presharedKey, fields.allowedIps, fields.endpoint, fields.endpointLiteral, fields.keepalive⟩

/-- The peers of these sections, one for each. The resolver is asked from this question on. -/
def peersOf (crates : Crates) (resolver : Resolver) : (question : Nat) → List (List Directive) → Option (List ConnectionPeer)
  | _, [] => some []
  | question, directives :: rest => do
    let reading ← directives.foldlM (peerStep crates resolver) ⟨.empty, question⟩
    let peer ← reading.fields.finish
    let peers ← peersOf crates resolver reading.endpoints rest
    return peer :: peers

def finish (fields : InterfaceFields) (peers : List ConnectionPeer) : Option ConnectionConfig :=
  match fields.privateKey with
  | none => none
  | some privateKey =>
    if fields.addresses.isEmpty || peers.isEmpty then none
    else some ⟨privateKey, fields.addresses, fields.dnsServers, fields.mtu, fields.preUp, fields.postUp, fields.preDown,
      fields.postDown, peers⟩

/-- The configuration that the sections of a text describe. -/
def sectional (crates : Crates) (resolver : Resolver) (text : List Line) : Option ConnectionConfig :=
  if .unreadable ∈ text ∨ leading text ≠ [] then none
  else do
    let fields ← interfaceOf crates (interfaceDirectives text)
    let peers ← peersOf crates resolver 0 (peerSections text)
    finish fields peers

/-! ### The run, section by section -/

variable {crates : Crates} {resolver : Resolver}

def runDirectives (crates : Crates) (resolver : Resolver) (state : ParseState) (directives : List Directive) : Option ParseState :=
  directives.foldlM (fun state directive => applyDirective crates resolver state directive.key directive.value) state

def flushed (state : ParseState) : Option ParseState := (flushSection state).toOption

/-- A section is opened, read and flushed. -/
def runBlock (crates : Crates) (resolver : Resolver) (state : ParseState) (block : Block) : Option ParseState :=
  (runDirectives crates resolver { state with «section» := block.heading.section } block.directives).bind flushed

theorem openSection_toOption (state : ParseState) («section» : Section) :
    (openSection state «section»).toOption = (flushed state).map fun state => { state with «section» := «section» } := by
  unfold openSection flushed
  cases flushSection state <;> rfl

theorem runLines_cons (state : ParseState) (line : Line) (rest : List Line) :
    runLines crates resolver state (line :: rest) =
      (applyLine crates resolver state line).bind fun state => runLines crates resolver state rest := by
  rw [runLines, List.foldlM_cons]
  rfl

/-- What is left of the open section, then the other sections. -/
def runRest (crates : Crates) (resolver : Resolver) (state : ParseState) (text : List Line) : Option ParseState :=
  ((runDirectives crates resolver state (leading text)).bind flushed).bind fun state =>
    (blocks text).foldlM (runBlock crates resolver) state

/-- The lines of a text do what its sections do. -/
theorem runLines_flushed (state : ParseState) (text : List Line) :
    (runLines crates resolver state text).bind flushed =
      if .unreadable ∈ text then none else runRest crates resolver state text := by
  induction text generalizing state with
  | nil =>
    show flushed state = (flushed state).bind _
    cases flushed state <;> rfl
  | cons line rest ih =>
    rw [runLines_cons, Option.bind_assoc]
    simp only [ih, List.mem_cons]
    by_cases bad : Line.unreadable ∈ rest
    · simp [bad]
    simp only [bad, or_false, if_false]
    cases line with
    | blank => rfl
    | unreadable => rfl
    | header heading =>
      have first : applyLine crates resolver state (.header heading) =
          (flushed state).map fun state => { state with «section» := heading.section } := openSection_toOption state _
      have opened : runRest crates resolver state (.header heading :: rest) =
          (flushed state).bind fun state => (runBlock crates resolver state ⟨heading, leading rest⟩).bind fun state =>
            (blocks rest).foldlM (runBlock crates resolver) state := rfl
      rw [first, opened, Option.bind_map]
      rfl
    | directive key value =>
      simp only [reduceCtorEq, if_false]
      unfold applyLine runRest
      by_cases valueless : value.isEmpty = true
      · simp [leading, blocks, valueless]
      · simp only [leading, blocks, valueless, Bool.false_eq_true, if_false]
        simp only [runDirectives, List.foldlM_cons, Option.bind_eq_bind, Option.bind_assoc]

/-! ### The interface and the peers, each by itself -/

/-- These fields in place of the state's own. -/
def InterfaceFields.into (fields : InterfaceFields) (state : ParseState) : ParseState :=
  { state with
    privateKey := fields.privateKey, addresses := fields.addresses, dnsServers := fields.dnsServers, mtu := fields.mtu
    preUp := fields.preUp, postUp := fields.postUp, preDown := fields.preDown, postDown := fields.postDown }

def PeerReading.into (reading : PeerReading) (state : ParseState) : ParseState :=
  { state with peer := reading.fields, endpoints := reading.endpoints }

theorem interfaceDirective_fields (state : ParseState) (directive : Directive) :
    (interfaceDirective crates state directive.key.toList directive.value).toOption =
      (interfaceStep crates state.interface directive).map fun fields => fields.into state := by
  unfold interfaceStep interfaceDirective
  split
  · cases decodeKey32 crates "PrivateKey" directive.value <;> rfl
  · cases (splitCsv directive.value).mapM (parseIpnet crates) <;> rfl
  · cases (splitCsv directive.value).mapM parseDnsEntry <;> rfl
  · cases parseMtu directive.value <;> rfl
  all_goals rfl

theorem peerDirective_reading (state : ParseState) (directive : Directive) :
    (peerDirective crates resolver state directive.key.toList directive.value).toOption =
      (peerStep crates resolver state.reading directive).map fun reading => reading.into state := by
  unfold peerStep peerDirective
  split
  · cases decodeKey32 crates "PublicKey" directive.value <;> rfl
  · cases decodeKey32 crates "PresharedKey" directive.value <;> rfl
  · cases (splitCsv directive.value).mapM (parseIpnet crates) <;> rfl
  · show _ = ((Except.toOption (parseEndpoint resolver state.endpoints directive.value >>= _)).map _).map _
    cases parseEndpoint resolver state.endpoints directive.value <;> rfl
  · cases parseU16 directive.value <;> rfl
  · rfl

theorem runDirectives_interface (state : ParseState) (directives : List Directive) :
    runDirectives crates resolver { state with «section» := .interface } directives =
      (directives.foldlM (interfaceStep crates) state.interface).map fun fields =>
        fields.into { state with «section» := .interface } := by
  induction directives generalizing state with
  | nil => rfl
  | cons directive rest ih =>
    rw [runDirectives, List.foldlM_cons, List.foldlM_cons]
    show (interfaceDirective crates { state with «section» := .interface } directive.key.toList directive.value).toOption >>= _ = _
    rw [interfaceDirective_fields]
    show (interfaceStep crates state.interface directive).map _ >>= _ = _
    cases interfaceStep crates state.interface directive with
    | none => rfl
    | some fields => exact ih (fields.into state)

theorem runDirectives_peer (state : ParseState) (directives : List Directive) :
    runDirectives crates resolver { state with «section» := .peer } directives =
      (directives.foldlM (peerStep crates resolver) state.reading).map fun reading =>
        reading.into { state with «section» := .peer } := by
  induction directives generalizing state with
  | nil => rfl
  | cons directive rest ih =>
    rw [runDirectives, List.foldlM_cons, List.foldlM_cons]
    show (peerDirective crates resolver { state with «section» := .peer } directive.key.toList directive.value).toOption >>= _ = _
    rw [peerDirective_reading]
    show (peerStep crates resolver state.reading directive).map _ >>= _ = _
    cases peerStep crates resolver state.reading directive with
    | none => rfl
    | some reading => exact ih (reading.into state)

/-- A finished peer section becomes a peer. -/
theorem flushPeer_toOption (state : ParseState) :
    (flushPeer state).toOption = state.peer.finish.map fun peer => { state with peers := state.peers ++ [peer], peer := .empty } := by
  unfold flushPeer PeerFields.finish
  cases state.peer.publicKey with
  | none => rfl
  | some publicKey =>
    dsimp only
    split <;> rfl

/-- The sections change the interface and add peers, the one apart from the other. -/
theorem runBlocks_apart (state : ParseState) (flushed : state.peer = .empty) (sections : List Block) :
    (sections.foldlM (runBlock crates resolver) state).map (fun final => (final.interface, final.peers)) =
      ((((sections.filter fun block => block.heading = .interface).flatMap Block.directives).foldlM (interfaceStep crates)
        state.interface).bind fun fields =>
          (peersOf crates resolver state.endpoints
            ((sections.filter fun block => block.heading = .peer).map Block.directives)).map fun peers =>
              (fields, state.peers ++ peers)) := by
  induction sections generalizing state with
  | nil => simp [peersOf]
  | cons block rest ih =>
    obtain ⟨heading, directives⟩ := block
    rw [List.foldlM_cons]
    cases heading with
    | interface =>
      have done : runBlock crates resolver state ⟨.interface, directives⟩ =
          (directives.foldlM (interfaceStep crates) state.interface).map fun fields =>
            fields.into { state with «section» := .interface } := by
        unfold runBlock
        rw [show Heading.section Heading.interface = Section.interface from rfl, runDirectives_interface, Option.bind_map]
        cases directives.foldlM (interfaceStep crates) state.interface <;> rfl
      rw [done]
      simp only [List.filter_cons, reduceCtorEq, decide_true, decide_false, if_true, Bool.false_eq_true, if_false,
        List.flatMap_cons, List.foldlM_append]
      cases directives.foldlM (interfaceStep crates) state.interface with
      | none => rfl
      | some fields => exact ih _ flushed
    | peer =>
      have done : runBlock crates resolver state ⟨.peer, directives⟩ =
          (directives.foldlM (peerStep crates resolver) ⟨.empty, state.endpoints⟩).bind fun reading =>
            reading.fields.finish.map fun peer =>
              { state with «section» := .peer, peers := state.peers ++ [peer], peer := .empty, endpoints := reading.endpoints } := by
        unfold runBlock
        rw [show Heading.section Heading.peer = Section.peer from rfl, runDirectives_peer, Option.bind_map]
        rw [show state.reading = ⟨.empty, state.endpoints⟩ by rw [ParseState.reading, flushed]]
        apply congrArg
        funext reading
        exact flushPeer_toOption _
      rw [done]
      simp only [List.filter_cons, reduceCtorEq, decide_true, decide_false, if_true, Bool.false_eq_true, if_false,
        List.map_cons, peersOf]
      cases directives.foldlM (peerStep crates resolver) ⟨.empty, state.endpoints⟩ with
      | none => simp
      | some reading =>
        cases finished : reading.fields.finish with
        | none => simp [finished]
        | some peer =>
          simp only [Option.bind_some, finished, Option.map_some, Option.bind_eq_bind]
          rw [ih _ rfl]
          refine congrArg (Option.bind _) (funext fun fields => ?_)
          cases peersOf crates resolver reading.endpoints
            ((rest.filter fun block => block.heading = .peer).map Block.directives) <;> simp

theorem finishParse_toOption (state : ParseState) :
    (finishParse state).toOption = (flushed state).bind fun state => finish state.interface state.peers := by
  unfold finishParse flushed finish
  cases flushSection state with
  | error error => rfl
  | ok state =>
    show Except.toOption (match state.privateKey with | none => _ | some privateKey => _) = _
    cases key : state.privateKey with
    | none => simp [key, Except.toOption, ParseState.interface]
    | some privateKey =>
      by_cases noAddress : state.addresses = []
      · simp [key, noAddress, Except.toOption, ParseState.interface]
      · by_cases noPeer : state.peers = []
        · simp [key, noAddress, noPeer, Except.toOption, ParseState.interface]
        · simp [key, noAddress, noPeer, Except.toOption, ParseState.interface]

/-- The parser reads a text section by section: each peer comes from the lines under its own
header, the interface from the lines under its headers. -/
theorem parseConnectionConfig_sectional (input : String) :
    (parseConnectionConfig crates resolver input).toOption = sectional crates resolver ((lines input.toList).map readLine) := by
  rw [parseConnectionConfig_toOption]
  generalize (lines input.toList).map readLine = text
  simp only [finishParse_toOption]
  rw [← Option.bind_assoc, runLines_flushed]
  unfold sectional
  by_cases bad : Line.unreadable ∈ text
  · simp [bad]
  simp only [bad, false_or, if_false]
  unfold runRest
  cases before : leading text with
  | cons directive rest => rfl
  | nil =>
    have apart := @runBlocks_apart crates resolver .start rfl (blocks text)
    have started : (runDirectives crates resolver .start []).bind flushed = some .start := rfl
    have none : ¬([] : List Directive) ≠ [] := by simp
    rw [started, Option.bind_some, if_neg none]
    unfold interfaceOf interfaceDirectives peerSections InterfaceFields.none
    have finishes : ((blocks text).foldlM (runBlock crates resolver) ParseState.start).bind
        (fun state => finish state.interface state.peers) =
        (((blocks text).foldlM (runBlock crates resolver) ParseState.start).map
          fun final => (final.interface, final.peers)).bind fun final => finish final.1 final.2 := by
      rw [Option.bind_map]
      rfl
    rw [finishes, apart, Option.bind_assoc]
    apply congrArg
    funext fields
    rw [Option.bind_map]
    rfl

/-! ### The lines it accepts -/

theorem lowered_known {state state' : ParseState} {key value : List Char}
    (read : interfaceDirective crates state key value = .ok state') : String.ofList (toAsciiLowercase key) ∈ knownInterfaceKeys := by
  unfold interfaceDirective at read
  split at read
  all_goals first
    | next same => simp [knownInterfaceKeys, same]
    | cases read

theorem lowered_known_peer {state state' : ParseState} {key value : List Char}
    (read : peerDirective crates resolver state key value = .ok state') : String.ofList (toAsciiLowercase key) ∈ knownPeerKeys := by
  unfold peerDirective at read
  split at read
  all_goals first
    | next same => simp [knownPeerKeys, same]
    | cases read

theorem readLine_lowered {rawLine : List Char} {key : String} {value : List Char}
    (means : readLine rawLine = .directive key value) : String.ofList (toAsciiLowercase key.toList) = key := by
  unfold readLine readHeader at means
  dsimp only at means
  split at means
  · cases means
  split at means
  · split at means
    · cases means
    · split at means <;> cases means
  · split at means
    · cases means
    · cases means
      rw [lowerKey, String.toList_ofList, toAsciiLowercase_idem]

/-- A line that is read is one the open section admits. -/
theorem applyLine_admits {state state' : ParseState} {rawLine : List Char}
    (read : applyLine crates resolver state (readLine rawLine) = some state') :
    Admits state.section (readLine rawLine) ∧ state'.section = sectionAfter state.section (readLine rawLine) := by
  cases means : readLine rawLine with
  | blank =>
    rw [means] at read
    cases read
    exact ⟨trivial, rfl⟩
  | unreadable =>
    rw [means] at read
    cases read
  | header heading =>
    rw [means, applyLine, openSection_toOption, Option.map_eq_some_iff] at read
    obtain ⟨flushed, -, rfl⟩ := read
    exact ⟨trivial, rfl⟩
  | directive key value =>
    rw [means, applyLine] at read
    have lowered := readLine_lowered means
    split at read
    next empty =>
      cases read
      exact ⟨.inl (List.isEmpty_iff.mp empty), rfl⟩
    next =>
      unfold applyDirective at read
      unfold Admits sectionAfter
      cases current : state.section with
      | none =>
        rw [current] at read
        cases read
      | interface =>
        rw [current] at read
        have known := lowered_known (toOption_eq_some.mp read)
        rw [lowered] at known
        rw [show key.toList = (⟨key, value⟩ : Directive).key.toList from rfl, interfaceDirective_fields, Option.map_eq_some_iff] at read
        obtain ⟨fields, -, rfl⟩ := read
        exact ⟨.inr known, current⟩
      | peer =>
        rw [current] at read
        have known := lowered_known_peer (toOption_eq_some.mp read)
        rw [lowered] at known
        rw [show key.toList = (⟨key, value⟩ : Directive).key.toList from rfl, peerDirective_reading, Option.map_eq_some_iff] at read
        obtain ⟨reading, -, rfl⟩ := read
        exact ⟨.inr known, current⟩

theorem runLines_admits {before after : List (List Char)} {rawLine : List Char} {state final : ParseState}
    (run : runLines crates resolver state ((before ++ rawLine :: after).map readLine) = some final) :
    Admits ((before.map readLine).foldl sectionAfter state.section) (readLine rawLine) := by
  induction before generalizing state with
  | nil =>
    rw [List.nil_append, List.map_cons, runLines_cons, Option.bind_eq_some_iff] at run
    obtain ⟨state', read, -⟩ := run
    exact (applyLine_admits read).1
  | cons line before ih =>
    rw [List.cons_append, List.map_cons, runLines_cons, Option.bind_eq_some_iff] at run
    obtain ⟨state', read, rest⟩ := run
    rw [List.map_cons, List.foldl_cons, ← (applyLine_admits read).2]
    exact ih rest

/-! ### One peer for each header -/

theorem peersOf_length {question : Nat} {sections : List (List Directive)} {peers : List ConnectionPeer}
    (built : peersOf crates resolver question sections = some peers) : peers.length = sections.length := by
  induction sections generalizing question peers with
  | nil =>
    cases built
    rfl
  | cons directives rest ih =>
    rw [peersOf, Option.bind_eq_bind, Option.bind_eq_some_iff] at built
    obtain ⟨reading, -, built⟩ := built
    rw [Option.bind_eq_bind, Option.bind_eq_some_iff] at built
    obtain ⟨peer, -, built⟩ := built
    rw [Option.bind_eq_bind, Option.bind_eq_some_iff] at built
    obtain ⟨others, later, same⟩ := built
    cases same
    rw [List.length_cons, List.length_cons, ih later]

theorem peerSections_length (text : List Line) : (peerSections text).length = text.count (.header .peer) := by
  unfold peerSections
  rw [List.length_map]
  induction text with
  | nil => rfl
  | cons line rest ih =>
    cases line with
    | header heading => cases heading <;> simp [blocks, ih]
    | _ => simpa [blocks] using ih

end Wgd.Config
