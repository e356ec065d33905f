import Mathlib.Control.Monad.Basic
import Wgd.Config.Parse

/-! The identity of a configuration: a hash of everything in it except what the
resolver said. -/

set_option autoImplicit false

namespace Wgd.Config

open Wgd.Net

/-- `u32::to_le_bytes` of a length cast to 32 bits. -/
def u32Bytes (value : Nat) : List UInt8 :=
  [UInt8.ofNat value, UInt8.ofNat (value >>> 8), UInt8.ofNat (value >>> 16), UInt8.ofNat (value >>> 24)]

def optionU16Bytes : Option UInt16 → List UInt8
  | none => [0]
  | some value => [1, UInt8.ofNat value.toNat, UInt8.ofNat (value.toNat >>> 8)]

/-- Length-prefixed bytes. -/
def prefixedBytes (bytes : List UInt8) : List UInt8 := u32Bytes bytes.length ++ bytes

/-- The octets of an address, most significant first. -/
def octets (count bits : Nat) : List UInt8 :=
  (List.range count).map fun i => UInt8.ofNat (bits >>> (8 * (count - 1 - i)))

def ipBytes : IpAddr → List UInt8
  | .v4 bits => 4 :: octets 4 bits.toNat
  | .v6 bits => 6 :: octets 16 bits.toNat

/-- The address as written, host bits included. -/
def ipNetBytes (net : IpNet) : List UInt8 := ipBytes net.addr ++ [UInt8.ofNat net.prefixLen]

def ipNetsBytes (nets : List IpNet) : List UInt8 := u32Bytes nets.length ++ nets.flatMap ipNetBytes

def stringBytes (text : String) : List UInt8 := prefixedBytes text.toUTF8.toList

def stringsBytes (texts : List String) : List UInt8 := u32Bytes texts.length ++ texts.flatMap stringBytes

/-- A flag byte, and the encoding of the value if there is one. -/
def optionBytes {A : Type} (encode : A → List UInt8) : Option A → List UInt8
  | none => [0]
  | some value => 1 :: encode value

def keyBytes (key : Key) : List UInt8 := prefixedBytes key.toList

def peerBytes (peer : ConnectionPeer) : List UInt8 :=
  keyBytes peer.publicKey ++ optionBytes keyBytes peer.presharedKey ++ ipNetsBytes peer.allowedIps ++
    optionBytes stringBytes peer.endpointLiteral ++ optionU16Bytes peer.persistentKeepalive

def fingerprintTag : List UInt8 := "wgd-connfp-v1".toUTF8.toList

/-- What is hashed. -/
def canonicalBytes (config : ConnectionConfig) : List UInt8 :=
  fingerprintTag ++ keyBytes config.privateKey ++ ipNetsBytes config.addresses ++
    u32Bytes config.dnsServers.length ++ config.dnsServers.flatMap ipBytes ++ optionU16Bytes config.mtu ++
    stringsBytes config.preUp ++ stringsBytes config.postUp ++ stringsBytes config.preDown ++
    stringsBytes config.postDown ++ u32Bytes config.peers.length ++ config.peers.flatMap peerBytes

def hexDigit (value : Nat) : Char := Nat.digitChar value

def hexEncode (bytes : List UInt8) : List Char :=
  bytes.flatMap fun byte => [hexDigit (byte.toNat / 16), hexDigit (byte.toNat % 16)]

def fingerprint (crates : Crates) (config : ConnectionConfig) : String :=
  "sha256:" ++ String.ofList (hexEncode (crates.sha256 (canonicalBytes config)))

/-! ### What the resolver says does not matter -/

def ConnectionPeer.unresolved (peer : ConnectionPeer) : ConnectionPeer := { peer with endpoint := none }

def ConnectionConfig.unresolved (config : ConnectionConfig) : ConnectionConfig :=
  { config with peers := config.peers.map ConnectionPeer.unresolved }

def ParseState.unresolved (state : ParseState) : ParseState :=
  { state with
    peers := state.peers.map ConnectionPeer.unresolved
    peer := { state.peer with endpoint := none } }

theorem canonicalBytes_unresolved (config : ConnectionConfig) :
    canonicalBytes config.unresolved = canonicalBytes config := by
  simp only [canonicalBytes, ConnectionConfig.unresolved, List.length_map, List.flatMap_map]
  rfl

variable {crates : Crates} {resolver other : Resolver} {state state' : ParseState}

/-- Two outcomes that agree up to resolved endpoints, where both are values. -/
def Agree (first second : Except AppError ParseState) : Prop :=
  ∀ a b, first = .ok a → second = .ok b → a.unresolved = b.unresolved

/-- A step that neither looks at a resolved endpoint nor asks for one. -/
def Oblivious (step : ParseState → Except AppError ParseState) : Prop :=
  ∀ state, step state.unresolved = (step state).map ParseState.unresolved

theorem Oblivious.agree {step : ParseState → Except AppError ParseState} (oblivious : Oblivious step)
    (same : state.unresolved = state'.unresolved) : Agree (step state) (step state') := by
  intro a b first second
  have left := oblivious state
  have right := oblivious state'
  rw [first] at left
  rw [second, ← same, left] at right
  exact Except.ok.inj right

theorem Oblivious.bind {step : ParseState → Except AppError ParseState}
    {rest : ParseState → Except AppError ParseState} (first : Oblivious step) (second : Oblivious rest) :
    Oblivious fun state => step state >>= rest := by
  intro state
  dsimp only
  rw [first]
  cases step state with
  | error error => rfl
  | ok next => exact second next

/-- Reading a value and storing it. -/
theorem Oblivious.reads {A : Type} {value : Except AppError A} {store : A → ParseState → ParseState}
    (stores : ∀ a state, store a state.unresolved = (store a state).unresolved) :
    Oblivious fun state => value >>= fun a => pure (store a state) := by
  intro state
  cases value with
  | error error => rfl
  | ok a => exact congrArg Except.ok (stores a state)

theorem flushPeer_oblivious : Oblivious flushPeer := by
  intro state
  cases key : state.peer.publicKey with
  | none => simp [flushPeer, ParseState.unresolved, key, Except.map]
  | some publicKey =>
    by_cases none : state.peer.allowedIps.isEmpty = true
    · simp [flushPeer, ParseState.unresolved, key, none, Except.map]
    · simp [flushPeer, ParseState.unresolved, key, none, Except.map, ConnectionPeer.unresolved, PeerFields.empty]

theorem flushSection_oblivious : Oblivious flushSection := by
  intro state
  have peer := flushPeer_oblivious state
  unfold flushSection
  cases inside : state.section with
  | peer =>
    have inside' : state.unresolved.section = .peer := inside
    rw [inside']
    exact peer
  | none =>
    have inside' : state.unresolved.section = .none := inside
    rw [inside']
    rfl
  | interface =>
    have inside' : state.unresolved.section = .interface := inside
    rw [inside']
    rfl

theorem openSection_oblivious («section» : Section) : Oblivious fun state => openSection state «section» := by
  unfold openSection
  apply flushSection_oblivious.bind
  intro state
  rfl

theorem parseHeader_oblivious (rawLine line : List Char) : Oblivious fun state => parseHeader state rawLine line := by
  unfold parseHeader
  split
  · exact openSection_oblivious .interface
  · exact openSection_oblivious .peer
  · intro state
    rfl

theorem interfaceDirective_oblivious (key value : List Char) :
    Oblivious fun state => interfaceDirective crates state key value := by
  unfold interfaceDirective
  split
  · exact Oblivious.reads fun _ _ => rfl
  · exact Oblivious.reads fun _ _ => rfl
  · exact Oblivious.reads fun _ _ => rfl
  · exact Oblivious.reads fun _ _ => rfl
  all_goals
    intro state
    rfl

theorem keyDirective_oblivious (field : String) (value : List Char) (store : Key → PeerFields → PeerFields)
    (stores : ∀ key fields, store key { fields with endpoint := none } = { store key fields with endpoint := none }) :
    Oblivious fun state => do
      let key ← decodeKey32 crates field value
      return { state with peer := store key state.peer } := by
  apply Oblivious.reads
  intro key state
  simp [ParseState.unresolved, stores]

/-- The one directive that asks the resolver stores its answer in the endpoint only. -/
theorem peerDirective_agree (key value : List Char) (same : state.unresolved = state'.unresolved) :
    Agree (peerDirective crates resolver state key value) (peerDirective crates other state' key value) := by
  have listed : Oblivious fun state => do
      let nets ← (splitCsv value).mapM (parseIpnet crates)
      return { state with peer := { state.peer with allowedIps := state.peer.allowedIps ++ nets } } :=
    Oblivious.reads fun _ _ => rfl
  unfold peerDirective
  split
  · exact (keyDirective_oblivious "PublicKey" value (fun key fields => { fields with publicKey := some key })
      fun _ _ => rfl).agree same
  · exact (keyDirective_oblivious "PresharedKey" value (fun key fields => { fields with presharedKey := some key })
      fun _ _ => rfl).agree same
  · exact listed.agree same
  · intro a b first second
    cases left : parseEndpoint resolver state.endpoints value with
    | error error => simp [left, bind, Except.bind] at first
    | ok addr =>
      cases right : parseEndpoint other state'.endpoints value with
      | error error => simp [right, bind, Except.bind] at second
      | ok addr' =>
        simp only [left, right, bind, Except.bind, pure, Except.pure, Except.ok.injEq] at first second
        subst first second
        simp_all [ParseState.unresolved]
  · cases parseU16 value with
    | none =>
      intro a b first
      cases first
    | some keepalive =>
      rintro a b ⟨⟩ ⟨⟩
      simp_all [ParseState.unresolved]
  · intro a b first
    cases first

theorem parseLine_agree (rawLine : List Char) (same : state.unresolved = state'.unresolved) :
    Agree (parseLine crates resolver state rawLine) (parseLine crates other state' rawLine) := by
  have place : state.section = state'.section := by
    have stays : ∀ state : ParseState, state.unresolved.section = state.section := fun _ => rfl
    rw [← stays state, same, stays]
  unfold parseLine
  dsimp only
  split
  · rintro a b ⟨⟩ ⟨⟩
    exact same
  split
  · exact (parseHeader_oblivious rawLine _).agree same
  · unfold parseDirective
    split
    · intro a b first
      cases first
    · dsimp only
      split
      · rintro a b ⟨⟩ ⟨⟩
        exact same
      · rw [place]
        cases state'.section with
        | interface => exact (interfaceDirective_oblivious _ _).agree same
        | peer => exact peerDirective_agree _ _ same
        | none =>
          intro a b first
          cases first

theorem parseLines_agree (rawLines : List (List Char)) (same : state.unresolved = state'.unresolved) :
    Agree (rawLines.foldlM (parseLine crates resolver) state) (rawLines.foldlM (parseLine crates other) state') := by
  induction rawLines generalizing state state' with
  | nil =>
    rintro a b ⟨⟩ ⟨⟩
    exact same
  | cons rawLine rest ih =>
    intro a b first second
    simp only [List.foldlM_cons] at first second
    cases left : parseLine crates resolver state rawLine with
    | error error => simp [left, bind, Except.bind] at first
    | ok next =>
      cases right : parseLine crates other state' rawLine with
      | error error => simp [right, bind, Except.bind] at second
      | ok next' =>
        rw [left] at first
        rw [right] at second
        exact ih (parseLine_agree rawLine same next next' left right) a b first second

theorem finishParse_unresolved (state : ParseState) :
    finishParse state.unresolved = (finishParse state).map ConnectionConfig.unresolved := by
  unfold finishParse
  rw [flushSection_oblivious]
  cases flushSection state with
  | error error => rfl
  | ok state =>
    cases key : state.privateKey with
    | none => simp [ParseState.unresolved, key, Except.map, bind, Except.bind]
    | some privateKey =>
      by_cases addressed : state.addresses.isEmpty = true
      · simp [ParseState.unresolved, key, addressed, Except.map, bind, Except.bind]
      · by_cases peered : state.peers.isEmpty = true
        · simp [ParseState.unresolved, key, addressed, peered, Except.map, bind, Except.bind]
        · simp [ParseState.unresolved, key, addressed, peered, Except.map, bind, Except.bind, ConnectionConfig.unresolved]

/-- Two parses of one text differ in resolved endpoints at most. -/
theorem parse_unresolved {input : String} {config config' : ConnectionConfig}
    (first : parseConnectionConfig crates resolver input = .ok config)
    (second : parseConnectionConfig crates other input = .ok config') : config.unresolved = config'.unresolved := by
  unfold parseConnectionConfig at first second
  cases left : (lines input.toList).foldlM (parseLine crates resolver) .start with
  | error error => simp [left, bind, Except.bind] at first
  | ok state =>
    cases right : (lines input.toList).foldlM (parseLine crates other) .start with
    | error error => simp [right, bind, Except.bind] at second
    | ok state' =>
      rw [left] at first
      rw [right] at second
      have agree := parseLines_agree (lines input.toList) rfl state state' left right
      have same := (finishParse_unresolved state).symm.trans ((congrArg finishParse agree).trans (finishParse_unresolved state'))
      have first' : finishParse state = .ok config := first
      have second' : finishParse state' = .ok config' := second
      rw [first', second'] at same
      exact Except.ok.inj same

/-- Whatever the resolver says, the text has one identity. -/
theorem fingerprint_resolver_independent {input : String} {config config' : ConnectionConfig}
    (first : parseConnectionConfig crates resolver input = .ok config)
    (second : parseConnectionConfig crates other input = .ok config') : fingerprint crates config = fingerprint crates config' := by
  have same : canonicalBytes config = canonicalBytes config' := by
    rw [← canonicalBytes_unresolved config, ← canonicalBytes_unresolved config', parse_unresolved first second]
  rw [fingerprint, fingerprint, same]

end Wgd.Config
