import Wgd.Error
import Wgd.Net.IpNet

/-! The WireGuard `.conf` parser (`wireguard/connection_config.rs`). The libraries
it uses are parameters, and so is the name resolver, which may answer each of the
questions of one parse as it likes. -/

set_option autoImplicit false

namespace Wgd.Config

open Wgd.Net

/-- A 32-byte key: an x25519 key or a preshared key. -/
abbrev Key : Type := Vector UInt8 32

/-- `std::net::SocketAddr`; the scope is that of an IPv6 address. -/
structure SocketAddr where
  ip : IpAddr
  port : UInt16
  scopeId : Nat
  deriving DecidableEq, Repr

structure ConnectionPeer where
  publicKey : Key
  presharedKey : Option Key
  allowedIps : List IpNet
  /-- Resolved once, at parse time. -/
  endpoint : Option SocketAddr
  /-- The value exactly as written in the file. -/
  endpointLiteral : Option String
  persistentKeepalive : Option UInt16
  deriving DecidableEq

structure ConnectionConfig where
  privateKey : Key
  addresses : List IpNet
  dnsServers : List IpAddr
  mtu : Option UInt16
  preUp : List String
  postUp : List String
  preDown : List String
  postDown : List String
  peers : List ConnectionPeer
  deriving DecidableEq

/-- The libraries the program calls for its configurations. -/
structure Crates where
  /-- `base64`, the standard alphabet. -/
  decodeBase64 : List Char → Except String (List UInt8)
  encodeBase64 : List UInt8 → String
  /-- `ipnet`. -/
  parseIpNet : List Char → Option IpNet
  /-- `sha2`. -/
  sha256 : List UInt8 → List UInt8

/-- What the resolver answers to a host and a port, question by question: an
address or the message of the failure, be it a timeout. -/
abbrev Resolver : Type := (question : Nat) → (host : List Char) → (port : UInt16) → Except String SocketAddr

/-- `char::escape_debug` inside a string; what is not a control character is taken to be printable. -/
def escapeDebug (c : Char) : List Char :=
  match c.toNat with
  | 0 => ['\\', '0']
  | 9 => ['\\', 't']
  | 10 => ['\\', 'n']
  | 13 => ['\\', 'r']
  | 34 | 92 => ['\\', c]
  | code => if code < 32 ∨ 127 ≤ code ∧ code < 160 then "\\u\x7b".toList ++ Nat.toDigits 16 code ++ ['\x7d'] else [c]

/-- A text as `Debug` prints it. -/
def debugText (text : List Char) : String := String.ofList ('\x22' :: text.flatMap escapeDebug ++ ['\x22'])

def minMtu : UInt16 := 576

def validateMtu (mtu : UInt16) : Except AppError Unit :=
  if mtu < minMtu then .error (.wireGuard s!"invalid MTU {mtu} (must be >= {minMtu})") else .ok ()

/-- `str::parse::<u16>`. -/
def parseU16 (value : List Char) : Option UInt16 := (parseUnsigned 65536 value).map UInt16.ofNat

def parseMtu (value : List Char) : Except AppError UInt16 :=
  match parseU16 value with
  | none => .error (.wireGuard s!"invalid MTU {debugText value} (expected an integer)")
  | some mtu => do
    validateMtu mtu
    return mtu

def splitCsv (value : List Char) : List (List Char) :=
  ((splitAll ',' value).map trim).filter fun entry => !entry.isEmpty

def parseIpnet (crates : Crates) (value : List Char) : Except AppError IpNet :=
  match crates.parseIpNet value with
  | some net => .ok net
  | none => .error (.wireGuard s!"invalid address/CIDR {debugText value}")

def parseDnsEntry (value : List Char) : Except AppError IpAddr :=
  match parseIpAddr value with
  | some ip => .ok ip
  | none => .error (.wireGuard s!"invalid DNS entry {debugText value}")

def decodeKey32 (crates : Crates) (field : String) (value : List Char) : Except AppError Key :=
  match crates.decodeBase64 value with
  | .error error => .error (.wireGuard s!"failed to decode {field}: {error}")
  | .ok decoded =>
    if exact : decoded.toArray.size = 32 then .ok ⟨decoded.toArray, exact⟩
    else .error (.wireGuard s!"{field} must decode to 32 bytes")

/-! ### Endpoints -/

/-- The port after a colon, and nothing after it. -/
def readPort (text : List Char) : Option UInt16 := do
  let text ← readGivenChar ':' text
  match readNumber 10 text.length 65536 true text with
  | some (port, []) => some (UInt16.ofNat port)
  | _ => none

/-- The scope of an IPv6 address, if one is written. -/
def readScopeId (text : List Char) : Option (Nat × List Char) :=
  match text with
  | '%' :: rest => readNumber 10 rest.length 0x100000000 true rest
  | _ => some (0, text)

/-- `str::parse::<SocketAddr>`. -/
def parseSocketAddr (text : List Char) : Option SocketAddr :=
  match readIpv4Addr text with
  | some (bits, rest) => (readPort rest).map fun port => ⟨.v4 bits, port, 0⟩
  | none => do
    let text ← readGivenChar '[' text
    let (bits, text) ← readIpv6Addr text
    let (scopeId, text) ← readScopeId text
    let text ← readGivenChar ']' text
    let port ← readPort text
    some ⟨.v6 bits, port, scopeId⟩

/-- A literal address, or a host the resolver is asked for. -/
def parseEndpoint (resolver : Resolver) (question : Nat) (value : List Char) : Except AppError SocketAddr :=
  match parseSocketAddr value with
  | some addr => .ok addr
  | none =>
    match rsplitOnce ':' value with
    | none => .error (.wireGuard s!"invalid endpoint {debugText value}")
    | some (host, port) =>
      match parseU16 port with
      | none => .error (.wireGuard s!"invalid endpoint port in {debugText value}")
      | some port =>
        let host := trimMatches ['[', ']'] host
        match parseIpAddr host with
        | some ip => .ok ⟨ip, port, 0⟩
        | none => (resolver question host port).mapError .wireGuard

/-! ### Sections and directives -/

inductive Section where
  | none
  | interface
  | peer
  deriving DecidableEq

/-- The accumulators of the peer section being read. -/
structure PeerFields where
  publicKey : Option Key
  presharedKey : Option Key
  allowedIps : List IpNet
  endpoint : Option SocketAddr
  endpointLiteral : Option String
  keepalive : Option UInt16
  deriving DecidableEq

def PeerFields.empty : PeerFields := ⟨none, none, [], none, none, none⟩

structure ParseState where
  «section» : Section
  privateKey : Option Key
  addresses : List IpNet
  dnsServers : List IpAddr
  mtu : Option UInt16
  preUp : List String
  postUp : List String
  preDown : List String
  postDown : List String
  peers : List ConnectionPeer
  peer : PeerFields
  /-- How many endpoints were read so far. -/
  endpoints : Nat
  deriving DecidableEq

def ParseState.start : ParseState := ⟨.none, none, [], [], none, [], [], [], [], [], .empty, 0⟩

/-- The finished peer section becomes a peer, and the accumulators are empty again. -/
def flushPeer (state : ParseState) : Except AppError ParseState :=
  match state.peer.publicKey with
  | none => .error (.wireGuard "peer section missing PublicKey")
  | some publicKey =>
    if state.peer.allowedIps.isEmpty then .error (.wireGuard "peer section missing AllowedIPs")
    else .ok { state with
      peers := state.peers ++ [⟨publicKey, state.peer.presharedKey, state.peer.allowedIps, state.peer.endpoint,
        state.peer.endpointLiteral, state.peer.keepalive⟩]
      peer := .empty }

def flushSection (state : ParseState) : Except AppError ParseState :=
  match state.section with
  | .peer => flushPeer state
  | .none | .interface => .ok state

def openSection (state : ParseState) («section» : Section) : Except AppError ParseState := do
  let state ← flushSection state
  return { state with «section» := «section» }

/-- The name in a section header, without whitespace and in lowercase. -/
def headerName (line : List Char) : Option String :=
  match line.filter fun c => !isWhitespace c with
  | '[' :: rest =>
    match rest.getLast? with
    | some ']' => some (String.ofList (toAsciiLowercase rest.dropLast))
    | _ => none
  | _ => none

def parseHeader (state : ParseState) (rawLine line : List Char) : Except AppError ParseState :=
  match headerName line with
  | some "interface" => openSection state .interface
  | some "peer" => openSection state .peer
  | _ =>
    .error (.wireGuard s!"unrecognized section header {debugText rawLine} (expected [Interface] or [Peer])")

/-- `KNOWN_INTERFACE_KEYS` and what each of them does. -/
def interfaceDirective (crates : Crates) (state : ParseState) (key value : List Char) : Except AppError ParseState :=
  match String.ofList (toAsciiLowercase key) with
  | "privatekey" => do
    let key ← decodeKey32 crates "PrivateKey" value
    return { state with privateKey := some key }
  | "address" => do
    let nets ← (splitCsv value).mapM (parseIpnet crates)
    return { state with addresses := state.addresses ++ nets }
  | "dns" => do
    let ips ← (splitCsv value).mapM parseDnsEntry
    return { state with dnsServers := state.dnsServers ++ ips }
  | "mtu" => do
    let mtu ← parseMtu value
    return { state with mtu := some mtu }
  | "preup" => .ok { state with preUp := state.preUp ++ [String.ofList value] }
  | "postup" => .ok { state with postUp := state.postUp ++ [String.ofList value] }
  | "predown" => .ok { state with preDown := state.preDown ++ [String.ofList value] }
  | "postdown" => .ok { state with postDown := state.postDown ++ [String.ofList value] }
  | "listenport" | "fwmark" | "table" | "saveconfig" => .ok state
  | _ => .error (.wireGuard s!"unrecognized [Interface] directive {debugText key}")

/-- `KNOWN_PEER_KEYS` and what each of them does. -/
def peerDirective (crates : Crates) (resolver : Resolver) (state : ParseState) (key value : List Char) :
    Except AppError ParseState :=
  match String.ofList (toAsciiLowercase key) with
  | "publickey" => do
    let key ← decodeKey32 crates "PublicKey" value
    return { state with peer := { state.peer with publicKey := some key } }
  | "presharedkey" => do
    let key ← decodeKey32 crates "PresharedKey" value
    return { state with peer := { state.peer with presharedKey := some key } }
  | "allowedips" => do
    let nets ← (splitCsv value).mapM (parseIpnet crates)
    return { state with peer := { state.peer with allowedIps := state.peer.allowedIps ++ nets } }
  | "endpoint" => do
    let endpoint ← parseEndpoint resolver state.endpoints value
    return { state with
      peer := { state.peer with endpoint := some endpoint, endpointLiteral := some (String.ofList value) }
      endpoints := state.endpoints + 1 }
  | "persistentkeepalive" =>
    match parseU16 value with
    | some keepalive => .ok { state with peer := { state.peer with keepalive := some keepalive } }
    | none => .error (.wireGuard s!"invalid PersistentKeepalive {debugText value}")
  | _ => .error (.wireGuard s!"unrecognized [Peer] directive {debugText key}")

def parseDirective (crates : Crates) (resolver : Resolver) (state : ParseState) (rawLine line : List Char) :
    Except AppError ParseState :=
  match splitOnce '=' line with
  | none => .error (.wireGuard s!"malformed line (expected `Key = Value`): {debugText rawLine}")
  | some (key, value) =>
    let key := trim key
    let value := trim value
    -- `Key =` with nothing after it is skipped, whatever the key and the section.
    if value.isEmpty then .ok state
    else
      match state.section with
      | .interface => interfaceDirective crates state key value
      | .peer => peerDirective crates resolver state key value
      | .none => .error (.wireGuard s!"directive {debugText key} appears before any [Interface]/[Peer] section")

/-- The line without its comment and the whitespace around it. -/
def stripComment (rawLine : List Char) : List Char := trim (rawLine.takeWhile (· ≠ '#'))

def parseLine (crates : Crates) (resolver : Resolver) (state : ParseState) (rawLine : List Char) :
    Except AppError ParseState :=
  let line := stripComment rawLine
  if line.isEmpty then .ok state
  else if line.head? = some '[' then parseHeader state rawLine line
  else parseDirective crates resolver state rawLine line

/-- The mandatory fields are there. -/
def finishParse (state : ParseState) : Except AppError ConnectionConfig := do
  let state ← flushSection state
  match state.privateKey with
  | none => .error (.wireGuard "missing PrivateKey in [Interface]")
  | some privateKey =>
    if state.addresses.isEmpty then .error (.wireGuard "missing Address in [Interface]")
    else if state.peers.isEmpty then .error (.wireGuard "no [Peer] sections found")
    else .ok ⟨privateKey, state.addresses, state.dnsServers, state.mtu, state.preUp, state.postUp, state.preDown,
      state.postDown, state.peers⟩

def parseConnectionConfig (crates : Crates) (resolver : Resolver) (input : String) :
    Except AppError ConnectionConfig := do
  let state ← (lines input.toList).foldlM (parseLine crates resolver) .start
  finishParse state

/-! ### Errors of the parser -/

/-- Every failure is a WireGuard error. -/
def WireGuardOnly {A : Type} (outcome : Except AppError A) : Prop :=
  ∀ error, outcome = .error error → ∃ message, error = .wireGuard message

section Errors

variable {A B : Type} {crates : Crates} {resolver : Resolver}

theorem WireGuardOnly.ok (value : A) : WireGuardOnly (.ok value) := by
  intro error failed
  cases failed

theorem WireGuardOnly.wireGuard (message : String) : WireGuardOnly (.error (.wireGuard message) : Except AppError A) := by
  rintro error ⟨⟩
  exact ⟨message, rfl⟩

theorem WireGuardOnly.bind {outcome : Except AppError A} {f : A → Except AppError B} (first : WireGuardOnly outcome)
    (rest : ∀ value, WireGuardOnly (f value)) : WireGuardOnly (outcome >>= f) := by
  cases outcome with
  | error error =>
    rintro failed ⟨⟩
    exact first error rfl
  | ok value => exact rest value

theorem WireGuardOnly.mapM {f : A → Except AppError B} (each : ∀ item, WireGuardOnly (f item)) (items : List A) :
    WireGuardOnly (items.mapM f) := by
  induction items with
  | nil => exact .ok []
  | cons item rest ih =>
    rw [List.mapM_cons]
    exact (each item).bind fun _ => ih.bind fun _ => .ok _

theorem WireGuardOnly.foldlM {f : B → A → Except AppError B} (each : ∀ value item, WireGuardOnly (f value item))
    (items : List A) (value : B) : WireGuardOnly (items.foldlM f value) := by
  induction items generalizing value with
  | nil => exact .ok value
  | cons item rest ih =>
    rw [List.foldlM_cons]
    exact (each value item).bind ih

theorem parseIpnet_errors (value : List Char) : WireGuardOnly (parseIpnet crates value) := by
  unfold parseIpnet
  split
  · exact .ok _
  · exact .wireGuard _

theorem parseDnsEntry_errors (value : List Char) : WireGuardOnly (parseDnsEntry value) := by
  unfold parseDnsEntry
  split
  · exact .ok _
  · exact .wireGuard _

theorem parseMtu_errors (value : List Char) : WireGuardOnly (parseMtu value) := by
  unfold parseMtu
  split
  · exact .wireGuard _
  · apply WireGuardOnly.bind
    · unfold validateMtu
      split
      · exact .wireGuard _
      · exact .ok _
    · exact fun _ => .ok _

theorem decodeKey32_errors (field : String) (value : List Char) : WireGuardOnly (decodeKey32 crates field value) := by
  unfold decodeKey32
  split
  · exact .wireGuard _
  · split
    · exact .ok _
    · exact .wireGuard _

theorem parseEndpoint_errors (question : Nat) (value : List Char) : WireGuardOnly (parseEndpoint resolver question value) := by
  unfold parseEndpoint
  split
  · exact .ok _
  split
  · exact .wireGuard _
  split
  · exact .wireGuard _
  dsimp only
  split
  · exact .ok _
  · cases resolver question _ _ with
    | error message => exact .wireGuard message
    | ok addr => exact .ok addr

theorem flushSection_errors (state : ParseState) : WireGuardOnly (flushSection state) := by
  unfold flushSection flushPeer
  split
  · split
    · exact .wireGuard _
    · split
      · exact .wireGuard _
      · exact .ok _
  · exact .ok _
  · exact .ok _

theorem parseHeader_errors (state : ParseState) (rawLine line : List Char) :
    WireGuardOnly (parseHeader state rawLine line) := by
  have opens : ∀ «section», WireGuardOnly (openSection state «section») :=
    fun _ => (flushSection_errors state).bind fun _ => .ok _
  unfold parseHeader
  split
  · exact opens .interface
  · exact opens .peer
  · exact .wireGuard _

theorem interfaceDirective_errors (state : ParseState) (key value : List Char) :
    WireGuardOnly (interfaceDirective crates state key value) := by
  unfold interfaceDirective
  split
  · exact (decodeKey32_errors _ _).bind fun _ => .ok _
  · exact (WireGuardOnly.mapM parseIpnet_errors _).bind fun _ => .ok _
  · exact (WireGuardOnly.mapM parseDnsEntry_errors _).bind fun _ => .ok _
  · exact (parseMtu_errors _).bind fun _ => .ok _
  all_goals first
    | exact .ok _
    | exact .wireGuard _

theorem peerDirective_errors (state : ParseState) (key value : List Char) :
    WireGuardOnly (peerDirective crates resolver state key value) := by
  unfold peerDirective
  split
  · exact (decodeKey32_errors _ _).bind fun _ => .ok _
  · exact (decodeKey32_errors _ _).bind fun _ => .ok _
  · exact (WireGuardOnly.mapM parseIpnet_errors _).bind fun _ => .ok _
  · exact (parseEndpoint_errors _ _).bind fun _ => .ok _
  · split
    · exact .ok _
    · exact .wireGuard _
  · exact .wireGuard _

theorem parseLine_errors (state : ParseState) (rawLine : List Char) :
    WireGuardOnly (parseLine crates resolver state rawLine) := by
  unfold parseLine parseDirective
  dsimp only
  split
  · exact .ok _
  split
  · exact parseHeader_errors _ _ _
  split
  · exact .wireGuard _
  split
  · exact .ok _
  split
  · exact interfaceDirective_errors _ _ _
  · exact peerDirective_errors _ _ _
  · exact .wireGuard _

theorem parseConnectionConfig_errors (input : String) : WireGuardOnly (parseConnectionConfig crates resolver input) := by
  unfold parseConnectionConfig
  apply (WireGuardOnly.foldlM parseLine_errors _ _).bind
  intro state
  unfold finishParse
  apply (flushSection_errors state).bind
  intro state
  split
  · exact .wireGuard _
  · split
    · exact .wireGuard _
    · split
      · exact .wireGuard _
      · exact .ok _

end Errors

/-! ### The MTU override -/

/-- Rewrite the `MTU` directive of the `[Interface]` section, before the text is parsed. -/
structure MtuRewrite where
  inInterface : Bool
  found : Bool
  out : List Char

def rewriteMtuLine (mtu : UInt16) (rewrite : MtuRewrite) (rawLine : List Char) : MtuRewrite :=
  let trimmed := trim rawLine
  let kept := rewrite.out ++ rawLine ++ ['\n']
  if trimmed.head? = some '[' then
    { rewrite with inInterface := eqIgnoreAsciiCase trimmed "[interface]".toList, out := kept }
  else
    match splitOnce '=' trimmed with
    | some (key, _) =>
      if rewrite.inInterface && eqIgnoreAsciiCase (trim key) "mtu".toList then
        { rewrite with found := true, out := rewrite.out ++ s!"MTU = {mtu}\n".toList }
      else { rewrite with out := kept }
    | none => { rewrite with out := kept }

/-- The directive right after the first `[Interface]` header. -/
def insertMtu (mtu : UInt16) : List (List Char) → List Char
  | [] => []
  | line :: rest =>
    line ++ '\n' ::
      if eqIgnoreAsciiCase (trim line) "[interface]".toList then
        s!"MTU = {mtu}\n".toList ++ rest.flatMap (· ++ ['\n'])
      else insertMtu mtu rest

def applyMtuOverrideToConfText (confText : String) (mtu : UInt16) : String :=
  let rewrite := (lines confText.toList).foldl (rewriteMtuLine mtu) ⟨false, false, []⟩
  String.ofList (if rewrite.found then rewrite.out else insertMtu mtu (lines rewrite.out))

end Wgd.Config
