import Wgd.Encoding.Base64
import Wgd.Net.Splitting

/-! The answer of a helper to `get=1` (`commands.rs`): the device and its peers, line by line. -/

set_option autoImplicit false

namespace Wgd.Status

open Wgd.Net

structure WgPeerStatus where
  publicKey : List Char
  endpoint : Option (List Char)
  allowedIps : List (List Char)
  hasPresharedKey : Bool
  latestHandshakeUnix : Option Nat
  rxBytes : Nat
  txBytes : Nat
  persistentKeepaliveSecs : Option Nat
  deriving DecidableEq

structure WgDeviceStatus where
  interface : String
  publicKey : Option (List Char)
  listenPort : Option Nat
  peers : List WgPeerStatus
  deriving DecidableEq

/-! ### Keys -/

/-- `&s[0..2]`, and what follows: none where a character would be cut, which is a panic. -/
def sliceTwo : List Char → Option (List Char × List Char)
  | c :: d :: rest =>
    if c.utf8Size = 1 then if d.utf8Size = 1 then some ([c, d], rest) else none
    else if c.utf8Size = 2 then some ([c], d :: rest)
    else none
  | [c] => if c.utf8Size = 2 then some ([c], []) else none
  | [] => none

/-- `u8::from_str_radix(pair, 16)`, which takes a plus sign. -/
def fromStrRadix16 (text : List Char) : Option UInt8 :=
  let digits := match text with
    | '+' :: rest => rest
    | _ => text
  if digits.isEmpty then none
  else (digits.foldlM (fun value c => do
    let digit ← toDigit 16 c
    let value := value * 16 + digit
    if value < 256 then some value else none) 0).map UInt8.ofNat

/-- The bytes of the next pairs: none is a panic, and no bytes an error. -/
def hexPairs : (count : Nat) → List Char → Option (Option (List UInt8))
  | 0, _ => some (some [])
  | count + 1, text => do
    let (pair, rest) ← sliceTwo text
    match fromStrRadix16 pair with
    | none => some none
    | some byte => (hexPairs count rest).map fun bytes => bytes.map (byte :: ·)

def utf8Length (text : List Char) : Nat := (text.map Char.utf8Size).sum

def wgHexTo32 (s : List Char) : Option (Option (List UInt8)) := if utf8Length s ≠ 64 then some none else hexPairs 32 s

/-! ### Lines -/

structure PeerState where
  publicKeyB64 : List Char
  hasPresharedKey : Bool
  endpoint : Option (List Char)
  allowedIps : List (List Char)
  lastHandshakeSec : Nat
  rxBytes : Nat
  txBytes : Nat
  keepalive : Nat

def PeerState.new (bytes : List UInt8) : PeerState :=
  { publicKeyB64 := Encoding.Base64.encode bytes, hasPresharedKey := false, endpoint := none, allowedIps := [],
    lastHandshakeSec := 0, rxBytes := 0, txBytes := 0, keepalive := 0 }

def PeerState.set (peer : PeerState) (key value : List Char) : PeerState :=
  if key = "preshared_key".toList then { peer with hasPresharedKey := value.any (· ≠ '0') }
  else if key = "endpoint".toList then { peer with endpoint := some value }
  else if key = "allowed_ip".toList then { peer with allowedIps := peer.allowedIps ++ [value] }
  else if key = "last_handshake_time_sec".toList then
    { peer with lastHandshakeSec := (parseUnsigned (2 ^ 64) value).getD 0 }
  else if key = "rx_bytes".toList then { peer with rxBytes := (parseUnsigned (2 ^ 64) value).getD 0 }
  else if key = "tx_bytes".toList then { peer with txBytes := (parseUnsigned (2 ^ 64) value).getD 0 }
  else if key = "persistent_keepalive_interval".toList then
    { peer with keepalive := (parseUnsigned (2 ^ 32) value).getD 0 }
  else peer

def PeerState.status (peer : PeerState) : WgPeerStatus :=
  { publicKey := peer.publicKeyB64, endpoint := peer.endpoint, allowedIps := peer.allowedIps,
    hasPresharedKey := peer.hasPresharedKey,
    latestHandshakeUnix := if 0 < peer.lastHandshakeSec then some peer.lastHandshakeSec else none,
    rxBytes := peer.rxBytes, txBytes := peer.txBytes,
    persistentKeepaliveSecs := if 0 < peer.keepalive then some peer.keepalive else none }

structure ShowState where
  listenPort : Nat
  ifacePubB64 : List Char
  peers : List PeerState
  currentPeer : Option PeerState

def ShowState.start : ShowState := { listenPort := 0, ifacePubB64 := [], peers := [], currentPeer := none }

/-- A line's key and value; an empty line has none. -/
def keyValue (line : List Char) : Option (List Char × List Char) := splitOnce '=' (trim line)

/-- One line. `publicKeyOf` is the public key of a private key. -/
def showLine (publicKeyOf : List UInt8 → List UInt8) (state : ShowState) (line : List Char) : Option ShowState :=
  match keyValue line with
  | none => some state
  | some (key, value) =>
    if key = "private_key".toList then
      (wgHexTo32 value).map fun
        | some bytes => { state with ifacePubB64 := Encoding.Base64.encode (publicKeyOf bytes) }
        | none => state
    else if key = "listen_port".toList then some { state with listenPort := (parseUnsigned (2 ^ 16) value).getD 0 }
    else if key = "public_key".toList then
      (wgHexTo32 value).map fun bytes =>
        { state with peers := state.peers ++ state.currentPeer.toList, currentPeer := bytes.map PeerState.new }
    else some { state with currentPeer := state.currentPeer.map fun peer => peer.set key value }

/-- None is a panic. -/
def parseWgShow (publicKeyOf : List UInt8 → List UInt8) (raw : List Char) (interface : String) : Option WgDeviceStatus :=
  ((lines raw).foldlM (showLine publicKeyOf) .start).map fun state =>
    { interface
      publicKey := if state.ifacePubB64.isEmpty then none else some state.ifacePubB64
      listenPort := if state.listenPort ≠ 0 then some state.listenPort else none
      peers := (state.peers ++ state.currentPeer.toList).map PeerState.status }

/-! ### Where a key is cut -/

/-- A character that is cut: it is longer than the pair it begins, or stands in the second place and is
longer than a byte. Before it there are pairs that are bytes. -/
inductive Straddles : List Char → Prop where
  | wide {c : Char} {rest : List Char} (long : 2 < c.utf8Size) : Straddles (c :: rest)
  | second {c d : Char} {rest : List Char} (short : c.utf8Size = 1) (long : d.utf8Size ≠ 1) : Straddles (c :: d :: rest)
  | later {c d : Char} {rest : List Char} (short : c.utf8Size = 1) (short' : d.utf8Size = 1)
    (byte : (fromStrRadix16 [c, d]).isSome) (more : Straddles rest) : Straddles (c :: d :: rest)

theorem fromStrRadix16_long {c : Char} (long : c.utf8Size = 2) : fromStrRadix16 [c] = none := by
  have other : c ≠ '+' := by
    rintro rfl
    cases long
  have digit : toDigit 16 c = none := by
    have code : 128 ≤ c.toNat := by
      by_contra small
      have one : c.utf8Size = 1 := by
        rw [Char.utf8Size_eq_one_iff, UInt32.le_iff_toNat_le]
        exact Nat.le_of_lt_succ (Nat.lt_of_not_le small)
      rw [long] at one
      cases one
    rw [toDigit, if_neg (by omega), if_neg (by omega), if_neg (by omega)]
    rfl
  simp [fromStrRadix16, other, digit]

theorem utf8Size_pos (c : Char) : 0 < c.utf8Size := Char.utf8Size_pos c

/-- With two bytes for each pair that is left, only a cut character can end the reading. -/
theorem hexPairs_eq_none {count : Nat} {text : List Char} (length : utf8Length text = 2 * count) :
    hexPairs count text = none ↔ Straddles text := by
  induction count generalizing text with
  | zero =>
    cases text with
    | nil =>
      constructor
      · intro none
        cases none
      · intro straddles
        cases straddles
    | cons c rest =>
      have positive := utf8Size_pos c
      simp only [utf8Length, List.map_cons, List.sum_cons] at length
      omega
  | succ count ih =>
    cases text with
    | nil => cases length
    | cons c rest =>
      have positive := utf8Size_pos c
      cases rest with
      | nil =>
        simp only [utf8Length, List.map_cons, List.map_nil, List.sum_cons, List.sum_nil] at length
        by_cases two : c.utf8Size = 2
        · have read : hexPairs (count + 1) [c] = some none := by
            simp [hexPairs, sliceTwo, two, fromStrRadix16_long two]
          rw [read]
          constructor
          · intro none
            cases none
          · intro straddles
            cases straddles with
            | wide long => omega
        · have read : hexPairs (count + 1) [c] = none := by
            simp [hexPairs, sliceTwo, two]
          rw [read]
          exact ⟨fun _ => .wide (by omega), fun _ => rfl⟩
      | cons d rest =>
        simp only [utf8Length, List.map_cons, List.sum_cons] at length
        by_cases one : c.utf8Size = 1
        · by_cases one' : d.utf8Size = 1
          · have left : utf8Length rest = 2 * count := by
              rw [utf8Length]
              omega
            cases byte : fromStrRadix16 [c, d] with
            | none =>
              have read : hexPairs (count + 1) (c :: d :: rest) = some none := by
                simp [hexPairs, sliceTwo, one, one', byte]
              rw [read]
              constructor
              · intro none
                cases none
              · intro straddles
                cases straddles with
                | wide long => omega
                | second _ long => exact absurd one' long
                | later _ _ isByte _ =>
                  rw [byte] at isByte
                  cases isByte
            | some value =>
              have read : hexPairs (count + 1) (c :: d :: rest) = (hexPairs count rest).map fun bytes => bytes.map (value :: ·) := by
                simp [hexPairs, sliceTwo, one, one', byte]
              rw [read, Option.map_eq_none_iff, ih left]
              constructor
              · exact .later one one' (by rw [byte]; rfl)
              · intro straddles
                cases straddles with
                | wide long => omega
                | second _ long => exact absurd one' long
                | later _ _ _ more => exact more
          · have read : hexPairs (count + 1) (c :: d :: rest) = none := by
              simp [hexPairs, sliceTwo, one, one']
            rw [read]
            exact ⟨fun _ => .second one one', fun _ => rfl⟩
        · by_cases two : c.utf8Size = 2
          · have read : hexPairs (count + 1) (c :: d :: rest) = some none := by
              simp [hexPairs, sliceTwo, two, fromStrRadix16_long two]
            rw [read]
            constructor
            · intro none
              cases none
            · intro straddles
              cases straddles with
              | wide long => omega
              | second short _ => exact absurd short one
              | later short _ _ _ => exact absurd short one
          · have read : hexPairs (count + 1) (c :: d :: rest) = none := by
              simp [hexPairs, sliceTwo, one, two]
            rw [read]
            exact ⟨fun _ => .wide (by omega), fun _ => rfl⟩

theorem wgHexTo32_eq_none {value : List Char} : wgHexTo32 value = none ↔ utf8Length value = 64 ∧ Straddles value := by
  unfold wgHexTo32
  split
  next other =>
    constructor
    · intro none
      cases none
    · exact fun cut => absurd cut.1 other
  next whole =>
    rw [not_not] at whole
    rw [@hexPairs_eq_none 32 value whole]
    exact ⟨fun straddles => ⟨whole, straddles⟩, fun cut => cut.2⟩

/-! ### Peers by their lines -/

def publicKeyLine (line : List Char) : Option (List Char) :=
  match keyValue line with
  | some (key, value) => if key = "public_key".toList then some value else none
  | none => none

/-- Each public key with the lines up to the next one. -/
def sections : List (List Char) → List (List Char × List (List Char))
  | [] => []
  | line :: rest =>
    match publicKeyLine line with
    | some value => (value, rest.takeWhile fun line => (publicKeyLine line).isNone) :: sections rest
    | none => sections rest

/-- What a line says about the peer it belongs to. -/
def PeerState.line (peer : PeerState) (line : List Char) : PeerState :=
  match keyValue line with
  | some (key, value) => if key = "private_key".toList ∨ key = "listen_port".toList then peer else peer.set key value
  | none => peer

/-- The peer of a section: none if its key is invalid. -/
def sectionPeer (part : List Char × List (List Char)) : Option PeerState :=
  (wgHexTo32 part.1).join.map fun bytes => part.2.foldl PeerState.line (.new bytes)

/-- A peer for each public key that is valid, from the lines of its own section. -/
def peersOf (raw : List Char) : List WgPeerStatus := ((sections (lines raw)).filterMap sectionPeer).map PeerState.status

/-- No line has a key that is cut. -/
def Uncut (text : List (List Char)) : Prop :=
  ∀ line ∈ text, ∀ key value, keyValue line = some (key, value) → key = "private_key".toList ∨ key = "public_key".toList →
    ¬(utf8Length value = 64 ∧ Straddles value)

variable {publicKeyOf : List UInt8 → List UInt8} {state final : ShowState} {line : List Char} {text : List (List Char)}

theorem showLine_eq_none : showLine publicKeyOf state line = none ↔
    ∃ key value, keyValue line = some (key, value) ∧ (key = "private_key".toList ∨ key = "public_key".toList) ∧
      utf8Length value = 64 ∧ Straddles value := by
  unfold showLine
  cases parts : keyValue line with
  | none => simp
  | some pair =>
    obtain ⟨key, value⟩ := pair
    dsimp only
    have cut := @wgHexTo32_eq_none value
    split
    next isPrivate =>
      rw [Option.map_eq_none_iff, cut]
      constructor
      · exact fun both => ⟨key, value, rfl, .inl isPrivate, both⟩
      · rintro ⟨_, _, same, -, both⟩
        cases same
        exact both
    next other =>
      split
      next isPort =>
        constructor
        · intro none
          cases none
        · rintro ⟨_, _, same, keyed, -⟩
          cases same
          rw [isPort] at keyed
          exact absurd keyed (by decide)
      next =>
        split
        next isPublic =>
          rw [Option.map_eq_none_iff, cut]
          constructor
          · exact fun both => ⟨key, value, rfl, .inr isPublic, both⟩
          · rintro ⟨_, _, same, -, both⟩
            cases same
            exact both
        next other' =>
          constructor
          · intro none
            cases none
          · rintro ⟨_, _, same, keyed, -⟩
            cases same
            exact (keyed.elim other other').elim

/-- A public key ends the peer before it; any other line goes to the peer there is. -/
theorem showLine_peers (shows : showLine publicKeyOf state line = some final) :
    (∀ value, publicKeyLine line = some value → final.peers = state.peers ++ state.currentPeer.toList ∧
      final.currentPeer = (wgHexTo32 value).join.map PeerState.new) ∧
    (publicKeyLine line = none → final.peers = state.peers ∧
      final.currentPeer = state.currentPeer.map fun peer => peer.line line) := by
  unfold showLine at shows
  cases parts : keyValue line with
  | none =>
    have stays : ∀ peer : PeerState, peer.line line = peer := fun peer => by rw [PeerState.line, parts]
    have unkeyed : publicKeyLine line = none := by rw [publicKeyLine, parts]
    rw [parts] at shows
    cases shows
    rw [unkeyed]
    simp [stays]
  | some pair =>
    obtain ⟨key, value⟩ := pair
    rw [parts] at shows
    dsimp only at shows
    split at shows
    next isPrivate =>
      subst isPrivate
      have stays : ∀ peer : PeerState, peer.line line = peer := fun peer => by rw [PeerState.line, parts]; exact if_pos (.inl rfl)
      have unkeyed : publicKeyLine line = none := by
        rw [publicKeyLine, parts]
        exact if_neg (by decide)
      obtain ⟨bytes, -, same⟩ := Option.map_eq_some_iff.mp shows
      have kept : final.peers = state.peers ∧ final.currentPeer = state.currentPeer := by
        cases bytes <;> cases same <;> exact ⟨rfl, rfl⟩
      rw [unkeyed, kept.1, kept.2]
      simp [stays]
    next other =>
      split at shows
      next isPort =>
        subst isPort
        have stays : ∀ peer : PeerState, peer.line line = peer := fun peer => by rw [PeerState.line, parts]; exact if_pos (.inr rfl)
        have unkeyed : publicKeyLine line = none := by
          rw [publicKeyLine, parts]
          exact if_neg (by decide)
        cases shows
        rw [unkeyed]
        simp [stays]
      next other' =>
        split at shows
        next isPublic =>
          have keyed : publicKeyLine line = some value := by
            rw [publicKeyLine, parts]
            exact if_pos isPublic
          obtain ⟨bytes, read, same⟩ := Option.map_eq_some_iff.mp shows
          cases same
          rw [keyed]
          refine ⟨fun value' same => ?_, fun none => by cases none⟩
          cases same
          rw [read]
          exact ⟨rfl, rfl⟩
        next noKey =>
          have sets : ∀ peer : PeerState, peer.line line = peer.set key value := fun peer => by
            rw [PeerState.line, parts]
            exact if_neg (not_or.mpr ⟨other, other'⟩)
          have unkeyed : publicKeyLine line = none := by
            rw [publicKeyLine, parts]
            exact if_neg noKey
          cases shows
          rw [unkeyed]
          simp [sets]

/-- Every peer is made from the lines of its own section. -/
theorem showLines_peers (shows : text.foldlM (showLine publicKeyOf) state = some final) :
    final.peers ++ final.currentPeer.toList = state.peers ++
      ((state.currentPeer.map fun peer => (text.takeWhile fun line => (publicKeyLine line).isNone).foldl PeerState.line peer).toList ++
        (sections text).filterMap sectionPeer) := by
  induction text generalizing state with
  | nil =>
    cases shows
    cases final.currentPeer <;> simp [sections]
  | cons line rest ih =>
    rw [List.foldlM_cons] at shows
    obtain ⟨next, first, later⟩ := Option.bind_eq_some_iff.mp shows
    obtain ⟨opens, goes⟩ := showLine_peers first
    rw [ih later, sections]
    cases key : publicKeyLine line with
    | some value =>
      obtain ⟨peers, current⟩ := opens value key
      rw [peers, current, List.takeWhile_cons_of_neg (by simp [key])]
      dsimp only
      rw [List.filterMap_cons]
      have own : sectionPeer (value, rest.takeWhile fun line => (publicKeyLine line).isNone) =
          (wgHexTo32 value).join.map fun bytes =>
            (rest.takeWhile fun line => (publicKeyLine line).isNone).foldl PeerState.line (.new bytes) := rfl
      rw [own]
      cases (wgHexTo32 value).join with
      | none => cases state.currentPeer <;> simp
      | some bytes => cases state.currentPeer <;> simp
    | none =>
      obtain ⟨peers, current⟩ := goes key
      rw [peers, current, List.takeWhile_cons_of_pos (by simp [key])]
      cases state.currentPeer <;> simp

theorem showLines_eq_none : text.foldlM (showLine publicKeyOf) state = none ↔ ¬Uncut text := by
  induction text generalizing state with
  | nil =>
    constructor
    · intro none
      cases none
    · exact fun cut => absurd (by intro line member; cases member) cut
  | cons line rest ih =>
    have all : Uncut (line :: rest) ↔ (∀ key value, keyValue line = some (key, value) →
        key = "private_key".toList ∨ key = "public_key".toList → ¬(utf8Length value = 64 ∧ Straddles value)) ∧ Uncut rest := by
      rw [Uncut, List.forall_mem_cons]
      rfl
    rw [List.foldlM_cons, all]
    have here := @showLine_eq_none publicKeyOf state line
    cases first : showLine publicKeyOf state line with
    | none =>
      obtain ⟨key, value, parts, keyed, cut⟩ := here.mp first
      constructor
      · exact fun _ both => both.1 key value parts keyed cut
      · exact fun _ => rfl
    | some next =>
      have uncut : ∀ key value, keyValue line = some (key, value) →
          key = "private_key".toList ∨ key = "public_key".toList → ¬(utf8Length value = 64 ∧ Straddles value) := by
        intro key value parts keyed cut
        rw [here.mpr ⟨key, value, parts, keyed, cut⟩] at first
        cases first
      rw [Option.bind_eq_bind, Option.bind_some, ih]
      constructor
      · exact fun cut both => cut both.2
      · exact fun cut later => cut ⟨uncut, later⟩

/-- The answer is read, with a peer for each valid key from its own lines, unless a key is cut inside of a
character. -/
theorem parseWgShow_iff (publicKeyOf : List UInt8 → List UInt8) (raw : List Char) (interface : String) :
    (∃ status, parseWgShow publicKeyOf raw interface = some status ∧ status.peers = peersOf raw) ↔ Uncut (lines raw) := by
  unfold parseWgShow
  cases shows : (lines raw).foldlM (showLine publicKeyOf) .start with
  | none =>
    have cut := showLines_eq_none.mp shows
    constructor
    · rintro ⟨_, none, -⟩
      cases none
    · exact fun uncut => absurd uncut cut
  | some final =>
    have uncut : Uncut (lines raw) := by
      by_contra cut
      rw [showLines_eq_none.mpr cut] at shows
      cases shows
    have peers := showLines_peers shows
    refine ⟨fun _ => uncut, fun _ => ⟨_, rfl, ?_⟩⟩
    exact congrArg (List.map PeerState.status) peers

/-- The second byte of the key is the first half of a character. -/
theorem not_parseWgShow : ¬∃ status, parseWgShow id ("public_key=0\u00e9".toList ++ List.replicate 61 '0') "wg0" = some status := by
  have panics : parseWgShow id ("public_key=0\u00e9".toList ++ List.replicate 61 '0') "wg0" = none := by decide +kernel
  rw [panics]
  rintro ⟨_, none⟩
  cases none

end Wgd.Status
