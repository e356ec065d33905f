import Mathlib.Algebra.Group.Nat.Defs
import Wgd.Config.Fingerprint
import Wgd.Encoding.Unambiguous

/-! The encoding that is hashed: two configurations with one encoding differ in
resolved endpoints at most. -/

set_option autoImplicit false

namespace Wgd.Config

open Wgd.Net Wgd.Encoding

/-- What a 32-bit length can count. -/
def lengthBound : Nat := 2 ^ 32

def Short (text : String) : Prop := text.toUTF8.toList.length < lengthBound

/-- The lists and strings of a peer have lengths that fit. -/
structure ConnectionPeer.Measured (peer : ConnectionPeer) : Prop where
  allowedIps : peer.allowedIps.length < lengthBound
  endpointLiteral : ∀ literal, peer.endpointLiteral = some literal → Short literal

def MeasuredHooks (hooks : List String) : Prop := hooks.length < lengthBound ∧ ∀ hook ∈ hooks, Short hook

structure ConnectionConfig.Measured (config : ConnectionConfig) : Prop where
  addresses : config.addresses.length < lengthBound
  dnsServers : config.dnsServers.length < lengthBound
  preUp : MeasuredHooks config.preUp
  postUp : MeasuredHooks config.postUp
  preDown : MeasuredHooks config.preDown
  postDown : MeasuredHooks config.postDown
  peers : config.peers.length < lengthBound
  eachPeer : ∀ peer ∈ config.peers, peer.Measured

/-! ### The parts -/

theorem ofNat_inj_mod {a b : Nat} (same : UInt8.ofNat a = UInt8.ofNat b) : a % 256 = b % 256 := by
  have values := congrArg UInt8.toNat same
  simpa using values

theorem u32Bytes_code : Unambiguous (· < lengthBound) u32Bytes := by
  have fixed : ∀ value, value < lengthBound → (u32Bytes value).length = 4 := fun _ _ => rfl
  apply Unambiguous.of_length fixed
  intro a b first second same
  simp only [u32Bytes, List.cons.injEq, and_true, Nat.shiftRight_eq_div_pow] at same
  obtain ⟨byte₀, byte₁, byte₂, byte₃⟩ := same
  have mod₀ := ofNat_inj_mod byte₀
  have mod₁ := ofNat_inj_mod byte₁
  have mod₂ := ofNat_inj_mod byte₂
  have mod₃ := ofNat_inj_mod byte₃
  unfold lengthBound at first second
  omega

theorem bytes_code : Unambiguous (fun _ => True) fun byte : UInt8 => [byte] :=
  Unambiguous.of_length (fun _ _ => rfl) fun _ _ _ _ same => (List.cons.inj same).1

theorem prefixedBytes_code : Unambiguous (fun bytes => bytes.length < lengthBound) prefixedBytes := by
  have code := (u32Bytes_code.counted bytes_code).weaken fun bytes (short : bytes.length < lengthBound) => ⟨short, by simp⟩
  unfold prefixedBytes
  simpa using code

theorem keyBytes_code : Unambiguous (fun _ => True) keyBytes := by
  have views : ∀ key key' : Key, key.toList = key'.toList → key = key' := fun _ _ same => Vector.toList_inj.mp same
  apply (prefixedBytes_code.comap views).weaken
  intro key _
  simp [lengthBound]

/-- The bytes of an array, from this index on. -/
theorem toList_loop (bytes : ByteArray) (index : Nat) (seen : List UInt8) :
    ByteArray.toList.loop bytes index seen = seen.reverse ++ bytes.data.toList.drop index := by
  fun_induction ByteArray.toList.loop bytes index seen with
  | case1 index seen inside ih =>
    have there : index < bytes.data.toList.length := inside
    rw [ih, List.drop_eq_getElem_cons there, List.reverse_cons, List.append_assoc]
    have byte : bytes.get! index = bytes.data.toList[index] := by
      simp [ByteArray.get!, inside]
    rw [byte]
    rfl
  | case2 index seen outside =>
    have past : bytes.data.toList.length ≤ index := Nat.not_lt.mp outside
    rw [List.drop_of_length_le past, List.append_nil]

theorem toList_inj {first second : ByteArray} (same : first.toList = second.toList) : first = second := by
  have whole : ∀ bytes : ByteArray, bytes.toList = bytes.data.toList := by
    intro bytes
    rw [ByteArray.toList, toList_loop]
    rfl
  rw [whole, whole] at same
  exact ByteArray.ext (Array.toList_inj.mp same)

theorem stringBytes_code : Unambiguous Short stringBytes := by
  have views : ∀ text text' : String, text.toUTF8.toList = text'.toUTF8.toList → text = text' := by
    intro text text' same
    exact String.toByteArray_inj.mp (by simpa using toList_inj same)
  exact prefixedBytes_code.comap views

theorem stringsBytes_code : Unambiguous MeasuredHooks stringsBytes := u32Bytes_code.counted stringBytes_code

theorem octets_length (count bits : Nat) : (octets count bits).length = count := by simp [octets]

theorem byte_testBit (bits shift : Nat) {i : Nat} (low : i < 8) : (bits >>> shift % 256).testBit i = bits.testBit (shift + i) := by
  rw [show 256 = 2 ^ 8 from rfl, Nat.testBit_mod_two_pow, Nat.testBit_shiftRight]
  simp [low]

/-- The octets hold all bits. -/
theorem octets_inj {count a b : Nat} (first : a < 2 ^ (8 * count)) (second : b < 2 ^ (8 * count))
    (same : octets count a = octets count b) : a = b := by
  apply Nat.eq_of_testBit_eq
  intro i
  by_cases inside : i < 8 * count
  · have index : count - 1 - i / 8 < count := by omega
    have place : 8 * (count - 1 - (count - 1 - i / 8)) + i % 8 = i := by omega
    have octet := List.map_inj_left.mp same (count - 1 - i / 8) (List.mem_range.mpr index)
    have bits := congrArg (fun value => Nat.testBit value (i % 8)) (ofNat_inj_mod octet)
    rwa [byte_testBit _ _ (Nat.mod_lt _ (by decide)), byte_testBit _ _ (Nat.mod_lt _ (by decide)), place] at bits
  · have beyond : 2 ^ (8 * count) ≤ 2 ^ i := Nat.pow_le_pow_right (by decide) (Nat.not_lt.mp inside)
    rw [Nat.testBit_lt_two_pow (first.trans_le beyond), Nat.testBit_lt_two_pow (second.trans_le beyond)]

theorem octets_code (count : Nat) : Unambiguous (· < 2 ^ (8 * count)) (octets count) :=
  Unambiguous.of_length (fun bits _ => octets_length count bits) fun _ _ first second same => octets_inj first second same

theorem ipBytes_code : Unambiguous (fun _ => True) ipBytes := by
  intro ip ip' rest rest' _ _ same
  cases ip with
  | v4 bits =>
    cases ip' with
    | v4 bits' =>
      obtain ⟨values, rests⟩ := octets_code 4 _ _ _ _ bits.isLt bits'.isLt (List.cons.inj same).2
      exact ⟨congrArg IpAddr.v4 (BitVec.eq_of_toNat_eq values), rests⟩
    | v6 bits' => exact absurd (List.cons.inj same).1 (by decide)
  | v6 bits =>
    cases ip' with
    | v4 bits' => exact absurd (List.cons.inj same).1 (by decide)
    | v6 bits' =>
      obtain ⟨values, rests⟩ := octets_code 16 _ _ _ _ bits.isLt bits'.isLt (List.cons.inj same).2
      exact ⟨congrArg IpAddr.v6 (BitVec.eq_of_toNat_eq values), rests⟩

theorem prefixLen_lt (net : IpNet) : net.prefixLen < 256 := by
  have valid := net.valid
  unfold IpAddr.hostPrefix at valid
  split at valid <;> omega

theorem ipNetBytes_code : Unambiguous (fun _ => True) ipNetBytes := by
  intro net net' rest rest' _ _ same
  unfold ipNetBytes at same
  rw [List.append_assoc, List.append_assoc] at same
  obtain ⟨addrs, later⟩ := ipBytes_code _ _ _ _ trivial trivial same
  have lengths := ofNat_inj_mod (List.cons.inj later).1
  rw [Nat.mod_eq_of_lt (prefixLen_lt net), Nat.mod_eq_of_lt (prefixLen_lt net')] at lengths
  obtain ⟨addr, length, valid⟩ := net
  obtain ⟨addr', length', valid'⟩ := net'
  cases addrs
  cases lengths
  exact ⟨rfl, (List.cons.inj later).2⟩

theorem ipNetsBytes_code : Unambiguous (fun nets => nets.length < lengthBound) ipNetsBytes :=
  (u32Bytes_code.counted ipNetBytes_code).weaken fun _ short => ⟨short, fun _ _ => trivial⟩

theorem optionU16Bytes_code : Unambiguous (fun _ => True) optionU16Bytes := by
  have code : Unambiguous (fun _ => True) fun value : UInt16 => [UInt8.ofNat value.toNat, UInt8.ofNat (value.toNat >>> 8)] := by
    have fixed : ∀ value : UInt16, True → [UInt8.ofNat value.toNat, UInt8.ofNat (value.toNat >>> 8)].length = 2 := fun _ _ => rfl
    apply Unambiguous.of_length fixed
    intro value value' _ _ same
    simp only [List.cons.injEq, and_true, Nat.shiftRight_eq_div_pow] at same
    have low := ofNat_inj_mod same.1
    have high := ofNat_inj_mod same.2
    have small := value.toNat_lt
    have small' := value'.toNat_lt
    apply UInt16.toNat_inj.mp
    omega
  apply (code.flagged (by decide : (0 : UInt8) ≠ 1) rfl fun _ => rfl).weaken
  intro value _ _ _
  trivial

theorem optionBytes_code {A : Type} {valid : A → Prop} {encode : A → List UInt8} (code : Unambiguous valid encode) :
    Unambiguous (fun value => ∀ a, value = some a → valid a) (optionBytes encode) :=
  code.flagged (by decide : (0 : UInt8) ≠ 1) rfl fun _ => rfl

/-! ### Peers and configurations -/

/-- A peer that was not resolved is decided by its bytes. -/
theorem peerBytes_code : Unambiguous (fun peer => peer.Measured ∧ peer.endpoint = none) peerBytes := by
  intro peer peer' rest rest' first second same
  unfold peerBytes at same
  simp only [List.append_assoc] at same
  obtain ⟨publicKey, same₁⟩ := keyBytes_code _ _ _ _ trivial trivial same
  obtain ⟨presharedKey, same₂⟩ := optionBytes_code keyBytes_code _ _ _ _ (fun _ _ => trivial) (fun _ _ => trivial) same₁
  obtain ⟨allowedIps, same₃⟩ := ipNetsBytes_code _ _ _ _ first.1.allowedIps second.1.allowedIps same₂
  obtain ⟨endpointLiteral, same₄⟩ :=
    optionBytes_code stringBytes_code _ _ _ _ first.1.endpointLiteral second.1.endpointLiteral same₃
  obtain ⟨keepalive, rests⟩ := optionU16Bytes_code _ _ _ _ trivial trivial same₄
  cases peer
  cases peer'
  rw [ConnectionPeer.mk.injEq]
  exact ⟨⟨publicKey, presharedKey, allowedIps, first.2.trans second.2.symm, endpointLiteral, keepalive⟩, rests⟩

theorem peersBytes_code :
    Unambiguous (fun peers : List ConnectionPeer => peers.length < lengthBound ∧
      ∀ peer ∈ peers, peer.Measured ∧ peer.endpoint = none) fun peers => u32Bytes peers.length ++ peers.flatMap peerBytes :=
  u32Bytes_code.counted peerBytes_code

theorem dnsBytes_code :
    Unambiguous (fun servers => servers.length < lengthBound) fun servers : List IpAddr =>
      u32Bytes servers.length ++ servers.flatMap ipBytes :=
  (u32Bytes_code.counted ipBytes_code).weaken fun _ short => ⟨short, fun _ _ => trivial⟩

theorem ConnectionConfig.Measured.unresolved {config : ConnectionConfig} (measured : config.Measured) :
    config.unresolved.peers.length < lengthBound ∧ ∀ peer ∈ config.unresolved.peers, peer.Measured ∧ peer.endpoint = none := by
  constructor
  · rw [ConnectionConfig.unresolved, List.length_map]
    exact measured.peers
  · intro peer member
    obtain ⟨original, among, rfl⟩ := List.mem_map.mp member
    have each := measured.eachPeer original among
    exact ⟨⟨each.allowedIps, each.endpointLiteral⟩, rfl⟩

/-- Equal encodings come from one configuration, resolved endpoints apart. -/
theorem canonicalBytes_inj {config config' : ConnectionConfig} (first : config.Measured) (second : config'.Measured)
    (same : canonicalBytes config = canonicalBytes config') : config.unresolved = config'.unresolved := by
  rw [← canonicalBytes_unresolved config, ← canonicalBytes_unresolved config'] at same
  unfold canonicalBytes at same
  simp only [List.append_assoc] at same
  have same₀ := List.append_cancel_left same
  obtain ⟨privateKey, same₁⟩ := keyBytes_code _ _ _ _ trivial trivial same₀
  obtain ⟨addresses, same₂⟩ := ipNetsBytes_code _ _ _ _ first.addresses second.addresses same₁
  obtain ⟨dnsServers, same₃⟩ := dnsBytes_code _ _ _ _ first.dnsServers second.dnsServers
    ((List.append_assoc _ _ _).trans (same₂.trans (List.append_assoc _ _ _).symm))
  obtain ⟨mtu, same₄⟩ := optionU16Bytes_code _ _ _ _ trivial trivial same₃
  obtain ⟨preUp, same₅⟩ := stringsBytes_code _ _ _ _ first.preUp second.preUp same₄
  obtain ⟨postUp, same₆⟩ := stringsBytes_code _ _ _ _ first.postUp second.postUp same₅
  obtain ⟨preDown, same₇⟩ := stringsBytes_code _ _ _ _ first.preDown second.preDown same₆
  obtain ⟨postDown, same₈⟩ := stringsBytes_code _ _ _ _ first.postDown second.postDown same₇
  have peers := peersBytes_code.injective first.unresolved second.unresolved same₈
  unfold ConnectionConfig.unresolved
  rw [ConnectionConfig.mk.injEq]
  exact ⟨privateKey, addresses, dnsServers, mtu, preUp, postUp, preDown, postDown, peers⟩

/-- The encoding is injective, resolved endpoints apart, and does not depend on the resolver. -/
theorem canonical_encoding :
    (∀ config config' : ConnectionConfig, config.Measured → config'.Measured → canonicalBytes config = canonicalBytes config' →
      config.unresolved = config'.unresolved) ∧
    ∀ (crates : Crates) (text : String) (resolver other : Resolver) (config config' : ConnectionConfig),
      parseConnectionConfig crates resolver text = .ok config → parseConnectionConfig crates other text = .ok config' →
      canonicalBytes config = canonicalBytes config' := by
  constructor
  · intro config config' first second same
    exact canonicalBytes_inj first second same
  · intro crates text resolver other config config' first second
    rw [← canonicalBytes_unresolved config, ← canonicalBytes_unresolved config', parse_unresolved first second]

end Wgd.Config
