import Wgd.Config.Endpoints
import Wgd.Encoding.Base64
import Wgd.Encoding.Json
import Wgd.Store.Record

/-! The form records have on disk (`privileged/connection_store.rs`): mirror types whose
keys, addresses and networks are texts, written as JSON. -/

set_option autoImplicit false

namespace Wgd.Store.Disk

open Wgd.Net Wgd.Links Wgd.Config Wgd.Helper Wgd.Encoding Wgd.Encoding.Json

structure ConnectionPeerDisk where
  publicKeyB64 : String
  presharedKeyB64 : Option String
  allowedIps : List String
  endpoint : Option String
  endpointLiteral : Option String
  persistentKeepalive : Option UInt16
  deriving DecidableEq, Repr

structure ConnectionConfigDisk where
  privateKeyB64 : String
  addresses : List String
  dnsServers : List String
  mtu : Option UInt16
  preUp : List String
  postUp : List String
  preDown : List String
  postDown : List String
  peers : List ConnectionPeerDisk
  deriving DecidableEq, Repr

structure StoredConnectionDisk where
  id : ConnectionId
  fingerprint : String
  global : Bool
  ownerUid : Option Nat
  startMode : ConnectionStartMode
  name : Option String
  config : ConnectionConfigDisk
  rawConf : String
  interface : String
  createdAt : Nat
  updatedAt : Nat
  userDisconnected : Bool
  sourcePath : Option String
  mtuOverride : Option UInt16
  dnsDynamicStore : Bool
  bypassLinks : List BypassLink
  deriving DecidableEq, Repr

/-! ### Typed values as text -/

def parseIpnetField (crates : Crates) (what value : String) : Except AppError IpNet :=
  match crates.parseIpNet value.toList with
  | some net => .ok net
  | none => .error (corrupt what value)

def parseIpField (what value : String) : Except AppError IpAddr :=
  match parseIpAddr value.toList with
  | some ip => .ok ip
  | none => .error (corrupt what value)

def parseEndpointField (value : String) : Except AppError SocketAddr :=
  match parseSocketAddr value.toList with
  | some addr => .ok addr
  | none => .error (corrupt "endpoint" value)

def keyToBase64 (crates : Crates) (key : Key) : String := crates.encodeBase64 key.toList

def peerToDisk (crates : Crates) (peer : ConnectionPeer) : ConnectionPeerDisk where
  publicKeyB64 := keyToBase64 crates peer.publicKey
  presharedKeyB64 := peer.presharedKey.map (keyToBase64 crates)
  allowedIps := peer.allowedIps.map IpNet.toText
  endpoint := peer.endpoint.map SocketAddr.toText
  endpointLiteral := peer.endpointLiteral
  persistentKeepalive := peer.persistentKeepalive

def configToDisk (crates : Crates) (config : ConnectionConfig) : ConnectionConfigDisk where
  privateKeyB64 := keyToBase64 crates config.privateKey
  addresses := config.addresses.map IpNet.toText
  dnsServers := config.dnsServers.map IpAddr.toText
  mtu := config.mtu
  preUp := config.preUp
  postUp := config.postUp
  preDown := config.preDown
  postDown := config.postDown
  peers := config.peers.map (peerToDisk crates)

def peerFromDisk (crates : Crates) (disk : ConnectionPeerDisk) : Except AppError ConnectionPeer := do
  let publicKey ← decodeKey32 crates "PublicKey" disk.publicKeyB64.toList
  let presharedKey ← disk.presharedKeyB64.mapM fun text => decodeKey32 crates "PresharedKey" text.toList
  let allowedIps ← disk.allowedIps.mapM (parseIpnetField crates "allowed IP")
  let endpoint ← disk.endpoint.mapM parseEndpointField
  return ⟨publicKey, presharedKey, allowedIps, endpoint, disk.endpointLiteral, disk.persistentKeepalive⟩

def configFromDisk (crates : Crates) (disk : ConnectionConfigDisk) : Except AppError ConnectionConfig := do
  let privateKey ← decodeKey32 crates "PrivateKey" disk.privateKeyB64.toList
  let addresses ← disk.addresses.mapM (parseIpnetField crates "address")
  let dnsServers ← disk.dnsServers.mapM (parseIpField "dns server")
  let peers ← disk.peers.mapM (peerFromDisk crates)
  return ⟨privateKey, addresses, dnsServers, disk.mtu, disk.preUp, disk.postUp, disk.preDown, disk.postDown, peers⟩

def toDisk (crates : Crates) (stored : StoredConnection) : StoredConnectionDisk where
  id := stored.id
  fingerprint := stored.fingerprint
  global := stored.global
  ownerUid := stored.ownerUid
  startMode := stored.startMode
  name := stored.name
  config := configToDisk crates stored.config
  rawConf := stored.rawConf
  interface := stored.interface
  createdAt := stored.createdAt
  updatedAt := stored.updatedAt
  userDisconnected := stored.userDisconnected
  sourcePath := stored.sourcePath
  mtuOverride := stored.mtuOverride
  dnsDynamicStore := stored.dnsDynamicStore
  bypassLinks := stored.bypassLinks

def fromDisk (crates : Crates) (disk : StoredConnectionDisk) : Except AppError StoredConnection := do
  let config ← configFromDisk crates disk.config
  return {
    id := disk.id
    fingerprint := disk.fingerprint
    global := disk.global
    ownerUid := disk.ownerUid
    startMode := disk.startMode
    name := disk.name
    config := config
    rawConf := disk.rawConf
    interface := disk.interface
    createdAt := disk.createdAt
    updatedAt := disk.updatedAt
    userDisconnected := disk.userDisconnected
    sourcePath := disk.sourcePath
    mtuOverride := disk.mtuOverride
    dnsDynamicStore := disk.dnsDynamicStore
    bypassLinks := disk.bypassLinks }

/-- The record of this id: the id and the interface it states have to agree with it. -/
def fromDiskChecked (crates : Crates) (id : ConnectionId) (disk : StoredConnectionDisk) : Except AppError StoredConnection :=
  if disk.id ≠ id then .error (corrupt "id" s!"{idText disk.id} (expected {idText id})")
  else if disk.interface ≠ disk.id.interfaceName then .error (corrupt "interface" disk.interface)
  else fromDisk crates disk

/-! ### As JSON -/

/-- The libraries, with those that files need. -/
structure FileCrates extends Crates where
  /-- `uuid`. -/
  parseUuid : List Char → Option ConnectionId
  /-- What `serde_json` says about a value that is no record. -/
  jsonError : Json → String

variable (crates : FileCrates)

def uint16 : Codec UInt16 :=
  Codec.number.via UInt16.toNat fun value => if value < 65536 then some (UInt16.ofNat value) else none

def connectionId : Codec ConnectionId := Codec.string.via idText fun text => crates.parseUuid text.toList

def startMode : Codec ConnectionStartMode :=
  Codec.string.via
    (fun
      | .manual => "manual"
      | .automatic => "automatic")
    fun text => if text = "manual" then some .manual else if text = "automatic" then some .automatic else none

def network : Codec IpNet := Codec.string.via IpNet.toText fun text => crates.parseIpNet text.toList

def bypassTargets : Codec BypassTargets :=
  (network crates).list.via BypassTargets.toPrefixes fun networks => some (.prefixes networks)

def bypassLink : Codec BypassLink where
  write link := .object [("anchor", (network crates).write link.anchor), ("bypass", (bypassTargets crates).write link.bypass)]
  read
    | .object members => do
      let anchor ← required (network crates) members "anchor"
      let bypass ← required (bypassTargets crates) members "bypass"
      some ⟨anchor, bypass⟩
    | _ => none

def peer : Codec ConnectionPeerDisk where
  write disk := .object [
    ("public_key_b64", Codec.string.write disk.publicKeyB64),
    ("preshared_key_b64", Codec.string.option.write disk.presharedKeyB64),
    ("allowed_ips", Codec.string.list.write disk.allowedIps),
    ("endpoint", Codec.string.option.write disk.endpoint),
    ("endpoint_literal", Codec.string.option.write disk.endpointLiteral),
    ("persistent_keepalive", uint16.option.write disk.persistentKeepalive)]
  read
    | .object members => do
      let publicKeyB64 ← required Codec.string members "public_key_b64"
      let presharedKeyB64 ← defaulted Codec.string.option none members "preshared_key_b64"
      let allowedIps ← required Codec.string.list members "allowed_ips"
      let endpoint ← defaulted Codec.string.option none members "endpoint"
      let endpointLiteral ← defaulted Codec.string.option none members "endpoint_literal"
      let persistentKeepalive ← defaulted uint16.option none members "persistent_keepalive"
      some ⟨publicKeyB64, presharedKeyB64, allowedIps, endpoint, endpointLiteral, persistentKeepalive⟩
    | _ => none

def config : Codec ConnectionConfigDisk where
  write disk := .object [
    ("private_key_b64", Codec.string.write disk.privateKeyB64),
    ("addresses", Codec.string.list.write disk.addresses),
    ("dns_servers", Codec.string.list.write disk.dnsServers),
    ("mtu", uint16.option.write disk.mtu),
    ("pre_up", Codec.string.list.write disk.preUp),
    ("post_up", Codec.string.list.write disk.postUp),
    ("pre_down", Codec.string.list.write disk.preDown),
    ("post_down", Codec.string.list.write disk.postDown),
    ("peers", peer.list.write disk.peers)]
  read
    | .object members => do
      let privateKeyB64 ← required Codec.string members "private_key_b64"
      let addresses ← required Codec.string.list members "addresses"
      let dnsServers ← required Codec.string.list members "dns_servers"
      let mtu ← defaulted uint16.option none members "mtu"
      let preUp ← required Codec.string.list members "pre_up"
      let postUp ← required Codec.string.list members "post_up"
      let preDown ← required Codec.string.list members "pre_down"
      let postDown ← required Codec.string.list members "post_down"
      let peers ← required peer.list members "peers"
      some ⟨privateKeyB64, addresses, dnsServers, mtu, preUp, postUp, preDown, postDown, peers⟩
    | _ => none

/-- The members of a record file. -/
def writeMembers (disk : StoredConnectionDisk) : List (String × Json) := [
  ("id", (connectionId crates).write disk.id),
  ("fingerprint", Codec.string.write disk.fingerprint),
  ("global", Codec.bool.write disk.global),
  ("owner_uid", Codec.number.option.write disk.ownerUid),
  ("start_mode", startMode.write disk.startMode),
  ("name", Codec.string.option.write disk.name),
  ("config", config.write disk.config),
  ("raw_conf", Codec.string.write disk.rawConf),
  ("interface", Codec.string.write disk.interface),
  ("created_at", Codec.number.write disk.createdAt),
  ("updated_at", Codec.number.write disk.updatedAt),
  ("user_disconnected", Codec.bool.write disk.userDisconnected),
  ("source_path", Codec.string.option.write disk.sourcePath),
  ("mtu_override", uint16.option.write disk.mtuOverride),
  ("dns_dynamic_store", Codec.bool.write disk.dnsDynamicStore),
  ("bypass_links", (bypassLink crates).list.write disk.bypassLinks)]

def readMembers (members : List (String × Json)) : Option StoredConnectionDisk := do
  let id ← required (connectionId crates) members "id"
  let fingerprint ← required Codec.string members "fingerprint"
  let global ← required Codec.bool members "global"
  let ownerUid ← defaulted Codec.number.option none members "owner_uid"
  let startMode ← required startMode members "start_mode"
  let name ← defaulted Codec.string.option none members "name"
  let config ← required config members "config"
  let rawConf ← required Codec.string members "raw_conf"
  let interface ← required Codec.string members "interface"
  let createdAt ← required Codec.number members "created_at"
  let updatedAt ← required Codec.number members "updated_at"
  -- Records written before these fields existed do not have them.
  let userDisconnected ← defaulted Codec.bool false members "user_disconnected"
  let sourcePath ← defaulted Codec.string.option none members "source_path"
  let mtuOverride ← defaulted uint16.option none members "mtu_override"
  let dnsDynamicStore ← defaulted Codec.bool false members "dns_dynamic_store"
  let bypassLinks ← defaulted (bypassLink crates).list [] members "bypass_links"
  some ⟨id, fingerprint, global, ownerUid, startMode, name, config, rawConf, interface, createdAt, updatedAt,
    userDisconnected, sourcePath, mtuOverride, dnsDynamicStore, bypassLinks⟩

/-- What a record file of this id is read as. -/
def load (id : ConnectionId) (json : Json) : Except AppError StoredConnection :=
  match json with
  | .object members =>
    match readMembers crates members with
    | some disk => fromDiskChecked crates.toCrates id disk
    | none => .error (.json (crates.jsonError json))
  | _ => .error (.json (crates.jsonError json))

/-- What is written for a record. -/
def save (stored : StoredConnection) : Json := .object (writeMembers crates (toDisk crates.toCrates stored))

/-! ### Texts read back -/

/-- The libraries read back what they print. -/
structure ReadsBack : Prop where
  base64 : ∀ bytes, crates.decodeBase64 (crates.encodeBase64 bytes).toList = .ok bytes
  networks : ∀ net : IpNet, crates.parseIpNet net.toText.toList = some net
  ids : ∀ id, crates.parseUuid (idText id).toList = some id

/-- Every endpoint is one that a socket address can be. -/
def ProperEndpoints (config : ConnectionConfig) : Prop := ∀ peer ∈ config.peers, ∀ addr ∈ peer.endpoint, addr.Proper

variable {crates}

theorem mapM_ok {A B E : Type} {write : A → B} {read : B → Except E A} {values : List A}
    (each : ∀ value ∈ values, read (write value) = .ok value) : (values.map write).mapM read = .ok values := by
  induction values with
  | nil => rfl
  | cons value rest ih =>
    rw [List.forall_mem_cons] at each
    rw [List.map_cons, List.mapM_cons, each.1, ih each.2]
    rfl

theorem optionMapM_ok {A B E : Type} {write : A → B} {read : B → Except E A} {value : Option A}
    (each : ∀ inner ∈ value, read (write inner) = .ok inner) : (value.map write).mapM read = .ok value := by
  cases value with
  | none => rfl
  | some inner =>
    have back := each inner rfl
    rw [Option.map_some, Option.mapM_some, back]
    rfl

theorem decodeKey32_keyToBase64 (reads : ReadsBack crates) (field : String) (key : Key) :
    decodeKey32 crates.toCrates field (keyToBase64 crates.toCrates key).toList = .ok key := by
  have size : key.toList.toArray.size = 32 := by simp
  simp only [decodeKey32, keyToBase64, reads.base64]
  rw [dif_pos size]
  simp [Vector.toList]

theorem parseIpnetField_toText (reads : ReadsBack crates) (what : String) (net : IpNet) :
    parseIpnetField crates.toCrates what net.toText = .ok net := by
  rw [parseIpnetField, reads.networks]

theorem parseIpField_toText (what : String) (ip : IpAddr) : parseIpField what ip.toText = .ok ip := by
  rw [parseIpField, parseIpAddr_toText]

theorem parseEndpointField_toText {addr : SocketAddr} (proper : addr.Proper) : parseEndpointField addr.toText = .ok addr := by
  rw [parseEndpointField, parseSocketAddr_toText proper]

theorem peerFromDisk_peerToDisk (reads : ReadsBack crates) {peer : ConnectionPeer}
    (proper : ∀ addr ∈ peer.endpoint, addr.Proper) :
    peerFromDisk crates.toCrates (peerToDisk crates.toCrates peer) = .ok peer := by
  have preshared : (peer.presharedKey.map (keyToBase64 crates.toCrates)).mapM
      (fun text => decodeKey32 crates.toCrates "PresharedKey" text.toList) = .ok peer.presharedKey :=
    optionMapM_ok fun key _ => decodeKey32_keyToBase64 reads "PresharedKey" key
  have allowed : (peer.allowedIps.map IpNet.toText).mapM (parseIpnetField crates.toCrates "allowed IP") = .ok peer.allowedIps :=
    mapM_ok fun net _ => parseIpnetField_toText reads "allowed IP" net
  have endpoint : (peer.endpoint.map SocketAddr.toText).mapM parseEndpointField = .ok peer.endpoint :=
    optionMapM_ok fun addr among => parseEndpointField_toText (proper addr among)
  simp only [peerFromDisk, peerToDisk, decodeKey32_keyToBase64 reads, preshared, allowed, endpoint]
  rfl

theorem configFromDisk_configToDisk (reads : ReadsBack crates) {config : ConnectionConfig} (proper : ProperEndpoints config) :
    configFromDisk crates.toCrates (configToDisk crates.toCrates config) = .ok config := by
  have addresses : (config.addresses.map IpNet.toText).mapM (parseIpnetField crates.toCrates "address") = .ok config.addresses :=
    mapM_ok fun net _ => parseIpnetField_toText reads "address" net
  have servers : (config.dnsServers.map IpAddr.toText).mapM (parseIpField "dns server") = .ok config.dnsServers :=
    mapM_ok fun ip _ => parseIpField_toText "dns server" ip
  have peers : (config.peers.map (peerToDisk crates.toCrates)).mapM (peerFromDisk crates.toCrates) = .ok config.peers :=
    mapM_ok fun peer among => peerFromDisk_peerToDisk reads (proper peer among)
  simp only [configFromDisk, configToDisk, decodeKey32_keyToBase64 reads, addresses, servers, peers]
  rfl

theorem fromDisk_toDisk (reads : ReadsBack crates) {stored : StoredConnection} (proper : ProperEndpoints stored.config) :
    fromDisk crates.toCrates (toDisk crates.toCrates stored) = .ok stored := by
  simp only [fromDisk, toDisk, configFromDisk_configToDisk reads proper]
  rfl

/-- A record is read back under its own id. -/
theorem fromDiskChecked_toDisk (reads : ReadsBack crates) {stored : StoredConnection}
    (derived : stored.interface = stored.id.interfaceName) (proper : ProperEndpoints stored.config) :
    fromDiskChecked crates.toCrates stored.id (toDisk crates.toCrates stored) = .ok stored := by
  have same : (toDisk crates.toCrates stored).id = stored.id := rfl
  have named : (toDisk crates.toCrates stored).interface = (toDisk crates.toCrates stored).id.interfaceName := derived
  rw [fromDiskChecked, if_neg (not_not.mpr same), if_neg (not_not.mpr named), fromDisk_toDisk reads proper]

/-! ### JSON reads back -/

theorem uint16_readsBack (value : UInt16) : uint16.ReadsBack value := by
  apply Codec.via_readsBack (Codec.number_readsBack _)
  rw [if_pos value.toNat_lt, UInt16.ofNat_toNat]

theorem startMode_readsBack (mode : ConnectionStartMode) : startMode.ReadsBack mode := by
  cases mode <;> rfl

theorem string_proper : Codec.string.Proper := fun _ same => by cases same

theorem number_proper : Codec.number.Proper := fun _ same => by cases same

theorem uint16_proper : uint16.Proper := fun _ same => by cases same

theorem strings_readsBack (texts : List String) : Codec.string.list.ReadsBack texts :=
  Codec.list_readsBack fun _ _ => rfl

theorem optionString_readsBack (text : Option String) : Codec.string.option.ReadsBack text :=
  Codec.option_readsBack string_proper fun _ _ => rfl

theorem optionUInt16_readsBack (value : Option UInt16) : uint16.option.ReadsBack value :=
  Codec.option_readsBack uint16_proper fun inner _ => uint16_readsBack inner

theorem network_readsBack (reads : ReadsBack crates) (net : IpNet) : (network crates).ReadsBack net :=
  Codec.via_readsBack (Codec.string_readsBack _) (reads.networks net)

theorem bypassTargets_readsBack (reads : ReadsBack crates) (targets : BypassTargets) : (bypassTargets crates).ReadsBack targets :=
  Codec.via_readsBack (Codec.list_readsBack fun net _ => network_readsBack reads net) (by cases targets; rfl)

section Members

variable {A B : Type} {codec : Codec A} {value default : A} {members : List (String × Json)} {name : String} {next : A → Option B}

/-- A member is read back where nothing before it has its name, and the rest is read after it. -/
theorem required_readsBack (found : members.lookup name = some (codec.write value)) (back : codec.ReadsBack value) :
    (required codec members name >>= next) = next value := by
  rw [required, found, Option.bind_some, back]
  rfl

theorem defaulted_readsBack (found : members.lookup name = some (codec.write value)) (back : codec.ReadsBack value) :
    (defaulted codec default members name >>= next) = next value := by
  rw [defaulted, found]
  dsimp only
  rw [back]
  rfl

end Members

theorem bypassLink_readsBack (reads : ReadsBack crates) (link : BypassLink) : (bypassLink crates).ReadsBack link := by
  simp only [Codec.ReadsBack, bypassLink]
  rw [required_readsBack rfl (network_readsBack reads link.anchor),
    required_readsBack rfl (bypassTargets_readsBack reads link.bypass)]

theorem peer_readsBack (disk : ConnectionPeerDisk) : peer.ReadsBack disk := by
  simp only [Codec.ReadsBack, peer]
  rw [required_readsBack rfl (Codec.string_readsBack disk.publicKeyB64),
    defaulted_readsBack rfl (optionString_readsBack disk.presharedKeyB64),
    required_readsBack rfl (strings_readsBack disk.allowedIps),
    defaulted_readsBack rfl (optionString_readsBack disk.endpoint),
    defaulted_readsBack rfl (optionString_readsBack disk.endpointLiteral),
    defaulted_readsBack rfl (optionUInt16_readsBack disk.persistentKeepalive)]

theorem config_readsBack (disk : ConnectionConfigDisk) : config.ReadsBack disk := by
  have peers : peer.list.ReadsBack disk.peers := Codec.list_readsBack fun disk _ => peer_readsBack disk
  simp only [Codec.ReadsBack, config]
  rw [required_readsBack rfl (Codec.string_readsBack disk.privateKeyB64),
    required_readsBack rfl (strings_readsBack disk.addresses),
    required_readsBack rfl (strings_readsBack disk.dnsServers),
    defaulted_readsBack rfl (optionUInt16_readsBack disk.mtu),
    required_readsBack rfl (strings_readsBack disk.preUp),
    required_readsBack rfl (strings_readsBack disk.postUp),
    required_readsBack rfl (strings_readsBack disk.preDown),
    required_readsBack rfl (strings_readsBack disk.postDown),
    required_readsBack rfl peers]

/-- What is written of a disk record is read as it. -/
theorem readMembers_writeMembers (reads : ReadsBack crates) (disk : StoredConnectionDisk) :
    readMembers crates (writeMembers crates disk) = some disk := by
  have id : (connectionId crates).ReadsBack disk.id := Codec.via_readsBack (Codec.string_readsBack _) (reads.ids disk.id)
  have owner : Codec.number.option.ReadsBack disk.ownerUid := Codec.option_readsBack number_proper fun _ _ => rfl
  have links : (bypassLink crates).list.ReadsBack disk.bypassLinks :=
    Codec.list_readsBack fun link _ => bypassLink_readsBack reads link
  unfold readMembers
  rw [required_readsBack rfl id,
    required_readsBack rfl (Codec.string_readsBack disk.fingerprint),
    required_readsBack rfl (Codec.bool_readsBack disk.global),
    defaulted_readsBack rfl owner,
    required_readsBack rfl (startMode_readsBack disk.startMode),
    defaulted_readsBack rfl (optionString_readsBack disk.name),
    required_readsBack rfl (config_readsBack disk.config),
    required_readsBack rfl (Codec.string_readsBack disk.rawConf),
    required_readsBack rfl (Codec.string_readsBack disk.interface),
    required_readsBack rfl (Codec.number_readsBack disk.createdAt),
    required_readsBack rfl (Codec.number_readsBack disk.updatedAt),
    defaulted_readsBack rfl (Codec.bool_readsBack disk.userDisconnected),
    defaulted_readsBack rfl (optionString_readsBack disk.sourcePath),
    defaulted_readsBack rfl (optionUInt16_readsBack disk.mtuOverride),
    defaulted_readsBack rfl (Codec.bool_readsBack disk.dnsDynamicStore),
    defaulted_readsBack rfl links]

/-! ### Records of older versions -/

/-- The fields that records did not always have. -/
def newerFields : List String := ["user_disconnected", "source_path", "mtu_override", "dns_dynamic_store", "bypass_links"]

/-- The disk record with these fields at their defaults. -/
def StoredConnectionDisk.reset (names : List String) (disk : StoredConnectionDisk) : StoredConnectionDisk :=
  { disk with
    userDisconnected := if "user_disconnected" ∈ names then false else disk.userDisconnected
    sourcePath := if "source_path" ∈ names then none else disk.sourcePath
    mtuOverride := if "mtu_override" ∈ names then none else disk.mtuOverride
    dnsDynamicStore := if "dns_dynamic_store" ∈ names then false else disk.dnsDynamicStore
    bypassLinks := if "bypass_links" ∈ names then [] else disk.bypassLinks }

/-- The record with these fields at their defaults. -/
def resetRecord (names : List String) (stored : StoredConnection) : StoredConnection :=
  { stored with
    userDisconnected := if "user_disconnected" ∈ names then false else stored.userDisconnected
    sourcePath := if "source_path" ∈ names then none else stored.sourcePath
    mtuOverride := if "mtu_override" ∈ names then none else stored.mtuOverride
    dnsDynamicStore := if "dns_dynamic_store" ∈ names then false else stored.dnsDynamicStore
    bypassLinks := if "bypass_links" ∈ names then [] else stored.bypassLinks }

variable {names : List String} {members : List (String × Json)} {id : ConnectionId} {disk : StoredConnectionDisk}
  {stored : StoredConnection}

section Members

variable {A B : Type} {codec : Codec A} {default value : A} {name : String} {next : A → Option B}

theorem required_kept (kept : name ∉ names) (read : required codec members name = some value) :
    (required codec (without names members) name >>= next) = next value := by
  rw [required_without kept, read]
  rfl

theorem defaulted_kept (kept : name ∉ names) (read : defaulted codec default members name = some value) :
    (defaulted codec default (without names members) name >>= next) = next value := by
  rw [defaulted_without kept, read]
  rfl

theorem defaulted_dropping (read : defaulted codec default members name = some value) :
    (defaulted codec default (without names members) name >>= next) = next (if name ∈ names then default else value) := by
  by_cases dropped : name ∈ names
  · rw [defaulted_dropped dropped, if_pos dropped]
    rfl
  · rw [defaulted_without dropped, if_neg dropped, read]
    rfl

end Members

/-- What is read without the newer fields, as long as the rest is there. -/
theorem readMembers_without (newer : names ⊆ newerFields) (reads : readMembers crates members = some disk) :
    readMembers crates (without names members) = some (disk.reset names) := by
  have kept : ∀ name, name ∉ newerFields → name ∉ names := fun name older member => older (newer member)
  unfold readMembers at reads ⊢
  obtain ⟨id, readId, reads⟩ := Option.bind_eq_some_iff.mp reads
  obtain ⟨fingerprint, readFingerprint, reads⟩ := Option.bind_eq_some_iff.mp reads
  obtain ⟨global, readGlobal, reads⟩ := Option.bind_eq_some_iff.mp reads
  obtain ⟨ownerUid, readOwner, reads⟩ := Option.bind_eq_some_iff.mp reads
  obtain ⟨mode, readMode, reads⟩ := Option.bind_eq_some_iff.mp reads
  obtain ⟨name, readName, reads⟩ := Option.bind_eq_some_iff.mp reads
  obtain ⟨config, readConfig, reads⟩ := Option.bind_eq_some_iff.mp reads
  obtain ⟨rawConf, readRaw, reads⟩ := Option.bind_eq_some_iff.mp reads
  obtain ⟨interface, readInterface, reads⟩ := Option.bind_eq_some_iff.mp reads
  obtain ⟨createdAt, readCreated, reads⟩ := Option.bind_eq_some_iff.mp reads
  obtain ⟨updatedAt, readUpdated, reads⟩ := Option.bind_eq_some_iff.mp reads
  obtain ⟨userDisconnected, readUser, reads⟩ := Option.bind_eq_some_iff.mp reads
  obtain ⟨sourcePath, readSource, reads⟩ := Option.bind_eq_some_iff.mp reads
  obtain ⟨mtuOverride, readMtu, reads⟩ := Option.bind_eq_some_iff.mp reads
  obtain ⟨dnsDynamicStore, readDns, reads⟩ := Option.bind_eq_some_iff.mp reads
  obtain ⟨bypassLinks, readLinks, same⟩ := Option.bind_eq_some_iff.mp reads
  cases same
  rw [required_kept (kept "id" (by decide)) readId, required_kept (kept "fingerprint" (by decide)) readFingerprint,
    required_kept (kept "global" (by decide)) readGlobal, defaulted_kept (kept "owner_uid" (by decide)) readOwner,
    required_kept (kept "start_mode" (by decide)) readMode, defaulted_kept (kept "name" (by decide)) readName,
    required_kept (kept "config" (by decide)) readConfig, required_kept (kept "raw_conf" (by decide)) readRaw,
    required_kept (kept "interface" (by decide)) readInterface, required_kept (kept "created_at" (by decide)) readCreated,
    required_kept (kept "updated_at" (by decide)) readUpdated, defaulted_dropping readUser, defaulted_dropping readSource,
    defaulted_dropping readMtu, defaulted_dropping readDns, defaulted_dropping readLinks]
  rfl

theorem fromDisk_fields (converts : fromDisk crates.toCrates disk = .ok stored) :
    stored.id = disk.id ∧ stored.interface = disk.interface := by
  unfold fromDisk at converts
  cases config : configFromDisk crates.toCrates disk.config with
  | error error =>
    rw [config] at converts
    cases converts
  | ok value =>
    rw [config] at converts
    cases converts
    exact ⟨rfl, rfl⟩

theorem fromDisk_reset (reads : fromDisk crates.toCrates disk = .ok stored) :
    fromDisk crates.toCrates (disk.reset names) = .ok (resetRecord names stored) := by
  unfold fromDisk at reads ⊢
  have same : (disk.reset names).config = disk.config := rfl
  rw [same]
  cases config : configFromDisk crates.toCrates disk.config with
  | error error =>
    rw [config] at reads
    cases reads
  | ok value =>
    rw [config] at reads
    cases reads
    rfl

theorem fromDiskChecked_ok_iff : fromDiskChecked crates.toCrates id disk = .ok stored ↔
    disk.id = id ∧ disk.interface = disk.id.interfaceName ∧ fromDisk crates.toCrates disk = .ok stored := by
  unfold fromDiskChecked
  split
  next other => simp [other]
  next same =>
    rw [not_not] at same
    split
    next other => simp [other]
    next named => simp [same, not_not.mp named]

theorem load_ok_iff {json : Json} : load crates id json = .ok stored ↔
    ∃ members disk, json = .object members ∧ readMembers crates members = some disk ∧
      fromDiskChecked crates.toCrates id disk = .ok stored := by
  cases json with
  | object members =>
    cases reads : readMembers crates members with
    | none => simp [load, reads]
    | some disk => simp [load, reads]
  | _ => simp [load]

/-- Whatever loads still loads without the newer fields, with these at their defaults. -/
theorem load_without (newer : names ⊆ newerFields) (loads : load crates id (.object members) = .ok stored) :
    load crates id (.object (without names members)) = .ok (resetRecord names stored) := by
  obtain ⟨members', disk, same, reads, checked⟩ := load_ok_iff.mp loads
  cases same
  obtain ⟨named, derived, converts⟩ := fromDiskChecked_ok_iff.mp checked
  rw [load_ok_iff]
  refine ⟨_, _, rfl, readMembers_without newer reads, ?_⟩
  rw [fromDiskChecked_ok_iff]
  exact ⟨named, derived, fromDisk_reset converts⟩

theorem load_save (reads : ReadsBack crates) (derived : stored.interface = stored.id.interfaceName)
    (proper : ProperEndpoints stored.config) : load crates stored.id (save crates stored) = .ok stored := by
  rw [load_ok_iff]
  exact ⟨_, _, rfl, readMembers_writeMembers reads _, fromDiskChecked_toDisk reads derived proper⟩

/-- A record loads exactly when its text fields convert and what they convert to passes the checks of a
record of this id. -/
theorem fromDiskChecked_eq : fromDiskChecked crates.toCrates id disk = .ok stored ↔
    fromDisk crates.toCrates disk = .ok stored ∧ (RecordFile.record stored).read id = .ok stored := by
  rw [fromDiskChecked_ok_iff, RecordFile.read_ok_iff]
  constructor
  · intro checked
    obtain ⟨named, derived, converts⟩ := checked
    obtain ⟨sameId, sameInterface⟩ := fromDisk_fields converts
    exact ⟨converts, rfl, sameId.trans named, by rw [sameInterface, derived, named]⟩
  · intro loaded
    obtain ⟨converts, -, named, derived⟩ := loaded
    obtain ⟨sameId, sameInterface⟩ := fromDisk_fields converts
    exact ⟨sameId ▸ named, by rw [← sameInterface, derived, ← named, sameId], converts⟩

/-- Stored records round-trip: what is written of a record loads as it, another id or interface is
rejected, and without any of the newer fields a record loads as before with these at their defaults. -/
theorem stored_records_round_trip (reads : ReadsBack crates) :
    (∀ stored : StoredConnection, stored.interface = stored.id.interfaceName → ProperEndpoints stored.config →
      fromDiskChecked crates.toCrates stored.id (toDisk crates.toCrates stored) = .ok stored ∧
      load crates stored.id (save crates stored) = .ok stored) ∧
    (∀ (id : ConnectionId) (disk : StoredConnectionDisk), disk.id ≠ id ∨ disk.interface ≠ id.interfaceName →
      ∃ what ∈ ["id", "interface"], ∃ value, fromDiskChecked crates.toCrates id disk = .error (corrupt what value)) ∧
    ∀ (id : ConnectionId) (members : List (String × Json)) (stored : StoredConnection) (names : List String),
      names ⊆ newerFields → load crates id (.object members) = .ok stored →
        load crates id (.object (without names members)) = .ok (resetRecord names stored) := by
  refine ⟨?_, ?_, ?_⟩
  · intro stored derived proper
    exact ⟨fromDiskChecked_toDisk reads derived proper, load_save reads derived proper⟩
  · intro id disk mismatch
    unfold fromDiskChecked
    by_cases named : disk.id = id
    · have other : disk.interface ≠ disk.id.interfaceName := by
        rw [named]
        exact mismatch.resolve_left (not_not.mpr named)
      rw [if_neg (not_not.mpr named), if_pos other]
      exact ⟨"interface", by simp, _, rfl⟩
    · rw [if_pos named]
      exact ⟨"id", by simp, _, rfl⟩
  · intro id members stored names newer loads
    exact load_without newer loads

/-! ### The libraries at work -/

/-- The digits of a number, most significant first. -/
def hexDigits (count number : Nat) : List Nat := (List.range count).map fun i => number >>> (4 * (count - 1 - i)) % 16

theorem ofHexDigits {count number : Nat} (fits : number < 16 ^ count) :
    (hexDigits count number).foldl (fun value digit => value * 16 + digit) 0 = number := by
  induction count generalizing number with
  | zero =>
    have zero : number = 0 := by simpa using fits
    simp [hexDigits, zero]
  | succ count ih =>
    have upper : (List.range count).map (fun i => number >>> (4 * (count + 1 - 1 - i)) % 16) = hexDigits count (number / 16) := by
      apply List.map_congr_left
      intro i inside
      rw [List.mem_range] at inside
      have shift : 4 * (count + 1 - 1 - i) = 4 + 4 * (count - 1 - i) := by omega
      rw [shift, Nat.shiftRight_add, Nat.shiftRight_eq_div_pow number 4]
    have small : number / 16 < 16 ^ count := by
      rw [Nat.pow_succ] at fits
      exact Nat.div_lt_of_lt_mul (by omega)
    rw [hexDigits, List.range_succ, List.map_append, upper, List.foldl_append, ih small]
    simp only [List.map_cons, List.map_nil, List.foldl_cons, List.foldl_nil, Nat.add_sub_cancel, Nat.sub_self, Nat.mul_zero,
      Nat.shiftRight_zero]
    omega

/-- `uuid` reads the digits, wherever the hyphens are. -/
def readUuid (text : List Char) : Option ConnectionId :=
  let digits := text.filter (· ≠ '-')
  if digits.length = 32 then
    (digits.mapM (toDigit 16)).map fun digits => ⟨BitVec.ofNat 128 (digits.foldl (fun value digit => value * 16 + digit) 0)⟩
  else none

theorem readUuid_idText (id : ConnectionId) : readUuid (idText id).toList = some id := by
  have simple : id.simple = (hexDigits 32 id.uuid.toNat).map Nat.digitChar := by
    simp [ConnectionId.simple, hexDigits]
  have small : ∀ digit ∈ hexDigits 32 id.uuid.toNat, digit < 16 := by
    intro digit member
    obtain ⟨i, -, rfl⟩ := List.mem_map.mp member
    exact Nat.mod_lt _ (by omega)
  have unhyphened : ∀ c ∈ id.simple, c ≠ '-' := by
    rw [simple]
    intro c member
    obtain ⟨digit, among, rfl⟩ := List.mem_map.mp member
    have plain : ∀ digit < 16, Nat.digitChar digit ≠ '-' := by decide
    exact plain digit (small digit among)
  have kept : ∀ part : List Char, (∀ c ∈ part, c ∈ id.simple) → part.filter (· ≠ '-') = part := by
    intro part sub
    rw [List.filter_eq_self]
    intro c member
    simpa using unhyphened c (sub c member)
  have stripped : (idText id).toList.filter (· ≠ '-') = id.simple := by
    have whole : id.simple.take 8 ++ ((id.simple.drop 8).take 4 ++ ((id.simple.drop 12).take 4 ++
        ((id.simple.drop 16).take 4 ++ id.simple.drop 20))) = id.simple := by
      have join : ∀ start, (id.simple.drop start).take 4 ++ id.simple.drop (start + 4) = id.simple.drop start := by
        intro start
        rw [← List.drop_drop, List.take_append_drop]
      rw [join 16, join 12, join 8, List.take_append_drop]
    have hyphen : ['-'].filter (· ≠ '-') = ([] : List Char) := rfl
    have among : ∀ start count, ∀ c ∈ (id.simple.drop start).take count, c ∈ id.simple := fun start count c member =>
      List.mem_of_mem_drop (List.mem_of_mem_take member)
    simp only [idText, String.toList_ofList, List.intercalate_cons_cons, List.intercalate_singleton, List.filter_append, hyphen,
      kept _ (among _ _), kept _ fun c member => List.mem_of_mem_take member,
      kept _ fun c member => List.mem_of_mem_drop member]
    exact whole
  have digits : ((hexDigits 32 id.uuid.toNat).map Nat.digitChar).mapM (toDigit 16) = some (hexDigits 32 id.uuid.toNat) := by
    generalize hexDigits 32 id.uuid.toNat = list at small
    induction list with
    | nil => rfl
    | cons digit rest ih =>
      rw [List.forall_mem_cons] at small
      rw [List.map_cons, List.mapM_cons, toDigit_digitChar (Nat.le_refl 16) small.1, ih small.2]
      rfl
  have length : id.simple.length = 32 := by simp [simple, hexDigits]
  have number : (hexDigits 32 id.uuid.toNat).foldl (fun value digit => value * 16 + digit) 0 = id.uuid.toNat :=
    ofHexDigits id.uuid.isLt
  simp only [readUuid, stripped]
  rw [if_pos length, simple, digits, Option.map_some, number, BitVec.ofNat_toNat, BitVec.setWidth_eq]

/-- The libraries as far as a record file needs them. -/
def standardCrates : FileCrates where
  decodeBase64 text := match Base64.decode text with
    | some bytes => .ok bytes
    | none => .error "Invalid padding"
  encodeBase64 bytes := String.ofList (Base64.encode bytes)
  parseIpNet text := (parseCidr (String.ofList text)).bind fun subnet => IpNet.new subnet.1 subnet.2
  sha256 _ := []
  parseUuid := readUuid
  jsonError _ := "invalid type"

theorem standardCrates_readsBack : ReadsBack standardCrates := by
  constructor
  · intro bytes
    simp [standardCrates, Base64.decode_encode]
  · intro net
    simp [standardCrates, parseCidr_toText, IpNet.new, net.valid]
  · exact readUuid_idText

/-- A record with all it can have. -/
def fullRecord : StoredConnection :=
  let key : Key := Vector.replicate 32 7
  let remote : SocketAddr := ⟨.v6 0xfe800000000000000000000000000001, 51820, 4⟩
  let id : ConnectionId := ⟨0x5c0ffee5c0ffee5c0ffee5c0ffee5c0f⟩
  { id := id
    fingerprint := "f"
    global := false
    ownerUid := some 501
    startMode := .automatic
    name := some "home"
    config := ⟨key, [⟨.v4 0x0a050002, 32, by decide⟩], [.v4 0x0a050001], some 1380, [], ["echo up"], [], [],
      [⟨key, some key, [⟨.v4 0x0a050000, 16, by decide⟩], some remote, some "[fe80::1%4]:51820", some 25⟩]⟩
    rawConf := "[Interface]"
    interface := id.interfaceName
    createdAt := 1
    updatedAt := 2
    userDisconnected := true
    sourcePath := none
    mtuOverride := some 1380
    dnsDynamicStore := true
    bypassLinks := [.new ⟨.v4 0x0a050000, 16, by decide⟩ [⟨.v4 0x0a060000, 16, by decide⟩]] }

theorem full_record_round_trip : load standardCrates fullRecord.id (save standardCrates fullRecord) = .ok fullRecord := by
  have proper : ProperEndpoints fullRecord.config := by
    intro peer member addr among
    rw [List.mem_singleton.mp member] at among
    cases among
    exact ⟨by decide, by decide⟩
  exact ((stored_records_round_trip standardCrates_readsBack).1 fullRecord rfl proper).2

end Wgd.Store.Disk
