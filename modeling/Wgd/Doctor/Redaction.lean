import Mathlib.Data.Bool.AllAny
import Mathlib.Data.List.DropRight
import Wgd.Net.Address

/-! How `wgd doctor` masks a report so that it can be shared (`doctor.rs`). -/

set_option autoImplicit false

namespace Wgd.Doctor

open Wgd.Net

/-! ### Secrets -/

def labels : List (List Char) := ["privatekey".toList, "private key".toList, "private_key".toList, "presharedkey".toList,
  "preshared key".toList, "preshared_key".toList]

/-- Between a label and its value. -/
def isSeparator (c : Char) : Bool := c ∈ [' ', '\t', '=', ':', '\x22', '\'']

/-- What ends a value. -/
def endsValue (c : Char) : Bool := isWhitespace c || c ∈ ['\x22', '\'', ',']

def flags : List (List Char) := ["true".toList, "false".toList, "yes".toList, "no".toList, "none".toList, "<redacted>".toList]

/-- The length of the label the text begins with, in any letter case. -/
def labelLength (text : List Char) : Option Nat :=
  (labels.find? fun label => label.isPrefixOf (toAsciiLowercase text)).map List.length

/-- The first label: the text before it, the label and the text after it. -/
def nextLabel : List Char → Option (List Char × List Char × List Char)
  | [] => none
  | c :: rest =>
    match labelLength (c :: rest) with
    | some length => some ([], (c :: rest).take length, (c :: rest).drop length)
    | none => (nextLabel rest).map fun (before, label, after) => (c :: before, label, after)

/-- What is shown of a value after its separators. -/
def redactValue (separators value : List Char) : List Char :=
  if separators ≠ [] ∧ value ≠ [] ∧ value ∉ flags then "<redacted>".toList else value

/-- Label by label; each value takes away at least its label. -/
def redactSecrets : (fuel : Nat) → List Char → List Char
  | 0, line => line
  | fuel + 1, line =>
    match nextLabel line with
    | none => line
    | some (before, label, rest) =>
      let separators := rest.takeWhile isSeparator
      let value := (rest.dropWhile isSeparator).takeWhile fun c => !endsValue c
      let after := (rest.dropWhile isSeparator).dropWhile fun c => !endsValue c
      before ++ label ++ separators ++ redactValue separators value ++ redactSecrets fuel after

def redactSecretValues (line : List Char) : List Char := redactSecrets line.length line

/-! ### Addresses -/

def isPublicV4 (bits : BitVec 32) : Bool :=
  let a := bits.toNat / 0x1000000
  let b := bits.toNat / 0x10000 % 256
  let c := bits.toNat / 0x100 % 256
  let isPrivate := a == 10 || (a == 172 && 16 ≤ b && b ≤ 31) || (a == 192 && b == 168)
  let isLoopback := a == 127
  let isLinkLocal := a == 169 && b == 254
  let isMulticast := 224 ≤ a && a ≤ 239
  !(isPrivate || isLoopback || isLinkLocal || bits.toNat == 0 || bits.toNat == 0xffffffff || isMulticast ||
    (a == 100 && 64 ≤ b && b ≤ 127) || (a == 192 && b == 0 && c == 0) || 240 ≤ a)

def wellKnown : List (List Char) :=
  ["1.1.1.1".toList, "1.0.0.1".toList, "8.8.8.8".toList, "8.8.4.4".toList, "9.9.9.9".toList]

/-- `str::parse::<Ipv4Addr>`. -/
def parseIpv4 (text : List Char) : Option (BitVec 32) :=
  match readIpv4Addr text with
  | some (bits, []) => some bits
  | _ => none

/-- `str::parse::<Ipv6Addr>`. -/
def parseIpv6 (text : List Char) : Option (BitVec 128) :=
  match readIpv6Addr text with
  | some (bits, []) => some bits
  | _ => none

/-- The first and the last octet of a public address. -/
def maskOctets (bits : BitVec 32) : List Char :=
  Nat.toDigits 10 (bits.toNat / 0x1000000) ++ ".*.*.".toList ++ Nat.toDigits 10 (bits.toNat % 256)

def maskIpv4Addr (addr : List Char) : Option (List Char) :=
  (parseIpv4 addr).map fun bits =>
    -- Well-known resolvers tell nothing about the user.
    if !isPublicV4 bits || wellKnown.contains addr then addr else maskOctets bits

/-- The first and the last group, with the colons between them. -/
def maskGroups (addr : List Char) : List Char :=
  let firstEnd := (addr.takeWhile (· ≠ ':')).length
  let lastStart := max (match rsplitOnce ':' addr with
    | some (head, _) => head.length + 1
    | none => 0) firstEnd
  let middle := (addr.drop firstEnd).take (lastStart - firstEnd)
  addr.take firstEnd ++ (middle.map fun c => if c = ':' then ':' else '*') ++ addr.drop lastStart

def maskIpAddr (addr : List Char) : Option (List Char) :=
  match maskIpv4Addr addr with
  | some masked => some masked
  | none => do
    let bits ← parseIpv6 addr
    let first := bits.toNat >>> 112
    let isMulticast := first >>> 8 == 0xff
    if bits.toNat == 1 || bits.toNat == 0 || isMulticast || first &&& 0xffc0 == 0xfe80 || first &&& 0xfe00 == 0xfc00 then
      some addr
    else
      match rsplitOnce ':' addr with
      | some (head, tail) =>
        if '.' ∈ tail then do
          -- There is no colon in the tail, so it can only be an IPv4 address.
          let tail ← maskIpv4Addr tail
          some (head ++ ':' :: tail)
        else some (maskGroups addr)
      | none => some (maskGroups addr)

def allDigits (text : List Char) : Bool := text.all fun c => c.isDigit

/-- The prefix length with its slash, if it is one. -/
def splitCidr (core : List Char) : Option (List Char × List Char) :=
  match splitOnce '/' core with
  | some (addr, length) => if length ≠ [] ∧ allDigits length then some (addr, '/' :: length) else none
  | none => some (core, [])

def splitZone (addr : List Char) : List Char × List Char :=
  match splitOnce '%' addr with
  | some (addr, zone) => (addr, '%' :: zone)
  | none => (addr, [])

/-- The port of an IPv4 address. -/
def splitPort (addr : List Char) : List Char × List Char :=
  match rsplitOnce ':' addr with
  | some (host, port) => if '.' ∈ host ∧ ':' ∉ host ∧ allDigits port then (host, ':' :: port) else (addr, [])
  | none => (addr, [])

/-- An address with brackets, port, zone and prefix length, if it has them. -/
def maskIpToken (core : List Char) : Option (List Char) :=
  match core with
  | '[' :: rest => do
    let (inner, after) ← splitOnce ']' rest
    let masked ← maskIpAddr inner
    some ('[' :: masked ++ ']' :: after)
  | _ => do
    let (addr, cidr) ← splitCidr core
    let (addr, zone) := splitZone addr
    let (addr, port) := splitPort addr
    let masked ← maskIpAddr addr
    some (masked ++ port ++ zone ++ cidr)

/-! ### Host names -/

/-- A closed list keeps dotted identifiers, file names and launchd labels readable. -/
def tlds : List String := [
  "com", "net", "org", "io", "de", "me", "dev", "cloud", "info", "eu", "uk", "us", "fr", "nl",
  "ch", "at", "ru", "cn", "jp", "xyz", "vpn", "biz", "co", "ai", "se", "no", "fi", "it", "es",
  "pl", "cz", "ca", "au", "tv", "cc", "ws", "online", "site", "tech", "link", "network",
  "systems", "local", "lan", "home", "internal", "edu", "gov", "be", "dk", "pt", "gr", "hu",
  "ro", "ua", "kr", "br", "mx", "nz", "za", "sg", "hk", "tk", "top", "club", "pro", "host", "pw",
  "one", "ninja", "fun", "store", "space", "live", "email", "world"]

def isHostChar (c : Char) : Bool := c.isAlphanum || c == '.' || c == '-'

def splitHostPort (core : List Char) : List Char × List Char :=
  match rsplitOnce ':' core with
  | some (host, port) => if port ≠ [] ∧ allDigits port then (host, ':' :: port) else (core, [])
  | none => (core, [])

def isHostName (host : List Char) (allowAnyTld : Bool) : Bool :=
  let parts := splitAll '.' host
  let tld := toAsciiLowercase (parts.getLastD [])
  -- The program's own launchd labels are no host names.
  host.all isHostChar && !"me.pansen.wgd".toList.isPrefixOf host && 2 ≤ parts.length &&
    !(parts.any fun part => part.isEmpty || part.head? == some '-' || part.getLast? == some '-') &&
    if allowAnyTld then 2 ≤ tld.length && tld.all Char.isAlpha else tlds.contains (String.ofList tld)

/-- A host name that ends in a known domain, or in any in the context of an endpoint, with its port. -/
def maskDomainToken (core : List Char) (allowAnyTld : Bool) : Option (List Char) :=
  let (host, port) := splitHostPort core
  if isHostName host allowAnyTld then
    some (host.take 1 ++ List.replicate (host.length - 2) '*' ++ host.drop (host.length - 1) ++ port)
  else none

/-! ### Tokens -/

def isTokenChar (c : Char) : Bool := c.isAlphanum || c ∈ ['.', ':', '-', '_', '/', '%', '+', '=', '[', ']']

def isKeyChar (c : Char) : Bool := c.isAlphanum || c == '+' || c == '/'

/-- A 44-character base64 text that ends in an equals sign. -/
def isWgKey (text : List Char) : Bool := text.length == 44 && text.getLast? == some '=' && (text.take 43).all isKeyChar

def maskKey (key : List Char) : List Char :=
  key.take 4 ++ List.replicate (key.length - 8) '*' ++ key.drop (key.length - 4)

def maskCore (core : List Char) (endpointContext : Bool) : Option (List Char) :=
  (maskIpToken core).orElse fun _ => maskDomainToken core endpointContext

/-- A token that is no `key=value`. -/
def redactPlainToken (token : List Char) (endpointContext : Bool) : List Char :=
  if isWgKey token then maskKey token
  else
    let core := token.rdropWhile (· = '.')
    let trail := token.drop core.length
    match maskCore core endpointContext with
    | some masked => masked ++ trail
    | none =>
      -- Brackets around list elements.
      let opened := core.dropWhile (· = '[')
      let inner := opened.rdropWhile (· = ']')
      if inner.length ≠ core.length ∧ inner ≠ [] then
        match maskCore inner endpointContext with
        | some masked =>
          core.take (core.length - opened.length) ++ masked ++ opened.drop inner.length ++ trail
        | none => token
      else token

/-- The key is kept, the value is a token of its own. -/
def redactTokenWithContext : (fuel : Nat) → (token : List Char) → (endpointContext : Bool) → List Char
  | 0, token, _ => token
  | fuel + 1, token, endpointContext =>
    match splitOnce '=' token with
    | some (key, value) =>
      if value ≠ [] ∧ ¬isWgKey token then
        key ++ '=' :: redactTokenWithContext fuel value (endpointContext || eqIgnoreAsciiCase key "endpoint".toList)
      else redactPlainToken token endpointContext
    | none => redactPlainToken token endpointContext

def redactToken (token : List Char) (endpointContext : Bool) : List Char :=
  redactTokenWithContext token.length token endpointContext

def isEndpointLabel (token : List Char) : Bool :=
  toAsciiLowercase token = "endpoint:".toList || toAsciiLowercase token = "endpoint=".toList

/-! ### Lines -/

/-- Token by token; the rest is copied. -/
def redactTokens (lineHasPeerEndpoint : Bool) : (token : List Char) → (nextIsEndpoint : Bool) → List Char → List Char
  | token, nextIsEndpoint, [] =>
    if token.isEmpty then [] else redactToken token (nextIsEndpoint || lineHasPeerEndpoint)
  | token, nextIsEndpoint, c :: rest =>
    if isTokenChar c then redactTokens lineHasPeerEndpoint (token ++ [c]) nextIsEndpoint rest
    else if token.isEmpty then c :: redactTokens lineHasPeerEndpoint [] nextIsEndpoint rest
    else
      redactToken token (nextIsEndpoint || lineHasPeerEndpoint) ++
        c :: redactTokens lineHasPeerEndpoint [] (isEndpointLabel token) rest

/-- `str::contains`. -/
def containsText (needle text : List Char) : Bool := text.tails.any fun tail => needle.isPrefixOf tail

def redactLine (line : List Char) : List Char :=
  let line := redactSecretValues line
  redactTokens (containsText "  peer endpoint".toList line) [] false line

def joinLines (lines : List (List Char)) : List Char := List.intercalate ['\n'] lines

def redactReport (text : List Char) : List Char := joinLines ((splitAll '\n' text).map redactLine)

example : redactReport "PresharedKey=AAAA, x".toList = "PresharedKey=<redacted>, x".toList := by decide +kernel

example : redactReport "  endpoint: gw.corp.ovh:51820".toList = "  endpoint: g*********h:51820".toList := by decide +kernel

example : redactReport "allowed_ips=[203.0.113.42/32, 10.0.0.1/32]".toList =
    "allowed_ips=[203.*.*.42/32, 10.0.0.1/32]".toList := by decide +kernel

end Wgd.Doctor
