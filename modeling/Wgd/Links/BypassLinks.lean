import Wgd.Net.IpNet

/-! LAN bypass links (`bypass_links.rs`): while the Mac is attached to a link's
anchor network, the link's prefixes stay off the tunnel. -/

set_option autoImplicit false

namespace Wgd.Links

open Wgd.Net

def maxLinks : Nat := 32
def maxPrefixesPerLink : Nat := 64

inductive BypassTargets where
  | prefixes (networks : List IpNet)
  deriving DecidableEq, Repr

namespace BypassTargets

def toPrefixes : BypassTargets → List IpNet
  | .prefixes networks => networks

/-- Whether the route for `destination` (canonical) is taken off the tunnel. -/
def «matches» : BypassTargets → IpNet → Bool
  | .prefixes networks, destination => networks.any fun network => network.contains destination

end BypassTargets

structure BypassLink where
  anchor : IpNet
  bypass : BypassTargets
  deriving DecidableEq, Repr

def BypassLink.new (anchor : IpNet) (bypass : List IpNet) : BypassLink := ⟨anchor, .prefixes bypass⟩

/-- Why a link is rejected. -/
inductive LinkError where
  | empty (anchor : IpNet)
  | tooManyLinks
  | tooManyPrefixes (anchor : IpNet)
  | anchorNotInAllowedIps (anchor : IpNet)
  | sameAsAnchor (anchor bypassed : IpNet)
  | notInAllowedIps (anchor bypassed : IpNet)
  | insideBroaderEntry (anchor bypassed covering : IpNet)
  | fullTunnel (anchor bypassed default : IpNet) (family : String)
  deriving DecidableEq, Repr

namespace LinkError

def about : LinkError → Option IpNet
  | .tooManyLinks => none
  | .empty anchor | .tooManyPrefixes anchor | .anchorNotInAllowedIps anchor | .sameAsAnchor anchor _
  | .notInAllowedIps anchor _ | .insideBroaderEntry anchor _ _ | .fullTunnel anchor _ _ _ => some anchor

/-- What is wrong, without the lead-in. -/
def reason : LinkError → String
  | .tooManyLinks => s!"too many links (at most {maxLinks})"
  | .empty _ => "no bypass prefix"
  | .tooManyPrefixes _ => s!"too many bypass prefixes (at most {maxPrefixesPerLink})"
  | .anchorNotInAllowedIps anchor =>
    s!"the anchor {anchor.toText} is not an AllowedIPs entry; it must be a network the VPN config routes, the LAN the LAN exclusion already takes off the tunnel"
  | .sameAsAnchor _ bypassed =>
    s!"bypass prefix {bypassed.toText} is the anchor itself, which is already kept off the tunnel while the Mac is attached to it"
  | .notInAllowedIps _ bypassed =>
    s!"{bypassed.toText} is not an AllowedIPs entry, so there is no tunnel route to remove"
  | .insideBroaderEntry _ bypassed covering =>
    s!"{bypassed.toText} lies inside the broader AllowedIPs entry {covering.toText}; taking its own route away does not help, the covering route still captures it"
  | .fullTunnel _ bypassed default family =>
    s!"AllowedIPs contains {default.toText}, so every {family} address goes through the tunnel and {bypassed.toText} cannot be taken off it"

def toText (error : LinkError) : String :=
  match error.about with
  | some anchor => s!"link {anchor.toText}: {error.reason}"
  | none => error.reason

end LinkError

/-- Keep the first of repeated prefixes. -/
def pushNew (networks : List IpNet) (network : IpNet) : List IpNet :=
  if networks.contains network then networks else networks ++ [network]

/-- Clear host bits and drop repeated prefixes. -/
def canonicalLink (link : BypassLink) : BypassLink :=
  .new link.anchor.trunc (link.bypass.toPrefixes.foldl (fun bypass network => pushNew bypass network.trunc) [])

def checkAnchor (anchor : IpNet) (allowed : List IpNet) : Except LinkError Unit :=
  if allowed.contains anchor then .ok () else .error (.anchorNotInAllowedIps anchor)

def checkPrefix (anchor bypassed : IpNet) (allowed : List IpNet) : Except LinkError Unit :=
  if bypassed = anchor then .error (.sameAsAnchor anchor bypassed)
  else
    let sameFamily := allowed.filter fun entry => entry.addr.isIpv6 == bypassed.addr.isIpv6
    match sameFamily.find? fun entry => entry.prefixLen == 0 with
    | some default =>
      .error (.fullTunnel anchor bypassed default (if bypassed.addr.isIpv6 then "IPv6" else "IPv4"))
    | none =>
      -- A strictly shorter entry keeps capturing the prefix once its own route is gone.
      match sameFamily.find? fun entry => entry.prefixLen < bypassed.prefixLen && entry.contains bypassed with
      | some covering => .error (.insideBroaderEntry anchor bypassed covering)
      | none =>
        if allowed.contains bypassed then .ok () else .error (.notInAllowedIps anchor bypassed)

def checkLink (link : BypassLink) (allowed : List IpNet) : Except LinkError Unit := do
  let bypassed := link.bypass.toPrefixes
  if bypassed.isEmpty then throw (.empty link.anchor)
  if maxPrefixesPerLink < bypassed.length then throw (.tooManyPrefixes link.anchor)
  checkAnchor link.anchor allowed
  bypassed.forM fun network => checkPrefix link.anchor network allowed

/-- Every canonical link with its verdict, in the order given. -/
def checkLinks (links : List BypassLink) (allowedIps : List IpNet) : List (BypassLink × Except LinkError Unit) :=
  let allowed := allowedIps.map IpNet.trunc
  links.mapIdx fun index link =>
    let link := canonicalLink link
    (link, if maxLinks ≤ index then .error .tooManyLinks else checkLink link allowed)

/-- Canonical links that validate, and those that do not with the first reason each fails. -/
structure LinkReport where
  valid : List BypassLink
  invalid : List (BypassLink × LinkError)

def validateLinks (links : List BypassLink) (allowedIps : List IpNet) : LinkReport :=
  (checkLinks links allowedIps).foldl (fun report (link, verdict) => match verdict with
    | .ok () => { report with valid := report.valid ++ [link] }
    | .error error => { report with invalid := report.invalid ++ [(link, error)] }) ⟨[], []⟩

/-- All or nothing: the canonical links, or the first error. -/
def validateLinksStrict (links : List BypassLink) (allowedIps : List IpNet) : Except LinkError (List BypassLink) :=
  let report := validateLinks links allowedIps
  match report.invalid with
  | (_, error) :: _ => .error error
  | [] => .ok report.valid

/-- The prefixes of a link join the first link with its anchor; a new anchor goes at the end. -/
def joinLink (merged : List BypassLink) (link : BypassLink) : List BypassLink :=
  match merged with
  | [] => [link]
  | known :: rest =>
    if known.anchor = link.anchor then
      .new known.anchor (link.bypass.toPrefixes.foldl pushNew known.bypass.toPrefixes) :: rest
    else known :: joinLink rest link

/-- `stored` with `added` folded in, for `connection config --add-link`. -/
def mergeLinks (stored added : List BypassLink) : List BypassLink :=
  (added.map canonicalLink).foldl joinLink (stored.map canonicalLink)

/-- A dropped prefix of a link, or the whole link when there is no prefix. -/
structure Removed where
  anchor : IpNet
  dropped : Option IpNet
  reason : LinkError

def Removed.toText (removed : Removed) : String :=
  match removed.dropped with
  | some bypassed => s!"link {removed.anchor.toText}: dropped prefix {bypassed.toText}: {removed.reason.reason}"
  | none => s!"link {removed.anchor.toText}: dropped: {removed.reason.reason}"

structure Pruned where
  links : List BypassLink
  removed : List Removed

def prunePrefix (anchor : IpNet) (allowed : List IpNet) (state : List IpNet × List Removed) (network : IpNet) :
    List IpNet × List Removed :=
  match checkPrefix anchor network allowed with
  | .ok () => (state.1 ++ [network], state.2)
  | .error reason => (state.1, state.2 ++ [⟨anchor, some network, reason⟩])

def pruneLink (allowed : List IpNet) (pruned : Pruned) (link : BypassLink) : Pruned :=
  match checkAnchor link.anchor allowed with
  | .error reason => { pruned with removed := pruned.removed ++ [⟨link.anchor, none, reason⟩] }
  | .ok () =>
    let (kept, removed) := link.bypass.toPrefixes.foldl (prunePrefix link.anchor allowed) ([], pruned.removed)
    if kept.isEmpty then { pruned with removed := removed ++ [⟨link.anchor, none, .empty link.anchor⟩] }
    else ⟨pruned.links ++ [.new link.anchor kept], removed⟩

/-- Drop the prefixes that no longer validate, and a link with its anchor or its last prefix. -/
def pruneLinks (links : List BypassLink) (allowedIps : List IpNet) : Pruned :=
  (links.map canonicalLink).foldl (pruneLink (allowedIps.map IpNet.trunc)) ⟨[], []⟩

end Wgd.Links
