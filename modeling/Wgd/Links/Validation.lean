import Wgd.Links.BypassLinks

/-! Validation of links, over and over: what validated once, and what pruning leaves,
validates again. -/

set_option autoImplicit false

namespace Wgd.Links

open Wgd.Net

/-! ### Canonical links -/

/-- No host bits, and no prefix twice. -/
structure Canonical (link : BypassLink) : Prop where
  anchor : link.anchor.trunc = link.anchor
  prefixes : ∀ network ∈ link.bypass.toPrefixes, network.trunc = network
  once : link.bypass.toPrefixes.Nodup

/-- A list of prefixes that have no host bits and do not repeat. -/
def Tidy (networks : List IpNet) : Prop := (∀ network ∈ networks, network.trunc = network) ∧ networks.Nodup

theorem Tidy.pushNew {networks : List IpNet} (tidy : Tidy networks) (network : IpNet) :
    Tidy (pushNew networks network.trunc) := by
  unfold Wgd.Links.pushNew
  split
  · exact tidy
  · rename_i new
    constructor
    · intro other member
      rcases List.mem_append.mp member with member | member
      · exact tidy.1 other member
      · rw [List.mem_singleton.mp member]
        exact network.trunc_idem
    · simp only [List.contains_iff_mem] at new
      have apart : ∀ other ∈ networks, ¬ other = network.trunc := by
        intro other member same
        exact new (same ▸ member)
      simpa [List.nodup_append, tidy.2] using apart

theorem Tidy.foldl {networks : List IpNet} (tidy : Tidy networks) (more : List IpNet) :
    Tidy (more.foldl (fun bypass network => Wgd.Links.pushNew bypass network.trunc) networks) := by
  induction more generalizing networks with
  | nil => exact tidy
  | cons network rest ih => exact ih (tidy.pushNew network)

/-- Tidy prefixes are pushed one after the other as they are. -/
theorem Tidy.foldl_eq {networks more : List IpNet} (tidy : Tidy (networks ++ more)) :
    more.foldl (fun bypass network => Wgd.Links.pushNew bypass network.trunc) networks = networks ++ more := by
  induction more generalizing networks with
  | nil => simp
  | cons network rest ih =>
    have plain : network.trunc = network := tidy.1 network (by simp)
    have new : network ∉ networks := by
      intro member
      have once := (List.nodup_append.mp tidy.2).2.2
      exact once network member network List.mem_cons_self rfl
    have pushed : Wgd.Links.pushNew networks network = networks ++ [network] := by simp [Wgd.Links.pushNew, new]
    rw [List.foldl_cons, plain, pushed]
    have rest' := @ih (networks ++ [network]) (by simpa using tidy)
    simpa using rest'

theorem canonicalLink_canonical (link : BypassLink) : Canonical (canonicalLink link) := by
  have tidy : Tidy [] := ⟨by simp, List.nodup_nil⟩
  have folded := tidy.foldl link.bypass.toPrefixes
  exact ⟨link.anchor.trunc_idem, folded.1, folded.2⟩

theorem Canonical.fixed {link : BypassLink} (canonical : Canonical link) : canonicalLink link = link := by
  obtain ⟨anchor, networks⟩ := link
  cases networks with
  | prefixes networks =>
    have tidy : Tidy ([] ++ networks) := ⟨canonical.prefixes, canonical.once⟩
    have folded := tidy.foldl_eq
    rw [List.nil_append] at folded
    simp only [canonicalLink, BypassLink.new, BypassTargets.toPrefixes, folded, canonical.anchor]

/-! ### Verdicts -/

theorem checkPrefixes_ok_iff {anchor : IpNet} {networks allowed : List IpNet} :
    (networks.forM fun network => checkPrefix anchor network allowed) = .ok () ↔
      ∀ network ∈ networks, checkPrefix anchor network allowed = .ok () := by
  induction networks with
  | nil => simp [pure, Except.pure]
  | cons network rest ih =>
    cases verdict : checkPrefix anchor network allowed with
    | error error => simp [verdict, bind, Except.bind]
    | ok value =>
      rw [List.forall_mem_cons, ← ih]
      simp [verdict, bind, Except.bind]

theorem checkLink_ok_iff {link : BypassLink} {allowed : List IpNet} :
    checkLink link allowed = .ok () ↔ link.bypass.toPrefixes ≠ [] ∧ link.bypass.toPrefixes.length ≤ maxPrefixesPerLink ∧
      checkAnchor link.anchor allowed = .ok () ∧
      ∀ network ∈ link.bypass.toPrefixes, checkPrefix link.anchor network allowed = .ok () := by
  rw [← checkPrefixes_ok_iff]
  unfold checkLink
  by_cases empty : link.bypass.toPrefixes = []
  · simp [empty, bind, Except.bind, throw, throwThe, MonadExceptOf.throw]
  by_cases long : maxPrefixesPerLink < link.bypass.toPrefixes.length
  · simp [empty, long, bind, Except.bind, throw, throwThe, MonadExceptOf.throw]
  cases anchor : checkAnchor link.anchor allowed with
  | error error => simp [empty, long, bind, Except.bind]
  | ok value => simp [empty, long, bind, Except.bind, Nat.le_of_not_lt long]

/-- One verdict more. -/
def tally (report : LinkReport) : BypassLink × Except LinkError Unit → LinkReport
  | (link, .ok ()) => { report with valid := report.valid ++ [link] }
  | (link, .error error) => { report with invalid := report.invalid ++ [(link, error)] }

theorem validateLinks_tally (links : List BypassLink) (allowedIps : List IpNet) :
    validateLinks links allowedIps = (checkLinks links allowedIps).foldl tally ⟨[], []⟩ := by
  unfold validateLinks
  congr 1
  funext report verdict
  obtain ⟨link, verdict⟩ := verdict
  cases verdict <;> rfl

theorem tally_invalid_iff {verdicts : List (BypassLink × Except LinkError Unit)} {report : LinkReport} :
    (verdicts.foldl tally report).invalid = [] ↔ report.invalid = [] ∧ ∀ verdict ∈ verdicts, verdict.2 = .ok () := by
  induction verdicts generalizing report with
  | nil => simp
  | cons verdict rest ih =>
    obtain ⟨link, verdict⟩ := verdict
    rw [List.foldl_cons, ih]
    cases verdict <;> simp [tally]

theorem tally_valid {verdicts : List (BypassLink × Except LinkError Unit)} {report : LinkReport}
    (fine : ∀ verdict ∈ verdicts, verdict.2 = .ok ()) :
    (verdicts.foldl tally report).valid = report.valid ++ verdicts.map Prod.fst := by
  induction verdicts generalizing report with
  | nil => simp
  | cons verdict rest ih =>
    obtain ⟨link, verdict⟩ := verdict
    have first : verdict = .ok () := fine _ List.mem_cons_self
    rw [List.foldl_cons, ih fun other member => fine other (List.mem_cons_of_mem _ member), first]
    simp [tally]

/-- Every link validates. -/
def Validates (links : List BypassLink) (allowedIps : List IpNet) : Prop := (validateLinks links allowedIps).invalid = []

theorem validates_iff {links : List BypassLink} {allowedIps : List IpNet} :
    Validates links allowedIps ↔ links.length ≤ maxLinks ∧
      ∀ link ∈ links, checkLink (canonicalLink link) (allowedIps.map IpNet.trunc) = .ok () := by
  unfold Validates
  rw [validateLinks_tally, tally_invalid_iff]
  have verdicts : (∀ verdict ∈ checkLinks links allowedIps, verdict.2 = .ok ()) ↔
      ∀ index, ∀ inside : index < links.length, index < maxLinks ∧
        checkLink (canonicalLink links[index]) (allowedIps.map IpNet.trunc) = .ok () := by
    constructor
    · intro fine index inside
      have verdict := fine _ (List.mem_mapIdx.mpr ⟨index, inside, rfl⟩)
      dsimp only at verdict
      split at verdict
      · cases verdict
      · exact ⟨by omega, verdict⟩
    · intro fine verdict member
      obtain ⟨index, inside, rfl⟩ := List.mem_mapIdx.mp member
      obtain ⟨early, checked⟩ := fine index inside
      dsimp only
      rw [if_neg (by omega), checked]
  rw [verdicts]
  constructor
  · intro holds
    constructor
    · by_contra long
      have late := (holds.2 maxLinks (by omega)).1
      omega
    · intro link member
      obtain ⟨index, inside, rfl⟩ := List.mem_iff_getElem.mp member
      exact (holds.2 index inside).2
  · intro holds
    refine ⟨rfl, fun index inside => ⟨?_, holds.2 _ (List.getElem_mem inside)⟩⟩
    have few := holds.1
    omega

theorem checkLinks_links (links : List BypassLink) (allowedIps : List IpNet) :
    (checkLinks links allowedIps).map Prod.fst = links.map canonicalLink := by
  apply List.ext_getElem
  · simp [checkLinks]
  · intro index inside inside'
    simp [checkLinks]

/-- What validated is the links that were asked for, made canonical. -/
theorem strict_canonical {requested links : List BypassLink} {allowedIps : List IpNet}
    (valid : validateLinksStrict requested allowedIps = .ok links) :
    Validates requested allowedIps ∧ links = requested.map canonicalLink := by
  unfold validateLinksStrict at valid
  dsimp only at valid
  split at valid
  · cases valid
  · rename_i none
    have passed : Validates requested allowedIps := none
    rw [validateLinks_tally, tally_invalid_iff] at none
    rw [validateLinks_tally, tally_valid none.2, Except.ok.injEq, List.nil_append, checkLinks_links] at valid
    exact ⟨passed, valid.symm⟩

/-- What validated once is canonical, and validates again. -/
theorem validates_of_strict {requested links : List BypassLink} {allowedIps : List IpNet}
    (valid : validateLinksStrict requested allowedIps = .ok links) : Validates links allowedIps := by
  obtain ⟨passed, rfl⟩ := strict_canonical valid
  obtain ⟨few, checked⟩ := validates_iff.mp passed
  rw [validates_iff]
  constructor
  · simpa using few
  · intro link member
    obtain ⟨old, among, rfl⟩ := List.mem_map.mp member
    rw [(canonicalLink_canonical old).fixed]
    exact checked old among

/-! ### Pruning -/

theorem prunePrefix_kept (anchor : IpNet) (allowed networks : List IpNet) (state : List IpNet × List Removed) :
    (networks.foldl (prunePrefix anchor allowed) state).1 =
      state.1 ++ networks.filter fun network => (checkPrefix anchor network allowed).isOk := by
  induction networks generalizing state with
  | nil => simp
  | cons network rest ih =>
    rw [List.foldl_cons, ih]
    cases verdict : checkPrefix anchor network allowed <;>
      simp [prunePrefix, verdict, Except.isOk, Except.toBool]

/-- A link that needs no more clean-up, and validates. -/
def Supported (allowed : List IpNet) (link : BypassLink) : Prop := Canonical link ∧ checkLink link allowed = .ok ()

/-- A prefix that passes is an entry, and nothing else in its family would capture it. -/
theorem checkPrefix_ok {anchor bypassed : IpNet} {allowed : List IpNet} (ok : checkPrefix anchor bypassed allowed = .ok ()) :
    bypassed ∈ allowed ∧ ∀ entry ∈ allowed, entry.addr.isIpv6 = bypassed.addr.isIpv6 → entry.prefixLen ≠ 0 ∧
      (entry.contains bypassed = true → bypassed.prefixLen ≤ entry.prefixLen) := by
  unfold checkPrefix at ok
  dsimp only at ok
  split at ok
  · cases ok
  split at ok
  · cases ok
  next noDefault =>
    split at ok
    · cases ok
    next noBroader =>
      split at ok
      next listed =>
        constructor
        · exact List.contains_iff_mem.mp listed
        · intro entry member family
          have same : entry ∈ allowed.filter fun entry => entry.addr.isIpv6 == bypassed.addr.isIpv6 := by
            simp [member, family]
          have bounded := List.find?_eq_none.mp noDefault entry same
          have narrow := List.find?_eq_none.mp noBroader entry same
          constructor
          · simpa using bounded
          · intro contains
            simpa [contains] using narrow
      · cases ok

/-- Pruning one link keeps at most what is supported of it. -/
theorem pruneLink_supported {allowed : List IpNet} {pruned : Pruned} {link : BypassLink} (canonical : Canonical link)
    (few : link.bypass.toPrefixes.length ≤ maxPrefixesPerLink) :
    (pruneLink allowed pruned link).links = pruned.links ∨
      ∃ kept, Supported allowed kept ∧ (pruneLink allowed pruned link).links = pruned.links ++ [kept] := by
  unfold pruneLink
  split
  · exact .inl rfl
  · rename_i anchored
    have kept := prunePrefix_kept link.anchor allowed link.bypass.toPrefixes ([], pruned.removed)
    generalize link.bypass.toPrefixes.foldl (prunePrefix link.anchor allowed) ([], pruned.removed) = folded at kept
    obtain ⟨networks, removed⟩ := folded
    rw [List.nil_append] at kept
    dsimp only at kept ⊢
    split
    · exact .inl rfl
    · rename_i some
      right
      refine ⟨_, ⟨?_, ?_⟩, rfl⟩
      · constructor
        · exact canonical.anchor
        · intro network member
          exact canonical.prefixes network (List.mem_of_mem_filter (kept ▸ member : network ∈ List.filter _ _))
        · show networks.Nodup
          rw [kept]
          exact canonical.once.filter _
      · rw [checkLink_ok_iff]
        refine ⟨by simpa [BypassLink.new, BypassTargets.toPrefixes] using some, ?_, anchored, ?_⟩
        · show networks.length ≤ maxPrefixesPerLink
          rw [kept]
          exact (List.length_filter_le _ _).trans few
        · intro network member
          have passed : network ∈ List.filter _ _ := (kept ▸ member)
          have ok := (List.mem_filter.mp passed).2
          cases verdict : checkPrefix link.anchor network allowed with
          | ok value => exact verdict
          | error error => simp [verdict, Except.isOk, Except.toBool] at ok

theorem pruneLinks_supported {allowed : List IpNet} {links : List BypassLink} {pruned : Pruned}
    (given : ∀ link ∈ links, Canonical link ∧ link.bypass.toPrefixes.length ≤ maxPrefixesPerLink)
    (supported : ∀ link ∈ pruned.links, Supported allowed link) :
    (∀ link ∈ (links.foldl (pruneLink allowed) pruned).links, Supported allowed link) ∧
      (links.foldl (pruneLink allowed) pruned).links.length ≤ pruned.links.length + links.length := by
  induction links generalizing pruned with
  | nil => exact ⟨supported, Nat.le_refl _⟩
  | cons link rest ih =>
    obtain ⟨canonical, few⟩ := given link List.mem_cons_self
    have later := fun other member => given other (List.mem_cons_of_mem _ member)
    rw [List.foldl_cons]
    rcases @pruneLink_supported allowed pruned link canonical few with same | ⟨kept, fine, same⟩
    · obtain ⟨holds, length⟩ := @ih (pruneLink allowed pruned link) later (by rw [same]; exact supported)
      refine ⟨holds, length.trans ?_⟩
      rw [same, List.length_cons]
      omega
    · have supported' : ∀ other ∈ (pruneLink allowed pruned link).links, Supported allowed other := by
        intro other member
        rw [same, List.mem_append, List.mem_singleton] at member
        rcases member with member | rfl
        · exact supported other member
        · exact fine
      obtain ⟨holds, length⟩ := ih later supported'
      refine ⟨holds, length.trans ?_⟩
      rw [same, List.length_append, List.length_cons, List.length_cons, List.length_nil]
      omega

/-- What pruning leaves of valid links validates against the new entries. -/
theorem validates_of_prune {links : List BypassLink} {old : List IpNet} (new : List IpNet) (valid : Validates links old) :
    Validates (pruneLinks links new).links new := by
  obtain ⟨few, checked⟩ := validates_iff.mp valid
  have given : ∀ link ∈ links.map canonicalLink,
      Canonical link ∧ link.bypass.toPrefixes.length ≤ maxPrefixesPerLink := by
    intro link member
    obtain ⟨given, among, rfl⟩ := List.mem_map.mp member
    exact ⟨canonicalLink_canonical given, (checkLink_ok_iff.mp (checked given among)).2.1⟩
  obtain ⟨supported, length⟩ := @pruneLinks_supported (new.map IpNet.trunc) _ ⟨[], []⟩ given (by simp)
  rw [validates_iff]
  constructor
  · rw [List.length_map, List.length_nil, Nat.zero_add] at length
    exact length.trans few
  · intro link member
    obtain ⟨canonical, passes⟩ := supported link member
    rw [canonical.fixed]
    exact passes

theorem validates_nil (allowedIps : List IpNet) : Validates [] allowedIps := rfl

end Wgd.Links
