import Wgd.Links.Validation

/-! What pruning keeps and what it reports, link by link. -/

set_option autoImplicit false

namespace Wgd.Links

open Wgd.Net

/-- The number of links and of the prefixes of each is within the limits. -/
structure Sized (links : List BypassLink) : Prop where
  few : links.length ≤ maxLinks
  each : ∀ link ∈ links, (canonicalLink link).bypass.toPrefixes.length ≤ maxPrefixesPerLink

/-- The prefixes of a link that validate under its anchor, if the anchor does. -/
def survivors (allowed : List IpNet) (link : BypassLink) : List IpNet :=
  if (checkAnchor link.anchor allowed).isOk then
    link.bypass.toPrefixes.filter fun network => (checkPrefix link.anchor network allowed).isOk
  else []

/-- What is left of a link, if anything is. -/
def keptLink (allowed : List IpNet) (link : BypassLink) : Option BypassLink :=
  if survivors allowed link = [] then none else some (.new link.anchor (survivors allowed link))

/-- The report about a prefix that does not validate. -/
def dropPrefix (anchor : IpNet) (allowed : List IpNet) (network : IpNet) : Option Removed :=
  match checkPrefix anchor network allowed with
  | .ok () => none
  | .error reason => some ⟨anchor, some network, reason⟩

/-- The report about a link: one entry if it goes because of its anchor, else one for each
prefix that goes, and one for the link if none is left. -/
def drops (allowed : List IpNet) (link : BypassLink) : List Removed :=
  match checkAnchor link.anchor allowed with
  | .error reason => [⟨link.anchor, none, reason⟩]
  | .ok () =>
    link.bypass.toPrefixes.filterMap (dropPrefix link.anchor allowed) ++
      if survivors allowed link = [] then [⟨link.anchor, none, .empty link.anchor⟩] else []

/-- A report that names each dropped thing of a link once, and nothing else. -/
structure Reports (allowed : List IpNet) (link : BypassLink) (report : List Removed) : Prop where
  anchors : ∀ removed ∈ report, removed.anchor = link.anchor
  once : (report.map Removed.dropped).Nodup
  whole : none ∈ report.map Removed.dropped ↔ keptLink allowed link = none
  each : ∀ network, some network ∈ report.map Removed.dropped ↔
    checkAnchor link.anchor allowed = .ok () ∧ network ∈ link.bypass.toPrefixes ∧
      checkPrefix link.anchor network allowed ≠ .ok ()

variable {allowed : List IpNet} {link : BypassLink} {links : List BypassLink} {allowedIps : List IpNet}

/-! ### One link -/

theorem prunePrefix_drops (anchor : IpNet) (allowed networks : List IpNet) (state : List IpNet × List Removed) :
    (networks.foldl (prunePrefix anchor allowed) state).2 = state.2 ++ networks.filterMap (dropPrefix anchor allowed) := by
  induction networks generalizing state with
  | nil => simp
  | cons network rest ih =>
    rw [List.foldl_cons, ih, List.filterMap_cons]
    cases verdict : checkPrefix anchor network allowed with
    | ok value => simp [prunePrefix, dropPrefix, verdict]
    | error error => simp [prunePrefix, dropPrefix, verdict]

theorem pruneLink_eq (pruned : Pruned) :
    pruneLink allowed pruned link =
      ⟨pruned.links ++ (keptLink allowed link).toList, pruned.removed ++ drops allowed link⟩ := by
  unfold pruneLink drops keptLink
  cases anchored : checkAnchor link.anchor allowed with
  | error reason =>
    have gone : survivors allowed link = [] := by simp [survivors, anchored, Except.isOk, Except.toBool]
    simp [gone]
  | ok value =>
    have kept := prunePrefix_kept link.anchor allowed link.bypass.toPrefixes ([], pruned.removed)
    have dropped := prunePrefix_drops link.anchor allowed link.bypass.toPrefixes ([], pruned.removed)
    have survive : survivors allowed link =
        link.bypass.toPrefixes.filter fun network => (checkPrefix link.anchor network allowed).isOk := by
      simp [survivors, anchored, Except.isOk, Except.toBool]
    rw [List.nil_append, ← survive] at kept
    generalize link.bypass.toPrefixes.foldl (prunePrefix link.anchor allowed) ([], pruned.removed) = folded at kept dropped
    obtain ⟨networks, removed⟩ := folded
    dsimp only at kept dropped ⊢
    rw [kept, dropped]
    by_cases none : survivors allowed link = []
    · simp [none]
    · simp [none]

/-- Pruning goes link by link. -/
theorem pruneLinks_eq (links : List BypassLink) (allowedIps : List IpNet) :
    pruneLinks links allowedIps =
      ⟨(links.map canonicalLink).filterMap (keptLink (allowedIps.map IpNet.trunc)),
        (links.map canonicalLink).flatMap (drops (allowedIps.map IpNet.trunc))⟩ := by
  have folded : ∀ (links : List BypassLink) (pruned : Pruned), links.foldl (pruneLink (allowedIps.map IpNet.trunc)) pruned =
      ⟨pruned.links ++ links.filterMap (keptLink (allowedIps.map IpNet.trunc)),
        pruned.removed ++ links.flatMap (drops (allowedIps.map IpNet.trunc))⟩ := by
    intro links
    induction links with
    | nil => simp
    | cons link rest ih =>
      intro pruned
      rw [List.foldl_cons, ih, pruneLink_eq, List.flatMap_cons, List.filterMap_cons]
      cases keptLink (allowedIps.map IpNet.trunc) link <;> simp
  rw [pruneLinks, folded]
  simp

theorem survivors_subset {network : IpNet} (survives : network ∈ survivors allowed link) :
    checkAnchor link.anchor allowed = .ok () ∧ network ∈ link.bypass.toPrefixes ∧
      checkPrefix link.anchor network allowed = .ok () := by
  unfold survivors at survives
  cases anchored : checkAnchor link.anchor allowed with
  | error reason => simp [anchored, Except.isOk, Except.toBool] at survives
  | ok value =>
    simp only [anchored, Except.isOk, Except.toBool, if_true, List.mem_filter] at survives
    refine ⟨rfl, survives.1, ?_⟩
    cases verdict : checkPrefix link.anchor network allowed with
    | ok value => rfl
    | error reason => simp [verdict] at survives

/-- The prefixes that are reported one by one. -/
theorem dropPrefix_keys (anchor : IpNet) (networks : List IpNet) :
    (networks.filterMap (dropPrefix anchor allowed)).map Removed.dropped =
      (networks.filter fun network => !(checkPrefix anchor network allowed).isOk).map some := by
  induction networks with
  | nil => rfl
  | cons network rest ih =>
    rw [List.filterMap_cons, List.filter_cons]
    cases verdict : checkPrefix anchor network allowed with
    | ok value => simp [dropPrefix, verdict, Except.isOk, Except.toBool, ih]
    | error reason => simp [dropPrefix, verdict, Except.isOk, Except.toBool, ih]

theorem isOk_iff {outcome : Except LinkError Unit} : outcome.isOk = true ↔ outcome = .ok () := by
  cases outcome <;> simp [Except.isOk, Except.toBool]

theorem drops_report (canonical : Canonical link) : Reports allowed link (drops allowed link) := by
  unfold drops
  cases anchored : checkAnchor link.anchor allowed with
  | error reason =>
    have gone : survivors allowed link = [] := by simp [survivors, anchored, Except.isOk, Except.toBool]
    constructor
    · simp
    · simp
    · simp [keptLink, gone]
    · simp [anchored]
  | ok value =>
    have keys := @dropPrefix_keys allowed link.anchor link.bypass.toPrefixes
    have reported : ∀ network, some network ∈ (link.bypass.toPrefixes.filter fun network =>
        !(checkPrefix link.anchor network allowed).isOk).map some ↔
          network ∈ link.bypass.toPrefixes ∧ checkPrefix link.anchor network allowed ≠ .ok () := by
      intro network
      rw [List.mem_map_of_injective (Option.some_injective _), List.mem_filter, Ne, ← isOk_iff, Bool.not_eq_true']
      simp
    have distinct := (canonical.once.filter fun network => !(checkPrefix link.anchor network allowed).isOk).map
      (Option.some_injective _)
    constructor
    · intro removed member
      rw [List.mem_append] at member
      cases member with
      | inl one =>
        obtain ⟨network, -, same⟩ := List.mem_filterMap.mp one
        unfold dropPrefix at same
        split at same
        · cases same
        · cases same
          rfl
      | inr last =>
        split at last
        · rw [List.mem_singleton.mp last]
        · cases last
    · rw [List.map_append, keys]
      split
      · rw [List.nodup_append]
        refine ⟨distinct, by simp, ?_⟩
        intro key member last whole
        rw [List.map_singleton, List.mem_singleton] at whole
        obtain ⟨network, -, rfl⟩ := List.mem_map.mp member
        rw [whole]
        exact Option.some_ne_none network
      · simpa using distinct
    · rw [List.map_append, keys]
      unfold keptLink
      split
      next none => simp
      next some => simp
    · intro network
      rw [List.map_append, keys, List.mem_append, reported]
      split <;> simp [anchored]

/-! ### A link that is supported -/

theorem keptLink_supported (canonical : Canonical link) (few : link.bypass.toPrefixes.length ≤ maxPrefixesPerLink)
    {kept : BypassLink} (left : keptLink allowed link = some kept) : Supported allowed kept := by
  unfold keptLink at left
  split at left
  · cases left
  next some =>
    cases left
    have sub : (survivors allowed link).Sublist link.bypass.toPrefixes := by
      unfold survivors
      split
      · exact List.filter_sublist
      · exact List.nil_sublist _
    obtain ⟨network, survives⟩ := List.exists_mem_of_ne_nil _ some
    constructor
    · exact ⟨canonical.anchor, fun network member => canonical.prefixes network (sub.subset member), canonical.once.sublist sub⟩
    · rw [checkLink_ok_iff]
      exact ⟨some, sub.length_le.trans few, (survivors_subset survives).1, fun network member => (survivors_subset member).2.2⟩

/-- A supported link is kept as it is, and nothing is reported. -/
theorem supported_kept (supported : Supported allowed link) : keptLink allowed link = some link ∧ drops allowed link = [] := by
  obtain ⟨canonical, passes⟩ := supported
  obtain ⟨some, few, anchored, fine⟩ := checkLink_ok_iff.mp passes
  have all : survivors allowed link = link.bypass.toPrefixes := by
    unfold survivors
    rw [anchored]
    apply List.filter_eq_self.mpr
    intro network member
    exact isOk_iff.mpr (fine network member)
  constructor
  · unfold keptLink
    rw [all, if_neg some]
    rfl
  · unfold drops
    rw [anchored, all]
    dsimp only
    rw [if_neg some, List.append_nil, List.filterMap_eq_nil_iff]
    intro network member
    unfold dropPrefix
    rw [fine network member]

/-! ### All links -/

theorem supported_all {links : List BypassLink} (supported : ∀ link ∈ links, Supported allowed link) :
    links.filterMap (keptLink allowed) = links ∧ links.flatMap (drops allowed) = [] := by
  induction links with
  | nil => exact ⟨rfl, rfl⟩
  | cons link rest ih =>
    rw [List.forall_mem_cons] at supported
    obtain ⟨kept, none⟩ := supported_kept supported.1
    obtain ⟨keptRest, noneRest⟩ := ih supported.2
    exact ⟨by rw [List.filterMap_cons, kept, keptRest], by rw [List.flatMap_cons, none, noneRest, List.append_nil]⟩

theorem pruneLinks_of_supported (supported : ∀ link ∈ links.map canonicalLink, Supported (allowedIps.map IpNet.trunc) link) :
    pruneLinks links allowedIps = ⟨links.map canonicalLink, []⟩ := by
  obtain ⟨kept, none⟩ := supported_all supported
  rw [pruneLinks_eq, kept, none]

theorem pruned_supported (sized : Sized links) :
    ∀ link ∈ (pruneLinks links allowedIps).links, Supported (allowedIps.map IpNet.trunc) link := by
  intro kept member
  rw [pruneLinks_eq] at member
  obtain ⟨canonical, among, left⟩ := List.mem_filterMap.mp member
  obtain ⟨link, given, rfl⟩ := List.mem_map.mp among
  exact keptLink_supported (canonicalLink_canonical link) (sized.each link given) left

theorem map_canonical_of_supported {links : List BypassLink} (supported : ∀ link ∈ links, Supported allowed link) :
    links.map canonicalLink = links := by
  rw [List.map_congr_left fun link member => (supported link member).1.fixed]
  exact List.map_id' links

/-- Pruning is exact: what it keeps validates and is all that does, in order; pruning again, or pruning
what validates, changes nothing; and each dropped link or prefix is reported once. -/
theorem pruning_exact (sized : Sized links) :
    Validates (pruneLinks links allowedIps).links allowedIps ∧
    (pruneLinks links allowedIps).links = (links.map canonicalLink).filterMap (keptLink (allowedIps.map IpNet.trunc)) ∧
    pruneLinks (pruneLinks links allowedIps).links allowedIps = ⟨(pruneLinks links allowedIps).links, []⟩ ∧
    (Validates links allowedIps → pruneLinks links allowedIps = ⟨links.map canonicalLink, []⟩) ∧
    ∃ reports, (pruneLinks links allowedIps).removed = reports.flatten ∧
      List.Forall₂ (Reports (allowedIps.map IpNet.trunc)) (links.map canonicalLink) reports := by
  have supported := @pruned_supported links allowedIps sized
  have fixed := map_canonical_of_supported supported
  have few : (pruneLinks links allowedIps).links.length ≤ links.length := by
    rw [pruneLinks_eq]
    exact (List.length_filterMap_le _ _).trans_eq (List.length_map _)
  refine ⟨?_, by rw [pruneLinks_eq], ?_, ?_, ?_⟩
  · rw [validates_iff]
    refine ⟨few.trans sized.few, fun link member => ?_⟩
    rw [(supported link member).1.fixed]
    exact (supported link member).2
  · have again := @pruneLinks_of_supported (pruneLinks links allowedIps).links allowedIps (by rwa [fixed])
    rwa [fixed] at again
  · intro valid
    apply pruneLinks_of_supported
    intro canonical member
    obtain ⟨link, given, rfl⟩ := List.mem_map.mp member
    exact ⟨canonicalLink_canonical link, (validates_iff.mp valid).2 link given⟩
  · refine ⟨(links.map canonicalLink).map (drops (allowedIps.map IpNet.trunc)), ?_, ?_⟩
    · rw [pruneLinks_eq, List.flatMap_def]
    · rw [List.forall₂_map_right_iff]
      apply List.forall₂_same.mpr
      intro canonical member
      obtain ⟨link, -, rfl⟩ := List.mem_map.mp member
      exact drops_report (canonicalLink_canonical link)

/-- One prefix of the link is an entry, the other is not. -/
def partlySupported : List BypassLink :=
  [.new ⟨.v4 0x0a4c0000, 24, by decide⟩ [⟨.v4 0xc0a84c01, 32, by decide⟩, ⟨.v4 0xc0a84d02, 32, by decide⟩]]

def homeAllowed : List IpNet := [⟨.v4 0x0a4c0000, 24, by decide⟩, ⟨.v4 0xc0a84c01, 32, by decide⟩]

theorem pruning_exact_home : Validates (pruneLinks partlySupported homeAllowed).links homeAllowed ∧
    pruneLinks (pruneLinks partlySupported homeAllowed).links homeAllowed =
      ⟨(pruneLinks partlySupported homeAllowed).links, []⟩ :=
  have sized : Sized partlySupported := ⟨by decide, by decide⟩
  ⟨(pruning_exact sized).1, (pruning_exact sized).2.2.1⟩

end Wgd.Links
