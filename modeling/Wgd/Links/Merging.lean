import Wgd.Links.Validation

/-! Folding links into others loses none of them. -/

set_option autoImplicit false

namespace Wgd.Links

open Wgd.Net

/-- The network is bypassed under this anchor, both without host bits. -/
def Linked (links : List BypassLink) (anchor network : IpNet) : Prop :=
  ∃ link ∈ links, link.anchor.trunc = anchor ∧ ∃ bypassed ∈ link.bypass.toPrefixes, bypassed.trunc = network

variable {links stored added : List BypassLink} {link : BypassLink} {anchor network : IpNet}

@[simp] theorem linked_nil : ¬Linked [] anchor network := by
  simp [Linked]

theorem linked_cons : Linked (link :: links) anchor network ↔ Linked [link] anchor network ∨ Linked links anchor network := by
  simp [Linked]

theorem linked_append : Linked (stored ++ added) anchor network ↔ Linked stored anchor network ∨ Linked added anchor network := by
  induction stored with
  | nil => simp
  | cons link rest ih => rw [List.cons_append, linked_cons, ih, @linked_cons rest link, or_assoc]

/-! ### Prefixes -/

theorem mem_pushNew {networks : List IpNet} {pushed : IpNet} :
    network ∈ pushNew networks pushed ↔ network ∈ networks ∨ network = pushed := by
  unfold pushNew
  split
  · next there =>
    constructor
    · intro member
      exact .inl member
    · intro either
      cases either with
      | inl member => exact member
      | inr same => exact same ▸ List.contains_iff_mem.mp there
  · simp

theorem mem_foldl_pushNew {networks more : List IpNet} :
    network ∈ more.foldl pushNew networks ↔ network ∈ networks ∨ network ∈ more := by
  induction more generalizing networks with
  | nil => simp
  | cons pushed rest ih => simp [ih, mem_pushNew, or_assoc]

theorem canonicalLink_prefixes (link : BypassLink) :
    (canonicalLink link).bypass.toPrefixes = (link.bypass.toPrefixes.map IpNet.trunc).foldl pushNew [] := by
  rw [List.foldl_map]
  rfl

theorem linked_canonicalLink : Linked [canonicalLink link] anchor network ↔ Linked [link] anchor network := by
  have anchored : (canonicalLink link).anchor = link.anchor.trunc := rfl
  simp only [Linked, List.mem_singleton, exists_eq_left, canonicalLink_prefixes, mem_foldl_pushNew, anchored,
    IpNet.trunc_idem, List.not_mem_nil, false_or, List.mem_map]
  constructor
  · intro linked
    obtain ⟨same, _, ⟨bypassed, member, rfl⟩, rfl⟩ := linked
    exact ⟨same, bypassed, member, bypassed.trunc_idem.symm⟩
  · intro linked
    obtain ⟨same, bypassed, member, rfl⟩ := linked
    exact ⟨same, bypassed.trunc, ⟨bypassed, member, rfl⟩, bypassed.trunc_idem⟩

/-- Clean-up changes no network. -/
theorem linked_canonical : Linked (links.map canonicalLink) anchor network ↔ Linked links anchor network := by
  induction links with
  | nil => simp
  | cons link rest ih => rw [List.map_cons, linked_cons, ih, linked_canonicalLink, ← linked_cons]

/-! ### Merging -/

theorem linked_joinLink : Linked (joinLink links link) anchor network ↔ Linked links anchor network ∨ Linked [link] anchor network := by
  induction links with
  | nil => simp [joinLink]
  | cons known rest ih =>
    unfold joinLink
    split
    · next same =>
      have joined : Linked [.new known.anchor (link.bypass.toPrefixes.foldl pushNew known.bypass.toPrefixes)] anchor network ↔
          Linked [known] anchor network ∨ Linked [link] anchor network := by
        simp only [Linked, List.mem_singleton, exists_eq_left, BypassLink.new, BypassTargets.toPrefixes, mem_foldl_pushNew,
          ← same, or_and_right, exists_or, and_or_left]
      rw [linked_cons, joined, @linked_cons rest known]
      tauto
    · rw [linked_cons, ih, @linked_cons rest known, or_assoc]

theorem linked_foldl_joinLink : Linked (added.foldl joinLink stored) anchor network ↔
    Linked stored anchor network ∨ Linked added anchor network := by
  induction added generalizing stored with
  | nil => simp
  | cons link rest ih => rw [List.foldl_cons, ih, linked_joinLink, @linked_cons rest link, or_assoc]

/-- What is merged is what was stored and what is added. -/
theorem linked_mergeLinks : Linked (mergeLinks stored added) anchor network ↔
    Linked stored anchor network ∨ Linked added anchor network := by
  rw [mergeLinks, linked_foldl_joinLink, linked_canonical, linked_canonical]

end Wgd.Links
