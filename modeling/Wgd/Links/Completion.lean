import Wgd.Config.Restyling
import Wgd.Links.Pruning
import Wgd.Net.Splitting

/-! Link specs as they are typed (`bypass_links.rs`), and what is offered to complete them. -/

set_option autoImplicit false

namespace Wgd.Links

open Wgd.Net
open Wgd.Config (Crates debugText trim_plain)

/-- Why a link spec is not read. -/
inductive SpecError where
  | malformed (spec : List Char)
  | cidr (spec value : List Char)
  deriving DecidableEq, Repr

def SpecError.toText : SpecError → String
  | .malformed spec =>
    s!"invalid link {debugText spec}: expected <anchor>=<prefix>[,<prefix>...], for example 10.66.77.0/24=192.168.188.1/32"
  | .cidr spec value =>
    s!"invalid CIDR {debugText value} in link {debugText spec} (a single host is written with /32 or /128)"

/-- A network whose host bits were set and have been cleared. -/
structure HostBitsCleared where
  given : IpNet
  canonical : IpNet
  deriving DecidableEq, Repr

/-- One network of a spec, and the list of those that had host bits. -/
def readSpecNet (crates : Crates) (spec value : List Char) (cleared : List HostBitsCleared) :
    Except SpecError (IpNet × List HostBitsCleared) :=
  match crates.parseIpNet (trim value) with
  | none => .error (.cidr spec (trim value))
  | some given =>
    .ok (given.trunc, if given.trunc = given then cleared else cleared ++ [⟨given, given.trunc⟩])

def addSpecPrefix (crates : Crates) (spec : List Char) (state : List IpNet × List HostBitsCleared) (value : List Char) :
    Except SpecError (List IpNet × List HostBitsCleared) := do
  let (network, cleared) ← readSpecNet crates spec value state.2
  return (pushNew state.1 network, cleared)

/-- The value of `--set-link` or `--add-link`: the canonical link, and every network whose host
bits had to be cleared. -/
def parseLinkSpec (crates : Crates) (spec : List Char) : Except SpecError (BypassLink × List HostBitsCleared) :=
  match splitOnce '=' spec with
  | none => .error (.malformed spec)
  | some (anchor, networks) => do
    let (anchor, cleared) ← readSpecNet crates spec anchor []
    let values := (splitAll ',' networks).filter fun value => !(trim value).isEmpty
    let (bypass, cleared) ← values.foldlM (addSpecPrefix crates spec) ([], cleared)
    if bypass.isEmpty then throw (.malformed spec)
    return (.new anchor bypass, cleared)

/-- The entries a completion can end in; a default route is neither an anchor nor a bypass prefix. -/
def completionEntries (canonical : List IpNet) : List IpNet :=
  canonical.foldl (fun entries entry => if 0 < entry.prefixLen then pushNew entries entry else entries) []

/-- Completion candidates: the anchors before the equals sign, after it the prefixes, each after
what was typed before the last comma. -/
def linkCompletions (crates : Crates) (current : List Char) (allowedIps : List IpNet) : List (List Char) :=
  let canonical := allowedIps.map IpNet.trunc
  let entries := completionEntries canonical
  match splitOnce '=' current with
  | none =>
    (entries.map fun entry => entry.toText.toList ++ ['=']).filter fun candidate => current.isPrefixOf candidate
  | some (anchor, rest) =>
    let done := (rsplitOnce ',' rest).map Prod.fst
    let listed := match done with
      | some done => splitAll ',' done
      | none => []
    let lead := match done with
      | some done => anchor ++ '=' :: done ++ [',']
      | none => anchor ++ ['=']
    match crates.parseIpNet anchor with
    | none => []
    | some net =>
      match checkAnchor net.trunc canonical with
      | .error _ => []
      | .ok () =>
        -- The listed values are compared as they are written.
        let new := entries.filter fun entry =>
          !listed.contains entry.toText.toList && (checkPrefix net.trunc entry canonical).isOk
        (new.map fun entry => lead ++ entry.toText.toList).filter fun candidate => current.isPrefixOf candidate

/-! ### What completion promises -/

/-- `ipnet` reads back what it prints, and a text it reads has no space around it. -/
structure ReadsNetworks (crates : Crates) : Prop where
  display : ∀ net : IpNet, crates.parseIpNet net.toText.toList = some net
  unpadded : ∀ text net, crates.parseIpNet text = some net → trim text = text

/-- One link on its own validates strictly. -/
def Passes (link : BypassLink) (allowedIps : List IpNet) : Prop :=
  ∃ links, validateLinksStrict [link] allowedIps = .ok links

/-- What stands before the last comma, if anything does, is a link spec. -/
def WellBegun (crates : Crates) (current : List Char) : Prop :=
  ∀ done typed, rsplitOnce ',' current = some (done, typed) → ∃ link cleared, parseLinkSpec crates done = .ok (link, cleared)

/-- The networks in the link before the last comma, none without a comma. -/
def listedNets (crates : Crates) (current : List Char) : List IpNet :=
  match rsplitOnce ',' current with
  | none => []
  | some (done, _) =>
    match parseLinkSpec crates done with
    | .ok (link, _) => link.bypass.toPrefixes
    | .error _ => []

/-- The link before the last comma, if there is one, validates. -/
def ListedPasses (crates : Crates) (current : List Char) (allowedIps : List IpNet) : Prop :=
  ∀ done typed link cleared, rsplitOnce ',' current = some (done, typed) →
    parseLinkSpec crates done = .ok (link, cleared) → Passes link allowedIps

/-- The value is what stands after the last comma, or after the equals sign. -/
structure EndsIn (spec value : List Char) : Prop where
  whole : ∃ lead, ∃ mark ∈ ['=', ','], spec = lead ++ mark :: value
  last : '=' ∉ value ∧ ',' ∉ value

/-- A candidate that may be offered. -/
structure SoundCandidate (crates : Crates) (current : List Char) (allowedIps : List IpNet) (candidate : List Char) :
    Prop where
  starts : current <+: candidate
  reads : ∃ link cleared, parseLinkSpec crates candidate = .ok (link, cleared)
  new : ∃ value net, EndsIn candidate value ∧ crates.parseIpNet value = some net ∧ net.trunc ∉ listedNets crates current
  validates : ListedPasses crates current allowedIps →
    ∀ link cleared, parseLinkSpec crates candidate = .ok (link, cleared) → Passes link allowedIps

/-! ### When it keeps the promise -/

/-- The anchor, what is typed before the last comma after it, and what is typed after that. -/
def takeApart (current : List Char) : Option (List Char × Option (List Char) × List Char) :=
  (splitOnce '=' current).map fun (anchor, rest) =>
    match rsplitOnce ',' rest with
    | some (done, typed) => (anchor, some done, typed)
    | none => (anchor, none, rest)

/-- The listed values as they are written. -/
def listedTexts : Option (List Char) → List (List Char)
  | some done => splitAll ',' done
  | none => []

/-- An entry that validates for the anchor and goes on with what is typed of it. -/
structure Offerable (crates : Crates) (allowedIps : List IpNet) (anchor typed : List Char) (entry : IpNet) : Prop where
  typed : typed <+: entry.toText.toList
  validates : ∃ net, crates.parseIpNet anchor = some net ∧ checkAnchor net.trunc (allowedIps.map IpNet.trunc) = .ok () ∧
    checkPrefix net.trunc entry (allowedIps.map IpNet.trunc) = .ok ()

/-- What may still be offered is listed in its own spelling only, and fits into the link. -/
def ListedPlainly (crates : Crates) (current : List Char) (allowedIps : List IpNet) : Prop :=
  ∀ anchor done typed entry, takeApart current = some (anchor, done, typed) → Offerable crates allowedIps anchor typed entry →
    (entry ∈ listedNets crates current → entry.toText.toList ∈ listedTexts done) ∧
    (entry ∉ listedNets crates current → ListedPasses crates current allowedIps →
      (listedNets crates current).length < maxPrefixesPerLink)

variable {crates : Crates} {current spec anchor typed : List Char} {done : Option (List Char)} {allowedIps : List IpNet}

/-! ### Entries as text -/

/-- An entry as it is printed has nothing in it that is special in a spec. -/
theorem plain_toText {net : IpNet} {c : Char} (member : c ∈ net.toText.toList) :
    c ≠ '=' ∧ c ≠ ',' ∧ isWhitespace c = false := by
  have absent : ∀ c, (∀ digit < 16, c ≠ Nat.digitChar digit) → c ≠ '.' → c ≠ ':' → c ≠ '/' → c ∉ net.toText.toList := by
    intro c other dot colon slash
    rw [net.toText_toList, List.mem_append, List.mem_cons]
    simp [not_mem_toText other dot colon, slash, @not_mem_toDigits 10 net.prefixLen c (by omega) (by omega) other]
  refine ⟨?_, ?_, ?_⟩
  · rintro rfl
    exact absent _ (by decide) (by decide) (by decide) (by decide) member
  · rintro rfl
    exact absent _ (by decide) (by decide) (by decide) (by decide) member
  · by_contra space
    rw [Bool.not_eq_false] at space
    refine absent c ?_ ?_ ?_ ?_ member
    · intro digit inside
      rintro rfl
      have none : ∀ digit < 16, isWhitespace (Nat.digitChar digit) = false := by decide
      rw [none digit inside] at space
      cases space
    all_goals
      rintro rfl
      exact absurd space (by decide)

theorem trim_toText (net : IpNet) : trim net.toText.toList = net.toText.toList :=
  trim_plain fun _ member => (plain_toText member).2.2

theorem toText_ne_nil (net : IpNet) : net.toText.toList ≠ [] := by
  rw [net.toText_toList]
  simp

theorem comma_toText (net : IpNet) : ',' ∉ net.toText.toList := fun member => (plain_toText member).2.1 rfl

theorem equals_toText (net : IpNet) : '=' ∉ net.toText.toList := fun member => (plain_toText member).1 rfl

/-! ### Reading a spec -/

/-- The values that are read of a list of prefixes. -/
def specValues (networks : List Char) : List (List Char) :=
  (splitAll ',' networks).filter fun value => !(trim value).isEmpty

theorem specValues_append (before after : List Char) :
    specValues (before ++ ',' :: after) = specValues before ++ specValues after := by
  rw [specValues, splitAll_append, List.filter_append]
  rfl

theorem specValues_toText (net : IpNet) : specValues net.toText.toList = [net.toText.toList] := by
  rw [specValues, splitAll_plain (comma_toText net), List.filter_cons_of_pos]
  · rfl
  · simpa [trim_toText] using toText_ne_nil net

/-- The networks of the values, if each can be read. -/
def readValues (crates : Crates) (values : List (List Char)) : Option (List IpNet) :=
  values.mapM fun value => crates.parseIpNet (trim value)

theorem readValues_append {before after : List (List Char)} {nets more : List IpNet}
    (first : readValues crates before = some nets) (second : readValues crates after = some more) :
    readValues crates (before ++ after) = some (nets ++ more) := by
  unfold readValues at first second ⊢
  rw [List.mapM_append, first, second]
  rfl

/-- Reading goes value by value; the spec matters for the errors only. -/
theorem addSpecPrefixes_iff {values : List (List Char)} {state : List IpNet × List HostBitsCleared} {bypass : List IpNet} :
    (∃ cleared, values.foldlM (addSpecPrefix crates spec) state = .ok (bypass, cleared)) ↔
      ∃ nets, readValues crates values = some nets ∧
        bypass = nets.foldl (fun bypass network => pushNew bypass network.trunc) state.1 := by
  induction values generalizing state with
  | nil =>
    obtain ⟨before, cleared⟩ := state
    simp [readValues, pure, Except.pure, eq_comm]
  | cons value rest ih =>
    unfold readValues at ih ⊢
    rw [List.foldlM_cons, List.mapM_cons]
    cases read : crates.parseIpNet (trim value) with
    | none => simp [addSpecPrefix, readSpecNet, read, bind, Except.bind]
    | some given =>
      have step : addSpecPrefix crates spec state value = .ok (pushNew state.1 given.trunc,
          if given.trunc = given then state.2 else state.2 ++ [⟨given, given.trunc⟩]) := by
        simp [addSpecPrefix, readSpecNet, read, bind, Except.bind, pure, Except.pure]
      rw [step]
      simp only [bind, Except.bind, ih, Option.bind_some]
      simp only [Option.bind_eq_some_iff, pure]
      constructor
      · intro reads
        obtain ⟨nets, reads, rfl⟩ := reads
        exact ⟨given :: nets, ⟨nets, reads, rfl⟩, rfl⟩
      · intro reads
        obtain ⟨nets, ⟨more, reads, same⟩, rfl⟩ := reads
        cases same
        exact ⟨more, reads, rfl⟩

theorem subset_pushNew {networks : List IpNet} {network : IpNet} : networks ⊆ pushNew networks network := by
  unfold pushNew
  split
  · exact List.Subset.refl _
  · exact List.subset_append_left _ _

theorem pushed_subset {networks more : List IpNet} :
    networks ⊆ more.foldl (fun bypass network => pushNew bypass network.trunc) networks := by
  induction more generalizing networks with
  | nil => exact List.Subset.refl _
  | cons network rest ih => exact List.Subset.trans subset_pushNew ih

/-- A link loses no prefix altogether when it is made canonical. -/
theorem canonicalLink_nil_iff {net : IpNet} {nets : List IpNet} :
    (canonicalLink (.new net nets)).bypass.toPrefixes = [] ↔ nets = [] := by
  cases nets with
  | nil => simp [canonicalLink, BypassLink.new, BypassTargets.toPrefixes]
  | cons network rest =>
    have kept := @pushed_subset (pushNew [] network.trunc) rest
    have first : network.trunc ∈ pushNew [] network.trunc := by simp [pushNew]
    have member := kept first
    simp only [canonicalLink, BypassLink.new, BypassTargets.toPrefixes, List.foldl_cons, reduceCtorEq, iff_false]
    exact List.ne_nil_of_mem member

/-- A spec is read as the canonical form of the link that is written. -/
theorem parseLinkSpec_iff {networks : List Char} {link : BypassLink} (bare : '=' ∉ anchor) :
    (∃ cleared, parseLinkSpec crates (anchor ++ '=' :: networks) = .ok (link, cleared)) ↔
      ∃ net nets, crates.parseIpNet (trim anchor) = some net ∧ readValues crates (specValues networks) = some nets ∧
        nets ≠ [] ∧ link = canonicalLink (.new net nets) := by
  simp only [parseLinkSpec, splitOnce_append bare]
  cases read : crates.parseIpNet (trim anchor) with
  | none => simp [readSpecNet, read, bind, Except.bind]
  | some net =>
    have folds := fun (cleared : List HostBitsCleared) bypass =>
      @addSpecPrefixes_iff crates (anchor ++ '=' :: networks) (specValues networks) ([], cleared) bypass
    simp only [readSpecNet, read, bind, Except.bind, pure, Except.pure, throw, throwThe, MonadExceptOf.throw]
    specialize folds (if net.trunc = net then [] else [] ++ [⟨net, net.trunc⟩])
    unfold specValues at folds ⊢
    constructor
    · intro parsed
      obtain ⟨cleared, parsed⟩ := parsed
      split at parsed
      · cases parsed
      next bypass folded =>
        obtain ⟨nets, reads, same⟩ := (folds bypass.1).mp ⟨bypass.2, folded⟩
        have shape : canonicalLink (.new net nets) = .new net.trunc bypass.1 := by rw [same]; rfl
        split at parsed
        · cases parsed
        next some =>
          cases parsed
          refine ⟨net, nets, rfl, reads, ?_, shape.symm⟩
          intro none
          rw [← @canonicalLink_nil_iff net nets, shape] at none
          exact some (List.isEmpty_iff.mpr none)
    · intro reads
      obtain ⟨given, nets, same, reads, some, rfl⟩ := reads
      cases same
      obtain ⟨cleared, folded⟩ := (folds _).mpr ⟨nets, reads, rfl⟩
      rw [folded]
      dsimp only
      rw [if_neg]
      · exact ⟨cleared, rfl⟩
      · intro none
        exact some ((@canonicalLink_nil_iff net nets).mp (List.isEmpty_iff.mp none))

/-! ### Where the text is taken apart -/

/-- What is typed before the value that is being completed. -/
def leadText (anchor : List Char) : Option (List Char) → List Char
  | some done => anchor ++ '=' :: done ++ [',']
  | none => anchor ++ ['=']

theorem takeApart_some (parts : takeApart current = some (anchor, done, typed)) :
    current = leadText anchor done ++ typed ∧ '=' ∉ anchor ∧ ',' ∉ typed := by
  unfold takeApart at parts
  obtain ⟨⟨before, rest⟩, split, same⟩ := Option.map_eq_some_iff.mp parts
  obtain ⟨whole, bare⟩ := splitOnce_some split
  dsimp only at same
  by_cases comma : ',' ∈ rest
  · obtain ⟨head, tail, shape, absent⟩ := exists_last comma
    rw [shape, rsplitOnce_append absent] at same
    cases same
    rw [whole, shape]
    exact ⟨by simp [leadText], bare, absent⟩
  · rw [rsplitOnce_eq_none comma] at same
    cases same
    rw [whole]
    exact ⟨by simp [leadText], bare, comma⟩

theorem takeApart_of_mem (member : '=' ∈ current) : ∃ parts, takeApart current = some parts := by
  cases split : splitOnce '=' current with
  | none => exact absurd member (splitOnce_none split)
  | some parts => exact ⟨_, by rw [takeApart, split]; rfl⟩

/-- The last comma of a spec that is well begun comes after its equals sign. -/
theorem rsplitOnce_wellBegun (parts : takeApart current = some (anchor, done, typed)) (begun : WellBegun crates current) :
    rsplitOnce ',' current = done.map fun done => (anchor ++ '=' :: done, typed) := by
  obtain ⟨whole, bare, absent⟩ := takeApart_some parts
  cases done with
  | some done =>
    rw [whole, leadText, List.append_assoc]
    exact rsplitOnce_append absent
  | none =>
    apply rsplitOnce_eq_none
    intro comma
    rw [whole, leadText, List.append_assoc, List.singleton_append, List.mem_append, List.mem_cons] at comma
    have inside : ',' ∈ anchor := by simpa [absent] using comma
    -- The comma is in the anchor: before it there is no equals sign.
    obtain ⟨before, after, shape, none⟩ := exists_last inside
    have split : rsplitOnce ',' current = some (before, after ++ '=' :: typed) := by
      rw [whole, leadText, shape]
      have none' : ',' ∉ after ++ '=' :: typed := by simp [none, absent]
      simpa using rsplitOnce_append none'
    obtain ⟨link, cleared, reads⟩ := begun _ _ split
    have bare' : '=' ∉ before := fun member => bare (by simp [shape, member])
    simp [parseLinkSpec, splitOnce_eq_none bare'] at reads

theorem listedNets_none (split : rsplitOnce ',' current = none) : listedNets crates current = [] := by
  rw [listedNets, split]

theorem listedNets_some {before : List Char} {link : BypassLink} {cleared : List HostBitsCleared}
    (split : rsplitOnce ',' current = some (before, typed)) (reads : parseLinkSpec crates before = .ok (link, cleared)) :
    listedNets crates current = link.bypass.toPrefixes := by
  rw [listedNets, split]
  dsimp only
  rw [reads]

/-! ### Candidates -/

/-- A candidate is read as the listed link with the entry put to it. -/
theorem candidate_reads (reader : ReadsNetworks crates) (parts : takeApart current = some (anchor, done, typed))
    (begun : WellBegun crates current) {net entry : IpNet} (read : crates.parseIpNet anchor = some net)
    (canonical : entry.trunc = entry) :
    ∃ cleared, parseLinkSpec crates (leadText anchor done ++ entry.toText.toList) =
      .ok (.new net.trunc (pushNew (listedNets crates current) entry), cleared) := by
  have bare := (takeApart_some parts).2.1
  have split := rsplitOnce_wellBegun parts begun
  have unpadded : crates.parseIpNet (trim anchor) = some net := by rwa [reader.unpadded anchor net read]
  have last : readValues crates [entry.toText.toList] = some [entry] := by
    simp [readValues, trim_toText, reader.display]
  cases done with
  | none =>
    rw [listedNets_none split, leadText, List.append_assoc, List.singleton_append, parseLinkSpec_iff bare]
    refine ⟨net, [entry], unpadded, ?_, List.cons_ne_nil _ _, ?_⟩
    · rwa [specValues_toText]
    · simp [canonicalLink, BypassLink.new, BypassTargets.toPrefixes, canonical]
  | some done =>
    obtain ⟨link, cleared, reads⟩ := begun _ _ split
    obtain ⟨net', nets, anchored, values, some, rfl⟩ := (parseLinkSpec_iff bare).mp ⟨cleared, reads⟩
    rw [unpadded] at anchored
    cases anchored
    have shape : leadText anchor (Option.some done) ++ entry.toText.toList =
        anchor ++ '=' :: (done ++ ',' :: entry.toText.toList) := by simp [leadText]
    rw [listedNets_some split reads, shape, parseLinkSpec_iff bare]
    refine ⟨net, nets ++ [entry], unpadded, ?_, by simp, ?_⟩
    · rw [specValues_append, specValues_toText]
      exact readValues_append values last
    · simp [canonicalLink, BypassLink.new, BypassTargets.toPrefixes, canonical]

theorem passes_iff {link : BypassLink} (canonical : Canonical link) :
    Passes link allowedIps ↔ checkLink link (allowedIps.map IpNet.trunc) = .ok () := by
  have alone : Validates [link] allowedIps ↔ checkLink link (allowedIps.map IpNet.trunc) = .ok () := by
    rw [validates_iff]
    simp [canonical.fixed, maxLinks]
  rw [← alone]
  constructor
  · intro passes
    obtain ⟨links, strict⟩ := passes
    exact (strict_canonical strict).1
  · intro valid
    unfold Validates at valid
    refine ⟨(validateLinks [link] allowedIps).valid, ?_⟩
    unfold validateLinksStrict
    dsimp only
    rw [valid]

/-- What the listed networks are as a link, if there are any. -/
theorem listed_link (reader : ReadsNetworks crates) (parts : takeApart current = some (anchor, done, typed))
    (begun : WellBegun crates current) {net : IpNet} (read : crates.parseIpNet anchor = some net) :
    Canonical (.new net.trunc (listedNets crates current)) ∧
      (ListedPasses crates current allowedIps ↔
        (listedNets crates current ≠ [] → Passes (.new net.trunc (listedNets crates current)) allowedIps)) := by
  have bare := (takeApart_some parts).2.1
  have split := rsplitOnce_wellBegun parts begun
  unfold ListedPasses
  cases done with
  | none =>
    rw [listedNets_none split]
    constructor
    · exact ⟨net.trunc_idem, by simp [BypassLink.new, BypassTargets.toPrefixes], List.nodup_nil⟩
    · simp [split]
  | some done =>
    obtain ⟨link, cleared, reads⟩ := begun _ _ split
    obtain ⟨net', nets, anchored, values, some, rfl⟩ := (parseLinkSpec_iff bare).mp ⟨cleared, reads⟩
    rw [reader.unpadded anchor net read, read] at anchored
    cases anchored
    have same : (.new net.trunc (listedNets crates current) : BypassLink) = canonicalLink (.new net nets) := by
      rw [listedNets_some split reads]
      rfl
    have listed : listedNets crates current ≠ [] := by
      rw [listedNets_some split reads, Ne, canonicalLink_nil_iff]
      exact some
    rw [same]
    refine ⟨canonicalLink_canonical _, ?_⟩
    constructor
    · intro passes _
      exact passes _ _ _ _ split reads
    · intro passes done' typed' link' cleared' split' reads'
      rw [split] at split'
      cases split'
      rw [reads] at reads'
      cases reads'
      exact passes listed

/-- One more entry passes with the listed ones as long as there is room for it. -/
theorem candidate_passes_iff {net entry : IpNet} {listed : List IpNet} (canonical : Canonical (.new net listed))
    (plain : entry.trunc = entry) (new : entry ∉ listed) (anchored : checkAnchor net (allowedIps.map IpNet.trunc) = .ok ())
    (checked : checkPrefix net entry (allowedIps.map IpNet.trunc) = .ok ())
    (passes : listed ≠ [] → Passes (.new net listed) allowedIps) :
    Passes (.new net (pushNew listed entry)) allowedIps ↔ listed.length < maxPrefixesPerLink := by
  have pushed : pushNew listed entry = listed ++ [entry] := by simp [pushNew, new]
  have tidy : Tidy listed := ⟨canonical.prefixes, canonical.once⟩
  have more := tidy.pushNew entry
  rw [plain] at more
  have fine : ∀ network ∈ listed, checkPrefix net network (allowedIps.map IpNet.trunc) = .ok () := by
    intro network member
    have valid := (passes_iff canonical).mp (passes (List.ne_nil_of_mem member))
    exact (checkLink_ok_iff.mp valid).2.2.2 network member
  have grown : Canonical (.new net (pushNew listed entry)) := ⟨canonical.anchor, more.1, more.2⟩
  rw [passes_iff grown, checkLink_ok_iff, pushed]
  constructor
  · intro valid
    have few := valid.2.1
    simp only [BypassLink.new, BypassTargets.toPrefixes, List.length_append, List.length_singleton] at few
    omega
  · intro room
    refine ⟨by simp [BypassLink.new, BypassTargets.toPrefixes], ?_, anchored, ?_⟩
    · simp only [BypassLink.new, BypassTargets.toPrefixes, List.length_append, List.length_singleton]
      omega
    · intro network member
      cases List.mem_append.mp member with
      | inl before => exact fine network before
      | inr last => exact List.mem_singleton.mp last ▸ checked

theorem mem_completionEntries {canonical : List IpNet} {entry : IpNet} :
    entry ∈ completionEntries canonical ↔ entry ∈ canonical ∧ 0 < entry.prefixLen := by
  have folded : ∀ more : List IpNet, ∀ entries : List IpNet,
      entry ∈ more.foldl (fun entries entry => if 0 < entry.prefixLen then pushNew entries entry else entries) entries ↔
        entry ∈ entries ∨ entry ∈ more ∧ 0 < entry.prefixLen := by
    intro more
    induction more with
    | nil => simp
    | cons network rest ih =>
      intro entries
      have pushed : entry ∈ pushNew entries network ↔ entry ∈ entries ∨ entry = network := by
        unfold pushNew
        split
        next known =>
          simp only [List.contains_iff_mem] at known
          constructor
          · exact .inl
          · rintro (old | rfl)
            · exact old
            · exact known
        next => simp
      rw [List.foldl_cons, ih, List.mem_cons]
      split
      next bounded =>
        rw [pushed]
        grind
      next unbounded => grind
  rw [completionEntries, folded]
  simp

/-- What is offered: the entries that validate, match what is typed and are not listed as they are printed. -/
theorem mem_linkCompletions (parts : takeApart current = some (anchor, done, typed)) {candidate : List Char} :
    candidate ∈ linkCompletions crates current allowedIps ↔
      ∃ entry, Offerable crates allowedIps anchor typed entry ∧ entry.toText.toList ∉ listedTexts done ∧
        candidate = leadText anchor done ++ entry.toText.toList := by
  have whole := (takeApart_some parts).1
  have shape : linkCompletions crates current allowedIps =
      match crates.parseIpNet anchor with
      | none => []
      | some net =>
        match checkAnchor net.trunc (allowedIps.map IpNet.trunc) with
        | .error _ => []
        | .ok () =>
          (((completionEntries (allowedIps.map IpNet.trunc)).filter fun entry =>
            !(listedTexts done).contains entry.toText.toList &&
              (checkPrefix net.trunc entry (allowedIps.map IpNet.trunc)).isOk).map
            fun entry => leadText anchor done ++ entry.toText.toList).filter fun candidate => current.isPrefixOf candidate := by
    unfold takeApart at parts
    obtain ⟨⟨before, rest⟩, split, same⟩ := Option.map_eq_some_iff.mp parts
    unfold linkCompletions
    rw [split]
    dsimp only at same ⊢
    cases comma : rsplitOnce ',' rest with
    | none =>
      rw [comma] at same
      cases same
      rfl
    | some halves =>
      rw [comma] at same
      cases same
      rfl
  rw [shape]
  cases read : crates.parseIpNet anchor with
  | none =>
    simp only [List.not_mem_nil, false_iff]
    rintro ⟨entry, ⟨-, net, readable, -⟩, -⟩
    rw [read] at readable
    cases readable
  | some net =>
    dsimp only
    cases anchored : checkAnchor net.trunc (allowedIps.map IpNet.trunc) with
    | error reason =>
      simp only [List.not_mem_nil, false_iff]
      rintro ⟨entry, ⟨-, net', readable, anchored', -⟩, -⟩
      rw [read] at readable
      cases readable
      rw [anchored] at anchored'
      cases anchored'
    | ok value =>
      simp only [List.mem_filter, List.mem_map, mem_completionEntries, Bool.and_eq_true, Bool.not_eq_true',
        Bool.eq_false_iff, Ne, List.contains_iff_mem, isOk_iff, List.isPrefixOf_iff_prefix]
      constructor
      · intro offered
        obtain ⟨⟨entry, ⟨_, fresh, checked⟩, rfl⟩, starts⟩ := offered
        rw [whole, List.prefix_append_right_inj] at starts
        exact ⟨entry, ⟨starts, net, read, anchored, checked⟩, fresh, rfl⟩
      · intro offered
        obtain ⟨entry, ⟨starts, net', readable, -, checked⟩, fresh, rfl⟩ := offered
        rw [read] at readable
        cases readable
        obtain ⟨member, family⟩ := checkPrefix_ok checked
        have bounded := (family entry member rfl).1
        refine ⟨⟨entry, ⟨⟨List.mem_map.mp member, by omega⟩, fresh, checked⟩, rfl⟩, ?_⟩
        rw [whole, List.prefix_append_right_inj]
        exact starts

theorem EndsIn.unique {first second : List Char} (one : EndsIn spec first) (other : EndsIn spec second) : first = second := by
  obtain ⟨lead, mark, among, whole⟩ := one.whole
  obtain ⟨lead', mark', among', whole'⟩ := other.whole
  have ends : ∀ {mark : Char} {value : List Char}, mark ∈ ['=', ','] → '=' ∉ value ∧ ',' ∉ value →
      ∀ lead : List Char, (lead ++ mark :: value).rtakeWhile (fun c => c ≠ '=' ∧ c ≠ ',') = value := by
    intro mark value special last lead
    have stops : mark = '=' ∨ mark = ',' := by simpa using special
    have plain : ∀ c ∈ value.reverse, decide (c ≠ '=' ∧ c ≠ ',') = true := by
      intro c member
      have inside := List.mem_reverse.mp member
      simp only [decide_eq_true_eq]
      exact ⟨fun same => last.1 (same ▸ inside), fun same => last.2 (same ▸ inside)⟩
    rw [List.rtakeWhile, List.reverse_append, List.reverse_cons, List.append_assoc, List.singleton_append,
      List.takeWhile_append_of_pos plain, List.takeWhile_cons_of_neg (by grind), List.append_nil, List.reverse_reverse]
  rw [← ends among one.last lead, ← ends among' other.last lead', ← whole, ← whole']

theorem candidate_endsIn (net : IpNet) : EndsIn (leadText anchor done ++ net.toText.toList) net.toText.toList := by
  constructor
  · cases done with
    | none => exact ⟨anchor, '=', by simp, by simp [leadText]⟩
    | some done => exact ⟨anchor ++ '=' :: done, ',', by simp, by simp [leadText]⟩
  · exact ⟨equals_toText net, comma_toText net⟩

/-- An entry that is offered should be, exactly when it is no network of the list and has room in it. -/
theorem candidate_sound_iff (reader : ReadsNetworks crates) (parts : takeApart current = some (anchor, done, typed))
    (begun : WellBegun crates current) {entry : IpNet} (offerable : Offerable crates allowedIps anchor typed entry) :
    SoundCandidate crates current allowedIps (leadText anchor done ++ entry.toText.toList) ↔
      entry ∉ listedNets crates current ∧
        (ListedPasses crates current allowedIps → (listedNets crates current).length < maxPrefixesPerLink) := by
  obtain ⟨starts, net, read, anchored, checked⟩ := offerable
  obtain ⟨allowed, -, plain⟩ := List.mem_map.mp (checkPrefix_ok checked).1
  have canonical : entry.trunc = entry := by rw [← plain, IpNet.trunc_idem]
  obtain ⟨cleared, reads⟩ := candidate_reads reader parts begun read canonical
  obtain ⟨listed, passes⟩ := @listed_link crates current anchor typed done allowedIps reader parts begun net read
  constructor
  · intro sound
    obtain ⟨value, net', ends, shown, fresh⟩ := sound.new
    rw [ends.unique (candidate_endsIn entry), reader.display] at shown
    cases shown
    rw [canonical] at fresh
    refine ⟨fresh, fun valid => ?_⟩
    have grown := sound.validates valid _ _ reads
    exact (candidate_passes_iff listed canonical fresh anchored checked (passes.mp valid)).mp grown
  · intro holds
    obtain ⟨fresh, room⟩ := holds
    refine ⟨?_, ⟨_, _, reads⟩, ⟨_, entry, candidate_endsIn entry, reader.display entry, by rwa [canonical]⟩, ?_⟩
    · rw [(takeApart_some parts).1, List.prefix_append_right_inj]
      exact starts
    · intro valid link cleared' reads'
      rw [reads] at reads'
      cases reads'
      exact (candidate_passes_iff listed canonical fresh anchored checked (passes.mp valid)).mpr (room valid)

theorem mem_readValues {values : List (List Char)} {nets : List IpNet} (reads : readValues crates values = some nets)
    {value : List Char} (member : value ∈ values) : ∃ net, crates.parseIpNet (trim value) = some net ∧ net ∈ nets := by
  induction values generalizing nets with
  | nil => cases member
  | cons first rest ih =>
    unfold readValues at reads ih
    rw [List.mapM_cons] at reads
    simp only [bind, Option.bind_eq_some_iff, pure, Option.some.injEq] at reads
    obtain ⟨net, read, more, later, rfl⟩ := reads
    cases member with
    | head => exact ⟨net, read, List.mem_cons_self⟩
    | tail _ member =>
      obtain ⟨net', read', among⟩ := ih later member
      exact ⟨net', read', List.mem_cons_of_mem _ among⟩

theorem mem_pushed {networks nets : List IpNet} {net : IpNet} (member : net ∈ nets) :
    net.trunc ∈ nets.foldl (fun bypass network => pushNew bypass network.trunc) networks := by
  induction nets generalizing networks with
  | nil => cases member
  | cons first rest ih =>
    cases member with
    | head =>
      have pushed : net.trunc ∈ pushNew networks net.trunc := by
        by_cases known : net.trunc ∈ networks <;> simp [pushNew, known]
      exact @pushed_subset (pushNew networks net.trunc) rest _ pushed
    | tail _ member => exact ih member

/-- The values that are listed as they are printed are among the listed networks. -/
theorem mem_listedNets_of_text (reader : ReadsNetworks crates) (parts : takeApart current = some (anchor, done, typed))
    (begun : WellBegun crates current) {entry : IpNet} (canonical : entry.trunc = entry)
    (listed : entry.toText.toList ∈ listedTexts done) : entry ∈ listedNets crates current := by
  have bare := (takeApart_some parts).2.1
  have split := rsplitOnce_wellBegun parts begun
  cases done with
  | none => simp [listedTexts] at listed
  | some done =>
    obtain ⟨link, cleared, reads⟩ := begun _ _ split
    obtain ⟨net, nets, -, values, -, rfl⟩ := (parseLinkSpec_iff bare).mp ⟨cleared, reads⟩
    have value : entry.toText.toList ∈ specValues done := by
      rw [specValues, List.mem_filter]
      exact ⟨listed, by simpa [trim_toText] using toText_ne_nil entry⟩
    obtain ⟨net', read, member⟩ := mem_readValues values value
    rw [trim_toText, reader.display] at read
    cases read
    rw [listedNets_some split reads, ← canonical]
    exact mem_pushed member

/-- Every candidate is sound exactly when the list is written plainly, as far as it matters, and has room. -/
theorem completions_sound_iff (reader : ReadsNetworks crates) (started : '=' ∈ current) (begun : WellBegun crates current) :
    (∀ candidate ∈ linkCompletions crates current allowedIps, SoundCandidate crates current allowedIps candidate) ↔
      ListedPlainly crates current allowedIps := by
  obtain ⟨⟨anchor, done, typed⟩, parts⟩ := takeApart_of_mem started
  constructor
  · intro sound anchor' done' typed' entry parts' offerable
    rw [parts] at parts'
    cases parts'
    by_cases listed : entry.toText.toList ∈ listedTexts done
    · obtain ⟨net, -, -, checked⟩ := offerable.validates
      obtain ⟨allowed, -, plain⟩ := List.mem_map.mp (checkPrefix_ok checked).1
      have canonical : entry.trunc = entry := by rw [← plain, IpNet.trunc_idem]
      have member := mem_listedNets_of_text reader parts begun canonical listed
      exact ⟨fun _ => listed, fun absent => absurd member absent⟩
    · have offered := sound _ ((mem_linkCompletions parts).mpr ⟨entry, offerable, listed, rfl⟩)
      obtain ⟨fresh, room⟩ := (candidate_sound_iff reader parts begun offerable).mp offered
      exact ⟨fun member => absurd member fresh, fun _ => room⟩
  · intro plainly candidate member
    obtain ⟨entry, offerable, unlisted, rfl⟩ := (mem_linkCompletions parts).mp member
    obtain ⟨spelled, room⟩ := plainly anchor done typed entry parts offerable
    rw [candidate_sound_iff reader parts begun offerable]
    have fresh : entry ∉ listedNets crates current := fun listed => unlisted (spelled listed)
    exact ⟨fresh, room fresh⟩

/-! ### A list in another spelling -/

/-- Networks are read as the addresses and lengths they print, without space around them. -/
def networkCrates : Crates where
  decodeBase64 _ := .error "Invalid padding"
  encodeBase64 _ := ""
  parseIpNet text :=
    if trim text = text then (parseCidr (String.ofList text)).bind fun subnet => IpNet.new subnet.1 subnet.2 else none
  sha256 _ := []

theorem networkCrates_reads : ReadsNetworks networkCrates := by
  constructor
  · intro net
    simp [networkCrates, trim_toText, parseCidr_toText, IpNet.new, net.valid]
  · intro text net read
    unfold networkCrates at read
    dsimp only at read
    split at read
    · assumption
    · cases read

def spelledSpec : List Char := "10.9.8.0/24=172.19.5.7/24,".toList

def spelledAllowed : List IpNet := [⟨.v4 0x0a090800, 24, by decide⟩, ⟨.v4 0xac130500, 24, by decide⟩]

/-- The last prefix is listed with host bits, and is offered once more. -/
theorem completions_unsound : ¬ ∀ (crates : Crates) (current : List Char) (allowedIps : List IpNet),
    ReadsNetworks crates → '=' ∈ current → WellBegun crates current →
      ∀ candidate ∈ linkCompletions crates current allowedIps, SoundCandidate crates current allowedIps candidate := by
  intro sound
  have split : rsplitOnce ',' spelledSpec = some ("10.9.8.0/24=172.19.5.7/24".toList, []) := by decide +kernel
  have begun : WellBegun networkCrates spelledSpec := by
    intro done typed parts
    rw [split] at parts
    cases parts
    exact ⟨.new ⟨.v4 0x0a090800, 24, by decide⟩ [⟨.v4 0xac130500, 24, by decide⟩],
      [⟨⟨.v4 0xac130507, 24, by decide⟩, ⟨.v4 0xac130500, 24, by decide⟩⟩], by decide +kernel⟩
  have parts : takeApart spelledSpec = some ("10.9.8.0/24".toList, some "172.19.5.7/24".toList, []) := by decide +kernel
  have offerable : Offerable networkCrates spelledAllowed "10.9.8.0/24".toList [] ⟨.v4 0xac130500, 24, by decide⟩ :=
    ⟨List.nil_prefix, ⟨.v4 0x0a090800, 24, by decide⟩, by decide +kernel, by decide +kernel, by decide +kernel⟩
  have offered : ⟨.v4 0xac130500, 24, by decide⟩ ∉ listedNets networkCrates spelledSpec := by
    have member := (@mem_linkCompletions networkCrates _ _ _ _ spelledAllowed parts _).mpr
      ⟨_, offerable, by decide +kernel, rfl⟩
    have promised := sound _ _ _ networkCrates_reads (by decide +kernel) begun _ member
    exact ((candidate_sound_iff networkCrates_reads parts begun offerable).mp promised).1
  exact offered (by decide +kernel)

theorem completions_sound_plain : ∃ (crates : Crates) (current : List Char), '=' ∈ current ∧ WellBegun crates current ∧
    ((∀ candidate ∈ linkCompletions crates current spelledAllowed, SoundCandidate crates current spelledAllowed candidate) ↔
      ListedPlainly crates current spelledAllowed) := by
  have equals : '=' ∈ "10.9.8.0/24=".toList := by decide +kernel
  have begun : WellBegun networkCrates "10.9.8.0/24=".toList := by
    intro done typed parts
    have none : rsplitOnce ',' "10.9.8.0/24=".toList = none := by decide +kernel
    rw [none] at parts
    cases parts
  exact ⟨networkCrates, _, equals, begun, completions_sound_iff networkCrates_reads equals begun⟩

end Wgd.Links
