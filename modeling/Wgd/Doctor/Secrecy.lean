import Wgd.Config.Restyling
import Wgd.Doctor.Anchors
import Wgd.Doctor.Labels
import Wgd.Doctor.Lines

/-! Two reports that differ in a secret value only. -/

set_option autoImplicit false

namespace Wgd.Doctor

open Wgd.Net

/-- A value after a label that is to be kept secret. -/
structure SecretValue (secret : List Char) : Prop where
  some : secret ≠ []
  inner : ∀ c ∈ secret, endsValue c = false
  first : ∀ c ∈ secret.head?, isSeparator c = false
  noFlag : secret ∉ flags

/-- The report is the same for every secret value in this place. -/
def Hides (before label separators after : List Char) : Prop :=
  ∀ secret secret', SecretValue secret → SecretValue secret' →
    redactReport (before ++ (label ++ (separators ++ (secret ++ after)))) =
      redactReport (before ++ (label ++ (separators ++ (secret' ++ after))))

/-! ### When a value is hidden -/

/-- What goes on with the value that stands before this text. -/
def valueRest (after : List Char) : List Char := after.takeWhile fun c => !endsValue c

/-- No secret becomes one of the words that are shown by what follows it. -/
def Unflagged (after : List Char) : Prop :=
  ∀ secret, SecretValue secret → secret ++ valueRest after ∈ flags → secret ++ valueRest after = "<redacted>".toList

/-- The labels of the line are found one after the other. Either this label is found, and its value is no
flag word, or an earlier label, with a separator after it, has a value that takes in this label with its
separators. -/
inductive Guarded (label separators : List Char) (unflagged : Prop) : List Char → Prop where
  | found {line : List Char} (reached : nextLabel (line ++ label) = some (line, label, [])) (plain : unflagged) :
    Guarded label separators unflagged line
  | inside {line before first rest : List Char} (earlier : nextLabel (line ++ label) = some (before, first, rest ++ label))
    (separated : rest.takeWhile isSeparator ≠ []) (value : ∀ c ∈ rest.dropWhile isSeparator, endsValue c = false)
    (whole : ∀ c ∈ label ++ separators, endsValue c = false) : Guarded label separators unflagged line
  | passed {line before first rest : List Char} (earlier : nextLabel (line ++ label) = some (before, first, rest ++ label))
    (ended : (rest.dropWhile isSeparator).dropWhile (fun c => !endsValue c) ≠ [])
    (later : Guarded label separators unflagged ((rest.dropWhile isSeparator).dropWhile fun c => !endsValue c)) :
    Guarded label separators unflagged line

variable {label separators secret after line before first rest : List Char} {unflagged : Prop}

/-! ### One label -/

theorem label_not_separator (isLabel : IsLabel label) : ∀ c ∈ (label ++ after).head?, isSeparator c = false := by
  obtain ⟨c, tail, rfl, low, -⟩ := isLabel.cons
  intro d member
  cases member
  by_contra separates
  rw [Bool.not_eq_false, isSeparator, decide_eq_true_eq] at separates
  have plain : ∀ d ∈ [' ', '\t', '=', ':', '\x22', '\''], d.toLower ≠ 'p' := List.all_iff_forall_prop.mp (by decide)
  exact plain c separates low

theorem label_not_ending {c : Char} (low : c.toLower = 'p') : endsValue c = false := by
  have letter : c = 'p' ∨ c = 'P' := by
    rcases Config.toLower_cases c with same | ⟨-, -, shifted⟩
    · exact .inl (same ▸ low)
    · right
      have code : c.val.toNat = 80 := by
        rw [low] at shifted
        exact Nat.add_right_cancel shifted.symm
      exact Char.ext (UInt32.toNat_inj.mp code)
  rcases letter with rfl | rfl <;> decide

/-- A run of characters that is over where something else begins. -/
theorem span_append {stops : Char → Bool} {x rest : List Char} (stop : ∀ c ∈ rest.head?, stops c = false) :
    (x ++ rest).takeWhile stops = x.takeWhile stops ∧ (x ++ rest).dropWhile stops = x.dropWhile stops ++ rest := by
  induction x with
  | nil =>
    cases rest with
    | nil => simp
    | cons c rest =>
      have first := stop c rfl
      simp [first]
  | cons c x ih =>
    cases stopsHere : stops c with
    | true => simp [stopsHere, ih.1, ih.2]
    | false => simp [stopsHere]

theorem span_through {goes : Char → Bool} {x rest : List Char} (all : ∀ c ∈ x, goes c = true) :
    (x ++ rest).takeWhile goes = x ++ rest.takeWhile goes ∧ (x ++ rest).dropWhile goes = rest.dropWhile goes := by
  induction x with
  | nil => simp
  | cons c x ih =>
    rw [List.forall_mem_cons] at all
    simp [all.1, ih all.2]

/-- A run that ends inside the text before. -/
theorem span_inside {goes : Char → Bool} {x rest : List Char} (ended : x.dropWhile goes ≠ []) :
    (x ++ rest).takeWhile goes = x.takeWhile goes ∧ (x ++ rest).dropWhile goes = x.dropWhile goes ++ rest := by
  induction x with
  | nil => exact absurd rfl ended
  | cons c x ih =>
    cases here : goes c with
    | true =>
      rw [List.dropWhile_cons_of_pos here] at ended
      simp [here, ih ended]
    | false => simp [here]

/-! ### Exposure -/

/-- A value that was to be hidden is shown: this one at the end, or any at all. -/
def Exposes (label separators after line : List Char) : Prop :=
  (¬Unflagged after ∧ ∃ shown left, ∀ secret, SecretValue secret →
    redactSecretValues (line ++ (label ++ (separators ++ (secret ++ after)))) =
      shown ++ (redactValue separators (secret ++ valueRest after) ++ left)) ∨
  ∃ shown left, ∀ c ∈ ['!', '?'],
    redactSecretValues (line ++ (label ++ (separators ++ ([c] ++ after)))) = shown ++ (c :: left)

theorem secretValue_mark {c : Char} (mark : c ∈ ['!', '?']) : SecretValue [c] := by
  have plain : ∀ c ∈ ['!', '?'], endsValue c = false ∧ isSeparator c = false ∧ [c] ∉ flags :=
    List.all_iff_forall_prop.mp (by decide)
  obtain ⟨inner, first, noFlag⟩ := plain c mark
  refine ⟨List.cons_ne_nil _ _, ?_, ?_, noFlag⟩
  · intro d member
    rwa [List.mem_singleton.mp member]
  · intro d member
    cases member
    exact first

/-! ### The line of the secret -/

section Line

variable (isLabel : IsLabel label)

include isLabel

/-- The label is found: its value is what stands after the separators. -/
theorem redact_found (between : Separators separators) (reached : nextLabel (line ++ label) = some (line, label, [])) (secretly : SecretValue secret) :
    redactSecretValues (line ++ (label ++ (separators ++ (secret ++ after)))) =
      line ++ (label ++ (separators ++ (redactValue separators (secret ++ valueRest after) ++
        redactSecretValues (after.dropWhile fun c => !endsValue c)))) := by
  have search := @nextLabel_append _ (separators ++ (secret ++ after)) _ isLabel _ reached
  have stop : ∀ c ∈ (secret ++ after).head?, isSeparator c = false := by
    obtain ⟨c, tail, rfl⟩ := List.exists_cons_of_ne_nil secretly.some
    intro d member
    exact secretly.first d member
  obtain ⟨first, then'⟩ := @span_through isSeparator separators (secret ++ after) between.all
  obtain ⟨none, rest⟩ := @span_append isSeparator [] (secret ++ after) stop
  simp only [List.nil_append, List.takeWhile_nil, List.dropWhile_nil] at none rest
  have inner : ∀ c ∈ secret, (!endsValue c) = true := by
    intro c member
    simp [secretly.inner c member]
  obtain ⟨value, left⟩ := @span_through (fun c => !endsValue c) secret after inner
  rw [redactSecretValues_some search]
  dsimp only
  rw [List.nil_append, first, then', none, rest, List.append_nil, value, left]
  rfl

/-- An earlier label is found whose value ends before this label. -/
theorem redact_passed (earlier : nextLabel (line ++ label) = some (before, first, rest ++ label))
    (ended : (rest.dropWhile isSeparator).dropWhile (fun c => !endsValue c) ≠ []) :
    redactSecretValues (line ++ (label ++ (separators ++ (secret ++ after)))) =
      before ++ (first ++ (rest.takeWhile isSeparator ++
        (redactValue (rest.takeWhile isSeparator) ((rest.dropWhile isSeparator).takeWhile fun c => !endsValue c) ++
          redactSecretValues ((rest.dropWhile isSeparator).dropWhile (fun c => !endsValue c) ++
            (label ++ (separators ++ (secret ++ after))))))) := by
  have search := @nextLabel_append _ (separators ++ (secret ++ after)) _ isLabel _ earlier
  obtain ⟨separated, rest'⟩ := @span_append isSeparator rest (label ++ (separators ++ (secret ++ after)))
    (label_not_separator isLabel)
  obtain ⟨value, left⟩ := @span_inside (fun c => !endsValue c) (rest.dropWhile isSeparator)
    (label ++ (separators ++ (secret ++ after))) ended
  rw [redactSecretValues_some search]
  dsimp only
  rw [List.append_assoc, separated, rest', value, left]

/-- An earlier label is found whose value runs into this label, and the label and its separators go on with it. -/
theorem redact_inside (earlier : nextLabel (line ++ label) = some (before, first, rest ++ label))
    (value : ∀ c ∈ rest.dropWhile isSeparator, endsValue c = false) (whole : ∀ c ∈ label ++ separators, endsValue c = false)
    (secretly : SecretValue secret) :
    redactSecretValues (line ++ (label ++ (separators ++ (secret ++ after)))) =
      before ++ (first ++ (rest.takeWhile isSeparator ++ (redactValue (rest.takeWhile isSeparator)
        (rest.dropWhile isSeparator ++ (label ++ (separators ++ (secret ++ valueRest after)))) ++
          redactSecretValues (after.dropWhile fun c => !endsValue c)))) := by
  have search := @nextLabel_append _ (separators ++ (secret ++ after)) _ isLabel _ earlier
  obtain ⟨separated, rest'⟩ := @span_append isSeparator rest (label ++ (separators ++ (secret ++ after)))
    (label_not_separator isLabel)
  have goes : ∀ c ∈ rest.dropWhile isSeparator ++ ((label ++ separators) ++ secret), (!endsValue c) = true := by
    intro c member
    rw [Bool.not_eq_true']
    rcases List.mem_append.mp member with inValue | member
    · exact value c inValue
    · rcases List.mem_append.mp member with inLabel | inSecret
      · exact whole c inLabel
      · exact secretly.inner c inSecret
  obtain ⟨taken, left⟩ := @span_through (fun c => !endsValue c) _ after goes
  have shape : rest.dropWhile isSeparator ++ (label ++ (separators ++ (secret ++ after))) =
      (rest.dropWhile isSeparator ++ ((label ++ separators) ++ secret)) ++ after := by simp
  rw [redactSecretValues_some search]
  dsimp only
  rw [List.append_assoc, separated, rest', shape, taken, left]
  simp [valueRest]

/-- A value with a label in it is no flag word. -/
theorem redactValue_inside {separators' value : List Char} (separated : separators' ≠ []) (some' : separators ≠ [])
    (secretly : SecretValue secret) :
    redactValue separators' (value ++ (label ++ (separators ++ (secret ++ after)))) = "<redacted>".toList := by
  have short : ∀ flag ∈ flags, flag.length ≤ 10 := by decide
  have long := isLabel.length_le
  have left := List.length_pos_of_ne_nil some'
  have right := List.length_pos_of_ne_nil secretly.some
  unfold redactValue
  rw [if_pos]
  refine ⟨separated, ?_, ?_⟩
  · obtain ⟨c, tail, rfl, -⟩ := isLabel.cons
    simp
  · intro flagged
    have bound := short _ flagged
    simp only [List.length_append] at bound
    omega

/-- A guarded label keeps its value out of the line. -/
theorem Guarded.same (between : Separators separators) {secret' : List Char} (guarded : Guarded label separators (Unflagged after) line)
    (secretly : SecretValue secret) (secretly' : SecretValue secret') :
    redactSecretValues (line ++ (label ++ (separators ++ (secret ++ after)))) =
      redactSecretValues (line ++ (label ++ (separators ++ (secret' ++ after)))) := by
  have shown : Unflagged after → ∀ secret, SecretValue secret →
      redactValue separators (secret ++ valueRest after) = "<redacted>".toList := by
    intro unflagged secret secretly
    unfold redactValue
    split
    next => rfl
    next exposed =>
      have some : secret ++ valueRest after ≠ [] := by simp [secretly.some]
      have flagged : secret ++ valueRest after ∈ flags := by
        by_contra other
        exact exposed ⟨between.some, some, other⟩
      exact unflagged secret secretly flagged
  induction guarded with
  | found reached plain =>
    rw [redact_found isLabel between reached secretly, redact_found isLabel between reached secretly',
      shown plain secret secretly, shown plain secret' secretly']
  | inside earlier separated value whole =>
    rw [redact_inside isLabel earlier value whole secretly, redact_inside isLabel earlier value whole secretly',
      redactValue_inside isLabel separated between.some secretly, redactValue_inside isLabel separated between.some secretly']
  | passed earlier ended later ih =>
    rw [redact_passed isLabel earlier ended, redact_passed isLabel earlier ended, ih]

/-- From inside of the label on, nothing up to the secret begins another label. -/
theorem redact_rest (between : Separators separators) {part left : List Char} (whole : label ++ separators = part ++ left)
    (some : part ≠ []) {c : Char} (mark : c ∈ ['!', '?']) :
    redactSecretValues (left ++ (c :: after)) = left ++ (c :: redactSecretValues after) := by
  have plain : ∀ d ∈ left ++ [c], d.toLower ≠ 'p' := by
    obtain ⟨first, tail, rfl, -, once⟩ := isLabel.cons
    obtain ⟨first', tail', rfl⟩ := List.exists_cons_of_ne_nil some
    simp only [List.cons_append, List.cons.injEq] at whole
    intro d member
    cases List.mem_append.mp member with
    | inl inside =>
      have among : d ∈ tail ++ separators := by
        rw [whole.2]
        exact List.mem_append_right _ inside
      cases List.mem_append.mp among with
      | inl inLabel => exact once d inLabel
      | inr inSeparators =>
        have separates := between.all d inSeparators
        rw [isSeparator, decide_eq_true_eq] at separates
        have other : ∀ d ∈ [' ', '\t', '=', ':', '\x22', '\''], d.toLower ≠ 'p' := List.all_iff_forall_prop.mp (by decide)
        exact other d separates
    | inr last =>
      have other : ∀ d ∈ ['!', '?'], d.toLower ≠ 'p' := List.all_iff_forall_prop.mp (by decide)
      exact other d (List.mem_singleton.mp last ▸ mark)
  have shown := @redactSecretValues_plain after (left ++ [c]) plain
  simpa using shown

/-- Where the label is not guarded, something is shown. -/
theorem exposes_of_not_guarded (between : Separators separators)
    (unguarded : ¬Guarded label separators (Unflagged after) line) : Exposes label separators after line := by
  induction size : line.length using Nat.strong_induction_on generalizing line with
  | _ length ih =>
    rcases @nextLabel_cases label line isLabel with reached | ⟨before, first, rest, earlier, whole, positive⟩
    · left
      refine ⟨fun unflagged => unguarded (.found reached unflagged), ?_⟩
      refine ⟨line ++ (label ++ separators), redactSecretValues (after.dropWhile fun c => !endsValue c), ?_⟩
      intro secret secretly
      rw [redact_found isLabel between reached secretly]
      simp
    · by_cases ended : (rest.dropWhile isSeparator).dropWhile (fun c => !endsValue c) = []
      · right
        have value : ∀ c ∈ rest.dropWhile isSeparator, endsValue c = false := by
          intro c member
          simpa using List.dropWhile_eq_nil_iff.mp ended c member
        by_cases goes : ∀ c ∈ label ++ separators, endsValue c = false
        · -- The value takes in the secret, but it is no secret itself.
          have bare : rest.takeWhile isSeparator = [] := by
            by_contra separated
            exact unguarded (.inside earlier separated value goes)
          refine ⟨before ++ (first ++ (rest.dropWhile isSeparator ++ (label ++ separators))),
            valueRest after ++ redactSecretValues (after.dropWhile fun c => !endsValue c), ?_⟩
          intro c mark
          rw [redact_inside isLabel earlier value goes (secretValue_mark mark), bare, redactValue, if_neg (by simp)]
          simp
        · -- The value ends within the label or its separators, and the rest is no label any more.
          let goes' : Char → Bool := fun c => !endsValue c
          have ended' : (label ++ separators).dropWhile goes' ≠ [] := by
            intro none
            exact goes fun c member => by simpa [goes'] using List.dropWhile_eq_nil_iff.mp none c member
          have begun : (label ++ separators).takeWhile goes' ≠ [] := by
            obtain ⟨c, tail, rfl, low, -⟩ := isLabel.cons
            simp [goes', label_not_ending low]
          have split : label ++ separators = (label ++ separators).takeWhile goes' ++ (label ++ separators).dropWhile goes' :=
            List.takeWhile_append_dropWhile.symm
          have all : ∀ c ∈ rest.dropWhile isSeparator, goes' c = true := by
            intro c member
            simp [goes', value c member]
          refine ⟨before ++ (first ++ (rest.takeWhile isSeparator ++ (redactValue (rest.takeWhile isSeparator)
            (rest.dropWhile isSeparator ++ (label ++ separators).takeWhile goes') ++ (label ++ separators).dropWhile goes'))),
            redactSecretValues after, ?_⟩
          intro c mark
          have search := @nextLabel_append _ (separators ++ ([c] ++ after)) _ isLabel _ earlier
          obtain ⟨separated, rest'⟩ := @span_append isSeparator rest (label ++ (separators ++ ([c] ++ after)))
            (label_not_separator isLabel)
          obtain ⟨taken, dropped⟩ := @span_through goes' _ (label ++ (separators ++ ([c] ++ after))) all
          obtain ⟨inner, left⟩ := @span_inside goes' (label ++ separators) ([c] ++ after) ended'
          rw [List.append_assoc] at inner left
          rw [redactSecretValues_some search]
          dsimp only
          rw [List.append_assoc, separated, rest', taken, dropped, inner, left, List.singleton_append,
            redact_rest isLabel between split begun mark]
          simp
      · have shorter : ((rest.dropWhile isSeparator).dropWhile fun c => !endsValue c).length < length := by
          have one := (List.dropWhile_suffix (l := rest.dropWhile isSeparator) fun c => !endsValue c).length_le
          have two := (List.dropWhile_suffix (l := rest) isSeparator).length_le
          rw [← size, whole, List.length_append, List.length_append]
          omega
        have later := ih _ shorter (fun guarded => unguarded (.passed earlier ended guarded)) rfl
        rcases later with ⟨flagged, shown, left, each⟩ | ⟨shown, left, each⟩
        · left
          refine ⟨flagged, before ++ (first ++ (rest.takeWhile isSeparator ++ (redactValue (rest.takeWhile isSeparator)
            ((rest.dropWhile isSeparator).takeWhile fun c => !endsValue c) ++ shown))), left, ?_⟩
          intro secret secretly
          rw [redact_passed isLabel earlier ended, each secret secretly]
          simp
        · right
          refine ⟨before ++ (first ++ (rest.takeWhile isSeparator ++ (redactValue (rest.takeWhile isSeparator)
            ((rest.dropWhile isSeparator).takeWhile fun c => !endsValue c) ++ shown))), left, ?_⟩
          intro c mark
          rw [redact_passed isLabel earlier ended, each c mark]
          simp

end Line

/-! ### The report -/

theorem valueRest_line : valueRest (lineRest after) = valueRest after := by
  unfold valueRest lineRest
  rw [List.takeWhile_takeWhile]
  congr 1
  funext c
  by_cases newline : c = '\n'
  · subst newline
    decide
  · simp [newline]

theorem unflagged_line : Unflagged (lineRest after) ↔ Unflagged after := by
  unfold Unflagged
  rw [valueRest_line]

theorem newline_not_mem (isLabel : IsLabel label) (between : Separators separators) (secretly : SecretValue secret) :
    '\n' ∉ label ++ (separators ++ secret) := by
  simp only [List.mem_append, not_or]
  refine ⟨?_, ?_, ?_⟩
  · intro member
    have all : ∀ label ∈ labels, '\n' ∉ label := by decide +kernel
    have lower : Char.toLower '\n' = '\n' := by decide
    apply all _ isLabel
    rw [toAsciiLowercase, ← lower]
    exact List.mem_map_of_mem member
  · intro member
    have separates := between.all _ member
    exact absurd separates (by decide)
  · intro member
    have inner := secretly.inner _ member
    exact absurd inner (by decide)

/-- A label keeps its value out of the report exactly when it is guarded in its line. -/
theorem hides_iff_guarded {before label separators after : List Char} (isLabel : IsLabel label) (between : Separators separators) :
    Hides before label separators after ↔ Guarded label separators (Unflagged after) (lineStart before) := by
  obtain ⟨shown, left, -, -, frame⟩ := byLine_frame redactLine '\n' before after
  have report : ∀ secret, SecretValue secret → redactReport (before ++ (label ++ (separators ++ (secret ++ after)))) =
      shown ++ (redactLine (lineStart before ++ (label ++ (separators ++ (secret ++ lineRest after)))) ++ left) := by
    intro secret secretly
    have here := frame _ (newline_not_mem isLabel between secretly)
    rw [redactReport_byLine]
    simpa using here
  constructor
  · intro hides
    by_contra unguarded
    rw [← unflagged_line] at unguarded
    have anchors : ∀ secret secret', SecretValue secret → SecretValue secret' →
        (redactSecretValues (lineStart before ++ (label ++ (separators ++ (secret ++ lineRest after))))).filter isAnchor =
          (redactSecretValues (lineStart before ++ (label ++ (separators ++ (secret' ++ lineRest after))))).filter isAnchor := by
      intro secret secret' secretly secretly'
      have same := hides secret secret' secretly secretly'
      rw [report secret secretly, report secret' secretly'] at same
      have lines := List.append_cancel_right (List.append_cancel_left same)
      rw [← redactLine_anchors, ← redactLine_anchors, lines]
    rcases exposes_of_not_guarded isLabel between unguarded with ⟨flagged, first, last, each⟩ | ⟨first, last, each⟩
    · obtain ⟨secret, secretly, flag, other⟩ : ∃ secret, SecretValue secret ∧ secret ++ valueRest (lineRest after) ∈ flags ∧
          secret ++ valueRest (lineRest after) ≠ "<redacted>".toList := by
        simpa [Unflagged] using flagged
      have mark := @secretValue_mark '!' (by simp)
      have same := anchors secret ['!'] secretly mark
      rw [each secret secretly, each ['!'] mark] at same
      have plain : ∀ flag ∈ flags, flag ≠ "<redacted>".toList → flag.filter isAnchor = [] := by decide
      have kept : redactValue separators (secret ++ valueRest (lineRest after)) = secret ++ valueRest (lineRest after) := by
        rw [redactValue, if_neg (by simp [flag])]
      have starts : ∀ flag ∈ flags, flag.head? ≠ some '!' := by decide
      have hidden : redactValue separators (['!'] ++ valueRest (lineRest after)) = "<redacted>".toList := by
        rw [redactValue, if_pos]
        refine ⟨between.some, by simp, ?_⟩
        intro flag
        exact starts _ flag rfl
      have parts : ∀ value, (first ++ (value ++ last)).filter isAnchor =
          first.filter isAnchor ++ (value.filter isAnchor ++ last.filter isAnchor) := by simp
      rw [kept, hidden, parts, parts, plain _ flag other] at same
      have cut := List.append_cancel_right (List.append_cancel_left same)
      exact absurd cut (by decide)
    · have same := anchors ['!'] ['?'] (secretValue_mark (by simp)) (secretValue_mark (by simp))
      rw [each '!' (by simp), each '?' (by simp), List.filter_append, List.filter_append] at same
      have cut := List.append_cancel_left same
      rw [List.filter_cons_of_pos (by decide), List.filter_cons_of_pos (by decide)] at cut
      exact absurd (List.head_eq_of_cons_eq cut) (by decide)
  · intro guarded secret secret' secretly secretly'
    rw [← unflagged_line] at guarded
    rw [report secret secretly, report secret' secretly']
    unfold redactLine
    rw [guarded.same isLabel between secretly secretly']

theorem hides_private_key : Hides "x".toList "PrivateKey".toList " = ".toList "\n".toList := by
  refine (hides_iff_guarded (by decide +kernel) ⟨by decide, List.all_iff_forall_prop.mp (by decide)⟩).mpr ?_
  refine .found (by decide +kernel) ?_
  intro secret secretly flag
  have none : valueRest "\n".toList = [] := by decide
  rw [none, List.append_nil] at flag
  exact absurd flag secretly.noFlag

/-- The value of the first label is the word `private`, and the second label is none any more. -/
theorem not_hides_repeated_label : ¬∀ before label separators after, IsLabel label → Separators separators →
    Hides before label separators after := by
  intro all
  have hides := all "private key: ".toList "private key".toList ": ".toList [] (by decide +kernel)
    ⟨by decide, List.all_iff_forall_prop.mp (by decide)⟩
  have same := hides "hunter2".toList "hunter3".toList
    ⟨by decide, List.all_iff_forall_prop.mp (by decide), forall_mem_of_all (by decide), by decide⟩
    ⟨by decide, List.all_iff_forall_prop.mp (by decide), forall_mem_of_all (by decide), by decide⟩
  exact absurd same (by decide +kernel)

end Wgd.Doctor
