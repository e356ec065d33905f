import Wgd.Config.Parse

/-! What a line of a configuration says, apart from how it is written: the parser's
success and its result depend on nothing else. -/

set_option autoImplicit false

namespace Wgd.Config

open Wgd.Net

inductive Heading where
  | interface
  | peer
  deriving DecidableEq

def Heading.section : Heading → Section
  | .interface => .interface
  | .peer => .peer

inductive Line where
  | blank
  | header (heading : Heading)
  /-- The key in lowercase, and the value, which may be empty. -/
  | directive (key : String) (value : List Char)
  | unreadable
  deriving DecidableEq

def lowerKey (key : List Char) : String := String.ofList (toAsciiLowercase (trim key))

def readHeader (line : List Char) : Line :=
  if headerName line = some "interface" then .header .interface
  else if headerName line = some "peer" then .header .peer
  else .unreadable

def readLine (rawLine : List Char) : Line :=
  let line := stripComment rawLine
  if line.isEmpty then .blank
  else if line.head? = some '[' then readHeader line
  else
    match splitOnce '=' line with
    | none => .unreadable
    | some (key, value) => .directive (lowerKey key) (trim value)

/-- A directive with a value, in the section that is open. -/
def applyDirective (crates : Crates) (resolver : Resolver) (state : ParseState) (key : String) (value : List Char) :
    Option ParseState :=
  match state.section with
  | .interface => (interfaceDirective crates state key.toList value).toOption
  | .peer => (peerDirective crates resolver state key.toList value).toOption
  | .none => none

def applyLine (crates : Crates) (resolver : Resolver) (state : ParseState) : Line → Option ParseState
  | .blank => some state
  | .header heading => (openSection state heading.section).toOption
  | .directive key value => if value.isEmpty then some state else applyDirective crates resolver state key value
  | .unreadable => none

/-! ### The parser as a run over what the lines say -/

variable {crates : Crates} {resolver : Resolver}

@[simp] theorem toLower_toLower (c : Char) : c.toLower.toLower = c.toLower := by
  unfold Char.toLower
  grind

@[simp] theorem toAsciiLowercase_idem (text : List Char) : toAsciiLowercase (toAsciiLowercase text) = toAsciiLowercase text := by
  simp [toAsciiLowercase]

theorem interfaceDirective_lower (state : ParseState) (key value : List Char) :
    (interfaceDirective crates state (toAsciiLowercase key) value).toOption = (interfaceDirective crates state key value).toOption := by
  unfold interfaceDirective
  rw [toAsciiLowercase_idem]
  split <;> rfl

theorem peerDirective_lower (state : ParseState) (key value : List Char) :
    (peerDirective crates resolver state (toAsciiLowercase key) value).toOption = (peerDirective crates resolver state key value).toOption := by
  unfold peerDirective
  rw [toAsciiLowercase_idem]
  split <;> rfl

theorem parseHeader_toOption (state : ParseState) (rawLine line : List Char) :
    (parseHeader state rawLine line).toOption = applyLine crates resolver state (readHeader line) := by
  unfold parseHeader readHeader
  split
  next same =>
    rw [if_pos same]
    rfl
  next same =>
    rw [if_neg (by simp [same]), if_pos same]
    rfl
  next notInterface notPeer =>
    rw [if_neg notInterface, if_neg notPeer]
    rfl

theorem parseDirective_toOption (state : ParseState) (rawLine line : List Char) :
    (parseDirective crates resolver state rawLine line).toOption =
      match splitOnce '=' line with
      | none => none
      | some (key, value) => applyLine crates resolver state (.directive (lowerKey key) (trim value)) := by
  unfold parseDirective
  cases splitOnce '=' line with
  | none => rfl
  | some parts =>
    obtain ⟨key, value⟩ := parts
    dsimp only [applyLine]
    split
    · rfl
    · unfold applyDirective lowerKey
      cases state.section with
      | none => rfl
      | interface =>
        dsimp only
        rw [String.toList_ofList, interfaceDirective_lower]
      | peer =>
        dsimp only
        rw [String.toList_ofList, peerDirective_lower]

/-- A line does what it says. -/
theorem parseLine_toOption (state : ParseState) (rawLine : List Char) :
    (parseLine crates resolver state rawLine).toOption = applyLine crates resolver state (readLine rawLine) := by
  unfold parseLine readLine
  dsimp only
  split
  · rfl
  split
  · exact parseHeader_toOption state rawLine _
  · rw [parseDirective_toOption]
    cases splitOnce '=' (stripComment rawLine) with
    | none => rfl
    | some parts => rfl

theorem foldlM_toOption {S A E : Type} {f : S → A → Except E S} {g : S → A → Option S}
    (each : ∀ state item, (f state item).toOption = g state item) (items : List A) (state : S) :
    (items.foldlM f state).toOption = items.foldlM g state := by
  induction items generalizing state with
  | nil => rfl
  | cons item rest ih =>
    rw [List.foldlM_cons, List.foldlM_cons, ← each]
    cases f state item with
    | error error => rfl
    | ok state' => exact ih state'

/-- The run over the lines of a text. -/
def runLines (crates : Crates) (resolver : Resolver) (state : ParseState) (texts : List Line) : Option ParseState :=
  texts.foldlM (applyLine crates resolver) state

theorem parseConnectionConfig_toOption (input : String) :
    (parseConnectionConfig crates resolver input).toOption =
      (runLines crates resolver .start ((lines input.toList).map readLine)).bind fun state => (finishParse state).toOption := by
  unfold parseConnectionConfig runLines
  rw [List.foldlM_map, ← foldlM_toOption parseLine_toOption]
  cases (lines input.toList).foldlM (parseLine crates resolver) .start <;> rfl

theorem toOption_eq_some {E A : Type} {outcome : Except E A} {value : A} : outcome.toOption = some value ↔ outcome = .ok value := by
  cases outcome <;> simp [Except.toOption]

/-! ### Lines and their ends -/

/-- A carriage return before the line feed belongs to the end of the line. -/
def chomp (line : List Char) : List Char := if line.getLast? = some '\r' then line.dropLast else line

theorem chomp_cons {c : Char} {line : List Char} (plain : line ≠ [] ∨ c ≠ '\r') : chomp (c :: line) = c :: chomp line := by
  cases line with
  | nil =>
    have other : c ≠ '\r' := by simpa using plain
    simp [chomp, other]
  | cons d line =>
    unfold chomp
    rw [List.getLast?_cons_cons]
    split <;> rfl

theorem lines_append {line : List Char} (whole : '\n' ∉ line) (rest : List Char) :
    lines (line ++ '\n' :: rest) = chomp line :: lines rest := by
  induction line with
  | nil => rfl
  | cons c line ih =>
    rw [List.mem_cons, not_or] at whole
    by_cases ends : line = [] ∧ c = '\r'
    · rw [ends.1, ends.2]
      rfl
    · have plain : line ≠ [] ∨ c ≠ '\r' := by
        rw [← not_and_or]
        exact ends
      have other : ∀ rest', c = '\r' → line ++ '\n' :: rest ≠ '\n' :: rest' := by
        intro rest' cr same
        cases line with
        | nil => exact ends ⟨rfl, cr⟩
        | cons d line =>
          cases same
          exact whole.2 List.mem_cons_self
      rw [chomp_cons plain, List.cons_append, lines.eq_4 c _ (fun same => whole.1 same.symm) (fun rest' cr same => other rest' cr same),
        ih whole.2]

/-- Lines written one after the other. -/
def unlines (texts : List (List Char)) : List Char := texts.flatMap (· ++ ['\n'])

theorem lines_unlines {texts : List (List Char)} (whole : ∀ line ∈ texts, '\n' ∉ line) :
    lines (unlines texts) = texts.map chomp := by
  induction texts with
  | nil => rfl
  | cons line rest ih =>
    rw [List.forall_mem_cons] at whole
    have shape : unlines (line :: rest) = line ++ '\n' :: unlines rest := by simp [unlines]
    rw [shape, lines_append whole.1, ih whole.2, List.map_cons]

end Wgd.Config
