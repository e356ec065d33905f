/-! JSON values, and how typed values are written as them and read back. -/

set_option autoImplicit false

namespace Wgd.Encoding

/-- An object has each of its names once. -/
inductive Json where
  | null
  | bool (value : Bool)
  | number (value : Nat)
  | string (text : String)
  | array (items : List Json)
  | object (members : List (String × Json))

namespace Json

/-- How the values of a type are written and read. -/
structure Codec (A : Type) where
  write : A → Json
  read : Json → Option A

namespace Codec

variable {A B : Type}

/-- What is written of this value is read as it. -/
def ReadsBack (codec : Codec A) (value : A) : Prop := codec.read (codec.write value) = some value

def bool : Codec Bool where
  write := .bool
  read
    | .bool value => some value
    | _ => none

def number : Codec Nat where
  write := .number
  read
    | .number value => some value
    | _ => none

def string : Codec String where
  write := .string
  read
    | .string text => some text
    | _ => none

def list (codec : Codec A) : Codec (List A) where
  write values := .array (values.map codec.write)
  read
    | .array items => items.mapM codec.read
    | _ => none

/-- Nothing is written as `null`. -/
def option (codec : Codec A) : Codec (Option A) where
  write
    | some value => codec.write value
    | none => .null
  read
    | .null => some none
    | json => (codec.read json).map some

/-- Values that are written by way of another type. -/
def via (codec : Codec B) (convert : A → B) (back : B → Option A) : Codec A where
  write value := codec.write (convert value)
  read json := (codec.read json).bind back

@[simp] theorem bool_readsBack (value : Bool) : bool.ReadsBack value := rfl

@[simp] theorem number_readsBack (value : Nat) : number.ReadsBack value := rfl

@[simp] theorem string_readsBack (text : String) : string.ReadsBack text := rfl

theorem list_readsBack {codec : Codec A} {values : List A} (each : ∀ value ∈ values, codec.ReadsBack value) :
    codec.list.ReadsBack values := by
  unfold ReadsBack list
  induction values with
  | nil => rfl
  | cons value rest ih =>
    rw [List.forall_mem_cons] at each
    have first : codec.read (codec.write value) = some value := each.1
    have later := ih each.2
    dsimp only at later ⊢
    rw [List.map_cons, List.mapM_cons, first, later]
    rfl

/-- Nothing but the missing value is written as `null`. -/
def Proper (codec : Codec A) : Prop := ∀ value, codec.write value ≠ .null

theorem option_readsBack {codec : Codec A} (proper : codec.Proper) {value : Option A}
    (reads : ∀ inner ∈ value, codec.ReadsBack inner) : codec.option.ReadsBack value := by
  cases value with
  | none => rfl
  | some inner =>
    have written : codec.read (codec.write inner) = some inner := reads inner rfl
    have other := proper inner
    show (match codec.write inner with | .null => some none | json => (codec.read json).map some) = some (some inner)
    split
    next same => exact absurd same other
    next => rw [written, Option.map_some]

theorem via_readsBack {codec : Codec B} {convert : A → B} {back : B → Option A} {value : A}
    (reads : codec.ReadsBack (convert value)) (inverse : back (convert value) = some value) :
    (codec.via convert back).ReadsBack value := by
  simp only [ReadsBack, via]
  rw [reads, Option.bind_some, inverse]

end Codec

/-! ### Objects -/

variable {A : Type} {members : List (String × Json)} {name : String} {names : List String}

/-- A member that has to be there. -/
def required (codec : Codec A) (members : List (String × Json)) (name : String) : Option A :=
  (members.lookup name).bind codec.read

/-- A member that has a default when it is missing. -/
def defaulted (codec : Codec A) (default : A) (members : List (String × Json)) (name : String) : Option A :=
  match members.lookup name with
  | none => some default
  | some json => codec.read json

/-- An object with some of its names dropped. -/
def without (names : List String) (members : List (String × Json)) : List (String × Json) :=
  members.filter fun member => member.1 ∉ names

theorem lookup_without : (without names members).lookup name = if name ∈ names then none else members.lookup name := by
  induction members with
  | nil => simp [without]
  | cons member rest ih =>
    obtain ⟨key, json⟩ := member
    unfold without at ih ⊢
    by_cases dropped : key ∈ names
    · rw [List.filter_cons_of_neg (by simpa using dropped), ih, List.lookup_cons]
      by_cases same : name = key
      · rw [same, if_pos dropped, if_pos dropped]
      · rw [beq_false_of_ne same]
    · rw [List.filter_cons_of_pos (by simpa using dropped), List.lookup_cons, List.lookup_cons, ih]
      by_cases same : name = key
      · simp [same, dropped]
      · rw [beq_false_of_ne same]

theorem required_without {codec : Codec A} (kept : name ∉ names) :
    required codec (without names members) name = required codec members name := by
  rw [required, required, lookup_without, if_neg kept]

theorem defaulted_without {codec : Codec A} {default : A} (kept : name ∉ names) :
    defaulted codec default (without names members) name = defaulted codec default members name := by
  rw [defaulted, defaulted, lookup_without, if_neg kept]

theorem defaulted_dropped {codec : Codec A} {default : A} (dropped : name ∈ names) :
    defaulted codec default (without names members) name = some default := by
  rw [defaulted, lookup_without, if_pos dropped]

end Json

end Wgd.Encoding
