import Wgd.Doctor.Labels
import Wgd.Doctor.Lines

/-! The masked report in its pieces, each with the part of the report it is shown for. -/

set_option autoImplicit false

namespace Wgd.Doctor

open Wgd.Net

/-! ### Pieces -/

/-- What a line consists of when its secrets are found. -/
inductive Mark where
  | kept (c : Char)
  | secret (value : List Char)

def Mark.given : Mark → List Char
  | kept c => [c]
  | secret value => value

def Mark.shown : Mark → List Char
  | kept c => [c]
  | secret _ => "<redacted>".toList

/-- What a report consists of when it is masked. -/
inductive Piece where
  | secret (value : List Char)
  | token (text shown : List Char)
  | other (c : Char)

def Piece.given : Piece → List Char
  | secret value => value
  | token text _ => text
  | other c => [c]

def Piece.shown : Piece → List Char
  | secret _ => "<redacted>".toList
  | token _ shown => shown
  | other c => [c]

@[simp] theorem Piece.shown_other (c : Char) : (Piece.other c).shown = [c] := rfl

variable {token line text : List Char} {peer next : Bool} {marks : List Mark} {fuel : Nat}

/-! ### What the pieces are of -/

end Wgd.Doctor
