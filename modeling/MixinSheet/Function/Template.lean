import MixinSheet.Text.DecimalDigit

/-!
# Format strings

A placeholder is a number between braces. The scan finds the placeholders of a template from left to
right; every other character, be it a brace, stands for itself. What is put in for a placeholder is
not scanned again.
-/

namespace MixinSheet.Template

/-- A part of a template. -/
inductive Piece where
  /-- A character that stands for itself. -/
  | char (c : Char)
  /-- The digits between two braces, of which there is at least one. -/
  | placeholder (digits : List Char)
  deriving DecidableEq, Repr

/-- The pieces of the rest of a template. `pending` holds the digits read since a brace that may yet
open a placeholder. -/
def scan : (pending : Option (List Char)) → List Char → List Piece
  | none, [] => []
  | some digits, [] => .char '{' :: digits.map .char
  | none, c :: rest => if c = '{' then scan (some []) rest else .char c :: scan none rest
  | some digits, c :: rest =>
    if Text.isDecimalDigit c then scan (some (digits ++ [c])) rest
    else if c = '}' ∧ digits ≠ [] then .placeholder digits :: scan none rest
    else
      .char '{' :: digits.map .char ++
        if c = '{' then scan (some []) rest else .char c :: scan none rest

/-- The pieces of a template. -/
def pieces (template : String) : List Piece :=
  scan none template.toList

/-- The number that ASCII digits stand for, continuing from `value`. -/
def digitsValue? (value : Nat) : List Char → Option Nat
  | [] => some value
  | c :: rest => if c.isDigit then digitsValue? (10 * value + (c.toNat - '0'.toNat)) rest else none

/-- The argument that a placeholder names: only ASCII digits count, and only up to 64 bits. -/
def index? (digits : List Char) : Option Nat :=
  (digitsValue? 0 digits).filter (· < UInt64.size)

/-- The first argument that is named and not there. -/
def firstMissing? (count : Nat) : List Piece → Option Nat
  | [] => none
  | .char _ :: rest => firstMissing? count rest
  | .placeholder digits :: rest =>
    match index? digits with
    | some index => if count ≤ index then some index else firstMissing? count rest
    | none => firstMissing? count rest

/-- The text with the placeholders filled in; one that names no argument is left out. -/
def fill (args : List String) : List Piece → List Char
  | [] => []
  | .char c :: rest => c :: fill args rest
  | .placeholder digits :: rest =>
    (((index? digits).bind (args[·]?)).getD "").toList ++ fill args rest

end MixinSheet.Template
