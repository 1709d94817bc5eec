import MixinSheet.Number.Binary

/-!
# JSON values

The form in which stylesheets, positions and diagnostics are exchanged. A number is either whole, as
it was written, or a double. Readers give `none` for a value of the wrong form. A record may be
written as an object, whose other fields are ignored, or as the array of its values in order.
-/

namespace MixinSheet

/-- A JSON value. -/
inductive Json where
  | null
  | bool (value : Bool)
  /-- A number that is written without a fraction and without an exponent. -/
  | integer (value : Int)
  /-- Any other number. -/
  | real (value : Float)
  | string (value : String)
  | array (items : List Json)
  | object (fields : List (String × Json))
  deriving Inhabited

namespace Json

mutual

/-- How deeply the value is nested. -/
def height : Json → Nat
  | .array items => heightItems items + 1
  | .object fields => heightFields fields + 1
  | _ => 1

/-- The height of the highest item. -/
def heightItems : List Json → Nat
  | [] => 0
  | item :: rest => max item.height (heightItems rest)

/-- The height of the highest field. -/
def heightFields : List (String × Json) → Nat
  | [] => 0
  | field :: rest => max (heightField field) (heightFields rest)

/-- The height of the value of a field. -/
def heightField : String × Json → Nat
  | (_, value) => value.height

end

/-! ## Writing -/

/-- A word as a number. -/
def ofWord (value : UInt64) : Json :=
  .integer value.toNat

/-- A double as a number; JSON has no infinities and no NaN, and they become null. -/
def ofFloat (value : Float) : Json :=
  if Number.isFinite value then .real value else .null

/-- Null, or the value. -/
def ofOption {α : Type} (write : α → Json) : Option α → Json
  | some value => write value
  | none => .null

/-- A field that is left out if there is no value. -/
def fieldIfSome {α : Type} (key : String) (write : α → Json) : Option α → List (String × Json)
  | some value => [(key, write value)]
  | none => []

/-- A value that belongs to one of several kinds, under the name of its kind. -/
def tagged (tag : String) (content : Json) : Json :=
  .object [(tag, content)]

/-! ## Reading -/

/-- The fields of a record with the given keys. An object has them in any order, but no key twice;
an array has all of their values in the order of the keys. -/
def record? (keys : List String) : Json → Option (List (String × Json))
  | .object fields =>
    if keys.all fun key => fields.countP (·.1 == key) ≤ 1 then some fields else none
  | .array items => if items.length = keys.length then some (keys.zip items) else none
  | _ => none

/-- The items of an array. -/
def items? : Json → Option (List Json)
  | .array items => some items
  | _ => none

/-- A text. -/
def string? : Json → Option String
  | .string value => some value
  | _ => none

/-- A truth value. -/
def bool? : Json → Option Bool
  | .bool value => some value
  | _ => none

/-- A text of exactly one character. -/
def char? : Json → Option Char
  | .string value =>
    match value.toList with
    | [c] => some c
    | _ => none
  | _ => none

/-- A whole number from 0 to 2^64 - 1, written as such. -/
def word? : Json → Option UInt64
  | .integer (.ofNat n) => if n < UInt64.size then some (UInt64.ofNat n) else none
  | _ => none

/-- The nearest double of any number that is in their range. -/
def float? : Json → Option Float
  | .integer n => (some (Float.ofInt n)).filter Number.isFinite
  | .real x => (some x).filter Number.isFinite
  | _ => none

/-- Reads each of some values. -/
def readAll {α : Type} (read : Json → Option α) : List Json → Option (List α)
  | [] => some []
  | item :: rest => do return (← read item) :: (← readAll read rest)

/-- Reads an array. -/
def list? {α : Type} (read : Json → Option α) (json : Json) : Option (List α) := do
  readAll read (← json.items?)

/-- The kind of a value and what stands under it: a name alone, or an object with one field. -/
def variant? : Json → Option (String × Option Json)
  | .string tag => some (tag, none)
  | .object [(tag, content)] => some (tag, some content)
  | _ => none

/-- The name of a kind that has no content. -/
def name? (json : Json) : Option String :=
  match json.variant? with
  | some (tag, none) => some tag
  | some (tag, some .null) => some tag
  | _ => none

/-- Reads a field that has to be there. -/
def required {α : Type} (fields : List (String × Json)) (key : String) (read : Json → Option α) :
    Option α :=
  (fields.lookup key).bind read

/-- Reads a field that may be missing or null. -/
def optional {α : Type} (fields : List (String × Json)) (key : String) (read : Json → Option α) :
    Option (Option α) :=
  match fields.lookup key with
  | none => some none
  | some .null => some none
  | some json => (read json).map some

end Json

end MixinSheet
