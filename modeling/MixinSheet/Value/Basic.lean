import MixinSheet.Value.Color

/-!
# Values

What an expression evaluates to, its text, and two notions of equality: `==` compares everything,
`Value.fits` leaves the delimiters of strings out of account.
-/

namespace MixinSheet

/-- What stands between the items of a list. -/
inductive Separator where
  | space
  | comma
  deriving DecidableEq, Repr

/-- The text between two items. -/
def Separator.text : Separator → String
  | .space => " "
  | .comma => ", "

/-- The value of an expression. -/
inductive Value where
  /-- A plain number. -/
  | number (magnitude : Float)
  /-- A number with a unit. -/
  | dimension (magnitude : Float) (unit : String)
  | color (color : Color)
  /-- A string together with the character that delimits it. -/
  | quoted (text : String) (quote : Char)
  /-- A bare word, or any text that is passed on as it is. -/
  | keyword (text : String)
  | list (separator : Separator) (items : List Value)
  deriving Inhabited

namespace Value

/-- The name of the kind of value. -/
def kindName : Value → String
  | .number _ => "number"
  | .dimension .. => "dimension"
  | .color _ => "color"
  | .quoted .. => "string"
  | .keyword _ => "keyword"
  | .list .. => "list"

/-- The magnitude of a number or a dimension. -/
def magnitude? : Value → Option Float
  | .number n => some n
  | .dimension n _ => some n
  | _ => none

mutual

/-- The value as it stands in a stylesheet. -/
def text : Value → String
  | .number n => Number.text n
  | .dimension n unit => Number.text n ++ unit
  | .color c => c.text
  | .quoted text quote => String.singleton quote ++ text ++ String.singleton quote
  | .keyword text => text
  | .list separator items => separator.text.intercalate (texts items)

/-- The texts of some values in order. -/
def texts : List Value → List String
  | [] => []
  | value :: rest => value.text :: texts rest

end

mutual

/-- The text of the value with strings at any depth without their delimiters. -/
def unquoted : Value → String
  | .quoted text _ => text
  | .list separator items => separator.text.intercalate (unquotedAll items)
  | value => value.text

/-- The texts of some values without delimiters, in order. -/
def unquotedAll : List Value → List String
  | [] => []
  | value :: rest => value.unquoted :: unquotedAll rest

end

mutual

/-- Equality of kind and content, numbers being compared as doubles. -/
def beq : Value → Value → Bool
  | .number a, .number b => a == b
  | .dimension a unit, .dimension b unit' => a == b && unit == unit'
  | .color a, .color b => a == b
  | .quoted a quote, .quoted b quote' => a == b && quote == quote'
  | .keyword a, .keyword b => a == b
  | .list separator items, .list separator' items' => separator == separator' && beqAll items items'
  | _, _ => false

/-- Equality of two lists, item by item. -/
def beqAll : List Value → List Value → Bool
  | [], [] => true
  | a :: as, b :: bs => a.beq b && beqAll as bs
  | _, _ => false

end

instance : BEq Value := ⟨beq⟩

mutual

/-- Whether an argument fits a pattern: as `==`, but strings are compared without their delimiters
at any depth of lists. -/
def fits : Value → Value → Bool
  | .quoted a _, .quoted b _ => a == b
  | .list separator items, .list separator' items' =>
    separator == separator' && fitsAll items items'
  | pattern, argument => pattern == argument

/-- Whether two lists have the same length and fit item by item. -/
def fitsAll : List Value → List Value → Bool
  | [], [] => true
  | a :: as, b :: bs => a.fits b && fitsAll as bs
  | _, _ => false

end

/-- The texts of some values are the texts of each of them. -/
theorem texts_eq_map (values : List Value) : texts values = values.map text := by
  induction values with
  | nil => rfl
  | cons value rest ih => rw [texts, ih, List.map_cons]

/-- Some values lose their quotes one by one. -/
theorem unquotedAll_eq_map (values : List Value) : unquotedAll values = values.map unquoted := by
  induction values with
  | nil => rfl
  | cons value rest ih => rw [unquotedAll, ih, List.map_cons]

end Value

end MixinSheet
