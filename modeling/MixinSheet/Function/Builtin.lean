import MixinSheet.Function.Table
import MixinSheet.Function.Template

/-!
# Built-in functions

Format strings, percentages, rounding and units. Each refuses arguments of the wrong number or kind
with a message.
-/

namespace MixinSheet.Builtin

/-- The text of an accepted number of arguments. -/
def arityText (least most : Nat) : String :=
  if least = most then Nat.repr least else Nat.repr least ++ " to " ++ Nat.repr most

/-- The message for a wrong number of arguments. -/
def arityMessage (least most count : Nat) : String :=
  "expected " ++ arityText least most ++ " argument(s), got " ++ Nat.repr count

/-- Fills the placeholders of the first argument with the texts of the others. -/
def formatString : List Value → Except String Value
  | [] => .error "expected a format string"
  | template :: args =>
    let pieces := Template.pieces template.unquoted
    match Template.firstMissing? args.length pieces with
    | some index =>
      .error ("placeholder \x7b" ++ Nat.repr index ++ "\x7d has no argument (" ++
        Nat.repr args.length ++ " supplied)")
    | none => .ok (.keyword (String.ofList (Template.fill (Value.unquotedAll args) pieces)))

/-- A plain number in percent. -/
def percentage : List Value → Except String Value
  | [.number n] => .ok (.dimension (n * 100.0) "%")
  | [other] => .error ("expected a number, got " ++ other.kindName)
  | args => .error (arityMessage 1 1 args.length)

/-- A number or a dimension rounded by `f`; `name` stands in the message. -/
def roundedBy (name : String) (f : Float → Float) : List Value → Except String Value
  | [.number n] => .ok (.number (f n))
  | [.dimension n unit] => .ok (.dimension (f n) unit)
  | [other] => .error (name ++ " expects a number or dimension, got " ++ other.kindName)
  | args => .error (arityMessage 1 1 args.length)

/-- A magnitude with the unit that a value names. -/
def withUnit (magnitude : Float) : Value → Except String Value
  | .keyword unit => .ok (.dimension magnitude unit)
  | .quoted unit _ => .ok (.dimension magnitude unit)
  | other => .error ("expected a unit, got " ++ other.kindName)

/-- The magnitude of a number or a dimension. -/
def magnitude (value : Value) : Except String Float :=
  match value.magnitude? with
  | some n => .ok n
  | none => .error ("expected a number or dimension, got " ++ value.kindName)

/-- A magnitude without its unit, or with another unit. -/
def unit : List Value → Except String Value
  | [value] => do return .number (← magnitude value)
  | [value, name] => do withUnit (← magnitude value) name
  | args => .error (arityMessage 1 2 args.length)

/-- The built-in functions by name. -/
def table {σ : Type} : FunctionTable σ :=
  ({} : FunctionTable σ)
    |>.insert "formatString" (.ofPure formatString)
    |>.insert "percentage" (.ofPure percentage)
    |>.insert "round" (.ofPure (roundedBy "round" Number.round))
    |>.insert "ceil" (.ofPure (roundedBy "ceil" Number.ceil))
    |>.insert "floor" (.ofPure (roundedBy "floor" Number.floor))
    |>.insert "unit" (.ofPure unit)

end MixinSheet.Builtin
