import MixinSheet.Json.Basic
import MixinSheet.FlatRule
import MixinSheet.Value.Operator

/-!
# JSON form of values and output rules
-/

namespace MixinSheet

/-- The JSON form of an operator. -/
def Operator.toJson : Operator → Json
  | .add => .string "Add"
  | .subtract => .string "Subtract"
  | .multiply => .string "Multiply"
  | .divide => .string "Divide"

/-- Reads an operator. -/
def Operator.ofJson? (json : Json) : Option Operator :=
  match json.name? with
  | some "Add" => some .add
  | some "Subtract" => some .subtract
  | some "Multiply" => some .multiply
  | some "Divide" => some .divide
  | _ => none

/-- The JSON form of a separator. -/
def Separator.toJson : Separator → Json
  | .space => .string "Space"
  | .comma => .string "Comma"

/-- Reads a separator. -/
def Separator.ofJson? (json : Json) : Option Separator :=
  match json.name? with
  | some "Space" => some .space
  | some "Comma" => some .comma
  | _ => none

/-- The JSON form of a colour. -/
def Color.toJson (color : Color) : Json :=
  .object [("red", .ofFloat color.red), ("green", .ofFloat color.green),
    ("blue", .ofFloat color.blue), ("alpha", .ofFloat color.alpha)]

/-- Reads a colour. -/
def Color.ofJson? (json : Json) : Option Color := do
  let fields ← json.record? ["red", "green", "blue", "alpha"]
  return { red := ← Json.required fields "red" Json.float?
           green := ← Json.required fields "green" Json.float?
           blue := ← Json.required fields "blue" Json.float?
           alpha := ← Json.required fields "alpha" Json.float? }

namespace Value

mutual

/-- The JSON form of a value. -/
def toJson : Value → Json
  | .number n => .tagged "Number" (.ofFloat n)
  | .dimension n unit =>
    .tagged "Dimension" (.object [("value", .ofFloat n), ("unit", .string unit)])
  | .color c => .tagged "Color" c.toJson
  | .quoted text quote =>
    .tagged "Quoted" (.object [("text", .string text), ("quote", .string (String.singleton quote))])
  | .keyword text => .tagged "Keyword" (.string text)
  | .list separator items =>
    .tagged "List" (.object [("separator", separator.toJson), ("items", .array (toJsonAll items))])

/-- The JSON forms of some values in order. -/
def toJsonAll : List Value → List Json
  | [] => []
  | value :: rest => value.toJson :: toJsonAll rest

end

/-- Reads a value that is nested at most `height` deep. -/
def read : (height : Nat) → Json → Option Value
  | 0, _ => none
  | height + 1, json =>
    match json.variant? with
    | some ("Number", some content) => return .number (← content.float?)
    | some ("Dimension", some content) => do
      let fields ← content.record? ["value", "unit"]
      let n ← Json.required fields "value" Json.float?
      return .dimension n (← Json.required fields "unit" Json.string?)
    | some ("Color", some content) => return .color (← Color.ofJson? content)
    | some ("Quoted", some content) => do
      let fields ← content.record? ["text", "quote"]
      let text ← Json.required fields "text" Json.string?
      return .quoted text (← Json.required fields "quote" Json.char?)
    | some ("Keyword", some content) => return .keyword (← content.string?)
    | some ("List", some content) => do
      let fields ← content.record? ["separator", "items"]
      let separator ← Json.required fields "separator" Separator.ofJson?
      return .list separator (← Json.required fields "items" (Json.list? (read height)))
    | _ => none

/-- Reads a value. -/
def ofJson? (json : Json) : Option Value :=
  read json.height json

end Value

/-- The JSON form of an output declaration. -/
def FlatDeclaration.toJson (declaration : FlatDeclaration) : Json :=
  .object [("property", .string declaration.property), ("value", declaration.value.toJson),
    ("important", .bool declaration.important)]

/-- The JSON form of an output rule. -/
def FlatRule.toJson (rule : FlatRule) : Json :=
  .object [("selectors", .array (rule.selectors.map .string)),
    ("declarations", .array (rule.declarations.map FlatDeclaration.toJson))]

end MixinSheet
