import MixinSheet.Json.Source
import MixinSheet.Json.Value
import MixinSheet.Sheet.Node

/-!
# JSON form of stylesheets
-/

namespace MixinSheet

/-- The JSON form of a combinator. -/
def Combinator.toJson : Combinator → Json
  | .descendant => .string "Descendant"
  | .child => .string "Child"
  | .adjacent => .string "Adjacent"
  | .sibling => .string "Sibling"
  | .attached => .string "Attached"

/-- Reads a combinator. -/
def Combinator.ofJson? (json : Json) : Option Combinator :=
  match json.name? with
  | some "Descendant" => some .descendant
  | some "Child" => some .child
  | some "Adjacent" => some .adjacent
  | some "Sibling" => some .sibling
  | some "Attached" => some .attached
  | _ => none

/-- The JSON form of an element. -/
def Element.toJson (element : Element) : Json :=
  .object [("combinator", element.combinator.toJson), ("value", .string element.value)]

/-- Reads an element. -/
def Element.ofJson? (json : Json) : Option Element := do
  let fields ← json.record? ["combinator", "value"]
  return { combinator := ← Json.required fields "combinator" Combinator.ofJson?
           value := ← Json.required fields "value" Json.string? }

/-- The JSON form of a selector. -/
def Selector.toJson (selector : Selector) : Json :=
  .object [("elements", .array (selector.elements.map Element.toJson)),
    ("source_info", selector.span.toJson)]

/-- Reads a selector. -/
def Selector.ofJson? (json : Json) : Option Selector := do
  let fields ← json.record? ["elements", "source_info"]
  return { elements := ← Json.required fields "elements" (Json.list? Element.ofJson?)
           span := ← Json.required fields "source_info" Span.ofJson? }

namespace Expression

/-- An expression with its kind and its span. -/
def formed (kind : Json) (span : Span) : Json :=
  .object [("kind", kind), ("source_info", span.toJson)]

mutual

/-- The JSON form of an expression. -/
def toJson : Expression → Json
  | .literal value span => formed (.tagged "Literal" value.toJson) span
  | .reference name span => formed (.tagged "Variable" (.string name)) span
  | .operation op lhs rhs span =>
    formed (.tagged "Operation"
      (.object [("op", op.toJson), ("lhs", lhs.toJson), ("rhs", rhs.toJson)])) span
  | .negate operand span => formed (.tagged "Negate" operand.toJson) span
  | .list separator items span =>
    formed (.tagged "List"
      (.object [("separator", separator.toJson), ("items", .array (toJsonAll items))])) span
  | .call name args span =>
    formed (.tagged "Call"
      (.object [("name", .string name), ("args", .array (toJsonAll args))])) span

/-- The JSON forms of some expressions in order. -/
def toJsonAll : List Expression → List Json
  | [] => []
  | expression :: rest => expression.toJson :: toJsonAll rest

end

/-- Reads an expression that is nested at most `height` deep. -/
def read : (height : Nat) → Json → Option Expression
  | 0, _ => none
  | height + 1, json => do
    let fields ← json.record? ["kind", "source_info"]
    let span ← Json.required fields "source_info" Span.ofJson?
    match ← Json.required fields "kind" Json.variant? with
    | ("Literal", some content) => return .literal (← Value.ofJson? content) span
    | ("Variable", some content) => return .reference (← content.string?) span
    | ("Operation", some content) =>
      let fields ← content.record? ["op", "lhs", "rhs"]
      let op ← Json.required fields "op" Operator.ofJson?
      let lhs ← Json.required fields "lhs" (read height)
      return .operation op lhs (← Json.required fields "rhs" (read height)) span
    | ("Negate", some content) => return .negate (← read height content) span
    | ("List", some content) =>
      let fields ← content.record? ["separator", "items"]
      let separator ← Json.required fields "separator" Separator.ofJson?
      return .list separator (← Json.required fields "items" (Json.list? (read height))) span
    | ("Call", some content) =>
      let fields ← content.record? ["name", "args"]
      let name ← Json.required fields "name" Json.string?
      return .call name (← Json.required fields "args" (Json.list? (read height))) span
    | _ => none

/-- Reads an expression. -/
def ofJson? (json : Json) : Option Expression :=
  read json.height json

end Expression

/-- The JSON form of a parameter. -/
def Parameter.toJson (param : Parameter) : Json :=
  .object [("name", .ofOption .string param.name),
    ("default", .ofOption Expression.toJson param.default),
    ("guard", .ofOption Expression.toJson param.guard)]

/-- Reads a parameter. -/
def Parameter.ofJson? (json : Json) : Option Parameter := do
  let fields ← json.record? ["name", "default", "guard"]
  return { name := ← Json.optional fields "name" Json.string?
           default := ← Json.optional fields "default" Expression.ofJson?
           guard := ← Json.optional fields "guard" Expression.ofJson? }

/-- The JSON form of a mixin call. -/
def Call.toJson (call : Call) : Json :=
  .object [("path", .array (call.path.map Element.toJson)),
    ("args", .array (Expression.toJsonAll call.args)),
    ("parenthesized", .bool call.parenthesized), ("source_info", call.span.toJson)]

/-- Reads a mixin call. -/
def Call.ofJson? (json : Json) : Option Call := do
  let fields ← json.record? ["path", "args", "parenthesized", "source_info"]
  return { path := ← Json.required fields "path" (Json.list? Element.ofJson?)
           args := ← Json.required fields "args" (Json.list? Expression.ofJson?)
           parenthesized := ← Json.required fields "parenthesized" Json.bool?
           span := ← Json.required fields "source_info" Span.ofJson? }

/-- The JSON form of a declaration. -/
def Declaration.toJson (declaration : Declaration) : Json :=
  .object [("property", .string declaration.property), ("value", declaration.value.toJson),
    ("important", .bool declaration.important), ("source_info", declaration.span.toJson)]

/-- Reads a declaration. -/
def Declaration.ofJson? (json : Json) : Option Declaration := do
  let fields ← json.record? ["property", "value", "important", "source_info"]
  return { property := ← Json.required fields "property" Json.string?
           value := ← Json.required fields "value" Expression.ofJson?
           important := ← Json.required fields "important" Json.bool?
           span := ← Json.required fields "source_info" Span.ofJson? }

/-- The JSON form of an assignment. -/
def Assignment.toJson (assignment : Assignment) : Json :=
  .object [("name", .string assignment.name), ("value", assignment.value.toJson),
    ("source_info", assignment.span.toJson)]

/-- Reads an assignment. -/
def Assignment.ofJson? (json : Json) : Option Assignment := do
  let fields ← json.record? ["name", "value", "source_info"]
  return { name := ← Json.required fields "name" Json.string?
           value := ← Json.required fields "value" Expression.ofJson?
           span := ← Json.required fields "source_info" Span.ofJson? }

namespace Node

mutual

/-- The JSON form of a node. -/
def toJson : Node → Json
  | .ruleset selectors body span =>
    .tagged "Ruleset" (.object [("selectors", .array (selectors.map Selector.toJson)),
      ("children", .array (toJsonAll body)), ("source_info", span.toJson)])
  | .mixin name params body span =>
    .tagged "MixinDefinition" (.object [("name", .string name),
      ("params", .array (params.map Parameter.toJson)), ("children", .array (toJsonAll body)),
      ("source_info", span.toJson)])
  | .call c => .tagged "MixinCall" c.toJson
  | .declaration d => .tagged "Declaration" d.toJson
  | .assignment a => .tagged "Variable" a.toJson

/-- The JSON forms of some nodes in order. -/
def toJsonAll : List Node → List Json
  | [] => []
  | node :: rest => node.toJson :: toJsonAll rest

end

/-- Reads a node that is nested at most `height` deep. -/
def read : (height : Nat) → Json → Option Node
  | 0, _ => none
  | height + 1, json =>
    match json.variant? with
    | some ("Ruleset", some content) => do
      let fields ← content.record? ["selectors", "children", "source_info"]
      let selectors ← Json.required fields "selectors" (Json.list? Selector.ofJson?)
      let body ← Json.required fields "children" (Json.list? (read height))
      return .ruleset selectors body (← Json.required fields "source_info" Span.ofJson?)
    | some ("MixinDefinition", some content) => do
      let fields ← content.record? ["name", "params", "children", "source_info"]
      let name ← Json.required fields "name" Json.string?
      let params ← Json.required fields "params" (Json.list? Parameter.ofJson?)
      let body ← Json.required fields "children" (Json.list? (read height))
      return .mixin name params body (← Json.required fields "source_info" Span.ofJson?)
    | some ("MixinCall", some content) => return .call (← Call.ofJson? content)
    | some ("Declaration", some content) => return .declaration (← Declaration.ofJson? content)
    | some ("Variable", some content) => return .assignment (← Assignment.ofJson? content)
    | _ => none

/-- Reads a node. -/
def ofJson? (json : Json) : Option Node :=
  read json.height json

end Node

/-- The JSON form of a stylesheet. -/
def Stylesheet.toJson (sheet : Stylesheet) : Json :=
  .object [("nodes", .array (Node.toJsonAll sheet.nodes))]

/-- Reads a stylesheet. -/
def Stylesheet.ofJson? (json : Json) : Option Stylesheet := do
  let fields ← json.record? ["nodes"]
  return { nodes := ← Json.required fields "nodes" (Json.list? Node.ofJson?) }

end MixinSheet
