import MixinSheet.Sheet.Expression
import MixinSheet.Sheet.Selector

/-!
# Stylesheets

A stylesheet is a block of nodes. Rulesets and mixins are definitions: they have a block of their
own and can be called by name. A node is identified by its site, the place it has in the tree, so
that two definitions that look alike are still told apart.
-/

namespace MixinSheet

/-- A parameter of a mixin: any part of it may be missing. -/
structure Parameter where
  /-- The variable that is bound. -/
  name : Option String
  /-- The value that is taken if there is no argument. -/
  default : Option Expression
  /-- The pattern that an argument has to fit. -/
  guard : Option Expression
  deriving Inhabited

namespace Parameter

/-- Whether the parameter needs an argument. -/
def needsArgument (param : Parameter) : Bool :=
  param.default.isNone

/-- The parameter as it stands in a stylesheet. -/
def text (param : Parameter) : String :=
  match param.guard with
  | some guard => guard.text
  | none =>
    let default := match param.default with
      | some value => ": " ++ value.text
      | none => ""
    param.name.getD "" ++ default

end Parameter

/-- A statement that calls every definition with the given path. -/
structure Call where
  path : List Element
  args : List Expression
  /-- Whether the arguments are written, be it as an empty pair of parentheses. -/
  parenthesized : Bool
  span : Span
  deriving Inhabited

namespace Call

/-- The path of the call. -/
def pathText (call : Call) : String :=
  Element.listText call.path

/-- The call as it stands in a stylesheet. -/
def text (call : Call) : String :=
  if call.parenthesized then
    call.pathText ++ "(" ++ ", ".intercalate (Expression.texts call.args) ++ ")"
  else
    call.pathText

end Call

/-- A property and its value. -/
structure Declaration where
  property : String
  value : Expression
  important : Bool
  span : Span
  deriving Inhabited

/-- The binding of a variable. -/
structure Assignment where
  name : String
  value : Expression
  span : Span
  deriving Inhabited

/-- A statement of a block. -/
inductive Node where
  | ruleset (selectors : List Selector) (body : List Node) (span : Span)
  | mixin (name : String) (params : List Parameter) (body : List Node) (span : Span)
  | call (call : Call)
  | declaration (declaration : Declaration)
  | assignment (assignment : Assignment)
  deriving Inhabited

/-- A block with the selectors it applies to. -/
structure Ruleset where
  selectors : List Selector
  body : List Node
  span : Span
  deriving Inhabited

/-- Whether the ruleset can be called by `name`. -/
def Ruleset.isNamed (ruleset : Ruleset) (name : String) : Bool :=
  ruleset.selectors.any (·.isNamed name)

/-- A block with parameters, which is run where it is called. -/
structure Mixin where
  name : String
  params : List Parameter
  body : List Node
  span : Span
  deriving Inhabited

namespace Mixin

/-- The number of parameters that need an argument. -/
def leastArity (mixin : Mixin) : Nat :=
  mixin.params.countP (·.needsArgument)

/-- Name and parameters. -/
def text (mixin : Mixin) : String :=
  mixin.name ++ "(" ++ ", ".intercalate (mixin.params.map Parameter.text) ++ ")"

end Mixin

/-- A node that can be called by name. -/
inductive Definition where
  | ruleset (ruleset : Ruleset)
  | mixin (mixin : Mixin)
  deriving Inhabited

namespace Definition

/-- Whether the definition can be called by `name`. -/
def isNamed : Definition → String → Bool
  | .ruleset r, name => r.isNamed name
  | .mixin m, name => m.name == name

/-- The block of the definition. -/
def body : Definition → List Node
  | .ruleset r => r.body
  | .mixin m => m.body

/-- The part of the source that the definition was read from. -/
def span : Definition → Span
  | .ruleset r => r.span
  | .mixin m => m.span

/-- Whether the definition is a ruleset, which also serves as a namespace. -/
def isNamespace : Definition → Bool
  | .ruleset _ => true
  | .mixin _ => false

end Definition

/-- The definition that a node is, if it is one. -/
def Node.definition? : Node → Option Definition
  | .ruleset selectors body span => some (.ruleset { selectors, body, span })
  | .mixin name params body span => some (.mixin { name, params, body, span })
  | _ => none

/-- The place of a node: the index it has in its block, followed by the site of the block. -/
abbrev Site := List Nat

/-- The site as a path from the outermost block inwards. -/
def Site.text (site : Site) : String :=
  "/".intercalate (site.reverse.map Nat.repr)

/-- The definitions of a block with their sites, in order; `site` is the site of the block. -/
def Node.definitionsFrom (site : Site) (index : Nat) : List Node → List (Site × Definition)
  | [] => []
  | node :: rest =>
    let later := definitionsFrom site (index + 1) rest
    match node.definition? with
    | some definition => (index :: site, definition) :: later
    | none => later

/-- The definitions of a block with their sites, in order. -/
def Node.definitions (site : Site) (body : List Node) : List (Site × Definition) :=
  Node.definitionsFrom site 0 body

/-- The definition that a path of indices leads to from a block, and its site; every index but the
last is that of a definition. -/
def Node.definitionAt? (site : Site) (body : List Node) :
    (path : List Nat) → Option (Site × Definition)
  | [] => none
  | index :: rest => do
    let definition ← (← body[index]?).definition?
    if rest.isEmpty then
      return (index :: site, definition)
    else
      Node.definitionAt? (index :: site) definition.body rest

/-- A block of the tree. -/
structure Block where
  /-- The site of the node that the block belongs to. -/
  site : Site
  body : List Node
  deriving Inhabited

/-- A whole stylesheet. -/
structure Stylesheet where
  nodes : List Node
  deriving Inhabited

/-- The site of the outermost block. -/
def Stylesheet.site : Site := [0]

/-- The outermost block. -/
def Stylesheet.block (sheet : Stylesheet) : Block where
  site := Stylesheet.site
  body := sheet.nodes

end MixinSheet
