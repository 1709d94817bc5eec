import MixinSheet.Evaluation.State
import MixinSheet.FlatRule

/-!
# Stylesheets in few words

Small stylesheets show that a theorem says something. They are put together here from names alone;
spans and whatever else does not matter to them are left at their defaults.
-/

namespace MixinSheet.Sketch

/-- An element that follows another one at any distance. -/
def element (name : String) : Element where
  combinator := .descendant
  value := name

/-- A selector with one element. -/
def selector (name : String) : Selector where
  elements := [element name]
  span := default

/-- A call of the definitions with a name. -/
def call (name : String) (args : List Expression) : Call where
  path := [element name]
  args := args
  parenthesized := true
  span := default

/-- A ruleset whose selectors have one element each. -/
def ruleset (names : List String) (body : List Node) : Node :=
  .ruleset (names.map selector) body default

/-- A literal keyword. -/
def keyword (text : String) : Expression :=
  .literal (.keyword text) default

/-- The value of a variable. -/
def reference (name : String) : Expression :=
  .reference name default

/-- A declaration. -/
def declaration (property : String) (value : Expression) : Node :=
  .declaration { property, value, important := false, span := default }

/-- A declaration of a keyword. -/
def declare (property value : String) : Node :=
  declaration property (keyword value)

/-- The declaration of a keyword in an output rule. -/
def declared (property value : String) : FlatDeclaration where
  property := property
  value := .keyword value
  important := false

/-- An assignment. -/
def assign (name : String) (value : Expression) : Node :=
  .assignment { name, value, span := default }

/-- A parameter that has to be given. -/
def parameter (name : String) : Parameter where
  name := some name
  default := none
  guard := none

/-- A parameter that takes one keyword only. -/
def pattern (text : String) : Parameter where
  name := none
  default := none
  guard := some (keyword text)

/-- A mixin. -/
def mixin (name : String) (params : List Parameter) (body : List Node) : Node :=
  .mixin name params body default

/-- The default options but for the limit of calls, and no native functions. -/
def settings (limit : UInt64) : Settings Unit where
  options := { maxCallDepth := limit }
  functions := {}

/-- A mixin with parameters and an empty body, whose home is the root frame. -/
def closure (params : List Parameter) : Closure where
  site := [0]
  definition := .mixin { name := ".m", params, body := [], span := default }
  home := Scopes.root

/-- The root frame and a frame in it, which has the number 1. -/
def entered : State Unit where
  scopes := Scopes.initial.push Scopes.root
  callDepth := 0
  host := { natives := () }

end MixinSheet.Sketch
