import MixinSheet.Value.Basic

/-!
# Output rules

What evaluation produces: a flat list of rules, each with the texts of its selectors and its
declarations, and the style sheet that they are written as.
-/

namespace MixinSheet

/-- A declaration with its value. -/
structure FlatDeclaration where
  property : String
  value : Value
  important : Bool
  deriving Inhabited

/-- A rule without nesting. -/
structure FlatRule where
  selectors : List String
  declarations : List FlatDeclaration
  deriving Inhabited

/-- Property and value. -/
def FlatDeclaration.text (declaration : FlatDeclaration) : String :=
  declaration.property ++ ": " ++ declaration.value.text ++
    if declaration.important then " !important" else ""

namespace FlatRule

/-- The rule with one selector and one declaration a line. -/
def text (rule : FlatRule) : String :=
  ",\n".intercalate rule.selectors ++ " \x7b\n" ++
    String.join (rule.declarations.map fun declaration => "  " ++ declaration.text ++ ";\n") ++
    "\x7d"

/-- The style sheet of some rules: an empty line between two of them, and a line break at the end of
a sheet that is not empty. -/
def render (rules : List FlatRule) : String :=
  let sheet := "\n\n".intercalate (rules.map text)
  if sheet.isEmpty then sheet else sheet ++ "\n"

end FlatRule

end MixinSheet
