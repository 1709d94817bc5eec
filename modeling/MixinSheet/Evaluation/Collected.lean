import MixinSheet.FlatRule
import MixinSheet.Sheet.Selector

/-!
# What a block gives

Running the statements of a block collects two things: declarations, which belong to the rule of the
ruleset around the block, and the rules of the rulesets inside it.
-/

namespace MixinSheet

/-- What a block has given so far. -/
structure Collected where
  /-- Declarations for the rule around the block, in order. -/
  declarations : List FlatDeclaration := []
  /-- Rules of the rulesets inside, in order. -/
  nested : List FlatRule := []
  deriving Inhabited

namespace Collected

/-- Adds a declaration. -/
def declare (out : Collected) (declaration : FlatDeclaration) : Collected :=
  { out with declarations := out.declarations ++ [declaration] }

/-- Adds the rules of a nested ruleset. -/
def nest (out : Collected) (rules : List FlatRule) : Collected :=
  { out with nested := out.nested ++ rules }

/-- The rules of a ruleset with the given selectors: its own rule, unless it has no declarations,
and those of the rulesets inside. -/
def finish (out : Collected) (selectors : List Selector) : List FlatRule :=
  let own := { selectors := selectors.map Selector.text, declarations := out.declarations }
  if out.declarations.isEmpty then out.nested else own :: out.nested

end Collected

end MixinSheet
