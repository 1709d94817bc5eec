/-!
# Sets of characters

A class of characters is a list of code point ranges.
-/

namespace MixinSheet

/-- A set of characters, as inclusive ranges of code points. -/
abbrev CodePoints := List (Nat × Nat)

/-- Whether the code point of `c` lies in one of the ranges. -/
def CodePoints.has (ranges : CodePoints) (c : Char) : Bool :=
  ranges.any fun range => range.1 ≤ c.toNat && c.toNat ≤ range.2

end MixinSheet
