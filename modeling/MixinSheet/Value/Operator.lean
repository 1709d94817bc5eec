/-!
# Arithmetic operators
-/

namespace MixinSheet

/-- The arithmetic operators of expressions. -/
inductive Operator where
  | add
  | subtract
  | multiply
  | divide
  deriving DecidableEq, Repr

namespace Operator

/-- The sign of the operator. -/
def symbol : Operator → String
  | .add => "+"
  | .subtract => "-"
  | .multiply => "*"
  | .divide => "/"

/-- How strongly the operator binds; multiplication and division bind more strongly. -/
def precedence : Operator → Nat
  | .add | .subtract => 1
  | .multiply | .divide => 2

/-- The operator on doubles. -/
def apply : Operator → Float → Float → Float
  | .add, a, b => a + b
  | .subtract, a, b => a - b
  | .multiply, a, b => a * b
  | .divide, a, b => a / b

end Operator

end MixinSheet
