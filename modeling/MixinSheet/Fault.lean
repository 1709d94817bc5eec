import MixinSheet.Value.Operator

/-!
# Faults

Every reason for which evaluation can stop, with its message and its code.
-/

namespace MixinSheet

/-- Why evaluation stopped. -/
inductive Fault where
  /-- No frame in scope binds the variable. -/
  | undefinedVariable (name : String)
  /-- No definition in scope has the path. -/
  | undefinedMixin (path : String)
  /-- Definitions have the path, but none takes the arguments. -/
  | noMatchingMixin (call : String)
  /-- The divisor, or a channel of it, is zero. -/
  | divideByZero
  /-- The operator is not defined on the two kinds of values; negation has no left kind. -/
  | invalidOperation (op : Operator) (lhs rhs : String)
  /-- Two different units meet while units are strict. -/
  | incompatibleUnits (op : Operator) (lhs rhs : String)
  /-- A native function refused its arguments. -/
  | invalidArguments (function message : String)
  /-- A declaration has no selector to apply to. -/
  | declarationOutsideRuleset (property : String)
  /-- Calls are nested more deeply than the limit allows. -/
  | recursionLimit (call : String) (limit : UInt64)
  deriving DecidableEq, Repr

namespace Fault

/-- The message of a fault. -/
def message : Fault → String
  | .undefinedVariable name => "variable " ++ name ++ " is undefined"
  | .undefinedMixin path => path ++ " is undefined"
  | .noMatchingMixin call => "No matching definition was found for `" ++ call ++ "`"
  | .divideByZero => "Attempted to divide by zero."
  | .invalidOperation op lhs rhs =>
    "Cannot apply '" ++ op.symbol ++ "' to " ++ lhs ++ " and " ++ rhs
  | .incompatibleUnits op lhs rhs =>
    "Incompatible units: " ++ lhs ++ " " ++ op.symbol ++ " " ++ rhs
  | .invalidArguments function message =>
    "Invalid arguments for function '" ++ function ++ "': " ++ message
  | .declarationOutsideRuleset property =>
    "Properties must be inside selector blocks, they cannot be in the root: " ++ property
  | .recursionLimit call limit =>
    "Maximum mixin call depth (" ++ Nat.repr limit.toNat ++ ") exceeded calling " ++ call

/-- The code of a fault. -/
def code : Fault → String
  | .undefinedVariable _ => "L-2-1"
  | .undefinedMixin _ => "L-2-2"
  | .noMatchingMixin _ => "L-2-3"
  | .divideByZero => "L-2-4"
  | .invalidOperation .. => "L-2-5"
  | .incompatibleUnits .. => "L-2-6"
  | .invalidArguments .. => "L-2-7"
  | .declarationOutsideRuleset _ => "L-2-8"
  | .recursionLimit .. => "L-2-9"

end Fault

end MixinSheet
