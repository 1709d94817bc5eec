import MixinSheet.Value.Basic
import MixinSheet.Fault

/-!
# Arithmetic on values

Numbers, dimensions and colours can be combined; strings, keywords and lists cannot. The unit of a
dimension survives arithmetic with a plain number, and of two units the left one wins unless units
are strict. A colour is combined channel by channel, and the opacity is the left colour's, or the
right one's if the left value is a number. Division by zero, in any channel, is refused.
-/

namespace MixinSheet.Value

/-- Refuses a division by a zero of either sign. -/
def checkDivisor (op : Operator) (divisor : Float) : Except Fault Unit :=
  if op = .divide ∧ divisor == 0.0 then .error .divideByZero else .ok ()

/-- The result of a binary operation. -/
def combine (lhs : Value) (op : Operator) (rhs : Value) (strictUnits : Bool) :
    Except Fault Value :=
  match lhs, rhs with
  | .number a, .number b => do
    checkDivisor op b
    return .number (op.apply a b)
  | .dimension a unit, .number b => do
    checkDivisor op b
    return .dimension (op.apply a b) unit
  | .number a, .dimension b unit => do
    checkDivisor op b
    return .dimension (op.apply a b) unit
  | .dimension a left, .dimension b right => do
    if strictUnits ∧ left ≠ right then
      throw (.incompatibleUnits op left right)
    checkDivisor op b
    return .dimension (op.apply a b) left
  | .color a, .number b => do
    checkDivisor op b
    return .color (a.map (op.apply · b))
  | .number a, .color b => do
    b.channels.forM (checkDivisor op)
    return .color (b.map (op.apply a ·))
  | .color a, .color b => do
    b.channels.forM (checkDivisor op)
    return .color (a.zipWith op.apply b)
  | _, _ => .error (.invalidOperation op lhs.kindName rhs.kindName)

/-- The negation of a number or a dimension. -/
def negate : Value → Except Fault Value
  | .number a => .ok (.number (-a))
  | .dimension a unit => .ok (.dimension (-a) unit)
  | value => .error (.invalidOperation .subtract "" value.kindName)

end MixinSheet.Value
