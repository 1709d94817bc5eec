import MixinSheet.Evaluation.Program
import MixinSheet.Value.Arithmetic

/-!
# Evaluation of expressions

Operands, items and arguments are evaluated from left to right, and the first failure ends the
evaluation. A call of a function that is not registered is not a failure: it stays a call, with the
texts of its arguments.
-/

namespace MixinSheet

/-- Fails with a fault of the given expression. -/
def Expression.refuse {σ α : Type} (expression : Expression) (fault : Fault) : HostM σ α :=
  throw { fault, text := expression.text, span := expression.span }

/-- The value of an operation, or the fault of the expression that it belongs to. -/
def Expression.conclude {σ : Type} (expression : Expression) :
    Except Fault Value → HostM σ Value
  | .ok value => return value
  | .error fault => expression.refuse fault

/-- Calls a function by name. -/
def Expression.callFunction {σ : Type} (settings : Settings σ) (expression : Expression)
    (name : String) (args : List Value) : HostM σ Value := do
  match settings.functions.find? name with
  | some function =>
    match ← Host.invoke function args with
    | .ok value => return value
    | .error message => expression.refuse (.invalidArguments name message)
  | none =>
    Host.emit (.passingFunction name)
    return .keyword (name ++ "(" ++ ", ".intercalate (Value.texts args) ++ ")")

namespace Expression

variable {σ : Type} (settings : Settings σ) (scopes : Scopes) (frame : FrameId)

mutual

/-- The value of an expression in a frame. -/
def evaluate : Expression → HostM σ Value
  | .literal value _ => return value
  | .reference name span =>
    match scopes.value? frame name with
    | some value => return value
    | none => throw { fault := .undefinedVariable name, text := name, span }
  | .operation op lhs rhs span => do
    let left ← evaluate lhs
    let right ← evaluate rhs
    (Expression.operation op lhs rhs span).conclude
      (left.combine op right settings.options.strictUnits)
  | .negate operand span => do
    let value ← evaluate operand
    (Expression.negate operand span).conclude value.negate
  | .list separator items _ => do
    return .list separator (← evaluateAll items)
  | .call name args span => do
    let values ← evaluateAll args
    (Expression.call name args span).callFunction settings name values

/-- The values of some expressions in order. -/
def evaluateAll : List Expression → HostM σ (List Value)
  | [] => return []
  | expression :: rest => do
    let value ← evaluate expression
    return value :: (← evaluateAll rest)

end

end Expression

namespace EvalM

variable {σ : Type}

/-- The value of an expression in a frame of the current scopes. -/
def evaluate (settings : Settings σ) (frame : FrameId) (expression : Expression) : EvalM σ Value :=
  observe fun scopes => expression.evaluate settings scopes frame

/-- The values of some expressions in a frame of the current scopes. -/
def evaluateAll (settings : Settings σ) (frame : FrameId) (expressions : List Expression) :
    EvalM σ (List Value) :=
  observe fun scopes => Expression.evaluateAll settings scopes frame expressions

/-- Binds a variable to the value of an expression. -/
def assign (settings : Settings σ) (frame : FrameId) (assignment : Assignment) : EvalM σ Unit := do
  let value ← evaluate settings frame assignment.value
  perform (.bind frame assignment.name value)

end EvalM

end MixinSheet
