import MixinSheet.Source.Span
import MixinSheet.Value.Basic
import MixinSheet.Value.Operator

/-!
# Expressions

Expressions as they stand in a stylesheet. `Expression.text` writes one with the parentheses it
needs under the usual precedences, operators of equal precedence grouping to the left; it is what
errors quote.
-/

namespace MixinSheet

/-- An expression together with the part of the source it was read from. -/
inductive Expression where
  | literal (value : Value) (span : Span)
  /-- A use of a variable. -/
  | reference (name : String) (span : Span)
  | operation (op : Operator) (lhs rhs : Expression) (span : Span)
  | negate (operand : Expression) (span : Span)
  | list (separator : Separator) (items : List Expression) (span : Span)
  /-- A call of a native function, or of a function that is passed on as it is. -/
  | call (name : String) (args : List Expression) (span : Span)
  deriving Inhabited

namespace Expression

/-- The part of the source that an expression was read from. -/
def span : Expression → Span
  | .literal _ span | .reference _ span | .operation _ _ _ span | .negate _ span
  | .list _ _ span | .call _ _ span => span

/-- How strongly the expression holds together; only operations can need parentheses. -/
def precedence : Expression → Nat
  | .operation op .. => op.precedence
  | _ => 3

/-- Puts parentheses around a text if they are needed. -/
def parenthesized (needed : Bool) (text : String) : String :=
  if needed then "(" ++ text ++ ")" else text

mutual

/-- The expression in normal form. -/
def text : Expression → String
  | .literal value _ => value.text
  | .reference name _ => name
  | .operation op lhs rhs _ =>
    parenthesized (lhs.precedence < op.precedence) lhs.text ++ " " ++ op.symbol ++ " " ++
      parenthesized (rhs.precedence ≤ op.precedence) rhs.text
  | .negate operand _ => "-" ++ parenthesized (operand.precedence < 3) operand.text
  | .list separator items _ => separator.text.intercalate (texts items)
  | .call name args _ => name ++ "(" ++ ", ".intercalate (texts args) ++ ")"

/-- The texts of some expressions in order. -/
def texts : List Expression → List String
  | [] => []
  | expression :: rest => expression.text :: texts rest

end

/-- The texts of some expressions are the texts of each of them. -/
theorem texts_eq_map (expressions : List Expression) :
    texts expressions = expressions.map text := by
  induction expressions with
  | nil => rfl
  | cons expression rest ih => rw [texts, ih, List.map_cons]

end Expression

end MixinSheet
