import MixinSheet.Fault
import MixinSheet.Source.Span

/-!
# Failures

A failure is a fault together with the expression or call that it arose in. On its way out of mixin
bodies it collects the calls that led there, the innermost first.
-/

namespace MixinSheet

/-- A call that was being expanded. -/
structure OpenCall where
  text : String
  span : Span
  deriving DecidableEq, Repr

/-- Why and where evaluation stopped. -/
structure Failure where
  fault : Fault
  /-- The failing expression or call. -/
  text : String
  span : Span
  /-- The calls that were being expanded, the innermost first. -/
  openCalls : List OpenCall := []
  deriving DecidableEq, Repr

namespace Failure

/-- The failure as seen from outside `call`, which lies around the calls recorded so far. -/
def through (failure : Failure) (call : OpenCall) : Failure :=
  { failure with openCalls := failure.openCalls ++ [call] }

/-- The outermost call. -/
def outermostCall? (failure : Failure) : Option OpenCall :=
  failure.openCalls.getLast?

/-- The failure in one line. -/
def display (failure : Failure) : Except Overflow String := do
  return failure.fault.message ++ " (`" ++ failure.text ++ "` at " ++ (← failure.span.text) ++ ")"

end Failure

end MixinSheet
