import MixinSheet.Source.Span

/-!
# Events

The steps of an evaluation that are worth following, in the order they happen. An event keeps the
span of a definition; its line and column are computed only when the event is written.
-/

namespace MixinSheet

/-- A step of an evaluation. -/
inductive Event where
  /-- A ruleset is about to be evaluated, with `depth` frames active. -/
  | evaluatingRuleset (selector : String) (depth : Nat)
  /-- Of the candidates for a call, some accept its arguments. -/
  | resolvedCall (call : String) (candidates accepted : Nat)
  /-- A definition is about to be expanded, `depth` calls deep. -/
  | expandingMixin (call : String) (definition : Span) (depth : Nat)
  /-- A function that is not registered is passed on. -/
  | passingFunction (name : String)
  /-- A stylesheet was evaluated. -/
  | evaluatedSheet (rules frames : Nat)
  deriving DecidableEq, Repr

namespace Event

/-- A property of an event. -/
inductive Field where
  | text (value : String)
  | count (value : Nat)
  deriving DecidableEq, Repr

/-- How important an event is. -/
def level : Event → String
  | .resolvedCall .. | .evaluatedSheet .. => "DEBUG"
  | _ => "TRACE"

/-- What happened. -/
def message : Event → String
  | .evaluatingRuleset .. => "Evaluating ruleset"
  | .resolvedCall .. => "Resolved mixin call"
  | .expandingMixin .. => "Expanding mixin"
  | .passingFunction _ => "Passing unknown function through"
  | .evaluatedSheet .. => "Evaluated stylesheet"

/-- The properties of an event by name. -/
def fields : Event → Except Overflow (List (String × Field))
  | .evaluatingRuleset selector depth =>
    return [("selector", .text selector), ("depth", .count depth)]
  | .resolvedCall call candidates accepted =>
    return [("call", .text call), ("candidates", .count candidates), ("matched", .count accepted)]
  | .expandingMixin call definition depth => do
    return [("call", .text call), ("definition", .text (← definition.text)),
      ("depth", .count depth)]
  | .passingFunction name => return [("function", .text name)]
  | .evaluatedSheet rules frames => return [("rules", .count rules), ("frames", .count frames)]

end Event

end MixinSheet
