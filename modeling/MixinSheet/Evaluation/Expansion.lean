import MixinSheet.Evaluation.Block

/-!
# Running mixin calls

A call runs the bodies of the definitions it resolves to, in its own place: their declarations and
rules are collected where the call stands, under the selectors around it. The names in a body are
looked up in a new frame inside the home of the definition. After a body has run, its definitions
become known to the caller.

Bodies may call each other without end, so calls are counted against `Options.maxCallDepth`. The
argument `budget` of `callRunner` bounds how deeply calls may be nested; `EvalM.run` makes it the
limit less the current depth and one more, so it runs out only inside a call that the count refuses.
-/

namespace MixinSheet

namespace Evaluation

variable {σ : Type} (settings : Settings σ)

/-- Binds the variable of a parameter, if it has one. -/
def bindParameter (frame : FrameId) (param : Parameter) (value : Value) : EvalM σ Unit :=
  match param.name with
  | some name => EvalM.perform (.bind frame name value)
  | none => return

/-- Binds the parameters of a mixin in order and gives the values that were bound. A parameter
without an argument takes its default, which sees the parameters before it; one that has no default
either is passed over. -/
def bindParameters (frame : FrameId) : List Parameter → List Value → EvalM σ (List Value)
  | [], _ => return []
  | param :: params, arg :: args => do
    bindParameter frame param arg
    return arg :: (← bindParameters frame params args)
  | param :: params, [] => do
    match param.default with
    | none => bindParameters frame params []
    | some default =>
      let value ← EvalM.evaluate settings frame default
      bindParameter frame param value
      return value :: (← bindParameters frame params [])

/-- Binds the parameters of a definition, and `@arguments` to the values of all of them. -/
def bindArguments (frame : FrameId) (args : List Value) : Definition → EvalM σ Unit
  | .ruleset _ => return
  | .mixin mixin => do
    let bound ← bindParameters settings frame mixin.params args
    EvalM.perform (.bind frame "@arguments" (.list .space bound))

/-- Runs the body of a definition in its frame. -/
def runDefinitionBody (closure : Closure) (args : List Value) (context : List Selector)
    (frame : FrameId) (out : Collected) : EvalM σ Collected := do
  bindArguments settings frame args closure.definition
  EvalM.perform (.hoist frame closure.block)
  runBody settings context frame closure.site 0 out closure.definition.body

/-- Runs a definition in the place of a call, and makes its definitions known to the caller. -/
def runDefinition (call : Call) (closure : Closure) (args : List Value) (context : List Selector)
    (caller : FrameId) (out : Collected) : EvalM σ Collected := do
  EvalM.perform (.emit fun state =>
    .expandingMixin call.text closure.definition.span state.callDepth)
  let (frame, out) ← EvalM.through
    (EvalM.inFrame closure.home closure.block fun frame => do
      return (frame, ← runDefinitionBody settings closure args context frame out))
    { text := call.text, span := call.span }
  EvalM.perform (.publish frame caller)
  return out

/-- Runs some definitions one after the other. -/
def runDefinitions (call : Call) (args : List Value) (context : List Selector) (caller : FrameId)
    (out : Collected) : List Closure → EvalM σ Collected
  | [] => return out
  | closure :: rest => do
    let out ← runDefinition settings call closure args context caller out
    runDefinitions call args context caller out rest

/-- Runs a mixin call. -/
def runCall (invocation : Invocation) : EvalM σ Collected := do
  let { call, context, frame, out } := invocation
  let args ← EvalM.evaluateAll settings frame call.args
  let targets ← Resolution.targets settings call args frame
  EvalM.counted settings call (runDefinitions settings call args context frame out targets)

/-- Runs mixin calls, with at most `budget` of them nested. -/
def callRunner (budget : Nat) : CallRunner σ := fun invocation state =>
  match budget with
  | 0 => (.error (EvalM.limitFailure settings invocation.call), state)
  | budget + 1 => (runCall settings invocation).runWith (callRunner budget) state

/-- How deeply calls may be nested from a state on, the one that is refused included. -/
def budget (state : State σ) : Nat :=
  settings.limit - state.callDepth + 1

/-- Whatever stands as deep as the state or deeper is refused before the budget is used up. -/
theorem limit_lt_budget {state : State σ} {depth : Nat} (h : state.callDepth ≤ depth) :
    settings.limit < depth + budget settings state := by
  rw [budget]
  omega

end Evaluation

/-- The outcome of a program and the state it leaves. -/
def EvalM.run {σ α : Type} (settings : Settings σ) (act : EvalM σ α) (state : State σ) :
    Except Failure α × State σ :=
  act.runWith (Evaluation.callRunner settings (Evaluation.budget settings state)) state

end MixinSheet
