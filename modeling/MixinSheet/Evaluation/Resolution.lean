import MixinSheet.Evaluation.Expression

/-!
# Resolution of mixin calls

A call names its definitions by a path. The first segment finds every definition with that name that
is visible from the caller. Each further segment enters the rulesets found so far as namespaces and
takes the definitions with that name that stand directly inside. Of these candidates, those that
accept the arguments are called, in the order they were found.
-/

namespace MixinSheet.Resolution

variable {σ : Type} (settings : Settings σ)

/-- Binds the variables of a block in order; other statements are passed over. -/
def bindAll (frame : FrameId) : List Node → EvalM σ Unit
  | [] => return
  | .assignment assignment :: rest => do
    EvalM.assign settings frame assignment
    bindAll frame rest
  | _ :: rest => bindAll frame rest

/-- Makes a frame that holds the definitions and variables of a ruleset. -/
def openNamespace (space : Closure) : EvalM σ FrameId :=
  EvalM.inFrame space.home space.block fun frame => do
    EvalM.perform (.hoist frame space.block)
    bindAll settings frame space.definition.body
    return frame

/-- The definitions named `name` that stand directly in some namespaces. -/
def membersNamed (name : String) : List Closure → EvalM σ (List Closure)
  | [] => return []
  | space :: rest => do
    let frame ← openNamespace settings space
    let members ← EvalM.perform (.inspect (·.scopes.closuresIn frame))
    return members.filter (·.definition.isNamed name) ++ (← membersNamed name rest)

/-- Follows the further segments of a path from some candidates. -/
def descend : List Element → List Closure → EvalM σ (List Closure)
  | [], candidates => return candidates
  | segment :: rest, candidates => do
    let members ← membersNamed settings segment.value (candidates.filter (·.definition.isNamespace))
    if members.isEmpty then return [] else descend rest members

/-- The definitions that a path names, as seen from a frame. -/
def lookup (frame : FrameId) : List Element → EvalM σ (List Closure)
  | [] => return []
  | first :: rest => do
    let candidates ← EvalM.perform (.inspect (·.scopes.visible frame first.value))
    descend settings rest candidates

/-- Whether the arguments fit the patterns of the parameters they are for; `frame` is where patterns
are evaluated. -/
def fitsPatterns (frame : FrameId) : List Parameter → List Value → EvalM σ Bool
  | param :: params, arg :: args => do
    match param.guard with
    | none => fitsPatterns frame params args
    | some guard =>
      let pattern ← EvalM.evaluate settings frame guard
      if pattern.fits arg then fitsPatterns frame params args else return false
  | _, _ => return true

/-- Whether a definition can be called with some arguments: a ruleset takes none, a mixin takes at
least as many as it requires and at most one for each parameter. -/
def takes (closure : Closure) (args : List Value) : EvalM σ Bool :=
  match closure.definition with
  | .ruleset _ => return args.isEmpty
  | .mixin mixin =>
    if args.length < mixin.leastArity ∨ mixin.params.length < args.length then return false
    else fitsPatterns settings closure.home mixin.params args

/-- Those of the candidates that accept the arguments. -/
def taking (args : List Value) : List Closure → EvalM σ (List Closure)
  | [] => return []
  | candidate :: rest => do
    if ← takes settings candidate args then
      return candidate :: (← taking args rest)
    else
      taking args rest

/-- The definitions that a call with the given arguments runs. -/
def targets (call : Call) (args : List Value) (frame : FrameId) : EvalM σ (List Closure) := do
  let candidates ← lookup settings frame call.path
  if candidates.isEmpty then
    EvalM.fail { fault := .undefinedMixin call.pathText, text := call.text, span := call.span }
  else
    let accepted ← taking settings args candidates
    EvalM.perform (.emit fun _ => .resolvedCall call.text candidates.length accepted.length)
    if accepted.isEmpty then
      EvalM.fail { fault := .noMatchingMixin call.text, text := call.text, span := call.span }
    else
      return accepted

end MixinSheet.Resolution
