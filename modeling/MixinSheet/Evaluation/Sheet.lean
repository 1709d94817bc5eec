import MixinSheet.Evaluation.Expansion

/-!
# Evaluation of stylesheets

A stylesheet is run as a block in the root frame, with no selectors around it. Its result is the
flat list of the rules that were collected.
-/

namespace MixinSheet

namespace Evaluation

variable {σ : Type} (settings : Settings σ)

/-- Runs a stylesheet in the root frame. -/
def runSheet (sheet : Stylesheet) : EvalM σ (List FlatRule) := do
  EvalM.perform (.hoist Scopes.root sheet.block)
  let out ← runBody settings [] Scopes.root Stylesheet.site 0 {} sheet.nodes
  EvalM.perform (.emit fun state => .evaluatedSheet out.nested.length state.scopes.frames.size)
  return out.nested

end Evaluation

namespace Stylesheet

/-- The rules of a stylesheet or the failure that ended its evaluation, together with the state that
was reached. `natives` is the state that the native functions start from. -/
def run {σ : Type} (sheet : Stylesheet) (settings : Settings σ) (natives : σ) :
    Except Failure (List FlatRule) × State σ :=
  (Evaluation.runSheet settings sheet).run settings (State.initial natives)

/-- The rules of a stylesheet. -/
def rules {σ : Type} (sheet : Stylesheet) (settings : Settings σ) (natives : σ) :
    Except Failure (List FlatRule) :=
  (sheet.run settings natives).1

end Stylesheet

end MixinSheet
