import MixinSheet.Evaluation.Resolution

/-!
# Running blocks

A block is run in three steps: a frame is made for it, its definitions are registered there, and its
statements are run in order. Variables are bound, declarations are collected and nested rulesets
give further rules. A mixin call may lead to any other block, so it does not follow the nesting of
the tree and stays a call of the program.
-/

namespace MixinSheet.Evaluation

variable {σ : Type} (settings : Settings σ)

/-- Runs a declaration, which needs selectors to apply to. -/
def runDeclaration (context : List Selector) (frame : FrameId) (out : Collected)
    (declaration : Declaration) : EvalM σ Collected := do
  if context.isEmpty then
    EvalM.fail { fault := .declarationOutsideRuleset declaration.property,
                 text := declaration.property, span := declaration.span }
  else
    let value ← EvalM.evaluate settings frame declaration.value
    let { property, important, .. } := declaration
    return out.declare { property, value, important }

/-- Runs a ruleset inside the frame `parent`, given how its statements are run. -/
def runRulesetWith (site : Site) (ruleset : Ruleset) (context : List Selector) (parent : FrameId)
    (runStatements : List Selector → FrameId → EvalM σ Collected) : EvalM σ (List FlatRule) := do
  let selectors := Selector.nestAll context ruleset.selectors
  let first := (ruleset.selectors.head?.map Selector.text).getD ""
  let block := { site, body := ruleset.body }
  EvalM.perform (.emit fun state => .evaluatingRuleset first state.scopes.depth)
  let out ← EvalM.inFrame parent block fun frame => do
    EvalM.perform (.hoist frame block)
    runStatements selectors frame
  return out.finish selectors

mutual

/-- Runs one statement of a block; `site` is the site of the statement. -/
def runNode (context : List Selector) (frame : FrameId) (site : Site) (out : Collected) :
    Node → EvalM σ Collected
  | .assignment assignment => do
    EvalM.assign settings frame assignment
    return out
  | .declaration declaration => runDeclaration settings context frame out declaration
  | .call call => .call { call, context, frame, out } .done
  | .ruleset selectors body span => do
    let rules ← runRulesetWith site { selectors, body, span } context frame fun context frame =>
      runBody context frame site 0 {} body
    return out.nest rules
  | .mixin .. => return out

/-- Runs the statements of a block from the one with the given index on; `site` is the site of the
block. -/
def runBody (context : List Selector) (frame : FrameId) (site : Site) (index : Nat)
    (out : Collected) : List Node → EvalM σ Collected
  | [] => return out
  | node :: rest => do
    let out ← runNode context frame (index :: site) out node
    runBody context frame site (index + 1) out rest

end

/-- Runs a ruleset inside the frame `parent`. -/
def runRuleset (site : Site) (ruleset : Ruleset) (context : List Selector) (parent : FrameId) :
    EvalM σ (List FlatRule) :=
  runRulesetWith site ruleset context parent fun context frame =>
    runBody settings context frame site 0 {} ruleset.body

end MixinSheet.Evaluation
