import MixinSheet.Proofs.Environment
import MixinSheet.Proofs.Sketch

/-!
# Flattening without calls

As long as nothing is called, the rules of a stylesheet can be read off its tree, without frames and
without anything being collected. Each ruleset that has declarations gives one rule, in the order in
which rulesets start. The selectors of the rule are those of the rulesets on the way to it, nested
from the outside in. The value of a declaration depends on the assignments that come before it in
its own block and, for each block around, on those that come before the ruleset in which it lies;
assignments that come later do not count.

## Key results

- `Stylesheet.flatRules`: the rules of a stylesheet without calls, read off the tree
- `rules_eq_flatRules`: evaluation gives these rules, if it succeeds
-/

namespace MixinSheet

open Evaluation

variable {σ : Type}

/-! ## Rules read off the tree -/

/-- A declaration and the assignments it depends on, the latest first. -/
structure ScopedDeclaration where
  scope : List Assignment
  declaration : Declaration

/-- A ruleset of the tree. -/
structure Occurrence where
  /-- The selectors of the rulesets around it, the outermost first, and its own. -/
  path : List (List Selector)
  /-- The assignments before it in the blocks around it, the latest first. -/
  scope : List Assignment
  body : List Node

namespace Node

/-- The assignments before the next statement. -/
def scopeAfter (scope : List Assignment) : Node → List Assignment
  | .assignment latest => latest :: scope
  | _ => scope

/-- The declaration that a statement is, if it is one. -/
def declarationsAt (scope : List Assignment) : Node → List ScopedDeclaration
  | .declaration own => [{ scope, declaration := own }]
  | _ => []

/-- The declarations of a block in order. -/
def declarationsIn (scope : List Assignment) : List Node → List ScopedDeclaration
  | [] => []
  | node :: rest => node.declarationsAt scope ++ declarationsIn (node.scopeAfter scope) rest

mutual

/-- The ruleset that a statement is and those inside of it, in the order in which they start;
mixins are passed over. -/
def rulesetsAt (path : List (List Selector)) (scope : List Assignment) : Node → List Occurrence
  | .ruleset selectors body _ =>
    { path := path ++ [selectors], scope, body } :: rulesetsIn (path ++ [selectors]) scope body
  | _ => []

/-- The rulesets of a block and those inside of them, in the order in which they start. -/
def rulesetsIn (path : List (List Selector)) (scope : List Assignment) :
    List Node → List Occurrence
  | [] => []
  | node :: rest => node.rulesetsAt path scope ++ rulesetsIn path (node.scopeAfter scope) rest

end

mutual

/-- Whether a statement makes no call, except in the bodies of mixins. -/
def callFree : Node → Bool
  | .call _ => false
  | .ruleset _ body _ => allCallFree body
  | _ => true

/-- Whether no statement of a block makes a call, except in the bodies of mixins. -/
def allCallFree : List Node → Bool
  | [] => true
  | node :: rest => node.callFree && allCallFree rest

end

end Node

/-- The declarations of a ruleset. -/
def Occurrence.declarations (occurrence : Occurrence) : List ScopedDeclaration :=
  Node.declarationsIn occurrence.scope occurrence.body

section Reading

variable (settings : Settings σ) (natives : σ)

/-- The value of an expression in an environment. -/
def Expression.valueIn (bindings : List (String × Value)) (expression : Expression) :
    Except Failure Value :=
  (expression.evaluate settings (.ofBindings bindings) Scopes.root { natives }).1

/-- The environment that assignments make, the latest first. Each of them is evaluated in the
environment that those before it make. -/
def environment : List Assignment → Except Failure (List (String × Value))
  | [] => return []
  | assignment :: earlier => do
    let bindings ← environment earlier
    let value ← assignment.value.valueIn settings natives bindings
    return (assignment.name, value) :: bindings

/-- The declaration with its value. -/
def ScopedDeclaration.flat (declared : ScopedDeclaration) : Except Failure FlatDeclaration := do
  let bindings ← environment settings natives declared.scope
  let value ← declared.declaration.value.valueIn settings natives bindings
  let { property, important, .. } := declared.declaration
  return { property, value, important }

/-- The rule of a ruleset. -/
def Occurrence.rule (occurrence : Occurrence) : Except Failure FlatRule := do
  let selectors := (occurrence.path.foldl Selector.nestAll []).map Selector.text
  let declarations ← occurrence.declarations.mapM (·.flat settings natives)
  return { selectors, declarations }

/-- The rules of those rulesets that have declarations. -/
def rulesOf (occurrences : List Occurrence) : Except Failure (List FlatRule) :=
  (occurrences.filter (!·.declarations.isEmpty)).mapM (·.rule settings natives)

/-- The rules of a stylesheet without calls. -/
def Stylesheet.flatRules (sheet : Stylesheet) : Except Failure (List FlatRule) :=
  rulesOf settings natives (Node.rulesetsIn [] [] sheet.nodes)

end Reading

/-! ## What statements add -/

section Agreement

variable {settings : Settings σ} {natives : σ}

/-- What follows something that succeeded starts from its result. -/
private theorem exists_of_bind_eq_ok {α β : Type} {act : Except Failure α}
    {next : α → Except Failure β}
    {b : β} (h : act >>= next = .ok b) : ∃ a, act = .ok a ∧ next a = .ok b := by
  cases act with
  | ok a => exact ⟨a, rfl, h⟩
  | error failure => cases h

/-- An assignment puts its value in front of the environment before it. -/
private theorem environment_cons {scope : List Assignment} {bindings : List (String × Value)}
    {assignment : Assignment} {value : Value}
    (henv : environment settings natives scope = .ok bindings)
    (hvalue : assignment.value.valueIn settings natives bindings = .ok value) :
    environment settings natives (assignment :: scope) =
      .ok ((assignment.name, value) :: bindings) := by
  rw [environment, henv]
  change (assignment.value.valueIn settings natives bindings >>= _) = _
  rw [hvalue]
  rfl

/-- A declaration has the value that its expression has in its environment. -/
private theorem ScopedDeclaration.flat_eq {scope : List Assignment}
    {bindings : List (String × Value)} {declaration : Declaration} {value : Value}
    (henv : environment settings natives scope = .ok bindings)
    (hvalue : declaration.value.valueIn settings natives bindings = .ok value) :
    ScopedDeclaration.flat settings natives { scope, declaration } =
      .ok { property := declaration.property, value, important := declaration.important } := by
  rw [ScopedDeclaration.flat, henv]
  change (declaration.value.valueIn settings natives bindings >>= _) = _
  rw [hvalue]
  rfl

/-- From `out` to `out'` the values of some declarations and the rules of some rulesets were
added. -/
def Adds (settings : Settings σ) (natives : σ) (declared : List ScopedDeclaration)
    (found : List Occurrence) (out out' : Collected) : Prop :=
  ∃ declarations rules,
    declared.mapM (·.flat settings natives) = .ok declarations ∧
    rulesOf settings natives found = .ok rules ∧
    out' = { declarations := out.declarations ++ declarations, nested := out.nested ++ rules }

namespace Adds

variable {declared declared' : List ScopedDeclaration} {found found' : List Occurrence}
  {out out' out'' : Collected}

/-- To add nothing changes nothing. -/
theorem nothing (out : Collected) : Adds settings natives [] [] out out :=
  ⟨[], [], rfl, rfl, by simp⟩

/-- What is added one after the other adds up. -/
theorem trans (h : Adds settings natives declared found out out')
    (h' : Adds settings natives declared' found' out' out'') :
    Adds settings natives (declared ++ declared') (found ++ found') out out'' := by
  obtain ⟨declarations, rules, hdeclarations, hrules, rfl⟩ := h
  obtain ⟨declarations', rules', hdeclarations', hrules', rfl⟩ := h'
  refine ⟨declarations ++ declarations', rules ++ rules', ?_, ?_, by simp⟩
  · rw [List.mapM_append, hdeclarations, hdeclarations']
    rfl
  · rw [rulesOf] at hrules hrules' ⊢
    rw [List.filter_append, List.mapM_append, hrules, hrules']
    rfl

/-- A declaration adds itself. -/
theorem declare {declared : ScopedDeclaration} {flat : FlatDeclaration}
    (h : declared.flat settings natives = .ok flat) (out : Collected) :
    Adds settings natives [declared] [] out (out.declare flat) := by
  refine ⟨[flat], [], ?_, rfl, by simp [Collected.declare]⟩
  rw [List.mapM_cons, h]
  rfl

/-- Some declarations have no values only if there are none. -/
private theorem isEmpty_eq_of_mapM {declarations : List FlatDeclaration}
    (h : declared.mapM (·.flat settings natives) = .ok declarations) :
    declarations.isEmpty = declared.isEmpty := by
  cases declared with
  | nil =>
    cases h
    rfl
  | cons first rest =>
    rw [List.mapM_cons] at h
    obtain ⟨flat, -, h⟩ := exists_of_bind_eq_ok h
    obtain ⟨flats, -, h⟩ := exists_of_bind_eq_ok h
    cases h
    rfl

/-- A ruleset adds its own rule, if it has declarations, and then what the rulesets inside add. -/
theorem ruleset {occurrence : Occurrence}
    (h : Adds settings natives occurrence.declarations found {} out') (out : Collected) :
    Adds settings natives [] (occurrence :: found) out
      (out.nest (out'.finish (occurrence.path.foldl Selector.nestAll []))) := by
  obtain ⟨declarations, rules, hdeclarations, hrules, rfl⟩ := h
  let selectors := occurrence.path.foldl Selector.nestAll []
  -- the declarations of the ruleset itself make its rule
  have hrule : occurrence.rule settings natives =
      .ok { selectors := selectors.map Selector.text, declarations } := by
    rw [Occurrence.rule, hdeclarations]
    rfl
  -- a ruleset without declarations makes no rule, only its inner rulesets do
  have hall : rulesOf settings natives (occurrence :: found) =
      .ok (({ declarations, nested := rules } : Collected).finish selectors) := by
    have hempty := isEmpty_eq_of_mapM hdeclarations
    rw [rulesOf] at hrules ⊢
    simp only [Collected.finish, List.filter_cons, hempty]
    cases occurrence.declarations.isEmpty with
    | true => exact hrules
    | false =>
      simp only [Bool.not_false, if_true, List.mapM_cons, hrule, hrules]
      rfl
  exact ⟨[], _, rfl, hall, by simp [Collected.nest, selectors]⟩

end Adds

/-! ## Runs that succeed -/

/-- A value that is found in a frame is the value in the environment of the frame. -/
private theorem valueIn_eq_of_evaluate (hpure : settings.functions.IsPure) {scopes : Scopes}
    {frame : FrameId} {bindings : List (String × Value)} (hshows : scopes.Shows frame bindings)
    (expression : Expression) (host : Host σ) :
    expression.valueIn settings natives bindings =
      (expression.evaluate settings scopes frame host).1 := by
  have hvalues : ∀ name, (Scopes.ofBindings bindings).value? Scopes.root name =
      scopes.value? frame name := by
    intro name
    rw [(Scopes.Shows.ofBindings bindings).value, hshows.value]
  exact Expression.evaluate_pure hpure hvalues expression _ _

section Runs

variable {runCall : CallRunner σ} {frame : FrameId} {s t : State σ}

/-- An assignment that succeeds binds the value of its expression. -/
theorem exists_of_runWith_assign {assignment : Assignment} {u : Unit}
    (h : (EvalM.assign settings frame assignment).runWith runCall s = (.ok u, t)) :
    ∃ value, (assignment.value.evaluate settings s.scopes frame s.host).1 = .ok value ∧
      t.scopes = s.scopes.bind frame assignment.name value := by
  obtain ⟨value, s', hvalue, hbind⟩ := EvalM.exists_of_runWith_bind h
  obtain ⟨hvalue, hscopes⟩ := value_of_runWith_evaluate hvalue
  simp only [EvalM.perform, EvalM.runWith, Step.apply, pure, Prod.mk.injEq] at hbind
  obtain ⟨-, rfl⟩ := hbind
  exact ⟨value, hvalue, congrArg (·.bind frame assignment.name value) hscopes⟩

/-- A declaration that succeeds adds the value of its expression. -/
private theorem exists_of_runWith_runDeclaration {context : List Selector} {out out' : Collected}
    {declaration : Declaration}
    (h : (runDeclaration settings context frame out declaration).runWith runCall s =
      (.ok out', t)) :
    ∃ value, (declaration.value.evaluate settings s.scopes frame s.host).1 = .ok value ∧
      t.scopes = s.scopes ∧
      out' = out.declare
        { property := declaration.property, value, important := declaration.important } := by
  rw [runDeclaration] at h
  split at h
  · simp [EvalM.fail, EvalM.runWith] at h
  · obtain ⟨value, s', hvalue, hreturn⟩ := EvalM.exists_of_runWith_bind h
    obtain ⟨hvalue, hscopes⟩ := value_of_runWith_evaluate hvalue
    simp only [EvalM.runWith, pure, Prod.mk.injEq, Except.ok.injEq] at hreturn
    obtain ⟨rfl, rfl⟩ := hreturn
    exact ⟨value, hvalue, hscopes, rfl⟩

/-- The statements of a ruleset run in a new frame that holds its definitions and is left after
them. -/
theorem exists_of_runWith_runRulesetWith {site : Site} {ruleset : Ruleset}
    {context : List Selector} {runStatements : List Selector → FrameId → EvalM σ Collected}
    {rules : List FlatRule}
    (h : (runRulesetWith site ruleset context frame runStatements).runWith runCall s =
      (.ok rules, t)) :
    ∃ out s₁ s₂,
      (runStatements (Selector.nestAll context ruleset.selectors) s.scopes.next).runWith
        runCall s₁ = (.ok out, s₂) ∧
      s₁.scopes = (s.scopes.push frame).hoist s.scopes.next site ruleset.body ∧
      s₁.callDepth = s.callDepth ∧
      t.scopes = s₂.scopes.pop ∧
      rules = out.finish (Selector.nestAll context ruleset.selectors) := by
  rw [runRulesetWith, EvalM.runWith_perform_bind] at h
  obtain ⟨out, t', hframe, hreturn⟩ := EvalM.exists_of_runWith_bind h
  simp only [EvalM.runWith, pure, Prod.mk.injEq, Except.ok.injEq] at hreturn
  obtain ⟨rfl, rfl⟩ := hreturn
  rw [EvalM.inFrame, EvalM.runWith_perform_bind, EvalM.runWith_ensuring,
    EvalM.runWith_perform_bind] at hframe
  obtain ⟨hout, rfl⟩ := Prod.mk.inj hframe
  exact ⟨out, _, _, Prod.ext hout rfl, rfl, rfl, rfl, rfl⟩

mutual

/-- A statement that succeeds adds what the tree says, and the frame then shows the assignments up
to this statement. -/
private theorem adds_runNode (hpure : settings.functions.IsPure) (path : List (List Selector))
    {scope : List Assignment} {bindings : List (String × Value)} {frame : FrameId} {site : Site}
    {out out' : Collected} {s t : State σ} (node : Node) (hfree : node.callFree = true)
    (henv : environment settings natives scope = .ok bindings)
    (hshows : s.scopes.Shows frame bindings) (hactive : s.scopes.active ≠ [])
    (h : (runNode settings (path.foldl Selector.nestAll []) frame site out node).runWith runCall s =
      (.ok out', t)) :
    Adds settings natives (node.declarationsAt scope) (node.rulesetsAt path scope) out out' ∧
    (∃ bindings', environment settings natives (node.scopeAfter scope) = .ok bindings' ∧
      t.scopes.Shows frame bindings') ∧
    s.scopes.Confined (.only frame) t.scopes := by
  cases node with
  | assignment assignment =>
    simp only [Node.declarationsAt, Node.rulesetsAt, Node.scopeAfter]
    simp only [runNode] at h
    obtain ⟨_, s', hassign, hreturn⟩ := EvalM.exists_of_runWith_bind h
    simp only [EvalM.runWith, pure, Prod.mk.injEq, Except.ok.injEq] at hreturn
    obtain ⟨rfl, rfl⟩ := hreturn
    obtain ⟨value, hvalue, hscopes⟩ := exists_of_runWith_assign hassign
    rw [← valueIn_eq_of_evaluate hpure hshows] at hvalue
    refine ⟨.nothing out, ⟨_, environment_cons henv hvalue, ?_⟩, ?_⟩
    · rw [hscopes]
      exact hshows.bind assignment.name value
    · rw [hscopes]
      exact (Scopes.confined_bind _ _ _ _).mono (Extent.bindingsOf_subset_only frame)
  | declaration declaration =>
    simp only [Node.declarationsAt, Node.rulesetsAt, Node.scopeAfter]
    simp only [runNode] at h
    obtain ⟨value, hvalue, hscopes, rfl⟩ := exists_of_runWith_runDeclaration h
    rw [← valueIn_eq_of_evaluate hpure hshows] at hvalue
    have hflat := ScopedDeclaration.flat_eq henv hvalue
    refine ⟨.declare hflat out, ⟨bindings, henv, ?_⟩, ?_⟩
    · rw [hscopes]
      exact hshows
    · rw [hscopes]
      exact .refl _ _
  | call call => simp [Node.callFree] at hfree
  | ruleset selectors body span =>
    simp only [Node.declarationsAt, Node.rulesetsAt, Node.scopeAfter]
    simp only [runNode] at h
    obtain ⟨rules, s', hruleset, hreturn⟩ := EvalM.exists_of_runWith_bind h
    simp only [EvalM.runWith, pure, Prod.mk.injEq, Except.ok.injEq] at hreturn
    obtain ⟨rfl, rfl⟩ := hreturn
    obtain ⟨inner, s₁, s₂, hbody, hscopes₁, -, hscopes, rfl⟩ :=
      exists_of_runWith_runRulesetWith hruleset
    have hselectors : Selector.nestAll (path.foldl Selector.nestAll []) selectors =
        (path ++ [selectors]).foldl Selector.nestAll [] := by
      rw [List.foldl_append]
      rfl
    rw [hselectors] at hbody ⊢
    -- the new frame starts with the environment of the one around it
    have hshows₁ : s₁.scopes.Shows s.scopes.next bindings := by
      rw [hscopes₁]
      exact hshows.push.hoist site body
    have hactive₁ : s₁.scopes.active ≠ [] := by
      rw [hscopes₁]
      exact List.cons_ne_nil _ _
    obtain ⟨hadds, hrooted₂, hconf₂⟩ := adds_runBody hpure _ body hfree henv hshows₁ hactive₁ hbody
    -- and what happens in it does not reach the frame around it
    rw [hscopes₁] at hconf₂
    obtain ⟨hshows', hconf⟩ := hshows.enter_leave hactive hrooted₂ hconf₂
    rw [← hscopes] at hshows' hconf
    exact ⟨hadds.ruleset out, ⟨bindings, henv, hshows'⟩, hconf.mono (Extent.nothing_subset _)⟩
  | mixin name params body span =>
    simp only [Node.declarationsAt, Node.rulesetsAt, Node.scopeAfter]
    simp only [runNode, EvalM.runWith, pure, Prod.mk.injEq, Except.ok.injEq] at h
    obtain ⟨rfl, rfl⟩ := h
    exact ⟨.nothing out, ⟨bindings, henv, hshows⟩, .refl _ _⟩

/-- Statements that succeed add what the tree says. -/
private theorem adds_runBody (hpure : settings.functions.IsPure) (path : List (List Selector))
    {scope : List Assignment} {bindings : List (String × Value)} {frame : FrameId} {site : Site}
    {index : Nat} {out out' : Collected} {s t : State σ} (nodes : List Node)
    (hfree : Node.allCallFree nodes = true)
    (henv : environment settings natives scope = .ok bindings)
    (hshows : s.scopes.Shows frame bindings) (hactive : s.scopes.active ≠ [])
    (h : (runBody settings (path.foldl Selector.nestAll []) frame site index out nodes).runWith
      runCall s = (.ok out', t)) :
    Adds settings natives (Node.declarationsIn scope nodes) (Node.rulesetsIn path scope nodes)
      out out' ∧
    t.scopes.Rooted ∧ s.scopes.Confined (.only frame) t.scopes := by
  cases nodes with
  | nil =>
    simp only [runBody, EvalM.runWith, pure, Prod.mk.injEq, Except.ok.injEq] at h
    obtain ⟨rfl, rfl⟩ := h
    exact ⟨.nothing out, hshows.rooted, .refl _ _⟩
  | cons node rest =>
    simp only [Node.allCallFree, Bool.and_eq_true] at hfree
    simp only [runBody] at h
    -- the first node may bind a variable, and the rest is run in the environment after it
    obtain ⟨out₁, s₁, hnode, hrest⟩ := EvalM.exists_of_runWith_bind h
    obtain ⟨hadds, ⟨bindings₁, henv₁, hshows₁⟩, hconf⟩ :=
      adds_runNode hpure path node hfree.1 henv hshows hactive hnode
    have hactive₁ : s₁.scopes.active ≠ [] := by
      rw [hconf.active]
      exact hactive
    obtain ⟨hadds₁, hrooted, hconf₁⟩ :=
      adds_runBody hpure path rest hfree.2 henv₁ hshows₁ hactive₁ hrest
    exact ⟨hadds.trans hadds₁, hrooted, hconf.trans hconf₁⟩

end

end Runs

end Agreement

/-- With functions that depend on their arguments only, a stylesheet without calls that can be
evaluated has the rules that are read off its tree: one for each ruleset with declarations, in the
order in which the rulesets start, under the selectors on the way to it, with each value taken in
the environment that the assignments before it make. -/
theorem rules_eq_flatRules (settings : Settings σ) (natives : σ) (sheet : Stylesheet)
    (hpure : settings.functions.IsPure) (hfree : Node.allCallFree sheet.nodes = true)
    {rules : List FlatRule} (h : sheet.rules settings natives = .ok rules) :
    sheet.flatRules settings natives = .ok rules := by
  have hrun : sheet.run settings natives = (.ok rules, (sheet.run settings natives).2) :=
    Prod.ext h rfl
  -- the sheet is run as a block without selectors, and its own declarations are dropped
  rw [Stylesheet.run, EvalM.run, runSheet, EvalM.runWith_perform_bind] at hrun
  obtain ⟨out, t, hbody, hreturn⟩ := EvalM.exists_of_runWith_bind hrun
  rw [EvalM.runWith_perform_bind] at hreturn
  simp only [EvalM.runWith, pure, Prod.mk.injEq, Except.ok.injEq] at hreturn
  obtain ⟨rfl, -⟩ := hreturn
  -- outside of all blocks no variable has a value
  have henv : environment settings natives [] = .ok [] := rfl
  have hshows := (Scopes.Shows.ofBindings []).hoist Stylesheet.site sheet.nodes
  obtain ⟨⟨declarations, rules, -, hrules, rfl⟩, -⟩ :=
    adds_runBody hpure [] sheet.nodes hfree henv hshows (List.cons_ne_nil _ _) hbody
  exact hrules

/-! ## An example -/

namespace Shades

/-- A use of `@shade`. -/
def shade : Expression :=
  Sketch.reference "@shade"

/-- A mixin with a call inside, and rulesets before and after assignments. -/
def sheet : Stylesheet where
  nodes := [
    Sketch.assign "@shade" (Sketch.keyword "dark"),
    Sketch.mixin ".unused" [] [.call default],
    Sketch.ruleset [".menu", ".list"] [
      Sketch.ruleset ["a"] [Sketch.declaration "color" shade],
      Sketch.assign "@shade" (Sketch.keyword "light"),
      Sketch.declaration "border" (.call "same" [shade] default),
      Sketch.ruleset ["b"] [Sketch.ruleset ["i"] [Sketch.declaration "fill" shade]]]]

/-- A function that gives back its first argument and counts how often it is called. -/
def same : Native Nat :=
  fun args count => (.ok (args.headD (.keyword "")), count + 1)

/-- The default options and the function. -/
def settings : Settings Nat where
  options := {}
  functions := { entries := [("same", same)] }

/-- The rules of the stylesheet. -/
def rules : List FlatRule := [
  { selectors := [".menu", ".list"], declarations := [Sketch.declared "border" "light"] },
  { selectors := [".menu a", ".list a"], declarations := [Sketch.declared "color" "dark"] },
  { selectors := [".menu b i", ".list b i"], declarations := [Sketch.declared "fill" "light"] }]

/-- The function does not depend on how often it was called. -/
theorem isPure_functions : settings.functions.IsPure :=
  .of_entries (List.forall_mem_singleton.2 fun _ _ _ => rfl)

end Shades

/-- A declaration comes before the rule of a ruleset that stands before it, while an assignment has
no effect on such a ruleset. -/
theorem rules_eq_flatRules_shades :
    Shades.settings.functions.IsPure ∧ Node.allCallFree Shades.sheet.nodes = true ∧
    Shades.sheet.rules Shades.settings 0 = .ok Shades.rules ∧
    Shades.sheet.flatRules Shades.settings 0 = .ok Shades.rules := by
  have hfree : Node.allCallFree Shades.sheet.nodes = true := rfl
  have hrules : Shades.sheet.rules Shades.settings 0 = .ok Shades.rules := rfl
  exact ⟨Shades.isPure_functions, hfree, hrules,
    rules_eq_flatRules Shades.settings 0 Shades.sheet Shades.isPure_functions hfree hrules⟩

end MixinSheet
