import MixinSheet.Proofs.Arena
import MixinSheet.Proofs.Comparison
import MixinSheet.Proofs.Composition
import MixinSheet.Proofs.Sketch

/-!
# The selectors around a block

The selectors around a block have no part in its evaluation: they only come in front of the
selectors of the rules that are emitted. So a mixin that is called in two places gives the same
declarations and the same rules in both, and its rules are nested in the selectors around the call.

If every ruleset has a selector, the rules are nested in the selectors around without exception. A
ruleset without selectors hides what is around it from the rulesets inside.

## Key results

- `Selector.NestedIn`: contexts that come of two contexts by nesting the same selectors in them
- `Comparison.inContexts`: runs of the same statements with different selectors around
- `context_only_in_selectors`: two runs of a block differ only in the selectors of their rules
-/

namespace MixinSheet

open Evaluation

variable {σ : Type}

/-! ## Rulesets with selectors -/

mutual

/-- Whether every ruleset in a statement has a selector, also inside of mixins. -/
def Node.selects : Node → Bool
  | .ruleset selectors body _ => !selectors.isEmpty && selectsAll body
  | .mixin _ _ body _ => selectsAll body
  | _ => true

/-- Whether every ruleset in some statements has a selector. -/
def Node.selectsAll : List Node → Bool
  | [] => true
  | node :: rest => node.selects && selectsAll rest

end

namespace Node

private theorem selectsAll_cons {node : Node} {rest : List Node} :
    selectsAll (node :: rest) = true ↔ node.selects = true ∧ selectsAll rest = true := by
  rw [selectsAll, Bool.and_eq_true]

/-- A definition in such a block has such a body. -/
private theorem selectsAll_body {node : Node} {definition : Definition} (h : node.selects = true)
    (hdef : node.definition? = some definition) : selectsAll definition.body = true := by
  cases node with
  | ruleset selectors body span =>
    obtain rfl := Option.some.inj hdef
    rw [selects, Bool.and_eq_true] at h
    exact h.2
  | mixin name params body span =>
    obtain rfl := Option.some.inj hdef
    rwa [selects] at h
  | call | declaration | assignment => simp only [definition?, reduceCtorEq] at hdef

/-- A ruleset that selects has a selector. -/
private theorem selectors_ne_nil {selectors : List Selector} {body : List Node} {span : Span}
    (h : (Node.ruleset selectors body span).selects = true) : selectors ≠ [] := by
  rintro rfl
  simp only [selects, List.isEmpty_nil, Bool.not_true, Bool.false_and, Bool.false_eq_true] at h

/-- Every statement of such a block is such a statement. -/
private theorem selects_of_getElem? {body : List Node} {node : Node} {i : Nat}
    (h : selectsAll body = true) (hi : body[i]? = some node) : node.selects = true := by
  induction body generalizing i with
  | nil => simp only [List.getElem?_nil, reduceCtorEq] at hi
  | cons first rest ih =>
    obtain ⟨hfirst, hrest⟩ := selectsAll_cons.1 h
    cases i with
    | zero =>
      obtain rfl := Option.some.inj hi
      exact hfirst
    | succ i => exact ih hrest hi

end Node

/-- If every ruleset of a stylesheet has a selector, so does every ruleset in a block of it. -/
private theorem Stylesheet.HasBlock.selectsAll {sheet : Stylesheet} {block : Block}
    (h : sheet.HasBlock block) (hsheet : Node.selectsAll sheet.nodes = true) :
    Node.selectsAll block.body = true := by
  induction h with
  | outermost => exact hsheet
  | inner _ hmem ih =>
    obtain ⟨i, node, -, hi, hdef⟩ := Node.getElem?_of_mem_definitions hmem
    exact Node.selectsAll_body (Node.selects_of_getElem? ih hi) hdef

/-! ## Contexts -/

/-- Two contexts that come of `outer` and `outer'` by nesting the same selectors in them. -/
inductive Selector.NestedIn (outer outer' : List Selector) :
    List Selector → List Selector → Prop
  | self : NestedIn outer outer' outer outer'
  | nest {selectors : List Selector} (h : selectors ≠ []) :
      NestedIn outer outer' (nestAll outer selectors) (nestAll outer' selectors)

/-- What is nested further comes of the outermost contexts by nesting once. -/
private theorem Selector.NestedIn.exists_nestAll
    {outer outer' context context' selectors : List Selector}
    (h : NestedIn outer outer' context context') (hselectors : selectors ≠ []) :
    ∃ inner ≠ [], nestAll context selectors = nestAll outer inner ∧
      nestAll context' selectors = nestAll outer' inner := by
  cases h with
  | self => exact ⟨selectors, hselectors, rfl, rfl⟩
  | @nest middle hmiddle =>
    have hinner : nestAll middle selectors ≠ [] := (nestAll_eq_nil_iff hmiddle).not.2 hselectors
    exact ⟨nestAll middle selectors, hinner, nestAll_assoc hmiddle outer selectors,
      nestAll_assoc hmiddle outer' selectors⟩

/-- Selectors around that are empty together and, if `selecting` holds, come of `outer` and
`outer'`. Rulesets that are run then have selectors. -/
def Contexts.nestedIn (selecting : Prop) (outer outer' : List Selector) :
    Contexts fun nodes => selecting → Node.selectsAll nodes = true where
  related context context' := context.isEmpty = context'.isEmpty ∧
    (selecting → Selector.NestedIn outer outer' context context')
  isEmpty hcontext := hcontext.1
  nestAll {context context' selectors} _ _ _ hcontext hnodes := by
    refine ⟨Selector.isEmpty_nestAll hcontext.1 selectors, fun hselecting => ?_⟩
    have hruleset := (Node.selectsAll_cons.1 (hnodes hselecting)).1
    obtain ⟨inner, hinner, heq, heq'⟩ :=
      (hcontext.2 hselecting).exists_nestAll (Node.selectors_ne_nil hruleset)
    rw [heq, heq']
    exact .nest hinner

/-- Runs with the same settings and different selectors around. If `selecting` holds, only rulesets
that have selectors are run. -/
def Comparison.inContexts (settings : Settings σ) (selecting : Prop)
    (outer outer' : List Selector) : Comparison σ where
  left := settings
  right := settings
  runnable nodes := selecting → Node.selectsAll nodes = true
  contexts := .nestedIn selecting outer outer'
  excused _ := False
  runnable_tail hnodes hselecting := (Node.selectsAll_cons.1 (hnodes hselecting)).2
  runnable_body hnodes hdef hselecting :=
    Node.selectsAll_body (Node.selectsAll_cons.1 (hnodes hselecting)).1 hdef
  excused_through _ hfalse := hfalse
  evaluate _ _ expression _ _ hnatives :=
    .inl (Expression.evaluate_same settings (fun _ => rfl) expression hnatives)
  limit_le := Nat.le_refl _
  limit := .inr ⟨rfl, fun _ => rfl⟩

namespace Comparison

variable {settings : Settings σ} {selecting : Prop} {outer outer' : List Selector}

/-- Related rules have the same declarations, since contexts only show in selectors. -/
private theorem declarations_eq_of_sameRule {rule rule' : FlatRule}
    (h : (inContexts settings selecting outer outer').coupling.SameRule rule rule') :
    rule.declarations = rule'.declarations := by
  cases h
  rfl

/-- Matching rules have the same selectors nested in the contexts of the two runs. -/
private theorem exists_nestAll_of_sameRule {rule rule' : FlatRule} (hselecting : selecting)
    (h : (inContexts settings selecting outer outer').coupling.SameRule rule rule') :
    ∃ inner ≠ [], rule.selectors = (Selector.nestAll outer inner).map Selector.text ∧
      rule'.selectors = (Selector.nestAll outer' inner).map Selector.text := by
  cases h with
  | intro declarations hcontext hruleset =>
    have hnode := (Node.selectsAll_cons.1 (hruleset hselecting)).1
    obtain ⟨inner, hinner, heq, heq'⟩ :=
      (hcontext.2 hselecting).exists_nestAll (Node.selectors_ne_nil hnode)
    exact ⟨inner, hinner, congrArg _ heq, congrArg _ heq'⟩

/-- A state of the run of a stylesheet agrees with itself: all its definitions are those of the
stylesheet, which have selectors if the stylesheet says so. -/
private theorem agrees_stateAt (settings : Settings σ) (sheet : Stylesheet) (natives : σ) (n : Nat)
    (outer outer' : List Selector)
    (hsheet : selecting → Node.selectsAll sheet.nodes = true) :
    (sheet.stateAt settings natives n).Agrees
      (inContexts settings selecting outer outer').runnable (sheet.stateAt settings natives n) := by
  refine ⟨rfl, rfl, rfl, fun id closure hmem hselecting => ?_⟩
  have hdefines := (arena_momentAt settings sheet natives n).defined id closure hmem
  exact hdefines.hasBlock.selectsAll (hsheet hselecting)

end Comparison

/-- From every state of a run, a block that is run with some selectors around and with others around
ends with the same frames, call depth and state of the native functions. Either both runs fail in
the same way, or both add the same declarations, and rules that have the same declarations one by
one. If every ruleset of the stylesheet has a selector, then each of these rules has some selectors
that are nested in those around, the same ones in both runs. -/
theorem context_only_in_selectors (settings : Settings σ) (sheet : Stylesheet) (natives : σ)
    (n : Nat) (block : Block) (frame : FrameId) (out : Collected) {outer outer' : List Selector}
    (houter : outer ≠ []) (houter' : outer' ≠ []) :
    let s := sheet.stateAt settings natives n
    let run := (runBody settings outer frame block.site 0 out block.body).run settings s
    let run' := (runBody settings outer' frame block.site 0 out block.body).run settings s
    run.2.scopes = run'.2.scopes ∧ run.2.callDepth = run'.2.callDepth ∧
    run.2.host.natives = run'.2.host.natives ∧
    ((∃ failure, run.1 = .error failure ∧ run'.1 = .error failure) ∨
      ∃ declarations rules rules',
        run.1 = .ok { declarations := out.declarations ++ declarations,
                      nested := out.nested ++ rules } ∧
        run'.1 = .ok { declarations := out.declarations ++ declarations,
                       nested := out.nested ++ rules' } ∧
        List.Forall₂ (fun rule rule' => rule.declarations = rule'.declarations) rules rules' ∧
        (Node.selectsAll sheet.nodes = true → sheet.HasBlock block →
          List.Forall₂ (fun rule rule' => ∃ inner ≠ [],
            rule.selectors = (Selector.nestAll outer inner).map Selector.text ∧
            rule'.selectors = (Selector.nestAll outer' inner).map Selector.text)
              rules rules')) := by
  intro s run run'
  -- rules are compared by their selectors only where every ruleset has one
  let selecting := Node.selectsAll sheet.nodes = true ∧ sheet.HasBlock block
  let K := Comparison.inContexts settings selecting outer outer'
  have hst : s.Agrees K.runnable s :=
    Comparison.agrees_stateAt settings sheet natives n outer outer' And.left
  have hcontext : K.contexts outer outer' := by
    refine ⟨?_, fun _ => .self⟩
    rw [List.isEmpty_eq_false_iff.2 houter, List.isEmpty_eq_false_iff.2 houter']
  have hbody : K.runnable block.body := fun hselecting => hselecting.2.selectsAll hselecting.1
  -- the two runs go on side by side, with contexts that are nested in `outer` and `outer'`
  have hmatch : Matches (State.Agrees K.runnable) K.excused (K.coupling.Grows out out) run run' :=
    K.run_matches hst fun _ _ hcalls =>
      Coupling.alike_runBody hcalls hcontext trivial block.site 0 block.body hbody
  generalize run = result at hmatch ⊢
  generalize run' = result' at hmatch ⊢
  cases hmatch with
  | error hst' => exact ⟨hst'.scopes, hst'.callDepth, hst'.natives, .inl ⟨_, rfl, rfl⟩⟩
  | excused hfalse => exact hfalse.elim
  | ok hgrows hst' =>
    refine ⟨hst'.scopes, hst'.callDepth, hst'.natives, .inr ?_⟩
    obtain ⟨declarations, rules, rules', hrules, rfl, rfl⟩ := hgrows
    refine ⟨declarations, rules, rules', rfl, rfl, ?_, fun hselects hblock => ?_⟩
    · -- declarations are the same in any case
      exact hrules.imp fun _ _ hrule => Comparison.declarations_eq_of_sameRule hrule
    · exact hrules.imp fun _ _ hrule =>
        Comparison.exists_nestAll_of_sameRule ⟨hselects, hblock⟩ hrule

/-! ## An example -/

namespace Framing

/-- A ruleset with nothing but the call. -/
def box : Ruleset where
  selectors := [Sketch.selector ".box"]
  body := [.call (Sketch.call ".frame" [])]
  span := default

/-- The mixin, which has a ruleset inside, and the ruleset that calls it. -/
def sheet : Stylesheet where
  nodes := [
    Sketch.mixin ".frame" [] [Sketch.declare "margin" "auto",
      Sketch.ruleset [".edge"] [Sketch.declare "border" "none"]],
    .ruleset box.selectors box.body box.span]

/-- The block of the ruleset. -/
def block : Block where
  site := [1, 0]
  body := box.body

theorem hasBlock : sheet.HasBlock block := by
  have hmem : (block.site, Definition.ruleset box) ∈
      Node.definitions sheet.block.site sheet.block.body := .tail _ List.mem_cons_self
  exact .inner .outermost hmem

end Framing

/-- The mixin is called with one selector around and with two. -/
theorem context_only_in_selectors_framing :
    let outer := [Sketch.selector "main"]
    let outer' := [Sketch.selector "nav", Sketch.selector "footer"]
    let s := Framing.sheet.stateAt (Sketch.settings 64) () 1
    let run := (runBody (Sketch.settings 64) outer Scopes.root Framing.block.site 0 {}
      Framing.block.body).run (Sketch.settings 64) s
    let run' := (runBody (Sketch.settings 64) outer' Scopes.root Framing.block.site 0 {}
      Framing.block.body).run (Sketch.settings 64) s
    outer ≠ [] ∧ outer' ≠ [] ∧ Node.selectsAll Framing.sheet.nodes = true ∧
    Framing.sheet.HasBlock Framing.block ∧
    run'.1.map (·.nested.map (·.selectors)) = .ok [["nav .edge", "footer .edge"]] ∧
    run.2.scopes = run'.2.scopes ∧
    ((∃ failure, run.1 = .error failure ∧ run'.1 = .error failure) ∨
      ∃ declarations rules rules',
        run.1 = .ok { declarations := [] ++ declarations, nested := [] ++ rules } ∧
        run'.1 = .ok { declarations := [] ++ declarations, nested := [] ++ rules' } ∧
        List.Forall₂ (fun rule rule' => ∃ inner ≠ [],
          rule.selectors = (Selector.nestAll outer inner).map Selector.text ∧
          rule'.selectors = (Selector.nestAll outer' inner).map Selector.text) rules rules') := by
  have houter : [Sketch.selector "main"] ≠ [] := List.cons_ne_nil _ _
  have houter' : [Sketch.selector "nav", Sketch.selector "footer"] ≠ [] := List.cons_ne_nil _ _
  have hselects : Node.selectsAll Framing.sheet.nodes = true := rfl
  obtain ⟨hscopes, -, -, houtcome⟩ := context_only_in_selectors (Sketch.settings 64)
    Framing.sheet () 1 Framing.block Scopes.root {} houter houter'
  refine ⟨houter, houter', hselects, Framing.hasBlock, rfl, hscopes, houtcome.imp_right ?_⟩
  rintro ⟨declarations, rules, rules', hrun, hrun', -, hnested⟩
  exact ⟨declarations, rules, rules', hrun, hrun', hnested hselects Framing.hasBlock⟩

end MixinSheet
