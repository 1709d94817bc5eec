import MixinSheet.Evaluation.Sheet
import MixinSheet.Proofs.Sketch

/-!
# Rules are not empty

Declarations are collected only where there are selectors for them, and a ruleset makes a rule only
if it has collected declarations. The selectors that are handed down may be empty deep in the tree,
inside a ruleset without selectors or in a mixin that is called outside of all rulesets; then nothing
but the rules of inner rulesets is collected there. So no rule is empty, and the outermost block,
whose own declarations nobody takes over, has none.

## Key results

- `EvalM.Yields`: what a program gives if it succeeds
- `Collected.Proper`: declarations stand under selectors, and no collected rule is empty
- `no_empty_rule_and_no_lost_declaration`: what a stylesheet gives is proper
-/

namespace MixinSheet

open Evaluation

variable {σ α β : Type}

/-! ## Programs that succeed -/

/-- Whatever the program gives satisfies `Φ`. -/
def EvalM.Yields (runCall : CallRunner σ) (Φ : α → Prop) (act : EvalM σ α) : Prop :=
  ∀ s a t, act.runWith runCall s = (.ok a, t) → Φ a

namespace EvalM.Yields

variable {runCall : CallRunner σ} {Φ : α → Prop} {Ψ : β → Prop} {act : EvalM σ α}

/-- A result may be given if it is as it should be. -/
theorem pure {a : α} (h : Φ a) : Yields runCall Φ (Pure.pure a) := by
  intro s a' t hrun
  cases hrun
  exact h

/-- A failure yields nothing. -/
theorem fail (failure : Failure) : Yields runCall Φ (EvalM.fail failure) := by
  intro s a t hrun
  cases hrun

/-- Sequencing. -/
theorem bind {next : α → EvalM σ β} (h : Yields runCall Φ act)
    (hnext : ∀ a, Φ a → Yields runCall Ψ (next a)) : Yields runCall Ψ (act >>= next) := by
  intro s b t hrun
  obtain ⟨a, s', hact, hrest⟩ := exists_of_runWith_bind hrun
  exact hnext a (h s a s' hact) s' b t hrest

/-- What comes last decides. -/
theorem after (act : EvalM σ α) {next : α → EvalM σ β} (hnext : ∀ a, Yields runCall Ψ (next a)) :
    Yields runCall Ψ (act >>= next) := by
  intro s b t hrun
  obtain ⟨a, s', -, hrest⟩ := exists_of_runWith_bind hrun
  exact hnext a s' b t hrest

/-- Cleaning up does not change the result. -/
theorem ensuring (h : Yields runCall Φ act) (cleanup : Step σ Unit) :
    Yields runCall Φ (act.ensuring cleanup) := by
  intro s a t hrun
  rw [runWith_ensuring] at hrun
  exact h s a _ (Prod.ext (Prod.mk.inj hrun).1 rfl)

/-- What is yielded in a frame is yielded. -/
theorem inFrame {act : FrameId → EvalM σ α} (parent : FrameId) (block : Block)
    (h : ∀ frame, Yields runCall Φ (act frame)) :
    Yields runCall Φ (EvalM.inFrame parent block act) :=
  after _ fun frame => (h frame).ensuring .leave

/-- Naming the call of a failure does not change the result. -/
theorem through (h : Yields runCall Φ act) (call : OpenCall) :
    Yields runCall Φ (act.through call) := by
  intro s a t hrun
  exact h s a t (runWith_of_through hrun)

end EvalM.Yields

/-! ## What is collected -/

/-- The rule has a selector and a declaration. -/
def FlatRule.NotEmpty (rule : FlatRule) : Prop :=
  rule.selectors ≠ [] ∧ rule.declarations ≠ []

/-- What may be collected under some selectors. -/
structure Collected.Proper (context : List Selector) (out : Collected) : Prop where
  declarations : context = [] → out.declarations = []
  nested : ∀ rule ∈ out.nested, rule.NotEmpty

namespace Collected

variable {context : List Selector} {out : Collected}

/-- At first nothing has been collected. -/
private theorem Proper.empty (context : List Selector) : Proper context {} :=
  ⟨fun _ => rfl, fun _ hmem => absurd hmem List.not_mem_nil⟩

/-- A declaration may be added where there are selectors around it. -/
theorem Proper.declare (h : out.Proper context) (hcontext : context ≠ [])
    (declaration : FlatDeclaration) : (out.declare declaration).Proper context :=
  ⟨fun hnil => absurd hnil hcontext, h.nested⟩

/-- Rules that are not empty may be added. -/
theorem Proper.nest (h : out.Proper context) {rules : List FlatRule}
    (hrules : ∀ rule ∈ rules, rule.NotEmpty) : (out.nest rules).Proper context := by
  refine ⟨h.declarations, fun rule hmem => ?_⟩
  rcases List.mem_append.1 hmem with hold | hnew
  · exact h.nested rule hold
  · exact hrules rule hnew

/-- A ruleset makes a rule of its own only from declarations, and these have selectors. -/
theorem Proper.finish (h : out.Proper context) : ∀ rule ∈ out.finish context, rule.NotEmpty := by
  intro rule hmem
  unfold Collected.finish at hmem
  split at hmem
  · exact h.nested rule hmem
  · next hdeclared =>
    have hdeclarations : out.declarations ≠ [] := fun hnil => hdeclared (by simp [hnil])
    have hselectors : context.map Selector.text ≠ [] := fun hnil =>
      hdeclarations (h.declarations (List.map_eq_nil_iff.1 hnil))
    rcases List.mem_cons.1 hmem with rfl | hinner
    · exact ⟨hselectors, hdeclarations⟩
    · exact h.nested rule hinner

end Collected

/-! ## The parts of the evaluator -/

/-- Calls keep what is collected proper. -/
def CallRunner.Proper (runCall : CallRunner σ) : Prop :=
  ∀ invocation s out t, invocation.out.Proper invocation.context →
    runCall invocation s = (.ok out, t) → out.Proper invocation.context

section Parts

variable {settings : Settings σ} {runCall : CallRunner σ}

/-- A declaration is collected properly. -/
private theorem proper_runDeclaration {context : List Selector} {out : Collected}
    (hout : out.Proper context) (frame : FrameId) (declaration : Declaration) :
    (runDeclaration settings context frame out declaration).Yields runCall
      (Collected.Proper context) := by
  unfold runDeclaration
  split
  · exact .fail _
  · next hcontext =>
    have hne : context ≠ [] := fun hnil => hcontext (by simp [hnil])
    exact .after _ fun value => .pure (hout.declare hne _)

mutual

/-- A statement is collected properly. -/
private theorem proper_runNode (hcalls : runCall.Proper) {context : List Selector} {out : Collected}
    (hout : out.Proper context) (frame : FrameId) (site : Site) (node : Node) :
    (runNode settings context frame site out node).Yields runCall (Collected.Proper context) := by
  cases node with
  | assignment assignment =>
    rw [runNode]
    exact .after _ fun _ => .pure hout
  | declaration declaration =>
    rw [runNode]
    exact proper_runDeclaration hout frame declaration
  | call call =>
    rw [runNode]
    exact fun s out' t hrun => hcalls _ s out' t hout hrun
  | ruleset selectors body span =>
    rw [runNode]
    -- the selectors inside are composed anew, and they may well be empty
    have hbody : ∀ frame, (runBody settings (Selector.nestAll context selectors) frame site 0 {}
        body).Yields runCall (Collected.Proper (Selector.nestAll context selectors)) :=
      fun frame => proper_runBody hcalls (.empty _) frame site 0 body
    have hrules : (runRulesetWith site { selectors, body, span } context frame
        fun context frame => runBody settings context frame site 0 {} body).Yields runCall
          fun rules => ∀ rule ∈ rules, rule.NotEmpty :=
      .after _ fun _ => .bind (.inFrame _ _ fun frame => .after _ fun _ => hbody frame)
        fun inner hinner => .pure hinner.finish
    exact .bind hrules fun rules hrules => .pure (hout.nest hrules)
  | mixin name params body span =>
    rw [runNode]
    exact .pure hout

/-- A block keeps what is collected proper. -/
private theorem proper_runBody (hcalls : runCall.Proper) {context : List Selector} {out : Collected}
    (hout : out.Proper context) (frame : FrameId) (site : Site) (index : Nat) (nodes : List Node) :
    (runBody settings context frame site index out nodes).Yields runCall
      (Collected.Proper context) := by
  cases nodes with
  | nil =>
    rw [runBody]
    exact .pure hout
  | cons node rest =>
    rw [runBody]
    exact .bind (proper_runNode hcalls hout frame (index :: site) node) fun out' hout' =>
      proper_runBody hcalls hout' frame site (index + 1) rest

end

/-- Definitions in a row are collected properly. -/
private theorem proper_runDefinitions (hcalls : runCall.Proper) {context : List Selector}
    {out : Collected}
    (hout : out.Proper context) (call : Call) (args : List Value) (caller : FrameId)
    (closures : List Closure) :
    (runDefinitions settings call args context caller out closures).Yields runCall
      (Collected.Proper context) := by
  induction closures generalizing out with
  | nil => exact .pure hout
  | cons closure rest ih =>
    -- the body collects in its own frame, and the rest of the definition only exports what it
    -- defines
    have hframe : (EvalM.inFrame closure.home closure.block fun frame => do
        return (frame, ← runDefinitionBody settings closure args context frame out)).Yields runCall
          fun answer => answer.2.Proper context :=
      .inFrame _ _ fun frame => .bind (.after _ fun _ => .after _ fun _ =>
        proper_runBody hcalls hout _ _ _ _) fun out' hout' => .pure hout'
    have hfirst : (runDefinition settings call closure args context caller out).Yields runCall
        (Collected.Proper context) :=
      .after _ fun _ => .bind (hframe.through _) fun answer hanswer => .after _ fun _ =>
        .pure hanswer
    exact .bind hfirst fun out' hout' => ih hout'

/-- However deeply calls are nested, they keep what is collected proper. -/
private theorem proper_callRunner (settings : Settings σ) (budget : Nat) :
    CallRunner.Proper (callRunner settings budget) := by
  induction budget with
  | zero =>
    intro invocation s out t _ hrun
    cases hrun
  | succ budget ih =>
    intro invocation s out t hout hrun
    have hcall : (runCall settings invocation).Yields (callRunner settings budget)
        (Collected.Proper invocation.context) :=
      .after _ fun args => .after _ fun targets => .after _ fun _ =>
        (proper_runDefinitions ih hout invocation.call args invocation.frame targets).ensuring _
    exact hcall s out t hrun

end Parts

/-- If a stylesheet succeeds, each of its rules has a selector and a declaration, and its rules are
all that the outermost block has collected: that block has no declarations of its own. -/
theorem no_empty_rule_and_no_lost_declaration {settings : Settings σ} {sheet : Stylesheet}
    {natives : σ} {rules : List FlatRule} (h : sheet.rules settings natives = .ok rules) :
    (∀ rule ∈ rules, rule.selectors ≠ [] ∧ rule.declarations ≠ []) ∧
    ∃ out t,
      (runBody settings [] Scopes.root Stylesheet.site 0 {} sheet.nodes).run settings
        ((State.initial natives).mapScopes (·.hoist Scopes.root Stylesheet.site sheet.nodes)) =
          (.ok out, t) ∧
      out.declarations = [] ∧ rules = out.nested := by
  have hrun : (runSheet settings sheet).run settings (.initial natives) =
      (.ok rules, (sheet.run settings natives).2) := Prod.ext h rfl
  rw [EvalM.run, runSheet, EvalM.runWith_perform_bind] at hrun
  obtain ⟨out, t, hbody, hreturn⟩ := EvalM.exists_of_runWith_bind hrun
  have hrules : rules = out.nested := (Except.ok.inj (Prod.mk.inj hreturn).1).symm
  have hproper : out.Proper [] :=
    proper_runBody (proper_callRunner settings _) (.empty []) _ _ _ _ _ out t hbody
  refine ⟨?_, out, t, hbody, hproper.declarations rfl, hrules⟩
  rw [hrules]
  exact hproper.nested

namespace Unselected

/-- A mixin with a ruleset in it, called in a ruleset without selectors, and a ruleset that stays
empty. -/
def sheet : Stylesheet where
  nodes := [
    Sketch.mixin ".frame" [] [Sketch.ruleset ["a"] [Sketch.declare "color" "red"]],
    Sketch.ruleset [] [.call (Sketch.call ".frame" [])],
    Sketch.ruleset [".menu"] []]

/-- The rule of the mixin. -/
def rule : FlatRule where
  selectors := ["a"]
  declarations := [Sketch.declared "color" "red"]

end Unselected

/-- The ruleset without selectors gets the rule of the mixin, and the empty one gives none. -/
theorem no_empty_rule_and_no_lost_declaration_unselected :
    Unselected.sheet.rules (Sketch.settings 64) () = .ok [Unselected.rule] ∧
    Unselected.rule.selectors ≠ [] ∧ Unselected.rule.declarations ≠ [] := by
  have hrules : Unselected.sheet.rules (Sketch.settings 64) () = .ok [Unselected.rule] := rfl
  exact ⟨hrules, (no_empty_rule_and_no_lost_declaration hrules).1 _ List.mem_cons_self⟩

end MixinSheet
