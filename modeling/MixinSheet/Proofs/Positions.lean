import MixinSheet.Proofs.SideBySide
import MixinSheet.Proofs.Sketch

/-!
# What positions matter for

Every node carries the span that it was read from. Spans are reported by failures, and definitions
are tried in the order of their spans. They decide nothing else: two stylesheets that are the same
without their spans give the same rules, or failures that are the same without their spans, as long
as their definitions come in the same order.

## Key results

- `Stylesheet.unplaced`: a stylesheet without its spans
- `Expression.evaluate_unplaced`: an expression has the same value without its spans
- `Stylesheet.SameOrder`: definitions compare alike in two stylesheets
- `Correspondence.unplaced`: stylesheets that are the same without their spans correspond
- `positions_only_order_definitions`: spans matter only through the order of definitions
-/

namespace MixinSheet

open Evaluation

variable {σ α β : Type}

/-! ## Leaving spans out -/

/-- The selector without its span. -/
def Selector.unplaced (selector : Selector) : Selector :=
  { selector with span := default }

namespace Expression

mutual

/-- The expression without its spans. -/
def unplaced : Expression → Expression
  | .literal value _ => .literal value default
  | .reference name _ => .reference name default
  | .operation op lhs rhs _ => .operation op lhs.unplaced rhs.unplaced default
  | .negate operand _ => .negate operand.unplaced default
  | .list separator items _ => .list separator (unplacedAll items) default
  | .call name args _ => .call name (unplacedAll args) default

/-- Some expressions without their spans. -/
def unplacedAll : List Expression → List Expression
  | [] => []
  | expression :: rest => expression.unplaced :: unplacedAll rest

end

/-- Leaving out the spans of a list of expressions leaves out those of each one. -/
private theorem unplacedAll_eq_map (expressions : List Expression) :
    unplacedAll expressions = expressions.map unplaced := by
  induction expressions with
  | nil => rfl
  | cons expression rest ih => rw [unplacedAll, ih, List.map_cons]

end Expression

/-- The parameter without the spans of its expressions. -/
def Parameter.unplaced (param : Parameter) : Parameter :=
  { param with default := param.default.map Expression.unplaced
               guard := param.guard.map Expression.unplaced }

/-- The call without its spans. -/
def Call.unplaced (call : Call) : Call :=
  { call with args := Expression.unplacedAll call.args, span := default }

/-- The declaration without its spans. -/
def Declaration.unplaced (declaration : Declaration) : Declaration :=
  { declaration with value := declaration.value.unplaced, span := default }

/-- The assignment without its spans. -/
def Assignment.unplaced (assignment : Assignment) : Assignment :=
  { assignment with value := assignment.value.unplaced, span := default }

namespace Node

mutual

/-- The node without its spans. -/
def unplaced : Node → Node
  | .ruleset selectors body _ =>
    .ruleset (selectors.map Selector.unplaced) (unplacedAll body) default
  | .mixin name params body _ => .mixin name (params.map Parameter.unplaced) (unplacedAll body) default
  | .call c => .call c.unplaced
  | .declaration d => .declaration d.unplaced
  | .assignment a => .assignment a.unplaced

/-- The nodes of a block without their spans. -/
def unplacedAll : List Node → List Node
  | [] => []
  | node :: rest => node.unplaced :: unplacedAll rest

end

mutual

/-- The spans of the definitions in a node, the node itself included, from the outside in. -/
def definitionSpans : Node → List Span
  | .ruleset _ body span => span :: definitionSpansIn body
  | .mixin _ _ body span => span :: definitionSpansIn body
  | .call _ | .declaration _ | .assignment _ => []

/-- The spans of the definitions in a block, at any depth. -/
def definitionSpansIn : List Node → List Span
  | [] => []
  | node :: rest => node.definitionSpans ++ definitionSpansIn rest

end

end Node

/-- The stylesheet without its spans. -/
def Stylesheet.unplaced (sheet : Stylesheet) : Stylesheet where
  nodes := Node.unplacedAll sheet.nodes

/-- The spans of all rulesets and mixins of a stylesheet. -/
def Stylesheet.definitionSpans (sheet : Stylesheet) : List Span :=
  Node.definitionSpansIn sheet.nodes

/-- Any two definitions compare in the same way in both stylesheets. -/
def Stylesheet.SameOrder (sheet sheet' : Stylesheet) : Prop :=
  ∀ a ∈ sheet.definitionSpans.zip sheet'.definitionSpans,
    ∀ b ∈ sheet.definitionSpans.zip sheet'.definitionSpans,
      a.1.compareStart b.1 = a.2.compareStart b.2

instance (sheet sheet' : Stylesheet) : Decidable (sheet.SameOrder sheet') :=
  inferInstanceAs (Decidable (∀ a ∈ _, ∀ b ∈ _, _))

/-- The open call without its span. -/
def OpenCall.unplaced (call : OpenCall) : OpenCall :=
  { call with span := default }

/-- The failure without its spans. -/
def Failure.unplaced (failure : Failure) : Failure :=
  { failure with span := default, openCalls := failure.openCalls.map OpenCall.unplaced }

/-! ## Expressions -/

/-- A failure is reported without its spans. -/
def HostM.unplaced (act : HostM σ α) : HostM σ α := fun host =>
  ((act host).1.mapError Failure.unplaced, (act host).2)

namespace HostM

private theorem unplaced_pure (a : α) : (pure a : HostM σ α).unplaced = pure a := rfl

private theorem unplaced_throw (failure : Failure) :
    (throw failure : HostM σ α).unplaced = throw failure.unplaced := rfl

/-- Leaving positions out of the failure of a sequence of actions leaves them out of each action. -/
private theorem unplaced_bind (act : HostM σ α) (next : α → HostM σ β) :
    (act >>= next).unplaced = act.unplaced >>= fun a => (next a).unplaced := by
  funext host
  rw [bind_apply, unplaced, bind_apply, unplaced]
  cases h : act host with
  | mk result after =>
    cases result with
    | ok a => rfl
    | error failure => rfl

end HostM

namespace Expression

/-- The brackets an operand is written with do not depend on where it stands. -/
private theorem precedence_unplaced (expression : Expression) :
    expression.unplaced.precedence = expression.precedence := by
  cases expression <;> rfl

mutual

/-- Spans are not part of the text. -/
theorem text_unplaced (expression : Expression) : expression.unplaced.text = expression.text := by
  cases expression with
  | literal | reference => rfl
  | operation op lhs rhs span =>
    simp only [unplaced, text, precedence_unplaced, text_unplaced lhs, text_unplaced rhs]
  | negate operand span => simp only [unplaced, text, precedence_unplaced, text_unplaced operand]
  | list separator items span => simp only [unplaced, text, texts_unplacedAll items]
  | call name args span => simp only [unplaced, text, texts_unplacedAll args]

/-- Neither does the text of a list of expressions. -/
private theorem texts_unplacedAll (expressions : List Expression) :
    texts (unplacedAll expressions) = texts expressions := by
  cases expressions with
  | nil => rfl
  | cons expression rest =>
    simp only [unplacedAll, texts, text_unplaced expression, texts_unplacedAll rest]

end

/-- An expression without its span refuses with the same fault, at no place. -/
private theorem refuse_unplaced (expression : Expression) (fault : Fault) :
    (expression.unplaced.refuse fault : HostM σ α) = (expression.refuse fault).unplaced := by
  unfold refuse
  rw [HostM.unplaced_throw, Failure.unplaced, text_unplaced]
  cases expression <;> rfl

/-- It concludes with the same value, or with the same fault at no place. -/
private theorem conclude_unplaced (expression : Expression) (result : Except Fault Value) :
    (expression.unplaced.conclude result : HostM σ Value) =
      (expression.conclude result).unplaced := by
  cases result with
  | ok value => rfl
  | error fault => exact refuse_unplaced expression fault

variable (settings : Settings σ)

/-- A function call without its span has the same outcome, up to the place of the failure. -/
private theorem callFunction_unplaced (expression : Expression) (name : String)
    (args : List Value) :
    expression.unplaced.callFunction settings name args =
      (expression.callFunction settings name args).unplaced := by
  unfold callFunction
  cases settings.functions.find? name with
  | none => rfl
  | some function =>
    simp only [HostM.unplaced_bind]
    congr 1
    funext result
    cases result with
    | ok value => rfl
    | error message => exact refuse_unplaced expression _

variable (scopes : Scopes) (frame : FrameId)

mutual

/-- Without its spans, an expression has the same value or fails in the same way. -/
theorem evaluate_unplaced (expression : Expression) :
    expression.unplaced.evaluate settings scopes frame =
      (expression.evaluate settings scopes frame).unplaced := by
  -- by recursion on the expression; only faults carry a span, and theirs is left out
  cases expression with
  | literal value span => rfl
  | reference name span =>
    simp only [unplaced, evaluate]
    cases scopes.value? frame name with
    | some value => rfl
    | none => rfl
  | operation op lhs rhs span =>
    simp only [unplaced, evaluate, HostM.unplaced_bind, evaluate_unplaced lhs,
      evaluate_unplaced rhs, ← conclude_unplaced]
  | negate operand span =>
    simp only [unplaced, evaluate, HostM.unplaced_bind, evaluate_unplaced operand,
      ← conclude_unplaced]
  | list separator items span =>
    simp only [unplaced, evaluate, HostM.unplaced_bind, evaluateAll_unplaced items,
      HostM.unplaced_pure]
  | call name args span =>
    simp only [unplaced, evaluate, HostM.unplaced_bind, evaluateAll_unplaced args,
      ← callFunction_unplaced]

/-- A list of expressions without their spans has the same values, up to the place of the failure.
-/
private theorem evaluateAll_unplaced (expressions : List Expression) :
    evaluateAll settings scopes frame (unplacedAll expressions) =
      (evaluateAll settings scopes frame expressions).unplaced := by
  cases expressions with
  | nil => rfl
  | cons expression rest =>
    simp only [unplacedAll, evaluateAll, HostM.unplaced_bind, evaluate_unplaced expression,
      evaluateAll_unplaced rest, HostM.unplaced_pure]

end

end Expression

/-! ## Two stylesheets -/

/-- Failures tell the same if they are the same without their spans. -/
private theorem Failure.like_iff {failure failure' : Failure} :
    failure.Like (fun _ _ => True) failure' ↔ failure.unplaced = failure'.unplaced := by
  obtain ⟨fault, text, span, openCalls⟩ := failure
  obtain ⟨fault', text', span', openCalls'⟩ := failure'
  have hcall : ∀ call call' : OpenCall,
      call.text = call'.text ∧ True ↔ call.unplaced = call'.unplaced := by
    intro call call'
    simp [OpenCall.unplaced]
  -- open calls are compared by their texts
  have hcalls : List.Forall₂ (fun call call' => call.text = call'.text ∧ True) openCalls openCalls' ↔
      openCalls.map OpenCall.unplaced = openCalls'.map OpenCall.unplaced := by
    simp only [hcall]
    exact List.forall₂_eq_iff_map_eq
  constructor
  · rintro ⟨rfl, rfl, -, hopen⟩
    simp only [Failure.unplaced, hcalls.1 hopen]
  · intro h
    simp only [Failure.unplaced, Failure.mk.injEq, true_and] at h
    exact ⟨h.1, h.2.1, trivial, hcalls.2 h.2.2⟩

/-- Expressions that are the same without their spans have the same value or fail in the same way.
-/
private theorem Expression.evaluate_like {settings : Settings σ}
    {expression expression' : Expression}
    (h : expression.unplaced = expression'.unplaced) {scopes scopes' : Scopes} {id : FrameId}
    (hvalues : ∀ name, scopes.value? id name = scopes'.value? id name) {host host' : Host σ}
    (hhost : host.SameNatives host') :
    LikeOutcomes (fun _ _ => True) Host.SameNatives Eq (expression.evaluate settings scopes id host)
      (expression'.evaluate settings scopes' id host') := by
  -- leaving out spans makes the two expressions one, and the scopes agree on all variables
  have hunplaced : (expression.evaluate settings scopes id).unplaced host =
      (expression'.evaluate settings scopes id).unplaced host := by
    rw [← evaluate_unplaced, h, evaluate_unplaced]
  have hsame := Expression.evaluate_same settings hvalues expression' hhost
  simp only [HostM.unplaced] at hunplaced
  generalize expression.evaluate settings scopes id host = result at hunplaced ⊢
  generalize expression'.evaluate settings scopes id host = middle at hunplaced hsame
  generalize expression'.evaluate settings scopes' id host' = result' at hsame ⊢
  obtain ⟨outcome, after⟩ := result
  obtain ⟨outcome', after'⟩ := middle
  obtain ⟨last, final⟩ := result'
  obtain ⟨rfl, hnatives⟩ : outcome' = last ∧ after'.SameNatives final := hsame
  obtain ⟨houtcome, hafter⟩ := Prod.mk.inj hunplaced
  dsimp only at houtcome hafter
  subst hafter
  -- both outcomes are values or both are failures, since leaving out positions keeps the kind
  cases outcome with
  | ok value =>
    cases outcome' with
    | ok value' => exact .ok (Except.ok.inj houtcome) hnatives
    | error failure' => cases houtcome
  | error failure =>
    cases outcome' with
    | ok value' => cases houtcome
    | error failure' => exact .error (Failure.like_iff.2 (Except.error.inj houtcome))

namespace Node

mutual

/-- A node defines as many things without its spans as with them. -/
private theorem length_definitionSpans_unplaced (node : Node) :
    node.unplaced.definitionSpans.length = node.definitionSpans.length := by
  cases node with
  | ruleset selectors body span =>
    simp only [unplaced, definitionSpans, List.length_cons,
      length_definitionSpansIn_unplacedAll body]
  | mixin name params body span =>
    simp only [unplaced, definitionSpans, List.length_cons,
      length_definitionSpansIn_unplacedAll body]
  | call | declaration | assignment => rfl

/-- The same of a list of nodes: one recursion with `length_definitionSpans_unplaced`. -/
private theorem length_definitionSpansIn_unplacedAll (nodes : List Node) :
    (definitionSpansIn (unplacedAll nodes)).length = (definitionSpansIn nodes).length := by
  cases nodes with
  | nil => rfl
  | cons node rest =>
    simp only [unplacedAll, definitionSpansIn, List.length_append,
      length_definitionSpans_unplaced node, length_definitionSpansIn_unplacedAll rest]

end

/-- Blocks that are the same without their spans agree node by node; `pairs` are the spans of their
definitions. -/
private theorem forall₂_located {R : Site × Node → Site × Node → Prop} {pairs : List (Span × Span)}
    (hR : ∀ {site : Site} {node node' : Node}, node.unplaced = node'.unplaced →
      node.definitionSpans.zip node'.definitionSpans ⊆ pairs → R (site, node) (site, node'))
    {site : Site} {index : Nat} {nodes nodes' : List Node}
    (h : unplacedAll nodes = unplacedAll nodes')
    (hpairs : (definitionSpansIn nodes).zip (definitionSpansIn nodes') ⊆ pairs) :
    List.Forall₂ R (located site index nodes) (located site index nodes') := by
  -- the definitions of the first nodes are as many on both sides, so the pairs of spans split
  induction nodes generalizing index nodes' with
  | nil =>
    cases nodes' with
    | nil => exact .nil
    | cons => cases h
  | cons node rest ih =>
    cases nodes' with
    | nil => cases h
    | cons node' rest' =>
      simp only [unplacedAll, List.cons.injEq] at h
      have hlength : node.definitionSpans.length = node'.definitionSpans.length := by
        rw [← length_definitionSpans_unplaced, h.1, length_definitionSpans_unplaced]
      rw [definitionSpansIn, definitionSpansIn, List.zip_append hlength,
        List.append_subset] at hpairs
      exact .cons (hR h.1 hpairs.1) (ih h.2 hpairs.2)

end Node

section Unplaced

variable {sheet sheet' : Stylesheet}

/-- Nodes are the same but for their spans. -/
def Likeness.unplaced (settings : Settings σ) (h : sheet.SameOrder sheet') : Likeness settings where
  positions _ _ := True
  expressions expression expression' := expression.unplaced = expression'.unplaced
  spans span span' := (span, span') ∈ sheet.definitionSpans.zip sheet'.definitionSpans
  sites := Eq
  asked _ := True
  evaluate h hvalues hhost := Expression.evaluate_like h hvalues hhost
  text_eq heq := by rw [← Expression.text_unplaced, heq, Expression.text_unplaced]
  compare_eq ha hb := h _ ha _ hb
  site_iff ha hb := by rw [ha, hb]

/-- Blocks at the same site that are the same without their spans. -/
structure SameUnplaced (sheet sheet' : Stylesheet) (block block' : Block) : Prop where
  site : block.site = block'.site
  body : Node.unplacedAll block.body = Node.unplacedAll block'.body
  spans : (Node.definitionSpansIn block.body).zip (Node.definitionSpansIn block'.body) ⊆
    sheet.definitionSpans.zip sheet'.definitionSpans

variable {settings : Settings σ} {horder : sheet.SameOrder sheet'}

/-- Parameters that differ in spans only are alike. -/
private theorem likeParameters_of_unplaced_eq {param param' : Parameter}
    (h : param.unplaced = param'.unplaced) :
    (Likeness.unplaced settings horder).LikeParameters param param' := by
  -- a default or pattern is missing on both sides or on neither
  have hrel : ∀ {expression expression' : Option Expression},
      expression.map Expression.unplaced = expression'.map Expression.unplaced →
      Option.Rel (fun a b => Expression.unplaced a = Expression.unplaced b) expression
        expression' := by
    intro expression expression' heq
    cases expression with
    | none =>
      cases expression' with
      | none => exact .none
      | some => cases heq
    | some =>
      cases expression' with
      | none => cases heq
      | some => exact .some (Option.some.inj heq)
  obtain ⟨hname, hdefault, hguard⟩ := Parameter.mk.inj h
  exact ⟨hname, hrel hdefault, hrel hguard⟩

/-- Calls that differ in spans only are alike. -/
private theorem likeCalls_of_unplaced_eq {call call' : Call} (h : call.unplaced = call'.unplaced) :
    (Likeness.unplaced settings horder).LikeCalls call call' := by
  obtain ⟨hpath, hargs, hparenthesized, -⟩ := Call.mk.inj h
  rw [Expression.unplacedAll_eq_map, Expression.unplacedAll_eq_map] at hargs
  exact ⟨hpath, fun _ _ => trivial, List.forall₂_eq_iff_map_eq.2 hargs, hparenthesized, trivial⟩

/-- Selectors that differ in spans only render alike. -/
private theorem likeLists_of_map_unplaced_eq {selectors selectors' : List Selector}
    (h : selectors.map Selector.unplaced = selectors'.map Selector.unplaced) :
    Selector.LikeLists selectors selectors' := by
  have helements := congrArg (List.map Selector.elements) h
  rwa [List.map_map, List.map_map] at helements

/-- Nodes that are the same without their spans do the same and define the same. -/
private theorem likeNodes_of_unplaced_eq {site : Site} {node node' : Node}
    (h : node.unplaced = node'.unplaced)
    (hspans : node.definitionSpans.zip node'.definitionSpans ⊆
      sheet.definitionSpans.zip sheet'.definitionSpans) :
    (Likeness.unplaced settings horder).LikeNodes (SameUnplaced sheet sheet') (site, node)
      (site, node') := by
  -- nodes are of one kind, since leaving out spans keeps it; the blocks inside are compared by
  -- their bodies
  cases node with
  | call call =>
    cases node' with
    | call call' =>
      exact ⟨.inl (.call (likeCalls_of_unplaced_eq (Node.call.inj h))), .none⟩
    | ruleset | mixin | declaration | assignment => cases h
  | declaration declaration =>
    cases node' with
    | declaration declaration' =>
      obtain ⟨hproperty, hvalue, himportant, -⟩ := Declaration.mk.inj (Node.declaration.inj h)
      exact ⟨.inl (.declaration ⟨hproperty, hvalue, himportant, trivial⟩), .none⟩
    | ruleset | mixin | call | assignment => cases h
  | assignment assignment =>
    cases node' with
    | assignment assignment' =>
      obtain ⟨hname, hvalue, -⟩ := Assignment.mk.inj (Node.assignment.inj h)
      exact ⟨.inl (.assignment ⟨hname, hvalue⟩), .none⟩
    | ruleset | mixin | call | declaration => cases h
  | ruleset selectors body span =>
    cases node' with
    | ruleset selectors' body' span' =>
      simp only [Node.unplaced, Node.ruleset.injEq, and_true] at h
      simp only [Node.definitionSpans, List.zip_cons_cons, List.cons_subset] at hspans
      have hselectors := likeLists_of_map_unplaced_eq h.1
      have hblock : SameUnplaced sheet sheet' { site, body } { site, body := body' } :=
        ⟨rfl, h.2, hspans.2⟩
      exact ⟨.inl (.ruleset hselectors hblock),
        .some ⟨.ruleset hselectors, hspans.1, rfl, hblock⟩⟩
    | mixin | call | declaration | assignment => cases h
  | mixin name params body span =>
    cases node' with
    | mixin name' params' body' span' =>
      simp only [Node.unplaced, Node.mixin.injEq, and_true] at h
      simp only [Node.definitionSpans, List.zip_cons_cons, List.cons_subset] at hspans
      have hparams :
          List.Forall₂ (Likeness.unplaced settings horder).LikeParameters params params' :=
        (List.forall₂_eq_iff_map_eq.2 h.2.1).imp fun _ _ hparam =>
          likeParameters_of_unplaced_eq hparam
      have hblock : SameUnplaced sheet sheet' { site, body } { site, body := body' } :=
        ⟨rfl, h.2.2, hspans.2⟩
      exact ⟨.inr ⟨rfl, rfl⟩, .some ⟨.mixin h.1 hparams, hspans.1, rfl, hblock⟩⟩
    | ruleset | call | declaration | assignment => cases h

/-- The bodies of two blocks that differ in spans only have like statements, one for one. -/
theorem SameUnplaced.likeNodes {block block' : Block} (h : SameUnplaced sheet sheet' block block') :
    Thinned ((Likeness.unplaced settings horder).LikeNodes (SameUnplaced sheet sheet'))
      (fun _ => False) (Node.located block.site 0 block.body)
      (Node.located block'.site 0 block'.body) := by
  rw [← h.site]
  exact .of_forall₂ (Node.forall₂_located likeNodes_of_unplaced_eq h.body h.spans)

/-- Stylesheets that are the same without their spans correspond if definitions come in the same
order. -/
def Correspondence.unplaced (settings : Settings σ) (horder : sheet.SameOrder sheet') :
    Correspondence settings where
  toLikeness := .unplaced settings horder
  blocks := SameUnplaced sheet sheet'
  dropped _ := False
  statements h := Likeness.forall₂_statements h.likeNodes fun _ hdropped => hdropped.elim
  definitions h := by
    rw [Node.definitions, Node.definitions, Node.definitionsFrom_eq, Node.definitionsFrom_eq]
    exact Likeness.thinned_definitions h.likeNodes fun _ hdropped => hdropped.elim
  dropped_unasked h := h.elim
  dropped_site_ne h := h.elim

/-- If two stylesheets are the same without their spans and their definitions come in the same
order, they give the same rules, or failures with the same fault, the same text and the same texts
of open calls. -/
theorem positions_only_order_definitions (settings : Settings σ) (natives : σ)
    (hsame : sheet.unplaced = sheet'.unplaced) (horder : sheet.SameOrder sheet') :
    (sheet.rules settings natives).mapError Failure.unplaced =
      (sheet'.rules settings natives).mapError Failure.unplaced := by
  have hblocks : SameUnplaced sheet sheet' sheet.block sheet'.block :=
    ⟨rfl, congrArg Stylesheet.nodes hsame, List.Subset.refl _⟩
  have hlike := (Correspondence.unplaced settings horder).run_like hblocks natives
  unfold Stylesheet.rules
  generalize sheet.run settings natives = result at hlike ⊢
  generalize sheet'.run settings natives = result' at hlike ⊢
  cases hlike with
  | ok heq _ => rw [heq]
  | error hfailure => exact congrArg Except.error (Failure.like_iff.1 hfailure)

end Unplaced

namespace Backwards

/-- The span that starts at the given offset of a file and ends there. -/
def spanAt (file offset : UInt64) : Span where
  file := ⟨file⟩
  range := { start := { offset, row := 0, column := 0 }, stop := { offset, row := 0, column := 0 } }

/-- Two mixins of the same name at the given spans, and a ruleset that calls them. -/
def sheetAt (red blue ruleset : Span) : Stylesheet where
  nodes := [
    .mixin ".color" [] [Sketch.declare "color" "red"] red,
    .mixin ".color" [] [Sketch.declare "color" "blue"] blue,
    .ruleset [{ elements := [Sketch.element "a"], span := ruleset }]
      [.call { Sketch.call ".color" [] with span := ruleset }] ruleset]

/-- The mixins stand against the order of their spans. -/
def sheet : Stylesheet :=
  sheetAt (spanAt 0 9) (spanAt 0 5) (spanAt 0 12)

/-- The same in other files, with the spans in the same order. -/
def farSheet : Stylesheet :=
  sheetAt (spanAt 3 70) (spanAt 1 800) (spanAt 4 2)

/-- The rule that the ruleset gives. -/
def rule : FlatRule where
  selectors := ["a"]
  declarations := [Sketch.declared "color" "blue", Sketch.declared "color" "red"]

end Backwards

/-- In the example the spans of the second sheet are others, in the same order, and the rules agree.
-/
theorem positions_only_order_definitions_backwards :
    Backwards.sheet.unplaced = Backwards.farSheet.unplaced ∧
    Backwards.sheet.SameOrder Backwards.farSheet ∧
    Backwards.sheet.rules (Sketch.settings 2) () = .ok [Backwards.rule] ∧
    (Backwards.sheet.rules (Sketch.settings 2) ()).mapError Failure.unplaced =
      (Backwards.farSheet.rules (Sketch.settings 2) ()).mapError Failure.unplaced := by
  have horder : Backwards.sheet.SameOrder Backwards.farSheet := by decide
  exact ⟨rfl, horder, rfl, positions_only_order_definitions (Sketch.settings 2) () rfl horder⟩

end MixinSheet
