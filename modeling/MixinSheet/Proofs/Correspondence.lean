import MixinSheet.Proofs.Discipline
import MixinSheet.Proofs.Lists

/-!
# Stylesheets that correspond to each other

Two stylesheets may be run side by side although their blocks differ, as long as every block of the
first one has a counterpart in which the same statements come in the same order and the same
definitions come in the same order. The sites of nodes may be others, for all that is ever asked of
two sites is whether they are the same; the counterpart may lack definitions that no call asks for;
and mixins may stand elsewhere among the statements, for a mixin does nothing where it stands.

A `Correspondence` says which blocks are counterparts. Two states belong together if their frames
have the same parents and variables and, but for what is left out, definitions that are counterparts.

## Key results

- `Likeness`: how single parts of two stylesheets may differ
- `Correspondence`: which blocks are counterparts of each other
- `Correspondence.LikeScopes.visible`: a name that is asked for finds counterparts, in the same order
- `Correspondence.LikeScopes.publish`: exports keep frames alike
-/

namespace MixinSheet

open Evaluation

variable {σ α β : Type}

/-! ## Lists with gaps -/

/-- Two lists belong together element by element once some elements of the first one are left out;
`D` is true of what is left out. -/
inductive Thinned (R : α → β → Prop) (D : α → Prop) : List α → List β → Prop
  | nil : Thinned R D [] []
  | cons {a : α} {b : β} {as : List α} {bs : List β} (h : R a b) (hrest : Thinned R D as bs) :
      Thinned R D (a :: as) (b :: bs)
  | drop {a : α} {as : List α} {bs : List β} (h : D a) (hrest : Thinned R D as bs) :
      Thinned R D (a :: as) bs

namespace Thinned

variable {R : α → β → Prop} {D : α → Prop} {as as' : List α} {bs bs' : List β}

/-- Nothing needs to be left out. -/
theorem of_forall₂ (h : List.Forall₂ R as bs) : Thinned R D as bs := by
  induction h with
  | nil => exact .nil
  | cons hab _ ih => exact .cons hab ih

/-- Lists in a row belong together if their parts do. -/
theorem append (h : Thinned R D as bs) (h' : Thinned R D as' bs') :
    Thinned R D (as ++ as') (bs ++ bs') := by
  induction h with
  | nil => exact h'
  | cons hab _ ih => exact .cons hab ih
  | drop ha _ ih => exact .drop ha ih

/-- Lists that are made piece by piece belong together if the pieces do. -/
theorem flatMap {ι : Type} {f : ι → List α} {g : ι → List β} (h : ∀ i, Thinned R D (f i) (g i))
    (is : List ι) : Thinned R D (is.flatMap f) (is.flatMap g) := by
  induction is with
  | nil => exact .nil
  | cons i rest ih =>
    rw [List.flatMap_cons, List.flatMap_cons]
    exact (h i).append ih

/-- Elements that are changed on both sides still belong together. -/
theorem map {γ δ : Type} {R' : γ → δ → Prop} {D' : γ → Prop} {f : α → γ} {g : β → δ}
    (h : Thinned R D as bs) (hR : ∀ a b, R a b → R' (f a) (g b)) (hD : ∀ a, D a → D' (f a)) :
    Thinned R' D' (as.map f) (bs.map g) := by
  induction h with
  | nil => exact .nil
  | cons hab _ ih => exact .cons (hR _ _ hab) ih
  | drop ha _ ih => exact .drop (hD _ ha) ih

/-- What passes a test that nothing left out passes belongs together without gaps. -/
theorem filter {p : α → Bool} {q : β → Bool} (h : Thinned R D as bs)
    (hR : ∀ a b, R a b → p a = q b) (hD : ∀ a, D a → p a = false) :
    List.Forall₂ R (as.filter p) (bs.filter q) := by
  induction h with
  | nil => exact .nil
  | @cons a b as bs hab _ ih =>
    rw [List.filter_cons, List.filter_cons, ← hR a b hab]
    split
    · exact .cons hab ih
    · exact ih
  | @drop a as bs ha _ ih =>
    rw [List.filter_cons_of_neg (by simp [hD a ha])]
    exact ih

end Thinned

/-- Sorting keeps elements together that compare in the same way. -/
private theorem Order.forall₂_sort {R : α → β → Prop} {compare : α → α → Ordering}
    {compare' : β → β → Ordering}
    (hcompare : ∀ a b c d, R a b → R c d → compare a c = compare' b d) {as : List α} {bs : List β}
    (h : List.Forall₂ R as bs) : List.Forall₂ R (sort compare as) (sort compare' bs) := by
  -- related elements find the same place in related lists, since they compare alike
  have hinsert : ∀ {a b as bs}, R a b → List.Forall₂ R as bs →
      List.Forall₂ R (insert compare a as) (insert compare' b bs) := by
    intro a b as bs hab hlist
    induction hlist with
    | nil => exact .cons hab .nil
    | @cons c d cs ds hcd hrest ih =>
      rw [insert, insert, hcompare c d a b hcd hab]
      split
      · exact .cons hcd ih
      · exact .cons hab (.cons hcd hrest)
  induction h with
  | nil => exact .nil
  | cons hab _ ih => exact hinsert hab ih

/-! ## Parts of stylesheets -/

/-- Two failures tell the same, at positions that belong together. -/
structure Failure.Like (positions : Span → Span → Prop) (failure failure' : Failure) : Prop where
  fault : failure.fault = failure'.fault
  text : failure.text = failure'.text
  span : positions failure.span failure'.span
  openCalls : List.Forall₂ (fun call call' => call.text = call'.text ∧
    positions call.span call'.span) failure.openCalls failure'.openCalls

/-- Failures that tell the same at the same positions are the same. -/
theorem Failure.Like.eq {failure failure' : Failure} (h : failure.Like Eq failure') :
    failure = failure' := by
  obtain ⟨fault, text, span, openCalls⟩ := failure
  obtain ⟨fault', text', span', openCalls'⟩ := failure'
  obtain ⟨rfl, rfl, rfl, hcalls⟩ := h
  -- open calls are compared one by one
  have hopen : openCalls = openCalls' := by
    dsimp only at hcalls
    induction hcalls with
    | nil => rfl
    | @cons call call' rest rest' hcall _ ih =>
      obtain ⟨text, span⟩ := call
      obtain ⟨rfl, rfl⟩ : text = call'.text ∧ span = call'.span := hcall
      rw [ih]
  rw [hopen]

/-- The outcomes of two runs: both succeed, or both fail with failures that tell the same. -/
inductive LikeOutcomes {S T : Type} (positions : Span → Span → Prop) (states : S → T → Prop)
    (Φ : α → β → Prop) : Except Failure α × S → Except Failure β × T → Prop
  | ok {a : α} {b : β} {s : S} {t : T} (h : Φ a b) (hst : states s t) :
      LikeOutcomes positions states Φ (.ok a, s) (.ok b, t)
  | error {failure failure' : Failure} {s : S} {t : T} (h : failure.Like positions failure') :
      LikeOutcomes positions states Φ (.error failure, s) (.error failure', t)

/-- Two hosts on which native functions give the same. -/
def Host.SameNatives (host host' : Host σ) : Prop :=
  host.natives = host'.natives

/-- Two lists of selectors name the same. Where selectors stand matters to nothing. -/
def Selector.LikeLists (selectors selectors' : List Selector) : Prop :=
  selectors.map Selector.elements = selectors'.map Selector.elements

namespace Selector.LikeLists

variable {selectors selectors' context context' : List Selector}

/-- Selectors that are alike have the same texts. -/
theorem texts (h : LikeLists selectors selectors') :
    selectors.map Selector.text = selectors'.map Selector.text := by
  have hmap : ∀ list : List Selector,
      list.map Selector.text = (list.map Selector.elements).map Element.listText := by
    intro list
    rw [List.map_map]
    rfl
  rw [hmap, hmap, h]

/-- Of two lists that are alike, both are empty or none is. -/
theorem isEmpty (h : LikeLists selectors selectors') : selectors.isEmpty = selectors'.isEmpty := by
  have hmap : ∀ list : List Selector, list.isEmpty = (list.map Selector.elements).isEmpty := by
    intro list
    rw [List.isEmpty_map]
  rw [hmap, hmap, h]

/-- Selectors that are alike have the same names. -/
private theorem any_isNamed (h : LikeLists selectors selectors') (name : String) :
    selectors.any (·.isNamed name) = selectors'.any (·.isNamed name) := by
  have hany : ∀ list : List Selector, list.any (·.isNamed name) =
      (list.map Selector.elements).any fun elements =>
        isNamed { elements, span := default } name := by
    intro list
    rw [List.any_map]
    rfl
  rw [hany, hany, h]

/-- Selectors that are alike stay so under selectors that are alike. -/
theorem nestAll (hcontext : LikeLists context context') (h : LikeLists selectors selectors') :
    LikeLists (Selector.nestAll context selectors) (Selector.nestAll context' selectors') := by
  -- the elements of a nested selector are those of the parent, followed by those of the child
  have hmap : ∀ parents children : List Selector,
      (parents.flatMap fun parent => children.map parent.under).map Selector.elements =
        (parents.map Selector.elements).flatMap fun outer =>
          (children.map Selector.elements).map (outer ++ ·) := by
    intro parents children
    simp only [List.map_flatMap, List.flatMap_map, List.map_map]
    rfl
  unfold Selector.nestAll
  rw [hcontext.isEmpty]
  split
  · exact h
  · unfold LikeLists
    rw [hmap, hmap, hcontext, h]

end Selector.LikeLists

/-- How single parts of two stylesheets may differ without a difference in what they do. -/
structure Likeness (settings : Settings σ) where
  /-- What failures may report for each other. -/
  positions : Span → Span → Prop
  expressions : Expression → Expression → Prop
  /-- The spans of definitions, which tell in which order they are found. -/
  spans : Span → Span → Prop
  /-- The sites of definitions. -/
  sites : Site → Site → Prop
  /-- A call may ask for the name. -/
  asked : String → Prop
  evaluate : ∀ {expression expression'} {scopes scopes' : Scopes} {id : FrameId}
    {host host' : Host σ}, expressions expression expression' →
    (∀ name, scopes.value? id name = scopes'.value? id name) → host.SameNatives host' →
    LikeOutcomes positions Host.SameNatives Eq (expression.evaluate settings scopes id host)
      (expression'.evaluate settings scopes' id host')
  text_eq : ∀ {expression expression'}, expressions expression expression' →
    expression.text = expression'.text
  compare_eq : ∀ {a a' b b'}, spans a a' → spans b b' → a.compareStart b = a'.compareStart b'
  site_iff : ∀ {a a' b b'}, sites a a' → sites b b' → (a = b ↔ a' = b')

namespace Likeness

variable {settings : Settings σ} (K : Likeness settings)

/-- Two calls that ask for the same names with arguments that have the same values. -/
structure LikeCalls (call call' : Call) : Prop where
  path : call.path = call'.path
  asked : ∀ element ∈ call.path, K.asked element.value
  args : List.Forall₂ K.expressions call.args call'.args
  parenthesized : call.parenthesized = call'.parenthesized
  span : K.positions call.span call'.span

/-- Two declarations of the same property with the same value. -/
structure LikeDeclarations (declaration declaration' : Declaration) : Prop where
  property : declaration.property = declaration'.property
  value : K.expressions declaration.value declaration'.value
  important : declaration.important = declaration'.important
  span : K.positions declaration.span declaration'.span

/-- Two assignments of the same value to the same variable. -/
structure LikeAssignments (assignment assignment' : Assignment) : Prop where
  name : assignment.name = assignment'.name
  value : K.expressions assignment.value assignment'.value

/-- Two parameters that take the same arguments. -/
structure LikeParameters (param param' : Parameter) : Prop where
  name : param.name = param'.name
  default : Option.Rel K.expressions param.default param'.default
  guard : Option.Rel K.expressions param.guard param'.guard

/-- Two definitions of the same kind that are called in the same way. -/
inductive LikeHeads : Definition → Definition → Prop
  | ruleset {ruleset ruleset' : Ruleset}
      (h : Selector.LikeLists ruleset.selectors ruleset'.selectors) :
      LikeHeads (.ruleset ruleset) (.ruleset ruleset')
  | mixin {mixin mixin' : Mixin} (hname : mixin.name = mixin'.name)
      (hparams : List.Forall₂ K.LikeParameters mixin.params mixin'.params) :
      LikeHeads (.mixin mixin) (.mixin mixin')

variable (blocks : Block → Block → Prop)

/-- Two definitions, with their sites, whose blocks are counterparts. -/
structure LikeDefinitions (placed placed' : Site × Definition) : Prop where
  head : K.LikeHeads placed.2 placed'.2
  span : K.spans placed.2.span placed'.2.span
  site : K.sites placed.1 placed'.1
  block : blocks { site := placed.1, body := placed.2.body }
    { site := placed'.1, body := placed'.2.body }

/-- Two statements, with their sites, that do the same. -/
inductive LikeStatements : Site × Node → Site × Node → Prop
  | call {site site' : Site} {call call' : Call} (h : K.LikeCalls call call') :
      LikeStatements (site, .call call) (site', .call call')
  | declaration {site site' : Site} {declaration declaration' : Declaration}
      (h : K.LikeDeclarations declaration declaration') :
      LikeStatements (site, .declaration declaration) (site', .declaration declaration')
  | assignment {site site' : Site} {assignment assignment' : Assignment}
      (h : K.LikeAssignments assignment assignment') :
      LikeStatements (site, .assignment assignment) (site', .assignment assignment')
  | ruleset {site site' : Site} {selectors selectors' : List Selector} {body body' : List Node}
      {span span' : Span} (hselectors : Selector.LikeLists selectors selectors')
      (hblock : blocks { site, body } { site := site', body := body' }) :
      LikeStatements (site, .ruleset selectors body span) (site', .ruleset selectors' body' span')

variable {K}

/-- Calls that are alike have the same text. -/
theorem LikeCalls.text_eq {call call' : Call} (h : K.LikeCalls call call') :
    call.text = call'.text := by
  have hargs : call.args.map Expression.text = call'.args.map Expression.text := by
    have hforall := h.args
    generalize call.args = args at hforall ⊢
    generalize call'.args = args' at hforall ⊢
    induction hforall with
    | nil => rfl
    | cons hexpression _ ih => rw [List.map_cons, List.map_cons, K.text_eq hexpression, ih]
  simp only [Call.text, Call.pathText, h.path, h.parenthesized, Expression.texts_eq_map, hargs]

/-- Calls fail alike. -/
theorem LikeCalls.failure {call call' : Call} (h : K.LikeCalls call call') (fault : Fault) :
    Failure.Like K.positions { fault, text := call.text, span := call.span }
      { fault, text := call'.text, span := call'.span } :=
  ⟨rfl, h.text_eq, h.span, .nil⟩

/-- Calls that are alike fail alike where the limit is reached. -/
theorem LikeCalls.limitFailure {call call' : Call} (h : K.LikeCalls call call') :
    (EvalM.limitFailure settings call).Like K.positions (EvalM.limitFailure settings call') := by
  have hpath : call.pathText = call'.pathText := congrArg Element.listText h.path
  rw [EvalM.limitFailure, EvalM.limitFailure, hpath]
  exact h.failure _

/-- Definitions with heads that are alike have the same names. -/
theorem LikeHeads.isNamed_eq {definition definition' : Definition}
    (h : K.LikeHeads definition definition') (name : String) :
    definition.isNamed name = definition'.isNamed name := by
  cases h with
  | ruleset hselectors => exact hselectors.any_isNamed name
  | mixin hname _ => simp only [Definition.isNamed, hname]

/-- Definitions with heads that are alike are rulesets or mixins alike. -/
theorem LikeHeads.isNamespace_eq {definition definition' : Definition}
    (h : K.LikeHeads definition definition') :
    definition.isNamespace = definition'.isNamespace := by
  cases h with
  | ruleset => rfl
  | mixin => rfl

end Likeness

namespace Node

/-- Whether the node is a mixin, which does nothing where it stands. -/
def isMixin : Node → Bool
  | .mixin .. => true
  | _ => false

/-- The statements of a block without its mixins, with their sites. -/
def statements (site : Site) (index : Nat) (nodes : List Node) : List (Site × Node) :=
  (located site index nodes).filter fun placed => !placed.2.isMixin

/-- The definition that a statement is, with its site. -/
def placedDefinition? (placed : Site × Node) : Option (Site × Definition) :=
  placed.2.definition?.map (placed.1, ·)

/-- The definitions of a block are the definitions among its located nodes. -/
theorem definitionsFrom_eq (site : Site) (index : Nat) (nodes : List Node) :
    definitionsFrom site index nodes = (located site index nodes).filterMap placedDefinition? := by
  induction nodes generalizing index with
  | nil => rfl
  | cons node rest ih =>
    rw [definitionsFrom, located, List.filterMap_cons, ih]
    cases hdef : node.definition? with
    | none => simp [placedDefinition?, hdef]
    | some definition => simp [placedDefinition?, hdef]

end Node

namespace Likeness

variable {settings : Settings σ} (K : Likeness settings) (blocks : Block → Block → Prop)

/-- Two nodes, with their sites, that do the same where they stand and define the same. -/
structure LikeNodes (placed placed' : Site × Node) : Prop where
  statement : K.LikeStatements blocks placed placed' ∨ placed.2.isMixin ∧ placed'.2.isMixin
  definition : Option.Rel (K.LikeDefinitions blocks) (Node.placedDefinition? placed)
    (Node.placedDefinition? placed')

variable {K blocks} {D : Site × Node → Prop} {nodes nodes' : List (Site × Node)}

/-- If blocks agree node by node once some mixins are left out, they have the same statements. -/
theorem forall₂_statements (h : Thinned (K.LikeNodes blocks) D nodes nodes')
    (hD : ∀ placed, D placed → placed.2.isMixin) :
    List.Forall₂ (K.LikeStatements blocks) (nodes.filter fun placed => !placed.2.isMixin)
      (nodes'.filter fun placed => !placed.2.isMixin) := by
  induction h with
  | nil => exact .nil
  | @cons placed placed' rest rest' hlike _ ih =>
    -- mixins are no statements and are left out on both sides
    rcases hlike.statement with hstatement | ⟨hmixin, hmixin'⟩
    · have hkept : placed.2.isMixin = false ∧ placed'.2.isMixin = false := by
        cases hstatement <;> exact ⟨rfl, rfl⟩
      rw [List.filter_cons_of_pos (by simp [hkept.1]), List.filter_cons_of_pos (by simp [hkept.2])]
      exact .cons hstatement ih
    · rw [List.filter_cons_of_neg (by simp [hmixin]), List.filter_cons_of_neg (by simp [hmixin'])]
      exact ih
  | @drop placed rest rest' hdropped _ ih =>
    -- what is missing on the right is a mixin
    rw [List.filter_cons_of_neg (by simp [hD placed hdropped])]
    exact ih

/-- And they have the same definitions but for those that are left out. -/
theorem thinned_definitions {dropped : Site × Definition → Prop}
    (h : Thinned (K.LikeNodes blocks) D nodes nodes')
    (hD : ∀ placed, D placed → ∃ definition, Node.placedDefinition? placed = some definition ∧
      dropped definition) :
    Thinned (K.LikeDefinitions blocks) dropped (nodes.filterMap Node.placedDefinition?)
      (nodes'.filterMap Node.placedDefinition?) := by
  induction h with
  | nil => exact .nil
  | @cons placed placed' rest rest' hlike _ ih =>
    have hdefinition := hlike.definition
    rw [List.filterMap_cons, List.filterMap_cons]
    generalize Node.placedDefinition? placed = definition at hdefinition ⊢
    generalize Node.placedDefinition? placed' = definition' at hdefinition ⊢
    -- a node defines nothing on both sides, or counterparts
    cases hdefinition with
    | none => exact ih
    | some hdefinition => exact .cons hdefinition ih
  | @drop placed rest rest' hdropped _ ih =>
    obtain ⟨definition, hdefinition, hdropped⟩ := hD placed hdropped
    rw [List.filterMap_cons, hdefinition]
    exact .drop hdropped ih

/-! ## Equal parts -/

/-- Parts are the same in both stylesheets, and only their sites differ. -/
def equal (settings : Settings σ) (sites : Site → Site → Prop) (asked : String → Prop)
    (hsites : ∀ a a' b b', sites a a' → sites b b' → (a = b ↔ a' = b')) :
    Likeness settings where
  positions := Eq
  expressions := Eq
  spans := Eq
  sites := sites
  asked := asked
  evaluate {expression expression' scopes scopes' id host host'} heq hvalues hhost := by
    subst heq
    have hsame := Expression.evaluate_same settings hvalues expression hhost
    generalize expression.evaluate settings scopes id host = result at hsame ⊢
    generalize expression.evaluate settings scopes' id host' = result' at hsame ⊢
    obtain ⟨outcome, after⟩ := result
    obtain ⟨outcome', after'⟩ := result'
    obtain ⟨rfl, hafter⟩ : outcome = outcome' ∧ after.SameNatives after' := hsame
    cases outcome with
    | ok value => exact .ok rfl hafter
    | error failure => exact .error ⟨rfl, rfl, rfl, List.forall₂_same.2 fun _ _ => ⟨rfl, rfl⟩⟩
  text_eq heq := congrArg Expression.text heq
  compare_eq ha hb := by rw [ha, hb]
  site_iff := hsites _ _ _ _

section Equal

variable {sites : Site → Site → Prop} {asked : String → Prop}
  {hsites : ∀ a a' b b', sites a a' → sites b b' → (a = b ↔ a' = b')}

/-- A call is like itself if all of its names may be asked for. -/
theorem LikeCalls.refl {call : Call} (h : ∀ element ∈ call.path, asked element.value) :
    (equal settings sites asked hsites).LikeCalls call call :=
  ⟨rfl, h, List.forall₂_same.2 fun _ _ => rfl, rfl, rfl⟩

/-- A parameter is like itself. -/
theorem LikeParameters.refl (param : Parameter) :
    (equal settings sites asked hsites).LikeParameters param param := by
  have hrel : ∀ expression : Option Expression, Option.Rel Eq expression expression := by
    intro expression
    cases expression with
    | none => exact .none
    | some => exact .some rfl
  exact ⟨rfl, hrel param.default, hrel param.guard⟩

end Equal

end Likeness

/-- Which blocks of two stylesheets are counterparts of each other. -/
structure Correspondence (settings : Settings σ) extends Likeness settings where
  blocks : Block → Block → Prop
  /-- The definition has no counterpart. -/
  dropped : Site × Definition → Prop
  statements : ∀ {block block'}, blocks block block' →
    List.Forall₂ (toLikeness.LikeStatements blocks) (Node.statements block.site 0 block.body)
      (Node.statements block'.site 0 block'.body)
  definitions : ∀ {block block'}, blocks block block' →
    Thinned (toLikeness.LikeDefinitions blocks) dropped
      (Node.definitions block.site block.body) (Node.definitions block'.site block'.body)
  dropped_unasked : ∀ {placed name}, dropped placed → asked name → placed.2.isNamed name = false
  dropped_site_ne : ∀ {placed site site'}, dropped placed → sites site site' → placed.1 ≠ site

namespace Correspondence

variable {settings : Settings σ} (C : Correspondence settings)

/-! ## Definitions and frames -/

/-- Two definitions that are counterparts and have the same home. -/
structure LikeClosures (closure closure' : Closure) : Prop where
  home : closure.home = closure'.home
  definition : C.LikeDefinitions C.blocks (closure.site, closure.definition)
    (closure'.site, closure'.definition)

/-- The definition has no counterpart. -/
def Dropped (closure : Closure) : Prop :=
  C.dropped (closure.site, closure.definition)

/-- What two frames have in common. -/
structure LikeFrames (frame frame' : Frame) : Prop where
  parent : frame.parent = frame'.parent
  bindings : frame.bindings = frame'.bindings
  closures : Thinned C.LikeClosures C.Dropped frame.closures frame'.closures

/-- What the frames of two runs have in common. Which of them are active matters only to events. -/
structure LikeScopes (scopes scopes' : Scopes) : Prop where
  next : scopes.next = scopes'.next
  frames : ∀ id, Option.Rel C.LikeFrames (scopes.frame? id) (scopes'.frame? id)

variable {C}

/-- Counterparts have the same names. -/
theorem LikeClosures.isNamed_eq {closure closure' : Closure} (h : C.LikeClosures closure closure')
    (name : String) : closure.definition.isNamed name = closure'.definition.isNamed name :=
  h.definition.head.isNamed_eq name

/-- A counterpart of a namespace is a namespace. -/
theorem LikeClosures.isNamespace_eq {closure closure' : Closure}
    (h : C.LikeClosures closure closure') :
    closure.definition.isNamespace = closure'.definition.isNamespace :=
  h.definition.head.isNamespace_eq

/-- The blocks of counterparts are counterparts. -/
theorem LikeClosures.block {closure closure' : Closure} (h : C.LikeClosures closure closure') :
    C.blocks closure.block closure'.block :=
  h.definition.block

/-- Two definitions have the same site if their counterparts do. -/
theorem LikeClosures.site_iff {closure closure' other other' : Closure}
    (h : C.LikeClosures closure closure') (h' : C.LikeClosures other other') :
    closure.site = other.site ↔ closure'.site = other'.site :=
  C.site_iff h.definition.site h'.definition.site

/-! ## Exports -/

variable {known known' : List Closure}

/-- A counterpart takes the place of a counterpart. -/
private theorem thinned_place {closure closure' : Closure} (target : FrameId)
    (h : C.LikeClosures closure closure') (hknown : Thinned C.LikeClosures C.Dropped known known') :
    Thinned C.LikeClosures C.Dropped (Scopes.place target closure known)
      (Scopes.place target closure' known') := by
  induction hknown with
  | nil => exact .cons h .nil
  | @cons existing existing' rest rest' hexisting hrest ih =>
    have hsame : (existing.home != target && existing.site == closure.site) =
        (existing'.home != target && existing'.site == closure'.site) := by
      rw [hexisting.home, Bool.eq_iff_iff]
      simp only [Bool.and_eq_true, beq_iff_eq, hexisting.site_iff h]
    rw [Scopes.place, Scopes.place, hsame]
    split
    · exact .cons h hrest
    · exact .cons hexisting ih
  | @drop existing rest rest' hdropped hrest ih =>
    -- what has no counterpart is not replaced by something that has one
    have hne : existing.site ≠ closure.site := C.dropped_site_ne hdropped h.definition.site
    rw [Scopes.place, if_neg (by simp [hne])]
    exact .drop hdropped ih

/-- Placing something without a counterpart touches no counterpart. -/
private theorem thinned_place_dropped {closure : Closure} (target : FrameId) (h : C.Dropped closure)
    (hknown : Thinned C.LikeClosures C.Dropped known known') :
    Thinned C.LikeClosures C.Dropped (Scopes.place target closure known) known' := by
  induction hknown with
  | nil => exact .drop h .nil
  | @cons existing existing' rest rest' hexisting hrest ih =>
    -- the place that it may take is not that of a counterpart
    have hne : existing.site ≠ closure.site :=
      (C.dropped_site_ne h hexisting.definition.site).symm
    rw [Scopes.place, if_neg (by simp [hne])]
    exact .cons hexisting ih
  | @drop existing rest rest' hdropped hrest ih =>
    rw [Scopes.place]
    split
    · exact .drop h hrest
    · exact .drop hdropped ih

/-- Exports of counterparts are placed alike. -/
private theorem thinned_foldl_place {exported exported' : List Closure} (target : FrameId)
    (h : Thinned C.LikeClosures C.Dropped exported exported')
    (hknown : Thinned C.LikeClosures C.Dropped known known') :
    Thinned C.LikeClosures C.Dropped
      (exported.foldl (fun known closure => Scopes.place target closure known) known)
      (exported'.foldl (fun known closure => Scopes.place target closure known) known') := by
  induction h generalizing known known' with
  | nil => exact hknown
  | cons hclosure _ ih => exact ih (thinned_place target hclosure hknown)
  | drop hdropped _ ih => exact ih (thinned_place_dropped target hdropped hknown)

/-! ## Scopes -/

namespace LikeScopes

variable {scopes scopes' : Scopes}

/-- At first there is nothing but the root frame. -/
theorem initial : C.LikeScopes Scopes.initial Scopes.initial := by
  refine ⟨rfl, fun id => ?_⟩
  cases id with
  | zero => exact .some ⟨rfl, rfl, .nil⟩
  | succ id => exact .none

/-- Frames stay alike if they are changed alike. -/
theorem modify {f f' : Frame → Frame} (h : C.LikeScopes scopes scopes') (id : FrameId)
    (hf : ∀ frame frame', C.LikeFrames frame frame' → C.LikeFrames (f frame) (f' frame')) :
    C.LikeScopes (scopes.modify id f) (scopes'.modify id f') := by
  refine ⟨by rw [Scopes.next_modify, Scopes.next_modify, h.next], fun other => ?_⟩
  rw [Scopes.frame?_modify, Scopes.frame?_modify]
  have hother := h.frames other
  generalize scopes.frame? other = frame at hother ⊢
  generalize scopes'.frame? other = frame' at hother ⊢
  split
  · cases hother with
    | none => exact .none
    | some hframe => exact .some (hf _ _ hframe)
  · exact hother

/-- New frames are alike. -/
theorem push (h : C.LikeScopes scopes scopes') (parent : FrameId) :
    C.LikeScopes (scopes.push parent) (scopes'.push parent) := by
  refine ⟨by rw [Scopes.next_push, Scopes.next_push, h.next], fun id => ?_⟩
  rw [Scopes.frame?_push, Scopes.frame?_push, h.next]
  split
  · exact .some ⟨rfl, rfl, .nil⟩
  · exact h.frames id

/-- Leaving a frame keeps frames alike. -/
theorem pop (h : C.LikeScopes scopes scopes') : C.LikeScopes scopes.pop scopes'.pop := by
  refine ⟨by rw [Scopes.next_pop, Scopes.next_pop, h.next], fun id => ?_⟩
  rw [Scopes.frame?_pop, Scopes.frame?_pop]
  exact h.frames id

/-- Binding the same value keeps frames alike. -/
theorem bind (h : C.LikeScopes scopes scopes') (id : FrameId) (name : String) (value : Value) :
    C.LikeScopes (scopes.bind id name value) (scopes'.bind id name value) :=
  h.modify id fun _ _ hframe =>
    ⟨hframe.parent, congrArg ((name, value) :: ·) hframe.bindings, hframe.closures⟩

/-- The definitions of counterparts are registered. -/
theorem hoist (h : C.LikeScopes scopes scopes') (id : FrameId) {block block' : Block}
    (hblock : C.blocks block block') :
    C.LikeScopes (scopes.hoist id block.site block.body)
      (scopes'.hoist id block'.site block'.body) := by
  have hclosures : Thinned C.LikeClosures C.Dropped (Scopes.closuresOf id block.site block.body)
      (Scopes.closuresOf id block'.site block'.body) :=
    (C.definitions hblock).map (fun _ _ hdefinition => ⟨rfl, hdefinition⟩)
      fun _ hdropped => hdropped
  exact h.modify id fun _ _ hframe =>
    ⟨hframe.parent, hframe.bindings, hframe.closures.append hclosures⟩

/-- The definitions of frames that are alike are counterparts, but for those that are left out. -/
theorem closuresIn (h : C.LikeScopes scopes scopes') (id : FrameId) :
    Thinned C.LikeClosures C.Dropped (scopes.closuresIn id) (scopes'.closuresIn id) := by
  have hframe := h.frames id
  unfold Scopes.closuresIn
  generalize scopes.frame? id = frame at hframe ⊢
  generalize scopes'.frame? id = frame' at hframe ⊢
  cases hframe with
  | none => exact .nil
  | some hframe => exact hframe.closures

/-- Exports keep frames alike. -/
theorem publish (h : C.LikeScopes scopes scopes') (source target : FrameId) :
    C.LikeScopes (scopes.publish source target) (scopes'.publish source target) :=
  h.modify target fun _ _ hframe => ⟨hframe.parent, hframe.bindings,
    thinned_foldl_place target (h.closuresIn source) hframe.closures⟩

/-- The same frames lie around. -/
theorem ancestors_eq (h : C.LikeScopes scopes scopes') (id : FrameId) :
    scopes.ancestors id = scopes'.ancestors id := by
  -- counterparts have one parent
  have hparent : ∀ id, scopes.parent? id = scopes'.parent? id := by
    intro id
    have hframe := h.frames id
    unfold Scopes.parent?
    generalize scopes.frame? id = frame at hframe ⊢
    generalize scopes'.frame? id = frame' at hframe ⊢
    cases hframe with
    | none => rfl
    | some hframe => exact hframe.parent
  -- so the walk outwards takes the same way, as far as it goes
  have hwithin : ∀ limit id, scopes.ancestorsWithin limit id = scopes'.ancestorsWithin limit id := by
    intro limit
    induction limit with
    | zero => exact fun _ => rfl
    | succ limit ih =>
      intro id
      simp only [Scopes.ancestorsWithin, hparent, ih]
  have hnext : scopes.frames.size = scopes'.frames.size := h.next
  rw [Scopes.ancestors, Scopes.ancestors, hnext, hwithin]

/-- All variables have the same values. -/
theorem value?_eq (h : C.LikeScopes scopes scopes') (id : FrameId) (name : String) :
    scopes.value? id name = scopes'.value? id name := by
  have hvalue : ∀ other, (scopes.frame? other).bind (·.value? name) =
      (scopes'.frame? other).bind (·.value? name) := by
    intro other
    have hframe := h.frames other
    generalize scopes.frame? other = frame at hframe ⊢
    generalize scopes'.frame? other = frame' at hframe ⊢
    cases hframe with
    | none => rfl
    | some hframe => exact congrArg (·.lookup name) hframe.bindings
  simp only [Scopes.value?, h.ancestors_eq, hvalue]

/-- A name that is asked for finds counterparts, in the same order. -/
theorem visible (h : C.LikeScopes scopes scopes') (id : FrameId) {name : String}
    (hname : C.asked name) :
    List.Forall₂ C.LikeClosures (scopes.visible id name) (scopes'.visible id name) := by
  rw [Scopes.visible, Scopes.visible, h.ancestors_eq]
  refine Order.forall₂_sort (fun _ _ _ _ hab hcd =>
    C.compare_eq hab.definition.span hcd.definition.span) ?_
  exact (Thinned.flatMap h.closuresIn _).filter (fun _ _ hclosure => hclosure.isNamed_eq name)
    fun _ hdropped => C.dropped_unasked hdropped hname

end LikeScopes

end Correspondence

end MixinSheet
