import Mathlib.Logic.Relation
import MixinSheet.Proofs.Arena
import MixinSheet.Proofs.SideBySide
import MixinSheet.Proofs.Sketch

/-!
# The place of mixins

The definitions of a block are registered before its statements are run, and a mixin does nothing
where it stands. So a mixin may be moved past declarations, assignments and calls, in any block,
without a difference in what the stylesheet gives. It may not be moved past other definitions: they
are found in the order in which they were registered.

The nodes of a block get other sites when a mixin is moved. Two definitions are still told apart in
the same cases, since each of them is found by counting the definitions of its block.

## Key results

- `Node.Moves`: some mixins of a block stand one statement further down
- `Stylesheet.Rearranged`: stylesheets that differ by such moves
- `Stylesheet.Counterparts`: blocks of two stylesheets that are reached by the same count
- `Correspondence.moved`: stylesheets correspond to each other after a move
- `place_of_mixins_is_free`: moving mixins changes nothing
-/

namespace MixinSheet

open Evaluation

variable {σ : Type}

/-! ## Moves -/

/-- Whether the node is a call, a declaration or an assignment, and so no definition. -/
def Node.isPlain : Node → Bool
  | .call _ | .declaration _ | .assignment _ => true
  | .ruleset .. | .mixin .. => false

/-- The second block is the first one with some mixins moved past the plain statement that follows
them, in the block itself or in the blocks inside of it. -/
inductive Node.Moves : List Node → List Node → Prop
  | nil : Moves [] []
  | keep (node : Node) {rest rest' : List Node} (h : Moves rest rest') :
      Moves (node :: rest) (node :: rest')
  | ruleset (selectors : List Selector) (span : Span) {body body' rest rest' : List Node}
      (hbody : Moves body body') (h : Moves rest rest') :
      Moves (.ruleset selectors body span :: rest) (.ruleset selectors body' span :: rest')
  | mixin (name : String) (params : List Parameter) (span : Span)
      {body body' rest rest' : List Node} (hbody : Moves body body') (h : Moves rest rest') :
      Moves (.mixin name params body span :: rest) (.mixin name params body' span :: rest')
  | past (name : String) (params : List Parameter) (body : List Node) (span : Span) {other : Node}
      (hother : other.isPlain) {rest rest' : List Node} (h : Moves rest rest') :
      Moves (.mixin name params body span :: other :: rest)
        (other :: .mixin name params body span :: rest')

/-- Nothing has to be moved. -/
theorem Node.Moves.refl (nodes : List Node) : Moves nodes nodes := by
  induction nodes with
  | nil => exact .nil
  | cons node rest ih => exact .keep node ih

/-- Two stylesheets that can be turned into each other by moving mixins, down or up, past calls,
declarations and assignments. -/
def Stylesheet.Rearranged : Stylesheet → Stylesheet → Prop :=
  Relation.EqvGen fun sheet sheet' => Node.Moves sheet.nodes sheet'.nodes

/-- Two definitions that are the same but for moves in their blocks. -/
inductive Definition.Moves : Definition → Definition → Prop
  | ruleset (selectors : List Selector) (span : Span) {body body' : List Node}
      (h : Node.Moves body body') :
      Moves (.ruleset { selectors, body, span }) (.ruleset { selectors, body := body', span })
  | mixin (name : String) (params : List Parameter) (span : Span) {body body' : List Node}
      (h : Node.Moves body body') :
      Moves (.mixin { name, params, body, span }) (.mixin { name, params, body := body', span })

namespace Definition.Moves

variable {definition definition' : Definition}

/-- A definition in which nothing is moved. -/
theorem refl (definition : Definition) : Moves definition definition := by
  cases definition with
  | ruleset ruleset => exact .ruleset ruleset.selectors ruleset.span (.refl ruleset.body)
  | mixin mixin => exact .mixin mixin.name mixin.params mixin.span (.refl mixin.body)

/-- The bodies of definitions differ by moves. -/
theorem body (h : Moves definition definition') :
    Node.Moves definition.body definition'.body := by
  cases h with
  | ruleset _ _ h => exact h
  | mixin _ _ _ h => exact h

/-- A move leaves a definition where it was written. -/
private theorem span_eq (h : Moves definition definition') :
    definition.span = definition'.span := by
  cases h with
  | ruleset => rfl
  | mixin => rfl

end Definition.Moves

/-- The definitions of a block keep their order. -/
theorem Node.Moves.definitions {nodes nodes' : List Node} (h : Moves nodes nodes') :
    List.Forall₂ Definition.Moves (nodes.filterMap Node.definition?)
      (nodes'.filterMap Node.definition?) := by
  induction h with
  | nil => exact .nil
  | keep node _ ih =>
    -- a node that stays where it is defines the same
    rw [List.filterMap_cons, List.filterMap_cons]
    cases node.definition? with
    | none => exact ih
    | some definition => exact .cons (.refl definition) ih
  | ruleset selectors span hbody _ _ ih => exact .cons (.ruleset selectors span hbody) ih
  | mixin name params span hbody _ _ ih => exact .cons (.mixin name params span hbody) ih
  | @past _ _ _ _ other hother _ _ _ ih =>
    -- a mixin that was moved past another node: that one defines nothing
    cases other with
    | call | declaration | assignment => exact .cons (.refl _) ih
    | ruleset | mixin => cases hother

/-- The definitions of a block are the definitions among its nodes, in order. -/
private theorem Node.map_snd_definitionsFrom (site : Site) (index : Nat) (nodes : List Node) :
    (definitionsFrom site index nodes).map Prod.snd = nodes.filterMap Node.definition? := by
  induction nodes generalizing index with
  | nil => rfl
  | cons node rest ih =>
    rw [definitionsFrom, List.filterMap_cons]
    cases node.definition? with
    | none => exact ih (index + 1)
    | some definition => exact congrArg (definition :: ·) (ih (index + 1))

/-! ## Blocks that are reached by the same count -/

/-- Blocks of two stylesheets that are reached in the same way from the outermost ones, if only the
definitions of a block are counted. -/
inductive Stylesheet.Counterparts (sheet sheet' : Stylesheet) : Block → Block → Prop
  | outermost : Counterparts sheet sheet' sheet.block sheet'.block
  | inner {block block' : Block} {placed placed' : Site × Definition}
      (h : Counterparts sheet sheet' block block')
      (hmem : (placed, placed') ∈ (Node.definitions block.site block.body).zip
        (Node.definitions block'.site block'.body)) :
      Counterparts sheet sheet' { site := placed.1, body := placed.2.body }
        { site := placed'.1, body := placed'.2.body }

/-- The site of a definition is an index and then the site of its block. -/
private theorem Node.tail_of_mem_definitions {site : Site} {body : List Node}
    {placed : Site × Definition} (h : placed ∈ definitions site body) : placed.1.tail = site := by
  obtain ⟨i, -, hsite, -⟩ := getElem?_of_mem_definitions h
  rw [hsite, List.tail_cons]

/-- No two definitions of a block have the same site. -/
private theorem Node.nodup_definitionsFrom (site : Site) (index : Nat) (nodes : List Node) :
    ((definitionsFrom site index nodes).map Prod.fst).Nodup := by
  induction nodes generalizing index with
  | nil => exact List.nodup_nil
  | cons node rest ih =>
    rw [definitionsFrom]
    cases node.definition? with
    | none => exact ih (index + 1)
    | some definition =>
      refine List.nodup_cons.2 ⟨fun hmem => ?_, ih (index + 1)⟩
      -- the definitions after this one have greater indices
      obtain ⟨⟨_, later⟩, hlater, rfl⟩ := List.mem_map.1 hmem
      obtain ⟨other, hother, -⟩ := Node.mem_definitionsFrom_iff.1 hlater
      obtain ⟨i, hsite, -⟩ := Node.getElem?_of_mem_located hother
      have hindex : index = index + 1 + i := (List.cons.inj hsite).1
      omega

namespace Stylesheet.Counterparts

variable {sheet sheet' : Stylesheet} {block block' : Block}

/-- Counterparts are blocks of their stylesheets. -/
theorem hasBlock (h : sheet.Counterparts sheet' block block') :
    sheet.HasBlock block ∧ sheet'.HasBlock block' := by
  induction h with
  | outermost => exact ⟨.outermost, .outermost⟩
  | inner _ hmem ih =>
    obtain ⟨hleft, hright⟩ := List.of_mem_zip hmem
    exact ⟨ih.1.inner hleft, ih.2.inner hright⟩

/-- The site of an inner block is not the outermost one, in either stylesheet. -/
private theorem site_ne {placed placed' : Site × Definition}
    (h : sheet.Counterparts sheet' block block')
    (hmem : (placed, placed') ∈ (Node.definitions block.site block.body).zip
      (Node.definitions block'.site block'.body)) :
    placed.1 ≠ Stylesheet.site ∧ placed'.1 ≠ Stylesheet.site := by
  obtain ⟨hleft, hright⟩ := List.of_mem_zip hmem
  refine ⟨fun heq => h.hasBlock.1.site_ne_nil ?_, fun heq => h.hasBlock.2.site_ne_nil ?_⟩
  · rw [← Node.tail_of_mem_definitions hleft, heq]
    rfl
  · rw [← Node.tail_of_mem_definitions hright, heq]
    rfl

/-- Sites of blocks are the same in one stylesheet if those of their counterparts are the same in
the other. -/
theorem site_iff {other other' : Block} (h : sheet.Counterparts sheet' block block')
    (h' : sheet.Counterparts sheet' other other') :
    block.site = other.site ↔ block'.site = other'.site := by
  induction h generalizing other other' with
  | outermost =>
    cases h' with
    | outermost => exact Iff.rfl
    | inner houter hmem =>
      obtain ⟨hleft, hright⟩ := houter.site_ne hmem
      exact ⟨fun heq => absurd heq.symm hleft, fun heq => absurd heq.symm hright⟩
  | @inner block block' placed placed' houter hmem ih =>
    cases h' with
    | outermost =>
      obtain ⟨hleft, hright⟩ := houter.site_ne hmem
      exact ⟨fun heq => absurd heq hleft, fun heq => absurd heq hright⟩
    | @inner other other' placed₂ placed₂' houter' hmem' =>
      have hblocks := ih houter'
      -- inside of the same blocks, definitions are told apart by their count
      have hsame : block.site = other.site → (placed.1 = placed₂.1 ↔ placed'.1 = placed₂'.1) := by
        intro hsite
        obtain rfl := houter.hasBlock.1.eq_of_site_eq houter'.hasBlock.1 hsite
        obtain rfl := houter.hasBlock.2.eq_of_site_eq houter'.hasBlock.2 (hblocks.1 hsite)
        exact List.fst_eq_iff_of_mem_zip (Node.nodup_definitionsFrom _ _ _)
          (Node.nodup_definitionsFrom _ _ _) hmem hmem'
      obtain ⟨hleft, hright⟩ := List.of_mem_zip hmem
      obtain ⟨hleft', hright'⟩ := List.of_mem_zip hmem'
      constructor
      · intro heq
        have hsite : block.site = other.site := by
          rw [← Node.tail_of_mem_definitions hleft, ← Node.tail_of_mem_definitions hleft']
          exact congrArg List.tail heq
        exact (hsame hsite).1 heq
      · intro heq
        have hsite : block'.site = other'.site := by
          rw [← Node.tail_of_mem_definitions hright, ← Node.tail_of_mem_definitions hright']
          exact congrArg List.tail heq
        exact (hsame (hblocks.2 hsite)).2 heq

end Stylesheet.Counterparts

/-! ## Stylesheets after a move -/

/-- Nodes are the same in two stylesheets but for the sites of counterparts. -/
def Likeness.counterparts (settings : Settings σ) (sheet sheet' : Stylesheet) :
    Likeness settings :=
  .equal settings
    (fun site site' => ∃ block block', sheet.Counterparts sheet' block block' ∧
      block.site = site ∧ block'.site = site')
    (fun _ => True) (by
      rintro _ _ _ _ ⟨block, block', h, rfl, rfl⟩ ⟨other, other', h', rfl, rfl⟩
      exact h.site_iff h')

/-- Blocks that are reached by the same count and differ by moves. -/
structure MovedBlocks (sheet sheet' : Stylesheet) (block block' : Block) : Prop where
  counterparts : sheet.Counterparts sheet' block block'
  moves : Node.Moves block.body block'.body

section Moved

variable {settings : Settings σ} {sheet sheet' : Stylesheet}

/-- Definitions of counterparts are counterparts, in order. -/
theorem MovedBlocks.definitions {block block' : Block} (h : MovedBlocks sheet sheet' block block') :
    List.Forall₂
      ((Likeness.counterparts settings sheet sheet').LikeDefinitions (MovedBlocks sheet sheet'))
      (Node.definitions block.site block.body) (Node.definitions block'.site block'.body) := by
  have hdefinitions := h.moves.definitions
  rw [← Node.map_snd_definitionsFrom block.site 0, ← Node.map_snd_definitionsFrom block'.site 0,
    List.forall₂_map_left_iff, List.forall₂_map_right_iff, List.forall₂_iff_zip] at hdefinitions
  refine List.forall₂_iff_zip.2 ⟨hdefinitions.1, fun {placed placed'} hmem => ?_⟩
  -- counterparts are at the same place in both lists of definitions
  have hmoves := hdefinitions.2 hmem
  have hinner := h.counterparts.inner hmem
  refine ⟨?_, hmoves.span_eq, ⟨_, _, hinner, rfl, rfl⟩, hinner, hmoves.body⟩
  obtain ⟨site, definition⟩ := placed
  obtain ⟨site', definition'⟩ := placed'
  cases hmoves with
  | ruleset => exact .ruleset rfl
  | mixin => exact .mixin rfl (List.forall₂_same.2 fun param _ => .refl param)

/-- The statements of two blocks that differ by moves do the same, given that their definitions are
counterparts: of the statements, only rulesets have blocks of their own. -/
theorem Node.Moves.statements {nodes nodes' : List Node} (h : Node.Moves nodes nodes')
    {site site' : Site} {index index' : Nat}
    (hdefinitions : List.Forall₂
      ((Likeness.counterparts settings sheet sheet').LikeDefinitions (MovedBlocks sheet sheet'))
      (Node.definitionsFrom site index nodes) (Node.definitionsFrom site' index' nodes')) :
    List.Forall₂
      ((Likeness.counterparts settings sheet sheet').LikeStatements (MovedBlocks sheet sheet'))
      (Node.statements site index nodes) (Node.statements site' index' nodes') := by
  -- calls, declarations and assignments do not depend on where they stand
  have hplain : ∀ {node : Node}, node.isPlain → ∀ site site' : Site,
      (Likeness.counterparts settings sheet sheet').LikeStatements (MovedBlocks sheet sheet')
        (site, node) (site', node) := by
    intro node hnode site site'
    cases node with
    | call call => exact .call (.refl fun _ _ => trivial)
    | declaration declaration => exact .declaration ⟨rfl, rfl, rfl, rfl⟩
    | assignment assignment => exact .assignment ⟨rfl, rfl⟩
    | ruleset | mixin => cases hnode
  induction h generalizing index index' with
  | nil => exact .nil
  | keep node _ ih =>
    cases node with
    | call | declaration | assignment => exact .cons (hplain rfl _ _) (ih hdefinitions)
    | ruleset =>
      cases hdefinitions with
      | cons hfirst hrest => exact .cons (.ruleset rfl hfirst.block) (ih hrest)
    | mixin =>
      -- mixins are no statements
      cases hdefinitions with
      | cons _ hrest => exact ih hrest
  | ruleset _ _ _ _ _ ih =>
    cases hdefinitions with
    | cons hfirst hrest => exact .cons (.ruleset rfl hfirst.block) (ih hrest)
  | mixin _ _ _ _ _ _ ih =>
    cases hdefinitions with
    | cons _ hrest => exact ih hrest
  | @past _ _ _ _ other hother _ _ _ ih =>
    -- the statement that was passed is the same one as before
    cases other with
    | call | declaration | assignment =>
      cases hdefinitions with
      | cons _ hrest => exact .cons (hplain rfl _ _) (ih hrest)
    | ruleset | mixin => cases hother

/-- Stylesheets correspond to each other after a move. -/
def Correspondence.moved (settings : Settings σ) (sheet sheet' : Stylesheet) :
    Correspondence settings where
  toLikeness := .counterparts settings sheet sheet'
  blocks := MovedBlocks sheet sheet'
  dropped _ := False
  statements h := h.moves.statements h.definitions
  definitions h := .of_forall₂ h.definitions
  dropped_unasked h := h.elim
  dropped_site_ne h := h.elim

/-- Stylesheets give the same rules or the same failure after mixins were moved past calls,
declarations and assignments, in any block. -/
theorem place_of_mixins_is_free (settings : Settings σ) (natives : σ)
    (h : sheet.Rearranged sheet') : sheet.rules settings natives = sheet'.rules settings natives := by
  induction h with
  | rel sheet sheet' hmoves =>
    exact ((Correspondence.moved settings sheet sheet').rules_eq rfl ⟨.outermost, hmoves⟩
      natives).symm
  | refl => rfl
  | symm _ _ _ ih => exact ih.symm
  | trans _ _ _ _ _ ih ih' => exact ih.trans ih'

end Moved

namespace Late

/-- A mixin that a ruleset defines for itself. -/
def mixin : Node :=
  Sketch.mixin ".color" [] [Sketch.declare "color" "red"]

/-- A ruleset with the given statements. -/
def sheetWith (statements : List Node) : Stylesheet where
  nodes := [Sketch.ruleset ["a"] statements]

/-- The mixin stands after its call and a declaration. -/
def sheet : Stylesheet :=
  sheetWith [.call (Sketch.call ".color" []), Sketch.declare "margin" "auto", mixin]

/-- The mixin stands before both. -/
def earlySheet : Stylesheet :=
  sheetWith [mixin, .call (Sketch.call ".color" []), Sketch.declare "margin" "auto"]

/-- The rule that the ruleset gives. -/
def rule : FlatRule where
  selectors := ["a"]
  declarations := [Sketch.declared "color" "red", Sketch.declared "margin" "auto"]

/-- A move in the block of the ruleset. -/
private theorem moves_sheetWith {statements statements' : List Node}
    (h : Node.Moves statements statements') :
    Node.Moves (sheetWith statements).nodes (sheetWith statements').nodes :=
  .ruleset _ _ h .nil

end Late

/-- The mixin stands after its call in one stylesheet and before it in the other. -/
theorem place_of_mixins_is_free_late :
    Late.sheet.Rearranged Late.earlySheet ∧
    Late.earlySheet.rules (Sketch.settings 2) () = .ok [Late.rule] ∧
    Late.sheet.rules (Sketch.settings 2) () = Late.earlySheet.rules (Sketch.settings 2) () := by
  have hcall : Late.earlySheet.Rearranged (Late.sheetWith
      [.call (Sketch.call ".color" []), Late.mixin, Sketch.declare "margin" "auto"]) :=
    .rel _ _ (Late.moves_sheetWith (.past _ _ _ _ rfl (.refl _)))
  have hdeclaration : Stylesheet.Rearranged (Late.sheetWith
      [.call (Sketch.call ".color" []), Late.mixin, Sketch.declare "margin" "auto"]) Late.sheet :=
    .rel _ _ (Late.moves_sheetWith (.keep _ (.past _ _ _ _ rfl .nil)))
  have hrearranged : Late.sheet.Rearranged Late.earlySheet :=
    .symm _ _ (.trans _ _ _ hcall hdeclaration)
  exact ⟨hrearranged, rfl, place_of_mixins_is_free (Sketch.settings 2) () hrearranged⟩

end MixinSheet
