import MixinSheet.Proofs.Arena
import MixinSheet.Proofs.SideBySide
import MixinSheet.Proofs.Sketch

/-!
# Unused mixins

A mixin whose name no call mentions can be taken out of its block, wherever that is. The definition
is registered in every frame that is made for its block, it is exported and it is sorted among
others; but it is never found, so it is enough that what is left of every block corresponds to the
block. The nodes after the mixin get other sites, and these tell the remaining nodes apart as well
as their old ones.

Calls inside the mixin do not matter: they go with it.

## Key results

- `Stylesheet.without`: the stylesheet without one of its nodes
- `Site.without_inj`: the sites of the nodes that stay are still told apart
- `Correspondence.withoutMixin`: what is left corresponds to what was there
- `unused_mixin_is_dead`: taking an unused mixin away changes nothing
-/

namespace MixinSheet

open Evaluation

variable {σ : Type}

/-! ## Removing a node -/

namespace Node

mutual

/-- The node at `site` without the node at `target` inside of it. -/
def without (target site : Site) : Node → Node
  | .ruleset selectors body span => .ruleset selectors (withoutFrom target site 0 body) span
  | .mixin name params body span => .mixin name params (withoutFrom target site 0 body) span
  | node => node

/-- The statements of the block at `site`, from the one with the given index on, without the node at
`target`. -/
def withoutFrom (target site : Site) (index : Nat) : List Node → List Node
  | [] => []
  | node :: rest =>
    if index :: site = target then withoutFrom target site (index + 1) rest
    else node.without target (index :: site) :: withoutFrom target site (index + 1) rest

end

mutual

/-- The calls in a node, at any depth. -/
def calls : Node → List Call
  | .call statement => [statement]
  | .ruleset _ body _ => callsIn body
  | .mixin _ _ body _ => callsIn body
  | _ => []

/-- The calls in a block, at any depth. -/
def callsIn : List Node → List Call
  | [] => []
  | node :: rest => node.calls ++ callsIn rest

end

private theorem mem_callsIn {node : Node} {nodes : List Node} {call : Call} (hnode : node ∈ nodes)
    (h : call ∈ node.calls) : call ∈ callsIn nodes := by
  induction nodes with
  | nil => exact absurd hnode List.not_mem_nil
  | cons first rest ih =>
    rw [callsIn]
    rcases List.mem_cons.1 hnode with rfl | hrest
    · exact List.mem_append_left _ h
    · exact List.mem_append_right _ (ih hrest)

end Node

/-- The stylesheet without the node at `target`. -/
def Stylesheet.without (sheet : Stylesheet) (target : Site) : Stylesheet where
  nodes := Node.withoutFrom target Stylesheet.site 0 sheet.nodes

/-- All calls of a stylesheet. -/
def Stylesheet.calls (sheet : Stylesheet) : List Call :=
  Node.callsIn sheet.nodes

/-! ## Sites -/

namespace Site

/-- The index that a node of the block at `site` has after the node at `target` is removed. -/
def indexWithout (target site : Site) (index : Nat) : Nat :=
  if target.tail = site ∧ target.headD index < index then index - 1 else index

/-- The site that a node has after the node at `target` is removed. -/
def without (target : Site) : Site → Site
  | [] => []
  | index :: site => indexWithout target site index :: without target site

variable {target site : Site} {index : Nat}

/-- The node after the removed one takes its index. -/
private theorem indexWithout_succ_self (h : index :: site = target) :
    indexWithout target site (index + 1) = indexWithout target site index := by
  subst h
  simp [indexWithout]

/-- Away from the target, indices move on together. -/
private theorem indexWithout_succ (hne : index :: site ≠ target) :
    indexWithout target site (index + 1) = indexWithout target site index + 1 := by
  cases target with
  | nil => simp [indexWithout]
  | cons i block =>
    simp only [indexWithout, List.tail_cons, List.headD_cons]
    by_cases hblock : block = site
    · have hindex : index ≠ i := fun heq => hne (by rw [heq, hblock])
      simp only [hblock, true_and]
      split <;> split <;> omega
    · simp [hblock]

/-- The sites outside of the removed node are still told apart. -/
theorem without_inj {a b : Site} (ha : ¬ target <:+ a) (hb : ¬ target <:+ b)
    (h : without target a = without target b) : a = b := by
  induction a generalizing b with
  | nil =>
    cases b with
    | nil => rfl
    | cons => cases h
  | cons index site ih =>
    cases b with
    | nil => cases h
    | cons index' site' =>
      obtain ⟨hindex, hsite⟩ := List.cons.inj h
      have houter : ¬ target <:+ site := fun hsuffix => ha (hsuffix.trans (List.suffix_cons _ _))
      have houter' : ¬ target <:+ site' := fun hsuffix => hb (hsuffix.trans (List.suffix_cons _ _))
      obtain rfl := ih houter houter' hsite
      -- in the block of the removed node, no other node has its index
      have hne : index :: site ≠ target := fun heq => ha (heq ▸ List.suffix_refl _)
      have hne' : index' :: site ≠ target := fun heq => hb (heq ▸ List.suffix_refl _)
      cases target with
      | nil => exact absurd List.nil_suffix ha
      | cons i block =>
        simp only [indexWithout, List.tail_cons, List.headD_cons] at hindex
        by_cases hblock : block = site
        · subst hblock
          have hi : index ≠ i := fun heq => hne (by rw [heq])
          have hi' : index' ≠ i := fun heq => hne' (by rw [heq])
          simp only [true_and] at hindex
          have hequal : index = index' := by
            split at hindex <;> split at hindex <;> omega
          rw [hequal]
        · simp only [hblock, false_and, if_false] at hindex
          rw [hindex]

end Site

/-! ## What is left of a block -/

/-- Node by node: every other node stays, and the removed one is left out. -/
private theorem Node.thinned_located {R : Site × Node → Site × Node → Prop} {D : Site × Node → Prop}
    {target site : Site} {index : Nat} {nodes : List Node}
    (hkept : ∀ placed ∈ located site index nodes, placed.1 ≠ target →
      R placed (Site.without target placed.1, placed.2.without target placed.1))
    (hdropped : ∀ placed ∈ located site index nodes, placed.1 = target → D placed) :
    Thinned R D (located site index nodes)
      (located (Site.without target site) (Site.indexWithout target site index)
        (withoutFrom target site index nodes)) := by
  induction nodes generalizing index with
  | nil =>
    rw [withoutFrom]
    exact .nil
  | cons node rest ih =>
    have hrest := ih (fun placed hmem => hkept placed (.tail _ hmem))
      fun placed hmem => hdropped placed (.tail _ hmem)
    rw [withoutFrom]
    split
    · next heq =>
      -- the nodes after the removed one move up by one
      rw [Site.indexWithout_succ_self heq] at hrest
      exact .drop (hdropped _ List.mem_cons_self heq) hrest
    · next hne =>
      rw [Site.indexWithout_succ hne] at hrest
      exact .cons (hkept _ List.mem_cons_self hne) hrest

/-- The nodes that are left stand in what is left. -/
private theorem Node.mem_withoutFrom {target site : Site} {index : Nat} {nodes : List Node}
    {placed : Site × Node} (hmem : placed ∈ located site index nodes) (hne : placed.1 ≠ target) :
    placed.2.without target placed.1 ∈ withoutFrom target site index nodes := by
  induction nodes generalizing index with
  | nil => exact absurd hmem List.not_mem_nil
  | cons node rest ih =>
    rw [withoutFrom]
    rcases List.mem_cons.1 hmem with rfl | hrest
    · rw [if_neg hne]
      exact List.mem_cons_self
    · split
      · exact ih hrest
      · exact .tail _ (ih hrest)

section Removal

variable {sheet : Stylesheet} {target : Site} {mixin : Mixin}

/-- The node at the site of a definition is that definition. -/
private theorem Stylesheet.Defines.definition?_eq {definition : Definition}
    (h : sheet.Defines target definition) {block : Block} (hblock : sheet.HasBlock block)
    {node : Node} (hmem : (target, node) ∈ Node.located block.site 0 block.body) :
    node.definition? = some definition := by
  obtain ⟨block', hblock', hdefined⟩ := h
  obtain ⟨i, node', rfl, hi, hdef⟩ := Node.getElem?_of_mem_definitions hdefined
  obtain ⟨j, hsite, hj⟩ := Node.getElem?_of_mem_located hmem
  rw [Nat.zero_add] at hsite
  obtain ⟨rfl, htail⟩ := List.cons.inj hsite
  obtain rfl := hblock.eq_of_site_eq hblock' htail.symm
  obtain rfl := Option.some.inj (hi.symm.trans hj)
  exact hdef

/-- A block outside of the removed node, and what is left of it. The calls that are left do not
mention the name. -/
structure Remains (sheet : Stylesheet) (target : Site) (name : String) (block block' : Block) :
    Prop where
  hasBlock : sheet.HasBlock block
  outside : ¬ target <:+ block.site
  site : block'.site = Site.without target block.site
  body : block'.body = Node.withoutFrom target block.site 0 block.body
  unasked : ∀ call ∈ Node.callsIn block'.body, ∀ element ∈ call.path, element.value ≠ name

/-- Nodes are the same but for their sites, and calls do not mention the name. -/
def Likeness.withoutMixin (settings : Settings σ) (target : Site) (name : String) :
    Likeness settings :=
  .equal settings (fun site site' => ¬ target <:+ site ∧ site' = Site.without target site)
    (· ≠ name) fun a a' b b' ha hb =>
      ⟨fun heq => by rw [ha.2, hb.2, heq],
        fun heq => Site.without_inj ha.1 hb.1 (by rw [← ha.2, ← hb.2, heq])⟩

/-- A node outside of the removed one does what is left of it does. -/
theorem Remains.likeNodes {settings : Settings σ} {name : String} {block block' : Block}
    (h : Remains sheet target name block block') {placed : Site × Node}
    (hmem : placed ∈ Node.located block.site 0 block.body) (hne : placed.1 ≠ target) :
    (Likeness.withoutMixin settings target name).LikeNodes (Remains sheet target name) placed
      (Site.without target placed.1, placed.2.without target placed.1) := by
  have hmem' := Node.mem_withoutFrom hmem hne
  rw [← h.body] at hmem'
  obtain ⟨site, node⟩ := placed
  -- the target is neither this node nor around it
  have houtside : ¬ target <:+ site := by
    obtain ⟨i, rfl, -⟩ := Node.getElem?_of_mem_located hmem
    rw [List.suffix_cons_iff]
    rintro (heq | hsuffix)
    · exact hne heq.symm
    · exact h.outside hsuffix
  -- no call inside of what is left names the mixin
  have hcalls : ∀ call ∈ (node.without target site).calls,
      ∀ element ∈ call.path, element.value ≠ name :=
    fun call hcall => h.unasked call (Node.mem_callsIn hmem' hcall)
  -- what is left of the block of a definition
  have hinner : ∀ definition, node.definition? = some definition →
      (∀ call ∈ Node.callsIn (Node.withoutFrom target site 0 definition.body),
        ∀ element ∈ call.path, element.value ≠ name) →
      Remains sheet target name { site, body := definition.body }
        { site := Site.without target site,
          body := Node.withoutFrom target site 0 definition.body } :=
    fun definition hdef hcalls =>
      ⟨h.hasBlock.inner (Node.mem_definitionsFrom_iff.2 ⟨node, hmem, hdef⟩), houtside, rfl, rfl,
        hcalls⟩
  -- apart from definitions, nothing of a node is left out
  cases node with
  | call call =>
    simp only [Node.without, Node.calls, List.mem_singleton, forall_eq] at hcalls
    simp only [Node.without]
    exact ⟨.inl (.call (.refl hcalls)), .none⟩
  | declaration declaration =>
    simp only [Node.without]
    exact ⟨.inl (.declaration ⟨rfl, rfl, rfl, rfl⟩), .none⟩
  | assignment assignment =>
    simp only [Node.without]
    exact ⟨.inl (.assignment ⟨rfl, rfl⟩), .none⟩
  | ruleset selectors body span =>
    simp only [Node.without, Node.calls] at hcalls
    have hbody := hinner _ rfl hcalls
    simp only [Node.without]
    exact ⟨.inl (.ruleset rfl hbody), .some ⟨.ruleset rfl, rfl, ⟨houtside, rfl⟩, hbody⟩⟩
  | mixin other params body span =>
    -- another mixin is no statement, but its definition stays
    simp only [Node.without, Node.calls] at hcalls
    have hbody := hinner _ rfl hcalls
    simp only [Node.without]
    exact ⟨.inr ⟨rfl, rfl⟩,
      .some ⟨.mixin rfl (List.forall₂_same.2 fun param _ => .refl param), rfl, ⟨houtside, rfl⟩, hbody⟩⟩

/-- Of the nodes of a block, only the mixin is missing. -/
private theorem Remains.thinned {settings : Settings σ} {block block' : Block}
    (h : Remains sheet target mixin.name block block')
    (hdefines : sheet.Defines target (.mixin mixin)) :
    Thinned ((Likeness.withoutMixin settings target mixin.name).LikeNodes
        (Remains sheet target mixin.name))
      (fun placed => placed.1 = target ∧ placed.2.definition? = some (.mixin mixin))
      (Node.located block.site 0 block.body) (Node.located block'.site 0 block'.body) := by
  have hfirst : Site.indexWithout target block.site 0 = 0 := by simp [Site.indexWithout]
  rw [h.site, h.body]
  nth_rewrite 2 [← hfirst]
  refine Node.thinned_located (fun placed hmem hne => h.likeNodes hmem hne) ?_
  rintro ⟨site, node⟩ hmem rfl
  exact ⟨rfl, hdefines.definition?_eq h.hasBlock hmem⟩

/-- What is left of the stylesheet corresponds to it if the removed node is a mixin whose name is
not mentioned by the calls that are left. -/
def Correspondence.withoutMixin (settings : Settings σ) (h : sheet.Defines target (.mixin mixin)) :
    Correspondence settings where
  toLikeness := .withoutMixin settings target mixin.name
  blocks := Remains sheet target mixin.name
  dropped placed := placed = (target, .mixin mixin)
  statements {block block'} hblock := by
    refine Likeness.forall₂_statements (hblock.thinned h) ?_
    rintro ⟨site, node⟩ ⟨-, hdef⟩
    cases node with
    | mixin => rfl
    | ruleset | call | declaration | assignment => cases hdef
  definitions {block block'} hblock := by
    rw [Node.definitions, Node.definitions, Node.definitionsFrom_eq, Node.definitionsFrom_eq]
    refine Likeness.thinned_definitions (hblock.thinned h) ?_
    rintro ⟨site, node⟩ ⟨rfl, hdef⟩
    exact ⟨_, by rw [Node.placedDefinition?, hdef]; rfl, rfl⟩
  dropped_unasked hdropped hasked := by
    subst hdropped
    simpa [Definition.isNamed] using Ne.symm hasked
  dropped_site_ne hdropped hsites := by
    subst hdropped
    intro heq
    exact hsites.1 (heq ▸ List.suffix_refl _)

/-- If no call outside of a mixin mentions its name, the stylesheet without the mixin gives the same
rules or the same failure. The mixin may stand in any block. -/
theorem unused_mixin_is_dead (settings : Settings σ) (natives : σ)
    (hdefines : sheet.Defines target (.mixin mixin))
    (hunused : ∀ call ∈ (sheet.without target).calls,
      ∀ element ∈ call.path, element.value ≠ mixin.name) :
    (sheet.without target).rules settings natives = sheet.rules settings natives := by
  -- the site of a definition is longer than that of the outermost block
  have houtside : ¬ target <:+ Stylesheet.site := by
    obtain ⟨block, hblock, hmem⟩ := hdefines
    obtain ⟨i, -, rfl, -⟩ := Node.getElem?_of_mem_definitions hmem
    intro hsuffix
    have hlength := hsuffix.length_le
    have hne := List.length_pos_iff.2 hblock.site_ne_nil
    simp only [Stylesheet.site, List.length_cons, List.length_nil] at hlength
    omega
  have hroot : Stylesheet.site = Site.without target Stylesheet.site := by
    simp [Stylesheet.site, Site.without, Site.indexWithout]
  exact (Correspondence.withoutMixin settings hdefines).rules_eq rfl
    ⟨.outermost, houtside, hroot, rfl, hunused⟩ natives

end Removal

namespace Spare

/-- A mixin that calls itself. -/
def mixin : Mixin where
  name := ".spare"
  params := []
  body := [.call (Sketch.call ".spare" [])]
  span := default

/-- Another mixin and a ruleset with the given statements. -/
def sheetWith (statements : List Node) : Stylesheet where
  nodes := [
    Sketch.mixin ".color" [] [Sketch.declare "color" "red"],
    Sketch.ruleset ["a"] statements]

/-- The mixin stands in the ruleset, before the call of the other one. -/
def sheet : Stylesheet :=
  sheetWith [.mixin mixin.name mixin.params mixin.body mixin.span, .call (Sketch.call ".color" [])]

/-- The site of the mixin. -/
def site : Site := [0, 1, 0]

end Spare

/-- The spare mixin of the example is called by nobody, and the sheet has the same rules without it.
-/
theorem unused_mixin_is_dead_spare :
    Spare.sheet.Defines Spare.site (.mixin Spare.mixin) ∧
    (∀ call ∈ (Spare.sheet.without Spare.site).calls,
      ∀ element ∈ call.path, element.value ≠ Spare.mixin.name) ∧
    Spare.sheet.without Spare.site = Spare.sheetWith [.call (Sketch.call ".color" [])] ∧
    (Spare.sheet.without Spare.site).rules (Sketch.settings 64) () =
      Spare.sheet.rules (Sketch.settings 64) () := by
  have hdefines : Spare.sheet.Defines Spare.site (.mixin Spare.mixin) := by
    have hruleset : Spare.sheet.HasBlock { site := [1, 0], body := _ } :=
      .inner .outermost (.tail _ List.mem_cons_self)
    exact ⟨_, hruleset, List.mem_cons_self⟩
  have hunused : ∀ call ∈ (Spare.sheet.without Spare.site).calls,
      ∀ element ∈ call.path, element.value ≠ Spare.mixin.name := by
    decide
  exact ⟨hdefines, hunused, rfl, unused_mixin_is_dead (Sketch.settings 64) () hdefines hunused⟩

end MixinSheet
