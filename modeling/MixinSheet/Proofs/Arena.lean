import Mathlib.Data.List.Chain
import MixinSheet.Proofs.Preservation

/-!
# The arena of frames

What is true of the frames and their definitions at every moment of a run. A frame stands inside an
older one, so every walk outwards ends at the root. The definitions that a frame made itself come
before those that calls have exported to it, and the homes of the latter are younger than the frame:
this is what lets `Scopes.place` tell the two apart by their homes.

## Key results

- `Stylesheet.Defines.unique`: a site belongs to one definition of a stylesheet
- `Scopes.foldl_place_append`, `Scopes.Foreign.foldl_place`: exports replace exports of the same
  node and nothing else
- `Discipline.arena`: the discipline of frames and their definitions
- `arena_of_frames`: what every moment of a run satisfies
-/

namespace MixinSheet

open Evaluation

variable {σ : Type}

/-! ## Blocks and definitions of a stylesheet -/

/-- The blocks of a stylesheet. -/
inductive Stylesheet.HasBlock (sheet : Stylesheet) : Block → Prop
  | outermost : sheet.HasBlock sheet.block
  | inner {block : Block} {site : Site} {definition : Definition} (h : sheet.HasBlock block)
      (hmem : (site, definition) ∈ Node.definitions block.site block.body) :
      sheet.HasBlock { site, body := definition.body }

/-- A definition stands at a site of a stylesheet. -/
def Stylesheet.Defines (sheet : Stylesheet) (site : Site) (definition : Definition) : Prop :=
  ∃ block, sheet.HasBlock block ∧ (site, definition) ∈ Node.definitions block.site block.body

namespace Node

/-- The definitions of a block are those of its statements that are definitions. -/
theorem mem_definitionsFrom_iff {site site' : Site} {index : Nat} {body : List Node}
    {definition : Definition} :
    (site', definition) ∈ definitionsFrom site index body ↔
      ∃ node, (site', node) ∈ located site index body ∧ node.definition? = some definition := by
  induction body generalizing index with
  | nil => simp [definitionsFrom, located]
  | cons node rest ih =>
    -- the definition is that of the first node or of a later one, on both sides
    have hsplit : (∃ other, (site', other) ∈ located site index (node :: rest) ∧
          other.definition? = some definition) ↔
        site' = index :: site ∧ node.definition? = some definition ∨
          ∃ other, (site', other) ∈ located site (index + 1) rest ∧
            other.definition? = some definition := by
      simp only [located, List.mem_cons, Prod.mk.injEq, or_and_right, exists_or, and_assoc,
        exists_and_left, exists_eq_left]
    rw [hsplit, ← ih, definitionsFrom]
    cases node.definition? with
    | none => simp
    | some found => simp [eq_comm]

/-- A statement of a block is found by its index. -/
theorem getElem?_of_mem_located {site site' : Site} {index : Nat} {body : List Node} {node : Node}
    (h : (site', node) ∈ located site index body) :
    ∃ i, site' = (index + i) :: site ∧ body[i]? = some node := by
  induction body generalizing index with
  | nil => exact absurd h List.not_mem_nil
  | cons first rest ih =>
    rcases List.mem_cons.1 h with heq | hrest
    · obtain ⟨rfl, rfl⟩ := Prod.mk.inj heq
      exact ⟨0, rfl, rfl⟩
    · obtain ⟨i, rfl, hi⟩ := ih hrest
      exact ⟨i + 1, by rw [Nat.add_assoc, Nat.add_comm 1], hi⟩

/-- The site of a definition leads to its block and to the definition in it. -/
theorem getElem?_of_mem_definitions {site site' : Site} {body : List Node}
    {definition : Definition} (h : (site', definition) ∈ definitions site body) :
    ∃ i node, site' = i :: site ∧ body[i]? = some node ∧ node.definition? = some definition := by
  obtain ⟨node, hmem, hdef⟩ := mem_definitionsFrom_iff.1 h
  obtain ⟨i, hsite, hi⟩ := getElem?_of_mem_located hmem
  exact ⟨i, node, by rw [hsite, Nat.zero_add], hi, hdef⟩

end Node

namespace Stylesheet

variable {sheet : Stylesheet}

/-- Every block stands somewhere. -/
theorem HasBlock.site_ne_nil {block : Block} (h : sheet.HasBlock block) : block.site ≠ [] := by
  cases h with
  | outermost => exact List.cons_ne_nil _ _
  | inner _ hmem =>
    obtain ⟨i, -, rfl, -⟩ := Node.getElem?_of_mem_definitions hmem
    exact List.cons_ne_nil _ _

/-- A block is determined by its site. -/
theorem HasBlock.eq_of_site_eq {block block' : Block} (h : sheet.HasBlock block)
    (h' : sheet.HasBlock block') (hsite : block.site = block'.site) : block = block' := by
  induction h generalizing block' with
  | outermost =>
    cases h' with
    | outermost => rfl
    | inner houter hmem =>
      -- the outermost site has one entry, every other one has more
      obtain ⟨i, -, rfl, -⟩ := Node.getElem?_of_mem_definitions hmem
      exact absurd (List.cons.inj hsite).2.symm houter.site_ne_nil
  | inner houter hmem ih =>
    obtain ⟨i, node, rfl, hi, hdef⟩ := Node.getElem?_of_mem_definitions hmem
    cases h' with
    | outermost => exact absurd (List.cons.inj hsite).2 houter.site_ne_nil
    | inner houter' hmem' =>
      obtain ⟨i', node', rfl, hi', hdef'⟩ := Node.getElem?_of_mem_definitions hmem'
      obtain ⟨rfl, htail⟩ := List.cons.inj hsite
      obtain rfl := ih houter' htail
      obtain rfl := Option.some.inj (hi.symm.trans hi')
      obtain rfl := Option.some.inj (hdef.symm.trans hdef')
      rfl

/-- A definition is determined by its site. -/
theorem Defines.unique {site : Site} {definition definition' : Definition}
    (h : sheet.Defines site definition) (h' : sheet.Defines site definition') :
    definition = definition' := by
  obtain ⟨block, hblock, hmem⟩ := h
  obtain ⟨block', hblock', hmem'⟩ := h'
  obtain ⟨i, node, rfl, hi, hdef⟩ := Node.getElem?_of_mem_definitions hmem
  obtain ⟨i', node', hsite, hi', hdef'⟩ := Node.getElem?_of_mem_definitions hmem'
  obtain ⟨rfl, htail⟩ := List.cons.inj hsite
  obtain rfl := hblock.eq_of_site_eq hblock' htail
  obtain rfl := Option.some.inj (hi.symm.trans hi')
  exact Option.some.inj (hdef.symm.trans hdef')

/-- The body of a definition of the stylesheet is a block of it. -/
theorem Defines.hasBlock {site : Site} {definition : Definition}
    (h : sheet.Defines site definition) : sheet.HasBlock { site, body := definition.body } := by
  obtain ⟨block, hblock, hmem⟩ := h
  exact hblock.inner hmem

/-- Every statement that is a definition stands at its site. -/
def Places (sheet : Stylesheet) (nodes : List (Site × Node)) : Prop :=
  ∀ site node definition, (site, node) ∈ nodes → node.definition? = some definition →
    sheet.Defines site definition

/-- The definitions among the nodes of a block are where the stylesheet has them. -/
theorem HasBlock.places {block : Block} (h : sheet.HasBlock block) :
    sheet.Places (Node.located block.site 0 block.body) := fun _ node _ hmem hdef =>
  ⟨block, h, Node.mem_definitionsFrom_iff.2 ⟨node, hmem, hdef⟩⟩

end Stylesheet

namespace Scopes

variable {scopes : Scopes}

/-! ## Walks outwards -/

/-- The root has no parent, and every other frame has an older one. -/
structure Rooted (scopes : Scopes) : Prop where
  root_lt : root < scopes.next
  parent_root : scopes.parent? root = none
  parent : ∀ id, id < scopes.next → id ≠ root → ∃ older < id, scopes.parent? id = some older

namespace Rooted

/-- Parents are older than their children. -/
theorem parent_lt (h : scopes.Rooted) {id parent : FrameId}
    (hparent : scopes.parent? id = some parent) : parent < id := by
  -- a frame with a parent exists and is not the root
  have hid : id < scopes.next := by
    obtain ⟨frame, hframe, -⟩ := Option.bind_eq_some_iff.1 hparent
    exact (exists_frame?_iff scopes id).1 ⟨frame, hframe⟩
  have hne : id ≠ root := by
    rintro rfl
    rw [h.parent_root] at hparent
    exact absurd hparent (Option.some_ne_none _).symm
  obtain ⟨older, hlt, holder⟩ := h.parent id hid hne
  rw [hparent] at holder
  rwa [Option.some.inj holder]

/-- Only the root frame has no parent. -/
private theorem parent?_eq_none_iff (h : scopes.Rooted) {id : FrameId} (hid : id < scopes.next) :
    scopes.parent? id = none ↔ id = root := by
  constructor
  · intro hnone
    by_contra hne
    obtain ⟨older, -, holder⟩ := h.parent id hid hne
    exact absurd (hnone.symm.trans holder) (Option.some_ne_none _).symm
  · rintro rfl
    exact h.parent_root

/-- A walk with a limit above the number of the frame it starts from is not cut off: it follows the
parents up to the root. -/
theorem ancestorsWithin (h : scopes.Rooted) {id : FrameId} {limit : Nat}
    (hid : id < scopes.next) (hlimit : id < limit) :
    (scopes.ancestorsWithin limit id).head? = some id ∧
      (scopes.ancestorsWithin limit id).IsChain
        (fun child outer => scopes.parent? child = some outer) ∧
      (scopes.ancestorsWithin limit id).getLast? = some root := by
  induction limit generalizing id with
  | zero => exact absurd hlimit (Nat.not_lt_zero id)
  | succ limit ih =>
    rw [Scopes.ancestorsWithin]
    by_cases hroot : id = root
    · rw [hroot, h.parent_root]
      exact ⟨rfl, List.isChain_singleton _, rfl⟩
    · obtain ⟨older, hlt, holder⟩ := h.parent id hid hroot
      rw [holder]
      -- the parent is older, so the limit that is left is still above its number
      obtain ⟨hhead, hchain, hlast⟩ := ih (Nat.lt_trans hlt hid) (by lia)
      refine ⟨rfl, List.isChain_cons.2 ⟨?_, hchain⟩, ?_⟩
      · intro outer houter
        rw [hhead] at houter
        rw [holder, Option.mem_some.1 houter]
      · rw [List.getLast?_cons, hlast]
        rfl

/-- A walk outwards starts with the frame, goes from parent to parent and ends with the root frame.
-/
theorem ancestors (h : scopes.Rooted) {id : FrameId} (hid : id < scopes.next) :
    (scopes.ancestors id).head? = some id ∧
      (scopes.ancestors id).IsChain (fun child outer => scopes.parent? child = some outer) ∧
      (scopes.ancestors id).getLast? = some root :=
  h.ancestorsWithin hid hid

/-- Changes that keep the parents keep the walks. -/
private theorem of_parent?_eq {scopes' : Scopes} (h : scopes.Rooted)
    (hnext : scopes'.next = scopes.next)
    (hparent : ∀ id, scopes'.parent? id = scopes.parent? id) : scopes'.Rooted := by
  refine ⟨hnext ▸ h.root_lt, (hparent root).trans h.parent_root, fun id hid hne => ?_⟩
  rw [hparent]
  exact h.parent id (hnext ▸ hid) hne

/-- Leaving a frame keeps the tree of frames. -/
theorem pop (h : scopes.Rooted) : scopes.pop.Rooted := by
  refine h.of_parent?_eq (next_pop scopes) fun id => ?_
  simp only [parent?, frame?_pop]

/-- A new frame hangs on one that exists. -/
theorem push (h : scopes.Rooted) {parent : FrameId} (hparent : parent < scopes.next) :
    (scopes.push parent).Rooted := by
  have hold : ∀ id, id < scopes.next → (scopes.push parent).parent? id = scopes.parent? id := by
    intro id hid
    rw [parent?, frame?_push, if_neg (Nat.ne_of_lt hid), parent?]
  refine ⟨?_, (hold root h.root_lt).trans h.parent_root, fun id hid hne => ?_⟩
  · rw [next_push]
    exact Nat.lt_succ_of_lt h.root_lt
  · rw [next_push] at hid
    rcases Nat.lt_succ_iff_lt_or_eq.1 hid with hlt | rfl
    · rw [hold id hlt]
      exact h.parent id hlt hne
    · exact ⟨parent, hparent, by rw [parent?, frame?_push, if_pos rfl]; rfl⟩

end Rooted

/-! ## Exports -/

/-- Definitions that were exported to a frame: their homes are younger than the frame, and no node
is among them twice. -/
structure Foreign (id next : FrameId) (closures : List Closure) : Prop where
  homes : ∀ closure ∈ closures, id < closure.home ∧ closure.home < next
  sites : (closures.map (·.site)).Nodup

/-- The definitions that a frame made itself are passed over. -/
private theorem place_append {id : FrameId} {own : List Closure}
    (hown : ∀ closure ∈ own, closure.home = id) (exported : Closure) (foreign : List Closure) :
    place id exported (own ++ foreign) = own ++ place id exported foreign := by
  induction own with
  | nil => rfl
  | cons first rest ih =>
    have hfirst := hown first List.mem_cons_self
    have hrest := ih fun closure hmem => hown closure (.tail _ hmem)
    rw [List.cons_append, place]
    simp only [hfirst, bne_self_eq_false, Bool.false_and, Bool.false_eq_true, ↓reduceIte, hrest,
      List.cons_append]

/-- What a frame made itself is passed over when exports are placed. -/
theorem foldl_place_append {id : FrameId} {own : List Closure}
    (hown : ∀ closure ∈ own, closure.home = id) (exported foreign : List Closure) :
    exported.foldl (fun known closure => place id closure known) (own ++ foreign) =
      own ++ exported.foldl (fun known closure => place id closure known) foreign := by
  induction exported generalizing foreign with
  | nil => rfl
  | cons closure rest ih => rw [List.foldl_cons, place_append hown, ih, List.foldl_cons]

/-- Among exports, a definition takes the place of the one with its site or goes to the end. -/
private theorem map_site_place {id : FrameId} {foreign : List Closure}
    (hforeign : ∀ closure ∈ foreign, closure.home ≠ id) (exported : Closure) :
    (place id exported foreign).map (·.site) =
      if exported.site ∈ foreign.map (·.site) then foreign.map (·.site)
      else foreign.map (·.site) ++ [exported.site] := by
  induction foreign with
  | nil => rfl
  | cons first rest ih =>
    have hfirst : (first.home != id) = true := bne_iff_ne.2 (hforeign first List.mem_cons_self)
    have hrest := ih fun closure hmem => hforeign closure (.tail _ hmem)
    rw [place, hfirst, Bool.true_and]
    -- an export of the same place takes the place of the first closure; otherwise it goes on to the
    -- rest
    by_cases hsite : first.site = exported.site
    · simp [hsite]
    · have hbeq : (first.site == exported.site) = false := beq_eq_false_iff_ne.2 hsite
      rw [hbeq, if_neg Bool.false_ne_true, List.map_cons, hrest, List.map_cons]
      by_cases hmem : exported.site ∈ rest.map (·.site)
      · rw [if_pos hmem, if_pos (.tail _ hmem)]
      · rw [if_neg hmem, if_neg fun h => (List.mem_cons.1 h).elim (fun heq => hsite heq.symm) hmem]
        rfl

namespace Foreign

variable {id next : FrameId} {foreign exported : List Closure}

/-- At first nothing has been exported to a frame. -/
theorem nil (id next : FrameId) : Foreign id next [] :=
  ⟨fun _ hmem => absurd hmem List.not_mem_nil, List.nodup_nil⟩

/-- More frames may be made later. -/
theorem mono {next' : FrameId} (h : Foreign id next foreign) (hnext : next ≤ next') :
    Foreign id next' foreign := by
  refine ⟨fun closure hmem => ?_, h.sites⟩
  obtain ⟨hid, hlt⟩ := h.homes closure hmem
  exact ⟨hid, Nat.lt_of_lt_of_le hlt hnext⟩

/-- Placing an export keeps the exports apart by their sites, and their homes younger than the
frame. -/
theorem place {closure : Closure} (h : Foreign id next foreign)
    (hclosure : id < closure.home ∧ closure.home < next) :
    Foreign id next (Scopes.place id closure foreign) := by
  constructor
  · intro other hother
    -- a closure of the new list is the exported one or was there before
    rcases mem_place hother with rfl | hmem
    · exact hclosure
    · exact h.homes other hmem
  · rw [map_site_place fun other hmem => Nat.ne_of_gt (h.homes other hmem).1]
    split
    · exact h.sites
    · next hnew =>
      -- the place is a new one, so it differs from those that are there
      refine List.nodup_append.2 ⟨h.sites, List.pairwise_singleton _ _, ?_⟩
      intro site hsite other hother heq
      exact hnew (List.mem_singleton.1 hother ▸ heq ▸ hsite)

/-- After a chain of exports, no node is among them twice either. -/
theorem foldl_place (h : Foreign id next foreign)
    (hexported : ∀ closure ∈ exported, id < closure.home ∧ closure.home < next) :
    Foreign id next
      (exported.foldl (fun known closure => Scopes.place id closure known) foreign) := by
  induction exported generalizing foreign with
  | nil => exact h
  | cons closure rest ih =>
    exact ih (h.place (hexported closure List.mem_cons_self))
      fun other hmem => hexported other (.tail _ hmem)

end Foreign

/-- A block is defined in the frame that is entered for it. -/
theorem home_of_mem_closuresOf {id : FrameId} {site : Site} {body : List Node} {closure : Closure}
    (h : closure ∈ closuresOf id site body) : closure.home = id := by
  obtain ⟨_, -, rfl⟩ := List.mem_map.1 h
  rfl

end Scopes

/-! ## Frames at a moment -/

/-- The frame that something has happened to. -/
def Mark.frame : Mark → FrameId
  | .entered frame _ | .hoisted frame _ => frame

/-- The definitions of a block were registered in the frame. -/
def Moment.Hoisted (m : Moment σ) (id : FrameId) : Prop :=
  ∃ block, .hoisted id block ∈ m.past

/-- What a frame holds: `block` is the block it was made for, `own` are the definitions it made
itself and `foreign` those that were exported to it. -/
structure Moment.Contents (m : Moment σ) (id : FrameId) (block : Block)
    (own foreign : List Closure) : Prop where
  entered : ∀ other, .entered id other ∈ m.past ↔ other = block
  closures : m.state.scopes.closuresIn id = own ++ foreign
  before : ¬ m.Hoisted id → own = []
  after : m.Hoisted id → own = Scopes.closuresOf id block.site block.body
  foreign : Scopes.Foreign id m.state.scopes.next foreign

/-- The stack of active frames ends with the root, and an inner frame is younger than an outer
one. -/
structure Scopes.Stacked (scopes : Scopes) : Prop where
  root : scopes.active.getLast? = some Scopes.root
  sorted : scopes.active.Pairwise (· > ·)
  lt_next : ∀ id ∈ scopes.active, id < scopes.next

/-- Frames and their definitions are in order at a moment of the run of a stylesheet. -/
structure Moment.Arena (sheet : Stylesheet) (m : Moment σ) : Prop where
  rooted : m.state.scopes.Rooted
  stacked : m.state.scopes.Stacked
  marks : ∀ mark ∈ m.past, mark.frame < m.state.scopes.next
  contents : ∀ id, id < m.state.scopes.next →
    ∃ block own foreign, sheet.HasBlock block ∧ m.Contents id block own foreign
  defined : ∀ id, ∀ closure ∈ m.state.scopes.closuresIn id,
    sheet.Defines closure.site closure.definition

namespace Scopes.Stacked

variable {scopes : Scopes}

/-- A new frame is active and is the youngest. -/
theorem push (h : scopes.Stacked) (parent : FrameId) : (scopes.push parent).Stacked := by
  refine ⟨?_, List.pairwise_cons.2 ⟨h.lt_next, h.sorted⟩, fun id hid => ?_⟩
  · rw [Scopes.push, List.getLast?_cons, h.root]
    rfl
  · rw [next_push]
    rcases List.mem_cons.1 hid with rfl | hmem
    · exact Nat.lt_succ_self _
    · exact Nat.lt_succ_of_lt (h.lt_next id hmem)

/-- After a frame is left, those around it are still active. -/
theorem pop (h : scopes.Stacked) : scopes.pop.Stacked := by
  unfold Scopes.pop
  split
  · next inner outer rest hactive =>
    obtain ⟨hroot, hsorted, hlt⟩ := h
    rw [hactive] at hroot hsorted hlt
    exact ⟨by rwa [List.getLast?_cons_cons] at hroot, (List.pairwise_cons.1 hsorted).2,
      fun id hid => hlt id (.tail _ hid)⟩
  · exact h

/-- Modifying a frame keeps the active ones. -/
theorem modify (h : scopes.Stacked) (id : FrameId) (f : Frame → Frame) :
    (scopes.modify id f).Stacked := by
  refine ⟨h.root, h.sorted, fun other hother => ?_⟩
  rw [next_modify]
  exact h.lt_next other hother

end Scopes.Stacked

/-- The tree of frames is kept by whatever keeps their parents. -/
theorem Scopes.Rooted.modify {scopes : Scopes} (h : scopes.Rooted) {id : FrameId}
    {f : Frame → Frame} (hf : ∀ frame, (f frame).parent = frame.parent) :
    (scopes.modify id f).Rooted := by
  refine h.of_parent?_eq (next_modify scopes id f) fun other => ?_
  rw [parent?, frame?_modify, parent?]
  split
  · cases scopes.frame? other with
    | none => rfl
    | some frame => exact hf frame
  · rfl

namespace Moment

variable {sheet : Stylesheet} {m m' : Moment σ} {id : FrameId} {block : Block}
  {own foreign : List Closure}

/-- What stands in front was made by the frame itself. -/
theorem Contents.home_own (h : m.Contents id block own foreign) :
    ∀ closure ∈ own, closure.home = id := by
  intro closure hmem
  by_cases hhoisted : m.Hoisted id
  · rw [h.after hhoisted] at hmem
    exact Scopes.home_of_mem_closuresOf hmem
  · rw [h.before hhoisted] at hmem
    exact absurd hmem List.not_mem_nil

/-- Every definition that a frame holds has its home there or in a younger frame. -/
theorem Contents.home_le (h : m.Contents id block own foreign) (hid : id < m.state.scopes.next) :
    ∀ closure ∈ m.state.scopes.closuresIn id,
      id ≤ closure.home ∧ closure.home < m.state.scopes.next := by
  intro closure hmem
  rw [h.closures] at hmem
  rcases List.mem_append.1 hmem with hown | hforeign
  · rw [h.home_own closure hown]
    exact ⟨Nat.le_refl id, hid⟩
  · obtain ⟨hlt, hnext⟩ := h.foreign.homes closure hforeign
    exact ⟨Nat.le_of_lt hlt, hnext⟩

/-- What a frame holds does not depend on what happens to other frames. -/
theorem Contents.later (h : m.Contents id block own foreign)
    (hpast : ∀ mark : Mark, mark.frame = id → (mark ∈ m'.past ↔ mark ∈ m.past))
    (hclosures : m'.state.scopes.closuresIn id = m.state.scopes.closuresIn id)
    (hnext : m.state.scopes.next ≤ m'.state.scopes.next) : m'.Contents id block own foreign := by
  have hhoisted : m'.Hoisted id ↔ m.Hoisted id :=
    exists_congr fun other => hpast (.hoisted id other) rfl
  exact ⟨fun other => (hpast (.entered id other) rfl).trans (h.entered other),
    hclosures.trans h.closures, fun hnot => h.before (hhoisted.not.1 hnot),
    fun hhas => h.after (hhoisted.1 hhas), h.foreign.mono hnext⟩

/-- A frame was made for a block and holds nothing yet. -/
structure Fresh (sheet : Stylesheet) (m : Moment σ) (id : FrameId) (block : Block) : Prop where
  lt_next : id < m.state.scopes.next
  entered : .entered id block ∈ m.past
  hoisted : ¬ m.Hoisted id
  closures : m.state.scopes.closuresIn id = []
  hasBlock : sheet.HasBlock block

/-- A fresh frame stays fresh while only its variables are bound. -/
theorem Fresh.later (h : m.Fresh sheet id block) (hbinds : m.Binds id m') :
    m'.Fresh sheet id block := by
  have hconf := hbinds.state.scopes
  refine ⟨Nat.lt_of_lt_of_le h.lt_next hconf.next_le, ?_, ?_, ?_, h.hasBlock⟩
  · rw [hbinds.past]
    exact h.entered
  · rw [Hoisted, hbinds.past]
    exact h.hoisted
  · exact (hconf.closuresIn_eq h.lt_next (Set.notMem_empty id)).trans h.closures

namespace Arena

/-- The homes of the definitions of a frame are at least as young as the frame. -/
theorem home_le (h : m.Arena sheet) :
    ∀ closure ∈ m.state.scopes.closuresIn id,
      id ≤ closure.home ∧ closure.home < m.state.scopes.next := by
  intro closure hmem
  by_cases hid : id < m.state.scopes.next
  · obtain ⟨block, own, foreign, -, hcontents⟩ := h.contents id hid
    exact hcontents.home_le hid closure hmem
  · rw [Scopes.closuresIn_of_next_le (Nat.le_of_not_lt hid)] at hmem
    exact absurd hmem List.not_mem_nil

/-- Changes that make no frame and no definition. -/
theorem of_closuresIn_eq (h : m.Arena sheet) (hpast : m'.past = m.past)
    (hnext : m'.state.scopes.next = m.state.scopes.next) (hrooted : m'.state.scopes.Rooted)
    (hstacked : m'.state.scopes.Stacked)
    (hclosures : ∀ id, m'.state.scopes.closuresIn id = m.state.scopes.closuresIn id) :
    m'.Arena sheet := by
  refine ⟨hrooted, hstacked, ?_, fun id hid => ?_, fun id closure hmem => ?_⟩
  · rw [hpast, hnext]
    exact h.marks
  · obtain ⟨block, own, foreign, hblock, hcontents⟩ := h.contents id (hnext ▸ hid)
    exact ⟨block, own, foreign, hblock,
      hcontents.later (fun _ _ => by rw [hpast]) (hclosures id) (Nat.le_of_eq hnext.symm)⟩
  · rw [hclosures] at hmem
    exact h.defined id closure hmem

/-- The arena depends on the scopes and on the past only. -/
private theorem of_scopes_eq (h : m.Arena sheet) (hpast : m'.past = m.past)
    (hscopes : m'.state.scopes = m.state.scopes) : m'.Arena sheet :=
  h.of_closuresIn_eq hpast (congrArg _ hscopes) (hscopes ▸ h.rooted) (hscopes ▸ h.stacked)
    fun id => congrArg (·.closuresIn id) hscopes

/-- Binding a variable keeps the arena. -/
theorem bind (h : m.Arena sheet) (id : FrameId) (name : String) (value : Value) :
    (m.after (.bind id name value)).Arena sheet :=
  h.of_closuresIn_eq rfl (Scopes.next_modify _ _ _) (h.rooted.modify fun _ => rfl)
    (h.stacked.modify _ _) fun other => Scopes.closuresIn_bind _ _ other _ _

/-- Leaving a frame keeps the arena. -/
theorem leave (h : m.Arena sheet) : (m.after .leave).Arena sheet :=
  h.of_closuresIn_eq rfl (Scopes.next_pop _) h.rooted.pop h.stacked.pop
    (Scopes.closuresIn_pop m.state.scopes)

/-- A new frame holds nothing and was made for the block given. -/
theorem enter {parent : FrameId} (h : m.Arena sheet) (hparent : parent < m.state.scopes.next)
    (hblock : sheet.HasBlock block) :
    (m.after (.enter parent block)).Arena sheet ∧
      (m.after (.enter parent block)).Fresh sheet m.state.scopes.next block := by
  have hnext : (m.after (.enter parent block)).state.scopes.next = m.state.scopes.next + 1 :=
    Scopes.next_push _ _
  have hclosures : ∀ id, (m.after (.enter parent block)).state.scopes.closuresIn id =
      m.state.scopes.closuresIn id := Scopes.closuresIn_push _ _
  have hnew : (m.after (.enter parent block)).state.scopes.closuresIn m.state.scopes.next = [] :=
    (hclosures _).trans (Scopes.closuresIn_of_next_le (Nat.le_refl _))
  -- no mark is about the new frame but the one that was just made
  have hpast : ∀ mark : Mark, mark ∈ (m.after (.enter parent block)).past ↔
      mark = .entered m.state.scopes.next block ∨ mark ∈ m.past := fun _ => List.mem_cons
  have hhoisted : ¬ (m.after (.enter parent block)).Hoisted m.state.scopes.next := by
    rintro ⟨other, hother⟩
    rcases (hpast _).1 hother with heq | hmem
    · exact absurd heq (by rintro ⟨⟩)
    · exact Nat.lt_irrefl _ (h.marks _ hmem)
  refine ⟨⟨h.rooted.push hparent, h.stacked.push parent, ?_, ?_, ?_⟩,
    ⟨hnext ▸ Nat.lt_succ_self _, (hpast _).2 (.inl rfl), hhoisted, hnew, hblock⟩⟩
  · -- marks are about frames that exist
    intro mark hmark
    rw [hnext]
    rcases (hpast mark).1 hmark with rfl | hmem
    · exact Nat.lt_succ_self _
    · exact Nat.lt_succ_of_lt (h.marks mark hmem)
  · intro id hid
    rw [hnext] at hid
    rcases Nat.lt_succ_iff_lt_or_eq.1 hid with hlt | rfl
    · -- an older frame is not affected
      obtain ⟨block', own, foreign, hblock', hcontents⟩ := h.contents id hlt
      refine ⟨block', own, foreign, hblock', hcontents.later ?_ (hclosures id) (by lia)⟩
      rintro mark rfl
      rw [hpast, or_iff_right]
      rintro rfl
      exact Nat.lt_irrefl _ hlt
    · -- the new frame has been entered by its block alone, and holds nothing yet
      refine ⟨block, [], [], hblock, fun other => ?_, hnew, fun _ => rfl,
        fun hhas => absurd hhas hhoisted, .nil _ _⟩
      rw [hpast]
      constructor
      · rintro (heq | hmem)
        · exact (Mark.entered.inj heq).2
        · exact absurd (h.marks _ hmem) (Nat.lt_irrefl _)
      · rintro rfl
        exact .inl rfl
  · -- no closure was added
    intro id closure hmem
    rw [hclosures] at hmem
    exact h.defined id closure hmem

/-- The definitions of its block become those that a new frame made itself. -/
theorem hoist (h : m.Arena sheet) (hfresh : m.Fresh sheet id block) :
    (m.after (.hoist id block)).Arena sheet := by
  have hnext : (m.after (.hoist id block)).state.scopes.next = m.state.scopes.next :=
    Scopes.next_modify _ _ _
  have hpast : ∀ mark : Mark, mark ∈ (m.after (.hoist id block)).past ↔
      mark = .hoisted id block ∨ mark ∈ m.past := fun _ => List.mem_cons
  refine ⟨h.rooted.modify fun _ => rfl, h.stacked.modify _ _, ?_, ?_, ?_⟩
  · intro mark hmark
    rw [hnext]
    rcases (hpast mark).1 hmark with rfl | hmem
    · exact hfresh.lt_next
    · exact h.marks mark hmem
  · intro other hother
    rw [hnext] at hother
    obtain ⟨block', own, foreign, hblock', hcontents⟩ := h.contents other hother
    -- only the frame that takes the definitions changes what it holds
    by_cases hid : id = other
    · subst hid
      -- the frame holds nothing before, so what it holds after is what its block defines
      obtain rfl := (hcontents.entered block).1 hfresh.entered
      obtain ⟨rfl, rfl⟩ := List.append_eq_nil_iff.1 (hcontents.closures.symm.trans hfresh.closures)
      have hhoisted : (m.after (.hoist id block)).Hoisted id := ⟨block, (hpast _).2 (.inl rfl)⟩
      refine ⟨block, Scopes.closuresOf id block.site block.body, [], hblock', fun entered => ?_, ?_,
        fun hnot => absurd hhoisted hnot, fun _ => rfl, .nil _ _⟩
      · rw [hpast, or_iff_right (by rintro ⟨⟩)]
        exact hcontents.entered entered
      · have hself := Scopes.closuresIn_hoist_self hfresh.lt_next block.site block.body
        rw [hfresh.closures] at hself
        rw [List.append_nil]
        exact hself
    · -- any other frame keeps its contents, and the new mark is not about it
      refine ⟨block', own, foreign, hblock', hcontents.later ?_
        (Scopes.closuresIn_hoist_of_ne hid _ _ _) (Nat.le_of_eq hnext.symm)⟩
      rintro mark rfl
      rw [hpast, or_iff_right]
      rintro rfl
      exact hid rfl
  · intro other closure hmem
    -- a closure was there before or is one that the block defines
    rcases Scopes.mem_closuresIn_hoist hmem with hold | hnew
    · exact h.defined other closure hold
    · obtain ⟨⟨site, definition⟩, hdef, rfl⟩ := List.mem_map.1 hnew
      exact ⟨block, hfresh.hasBlock, hdef⟩

/-- Exports from a younger frame. -/
theorem publish {source : FrameId} (h : m.Arena sheet) (hid : id < source)
    (hsource : source ≤ m.state.scopes.next) : (m.after (.publish source id)).Arena sheet := by
  have hnext : (m.after (.publish source id)).state.scopes.next = m.state.scopes.next :=
    Scopes.next_modify _ _ _
  refine ⟨h.rooted.modify fun _ => rfl, h.stacked.modify _ _, ?_, ?_, ?_⟩
  · rw [hnext]
    exact h.marks
  · intro other hother
    rw [hnext] at hother
    obtain ⟨block, own, foreign, hblock, hcontents⟩ := h.contents other hother
    by_cases hother : id = other
    · subst hother
      -- whatever the younger frame holds has its home there or in a still younger one
      have hexported : ∀ closure ∈ m.state.scopes.closuresIn source,
          id < closure.home ∧ closure.home < m.state.scopes.next := by
        intro closure hmem
        obtain ⟨hle, hlt⟩ := h.home_le closure hmem
        exact ⟨Nat.lt_of_lt_of_le hid hle, hlt⟩
      have hforeign := hcontents.foreign.foldl_place hexported
      refine ⟨block, own, _, hblock, hcontents.entered, ?_, hcontents.before,
        hcontents.after, hforeign.mono (Nat.le_of_eq hnext.symm)⟩
      rw [← Scopes.foldl_place_append hcontents.home_own, ← hcontents.closures]
      exact Scopes.closuresIn_publish_self (Nat.lt_of_lt_of_le hid hsource) source
    · exact ⟨block, own, foreign, hblock, hcontents.later (fun _ _ => .rfl)
        (Scopes.closuresIn_publish_of_ne hother _ _) (Nat.le_of_eq hnext.symm)⟩
  · intro other closure hmem
    rcases Scopes.mem_closuresIn_publish hmem with hfrom | hold
    · exact h.defined source closure hfrom
    · exact h.defined other closure hold

end Arena

end Moment

/-- The discipline of frames and their definitions in the run of a stylesheet. -/
def Discipline.arena (settings : Settings σ) (sheet : Stylesheet) : Discipline settings where
  holds m := m.state.callDepth ≤ settings.limit ∧ m.Arena sheet
  ready m id nodes := id < m.state.scopes.next ∧ sheet.Places nodes
  expanding m id := id < m.state.scopes.next
  fresh m id block := m.Fresh sheet id block
  callable m closure := closure.home < m.state.scopes.next ∧
    sheet.Defines closure.site closure.definition
  depth_le hm := hm.1
  active_ne hm := by
    rintro hnil
    have hroot := hm.2.stacked.root
    rw [hnil] at hroot
    exact absurd hroot (Option.some_ne_none _).symm
  callable_mem hm hclosure := ⟨(hm.2.home_le _ hclosure).2, hm.2.defined _ _ hclosure⟩
  ready_tail hready := ⟨hready.1, fun site node definition hmem =>
    hready.2 site node definition (.tail _ hmem)⟩
  ready_later hready hconf := ⟨Nat.lt_of_lt_of_le hready.1 hconf.scopes.next_le, hready.2⟩
  expanding_later hexpanding hconf := Nat.lt_of_lt_of_le hexpanding hconf.scopes.next_le
  fresh_later hfresh hbinds := hfresh.later hbinds
  callable_later hcallable hconf := ⟨Nat.lt_of_lt_of_le hcallable.1 hconf.next_le, hcallable.2⟩
  rehost hm _ := ⟨hm.1, hm.2.of_scopes_eq rfl rfl⟩
  ruleset_event hm _ := ⟨hm.1, hm.2.of_scopes_eq rfl rfl⟩
  expansion_event hm _ _ := ⟨hm.1, hm.2.of_scopes_eq rfl rfl⟩
  enter_ruleset hm hready := by
    have hdefines := hready.2 _ _ _ List.mem_cons_self rfl
    obtain ⟨harena, hfresh⟩ := hm.2.enter hready.1 hdefines.hasBlock
    exact ⟨⟨hm.1, harena⟩, hfresh⟩
  enter_closure hm hcallable := by
    obtain ⟨harena, hfresh⟩ := hm.2.enter hcallable.1 hcallable.2.hasBlock
    exact ⟨⟨hm.1, harena⟩, hfresh⟩
  bind id name value hm := ⟨hm.1, hm.2.bind id name value⟩
  hoist hm hfresh := ⟨hm.1, hm.2.hoist hfresh⟩
  ready_ruleset hready := by
    have hdefines := hready.2 _ _ _ List.mem_cons_self rfl
    refine ⟨?_, hdefines.hasBlock.places⟩
    change _ < Scopes.next (Scopes.hoist _ _ _ _)
    rw [Scopes.hoist, Scopes.next_modify]
    exact Nat.lt_of_lt_of_eq (Nat.lt_succ_self _) (Scopes.next_push _ _).symm
  ready_closure hexpanding hcallable hbinds := by
    refine ⟨?_, hcallable.2.hasBlock.places⟩
    change _ < Scopes.next (Scopes.hoist _ _ _ _)
    rw [Scopes.hoist, Scopes.next_modify]
    exact Nat.lt_of_lt_of_le (Nat.lt_of_lt_of_eq (Nat.lt_succ_self _) (Scopes.next_push _ _).symm)
      hbinds.state.scopes.next_le
  leave hm := ⟨hm.1, hm.2.leave⟩
  publish hexpanding hconf hm := ⟨hm.1, hm.2.publish hexpanding hconf.scopes.next_le⟩
  count hm hready hlimit := ⟨⟨hlimit, hm.2.of_scopes_eq rfl rfl⟩, hready.1⟩
  uncount hm := ⟨Nat.le_trans (Nat.sub_le _ _) hm.1, hm.2.of_scopes_eq rfl rfl⟩

/-- Before its first step, a run has only the root frame, made for the outermost block. -/
theorem Stylesheet.arena_start (sheet : Stylesheet) (settings : Settings σ) (natives : σ) :
    (sheet.start settings natives).moment.Arena sheet ∧
      (sheet.start settings natives).moment.Fresh sheet Scopes.root sheet.block := by
  have hmem : ∀ mark : Mark, mark ∈ (sheet.start settings natives).moment.past ↔
      mark = .entered Scopes.root sheet.block := fun _ => List.mem_singleton
  -- nothing has been taken over at the start, in any frame
  have hhoisted : ¬ (sheet.start settings natives).moment.Hoisted Scopes.root := by
    rintro ⟨block, hblock⟩
    exact absurd ((hmem _).1 hblock) (by rintro ⟨⟩)
  have hclosures : ∀ id, Scopes.initial.closuresIn id = [] := by
    intro id
    cases id with
    | zero => rfl
    | succ id => rfl
  refine ⟨⟨⟨Nat.zero_lt_one, rfl, ?_⟩, ⟨rfl, List.pairwise_singleton _ _, ?_⟩, ?_, ?_, ?_⟩,
    ⟨Nat.zero_lt_one, (hmem _).2 rfl, hhoisted, rfl, .outermost⟩⟩
  · -- the outermost frame is the only one
    intro id hid hne
    exact absurd (Nat.lt_one_iff.1 hid) hne
  · intro id hid
    rw [List.mem_singleton.1 hid]
    exact Nat.zero_lt_one
  · intro mark hmark
    rw [(hmem mark).1 hmark]
    exact Nat.zero_lt_one
  · intro id hid
    obtain rfl : id = Scopes.root := Nat.lt_one_iff.1 hid
    -- it has been entered by the sheet, and holds nothing yet
    refine ⟨sheet.block, [], [], .outermost, fun other => ?_, rfl, fun _ => rfl,
      fun hhas => absurd hhas hhoisted, .nil _ _⟩
    rw [hmem]
    exact ⟨fun heq => (Mark.entered.inj heq).2, fun heq => heq ▸ rfl⟩
  · intro id closure hclosure
    rw [show (sheet.start settings natives).moment.state.scopes = Scopes.initial from rfl,
      hclosures] at hclosure
    exact absurd hclosure List.not_mem_nil

/-- Frames are as described after any number of steps. -/
theorem arena_momentAt (settings : Settings σ) (sheet : Stylesheet) (natives : σ) (n : Nat) :
    (sheet.momentAt settings natives n).Arena sheet := by
  obtain ⟨harena, hfresh⟩ := sheet.arena_start settings natives
  have hready : (Discipline.arena settings sheet).ready
      ((sheet.start settings natives).moment.after (.hoist Scopes.root sheet.block)) Scopes.root
      (Node.located Stylesheet.site 0 sheet.nodes) :=
    ⟨(harena.hoist hfresh).rooted.root_lt, Stylesheet.HasBlock.outermost.places⟩
  exact ((Discipline.arena settings sheet).holds_momentAt sheet natives ⟨Nat.zero_le _, harena⟩
    hfresh hready n).2

/-- At every moment of a run, whatever its outcome: the root is the only frame without a parent,
parents are older, and every walk outwards ends at the root. Every frame was made for one block of
the stylesheet; what it holds are first the definitions of that block, from the moment on at which
they are registered, and then definitions whose homes are younger frames, no two of the same node
(a definition stands at its site in the stylesheet, and no other one does).
The stack of active frames goes from the root to ever younger frames. -/
theorem arena_of_frames (settings : Settings σ) (sheet : Stylesheet) (natives : σ) (n : Nat) :
    let m := sheet.momentAt settings natives n
    let scopes := m.state.scopes
    Scopes.root < scopes.next ∧
    (∀ id, id < scopes.next → (scopes.parent? id = none ↔ id = Scopes.root)) ∧
    (∀ id parent, scopes.parent? id = some parent → parent < id) ∧
    (∀ id, id < scopes.next →
      (scopes.ancestors id).head? = some id ∧
      (scopes.ancestors id).IsChain (fun child outer => scopes.parent? child = some outer) ∧
      (scopes.ancestors id).getLast? = some Scopes.root) ∧
    (∀ id, id < scopes.next → ∃ block own foreign,
      sheet.HasBlock block ∧
      (∀ other, .entered id other ∈ m.past ↔ other = block) ∧
      scopes.closuresIn id = own ++ foreign ∧
      (∀ closure ∈ own, closure.home = id) ∧
      (m.Hoisted id → own = Scopes.closuresOf id block.site block.body) ∧
      (∀ closure ∈ foreign, id < closure.home ∧ closure.home < scopes.next) ∧
      (foreign.map (·.site)).Nodup) ∧
    (∀ id, ∀ closure ∈ scopes.closuresIn id, sheet.Defines closure.site closure.definition) ∧
    (∀ site definition definition', sheet.Defines site definition →
      sheet.Defines site definition' → definition = definition') ∧
    scopes.active.reverse.head? = some Scopes.root ∧
    scopes.active.reverse.Pairwise (· < ·) := by
  have h := arena_momentAt settings sheet natives n
  refine ⟨h.rooted.root_lt, fun id hid => h.rooted.parent?_eq_none_iff hid,
    fun id parent => h.rooted.parent_lt, fun id hid => h.rooted.ancestors hid, fun id hid => ?_,
    h.defined, fun _ _ _ hdef hdef' => hdef.unique hdef', ?_, ?_⟩
  · -- what a frame holds is split into its own definitions and those it was given
    obtain ⟨block, own, foreign, hblock, hcontents⟩ := h.contents id hid
    exact ⟨block, own, foreign, hblock, hcontents.entered, hcontents.closures, hcontents.home_own,
      hcontents.after, hcontents.foreign.homes, hcontents.foreign.sites⟩
  · rw [List.head?_reverse]
    exact h.stacked.root
  · exact List.pairwise_reverse.2 h.stacked.sorted

end MixinSheet
