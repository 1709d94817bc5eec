import MixinSheet.Proofs.Arena
import MixinSheet.Proofs.Chains
import MixinSheet.Proofs.Positions
import MixinSheet.Proofs.Sketch

/-!
# The order of what a call runs

The definitions that a call runs come in the order of the chains that lead to them: first by where
the chains start, then by their further links. If definitions start in the order in which they stand
in the tree, those that one start leads to are therefore in source order. Those that two starts lead
to need not be, as one of the starts may lie inside the other: then the outer one comes first, with
everything that it leads to.

## Key results

- `Site.Precedes`: two places part ways, and one of them comes first
- `Stylesheet.InSourceOrder.compareStart_eq_lt`: where two definitions part ways, the one that comes
  first starts first
- `targets_in_order_of_starts`: what a call runs is in source order from every start, and as a whole
  if no start lies inside another one
- `targets_out_of_source_order`: it is not in source order for a ruleset inside one of the same name
-/

namespace MixinSheet

open Evaluation Resolution

variable {σ : Type}

/-! ## Places that part ways -/

namespace Site

/-- Up to some block two places have the same way, and from there the first one goes through an
earlier statement. -/
def Precedes (a b : Site) : Prop :=
  ∃ outer i j, i < j ∧ (i :: outer) <:+ a ∧ (j :: outer) <:+ b

/-- Neither place lies inside the other. -/
def Apart (a b : Site) : Prop :=
  ¬ a <:+ b ∧ ¬ b <:+ a

instance (a b : Site) : Decidable (Apart a b) :=
  inferInstanceAs (Decidable (_ ∧ _))

/-- The first place comes before the other one or is around it. -/
def Ahead (a b : Site) : Prop :=
  Precedes a b ∨ a <:+ b

variable {a b a' b' : Site}

/-- What lies inside of two places parts ways where they do. -/
theorem Precedes.inside (h : Precedes a b) (ha : a <:+ a') (hb : b <:+ b') : Precedes a' b' := by
  obtain ⟨outer, i, j, hlt, hi, hj⟩ := h
  exact ⟨outer, i, j, hlt, hi.trans ha, hj.trans hb⟩

/-- Of two statements of one block the one with the smaller index comes first. -/
private theorem precedes_of_lt {i j : Nat} (hlt : i < j) (site : Site) :
    Precedes (i :: site) (j :: site) :=
  ⟨site, i, j, hlt, List.suffix_rfl, List.suffix_rfl⟩

/-- Read from the outside in, the place that comes first is the smaller one. -/
private theorem Precedes.reverse_lt (h : Precedes a b) : a.reverse < b.reverse := by
  obtain ⟨outer, i, j, hlt, ⟨inner, rfl⟩, ⟨inner', rfl⟩⟩ := h
  simp only [List.reverse_append, List.reverse_cons, List.append_assoc]
  exact List.append_left_lt (List.cons_lt_cons_iff.2 (.inl hlt))

/-- No two places come before each other. -/
private theorem Precedes.asymm (h : Precedes a b) : ¬ Precedes b a :=
  fun h' => List.lt_asymm h.reverse_lt h'.reverse_lt

/-- The place that comes first lies not inside the other one. -/
private theorem Precedes.not_suffix (h : Precedes a b) : ¬ b <:+ a :=
  fun h' => (List.reverse_prefix.2 h').le h.reverse_lt

end Site

/-! ## Definitions in the order of the tree -/

namespace Node

mutual

/-- The definition that a node is and those inside of it, from the outside in. -/
def linksAt (site : Site) : Node → List Link
  | .ruleset selectors body span =>
    (site, .ruleset { selectors, body, span }) :: linksIn site 0 body
  | .mixin name params body span =>
    (site, .mixin { name, params, body, span }) :: linksIn site 0 body
  | .call _ | .declaration _ | .assignment _ => []

/-- The definitions in a block at any depth, from the statement with the given index on. -/
def linksIn (site : Site) (index : Nat) : List Node → List Link
  | [] => []
  | node :: rest => linksAt (index :: site) node ++ linksIn site (index + 1) rest

end

/-- A definition comes first, and then what is inside of it. -/
private theorem linksAt_of_definition? {node : Node} {definition : Definition}
    (h : node.definition? = some definition) (site : Site) :
    linksAt site node = (site, definition) :: linksIn site 0 definition.body := by
  cases node with
  | ruleset | mixin =>
    cases h
    rw [linksAt]
    rfl
  | call | declaration | assignment => cases h

mutual

/-- The spans of the definitions at a place are those of the node, in the same order. -/
private theorem map_span_linksAt (site : Site) (node : Node) :
    (linksAt site node).map (·.2.span) = node.definitionSpans := by
  cases node with
  | ruleset selectors body span =>
    rw [linksAt, definitionSpans, List.map_cons, map_span_linksIn site 0 body]
    rfl
  | mixin name params body span =>
    rw [linksAt, definitionSpans, List.map_cons, map_span_linksIn site 0 body]
    rfl
  | call | declaration | assignment =>
    rw [linksAt, definitionSpans]
    rfl

/-- The same of a list of nodes: one recursion with `map_span_linksAt`. -/
private theorem map_span_linksIn (site : Site) (index : Nat) (nodes : List Node) :
    (linksIn site index nodes).map (·.2.span) = definitionSpansIn nodes := by
  cases nodes with
  | nil =>
    rw [linksIn, definitionSpansIn]
    rfl
  | cons node rest =>
    rw [linksIn, definitionSpansIn, List.map_append, map_span_linksAt (index :: site) node,
      map_span_linksIn site (index + 1) rest]

end

mutual

/-- The definitions of a node stand at its place or inside of it. -/
private theorem suffix_of_mem_linksAt {site : Site} (node : Node) {link : Link}
    (h : link ∈ linksAt site node) : site <:+ link.1 := by
  cases node with
  | ruleset | mixin =>
    rw [linksAt] at h
    rcases List.mem_cons.1 h with rfl | hinner
    · exact List.suffix_rfl
    · obtain ⟨i, -, hsuffix⟩ := suffix_of_mem_linksIn _ hinner
      exact (List.suffix_cons i site).trans hsuffix
  | call | declaration | assignment =>
    rw [linksAt] at h
    cases h

/-- The definitions of a list of nodes stand inside of one of them. -/
private theorem suffix_of_mem_linksIn {site : Site} {index : Nat} (nodes : List Node) {link : Link}
    (h : link ∈ linksIn site index nodes) : ∃ i, index ≤ i ∧ (i :: site) <:+ link.1 := by
  cases nodes with
  | nil =>
    rw [linksIn] at h
    cases h
  | cons node rest =>
    rw [linksIn] at h
    rcases List.mem_append.1 h with hnode | hrest
    · exact ⟨index, Nat.le_refl index, suffix_of_mem_linksAt node hnode⟩
    · obtain ⟨i, hi, hsuffix⟩ := suffix_of_mem_linksIn rest hrest
      exact ⟨i, by omega, hsuffix⟩

end

mutual

/-- What comes first among the definitions of a node parts ways with the others or is around
them. -/
private theorem pairwise_linksAt (site : Site) (node : Node) :
    (linksAt site node).Pairwise fun a b => Site.Ahead a.1 b.1 := by
  cases node with
  | ruleset | mixin =>
    rw [linksAt]
    refine List.pairwise_cons.2 ⟨fun link hinner => ?_, pairwise_linksIn site 0 _⟩
    obtain ⟨i, -, hsuffix⟩ := suffix_of_mem_linksIn _ hinner
    exact .inr ((List.suffix_cons i site).trans hsuffix)
  | call | declaration | assignment =>
    rw [linksAt]
    exact List.Pairwise.nil

/-- The definitions of a list of nodes come in the order of their places. -/
private theorem pairwise_linksIn (site : Site) (index : Nat) (nodes : List Node) :
    (linksIn site index nodes).Pairwise fun a b => Site.Ahead a.1 b.1 := by
  cases nodes with
  | nil =>
    rw [linksIn]
    exact List.Pairwise.nil
  | cons node rest =>
    rw [linksIn]
    refine List.pairwise_append.2 ⟨pairwise_linksAt (index :: site) node,
      pairwise_linksIn site (index + 1) rest, fun a ha b hb => ?_⟩
    -- the first node comes before the others, and so does all that is inside of it
    have hsuffix := suffix_of_mem_linksAt node ha
    obtain ⟨i, hi, hsuffix'⟩ := suffix_of_mem_linksIn rest hb
    have hlt : index < i := by omega
    exact .inl ((Site.precedes_of_lt hlt site).inside hsuffix hsuffix')

end

/-- The definitions of a block are among those at any depth, with all that is inside of them. -/
private theorem mem_linksIn_of_mem_definitionsFrom {site : Site} {index : Nat} {body : List Node}
    {link : Link} (h : link ∈ definitionsFrom site index body) {inner : Link}
    (hinner : inner ∈ link :: linksIn link.1 0 link.2.body) : inner ∈ linksIn site index body := by
  induction body generalizing index with
  | nil => cases h
  | cons node rest ih =>
    rw [linksIn]
    rw [definitionsFrom] at h
    cases hdef : node.definition? with
    | none =>
      simp only [hdef] at h
      exact List.mem_append_right _ (ih h)
    | some definition =>
      simp only [hdef] at h
      -- the definition is the node itself, with all that it defines inside, or stands later
      rcases List.mem_cons.1 h with rfl | hrest
      · rw [linksAt_of_definition? hdef]
        exact List.mem_append_left _ hinner
      · exact List.mem_append_right _ (ih hrest)

/-- The definitions of a block part ways in the order in which they stand. -/
private theorem pairwise_definitionsFrom (site : Site) (index : Nat) (body : List Node) :
    (definitionsFrom site index body).Pairwise fun a b => Site.Precedes a.1 b.1 := by
  induction body generalizing index with
  | nil => exact List.Pairwise.nil
  | cons node rest ih =>
    rw [definitionsFrom]
    cases node.definition? with
    | none => exact ih (index + 1)
    | some definition =>
      refine List.pairwise_cons.2 ⟨fun other hother => ?_, ih (index + 1)⟩
      -- a later definition stands at a later index
      obtain ⟨node', hmem, -⟩ := mem_definitionsFrom_iff.1 hother
      obtain ⟨i, hsite, -⟩ := getElem?_of_mem_located hmem
      rw [hsite]
      exact Site.precedes_of_lt (by omega) site

end Node

namespace Stylesheet

variable {sheet : Stylesheet} {a b : Link}

/-- The definitions of a stylesheet in the order of the tree. -/
def links (sheet : Stylesheet) : List Link :=
  Node.linksIn Stylesheet.site 0 sheet.nodes

/-- Definitions start in the order in which they stand in the tree. -/
def InSourceOrder (sheet : Stylesheet) : Prop :=
  sheet.definitionSpans.Pairwise fun a b => a.compareStart b = .lt

instance (sheet : Stylesheet) : Decidable sheet.InSourceOrder :=
  inferInstanceAs (Decidable (List.Pairwise _ _))

/-- What the body of a block of the sheet defines is a definition of the sheet. -/
private theorem HasBlock.mem_links {block : Block} (h : sheet.HasBlock block) {link : Link}
    (hmem : link ∈ Node.linksIn block.site 0 block.body) : link ∈ sheet.links := by
  induction h with
  | outermost => exact hmem
  | inner _ hdef ih => exact ih (Node.mem_linksIn_of_mem_definitionsFrom hdef (.tail _ hmem))

/-- A definition of the sheet is listed among its links. -/
private theorem Defines.mem_links (h : sheet.Defines a.1 a.2) : a ∈ sheet.links := by
  obtain ⟨block, hblock, hdef⟩ := h
  exact hblock.mem_links (Node.mem_linksIn_of_mem_definitionsFrom hdef List.mem_cons_self)

/-- Of two definitions one comes first in the tree, and this one starts first. -/
private theorem InSourceOrder.ahead_or (h : sheet.InSourceOrder) (ha : sheet.Defines a.1 a.2)
    (hb : sheet.Defines b.1 b.2) :
    a = b ∨ (Site.Ahead a.1 b.1 ∧ a.2.span.compareStart b.2.span = .lt) ∨
      (Site.Ahead b.1 a.1 ∧ b.2.span.compareStart a.2.span = .lt) := by
  -- definitions are listed in the order of their places, and of their starts by assumption
  have hspans : sheet.links.Pairwise fun a b => a.2.span.compareStart b.2.span = .lt := by
    rw [InSourceOrder, definitionSpans, ← Node.map_span_linksIn Stylesheet.site 0,
      List.pairwise_map] at h
    exact h
  have hboth := (Node.pairwise_linksIn Stylesheet.site 0 sheet.nodes).and hspans
  obtain ⟨i, hi, rfl⟩ := List.mem_iff_getElem.1 ha.mem_links
  obtain ⟨j, hj, rfl⟩ := List.mem_iff_getElem.1 hb.mem_links
  have hordered := List.pairwise_iff_getElem.1 hboth
  -- so places and starts compare alike
  rcases Nat.lt_trichotomy i j with hlt | rfl | hgt
  · exact .inr (.inl (hordered i j hi hj hlt))
  · exact .inl rfl
  · exact .inr (.inr (hordered j i hj hi hgt))

/-- Where two definitions part ways, the one that comes first starts first. -/
theorem InSourceOrder.compareStart_eq_lt (h : sheet.InSourceOrder) (ha : sheet.Defines a.1 a.2)
    (hb : sheet.Defines b.1 b.2) (hab : Site.Precedes a.1 b.1) :
    a.2.span.compareStart b.2.span = .lt := by
  rcases h.ahead_or ha hb with rfl | ⟨-, hlt⟩ | ⟨hahead, -⟩
  · exact absurd hab hab.asymm
  · exact hlt
  · rcases hahead with hba | hsuffix
    · exact absurd hba hab.asymm
    · exact absurd hsuffix hab.not_suffix

/-- Of two definitions that are apart, the one that does not start later comes first. -/
private theorem InSourceOrder.precedes (h : sheet.InSourceOrder) (ha : sheet.Defines a.1 a.2)
    (hb : sheet.Defines b.1 b.2) (hapart : Site.Apart a.1 b.1)
    (hle : a.2.span.compareStart b.2.span ≠ .gt) : Site.Precedes a.1 b.1 := by
  rcases h.ahead_or ha hb with rfl | ⟨hahead, -⟩ | ⟨-, hgt⟩
  · exact absurd List.suffix_rfl hapart.1
  · exact hahead.resolve_right hapart.1
  · exact absurd (Std.OrientedCmp.gt_of_lt hgt) hle

end Stylesheet

/-! ## Where chains end -/

/-- The definitions that a path leads to from a definition, in the order of the ways there. -/
def Link.ends : List Element → Link → List Link
  | [], link => [link]
  | segment :: rest, link => (link.named segment.value).flatMap (ends rest)

/-- The last link of a chain. -/
def Chain.last (chain : Chain) : Link :=
  chain.links.getLast?.getD chain.start.link

/-- The closure that a chain leads to is the definition the chain ends with. -/
private theorem Scopes.Leads.link_eq {scopes : Scopes} {first : FrameId} {chain : Chain}
    {closure : Closure} (h : scopes.Leads first chain closure) : closure.link = chain.last := by
  induction h with
  | here closure => rfl
  | inner _ _ _ ih =>
    rw [ih, Chain.last, Chain.last, List.getLast?_cons]
    rfl

namespace Link

variable {link other : Link} {path : List Element}

/-- The ends of the trails of a path are its ends. -/
private theorem map_last_trails (path : List Element) (link : Link) :
    (link.trails path).map (fun links => links.getLast?.getD link) = link.ends path := by
  induction path generalizing link with
  | nil => rfl
  | cons segment rest ih =>
    rw [trails, ends, List.map_flatMap]
    refine List.flatMap_congr fun inner _ => ?_
    rw [List.map_map, ← ih]
    refine List.map_congr_left fun links _ => ?_
    rw [Function.comp_apply, List.getLast?_cons]
    rfl

/-- What a namespace has under a name is defined in its body. -/
private theorem mem_definitions_of_mem_named {name : String} (h : other ∈ link.named name) :
    link.2.isNamespace = true ∧ other ∈ Node.definitions link.1 link.2.body := by
  rw [named] at h
  split at h
  · next hspace => exact ⟨hspace, (List.mem_filter.1 h).1⟩
  · cases h

/-- A path leads inwards. -/
private theorem suffix_of_mem_ends (h : other ∈ link.ends path) : link.1 <:+ other.1 := by
  induction path generalizing link with
  | nil =>
    obtain rfl := List.mem_singleton.1 h
    exact List.suffix_rfl
  | cons segment rest ih =>
    obtain ⟨inner, hinner, hother⟩ := List.mem_flatMap.1 h
    obtain ⟨i, -, hsite, -⟩ :=
      Node.getElem?_of_mem_definitions (mem_definitions_of_mem_named hinner).2
    have hsuffix := ih hother
    rw [hsite] at hsuffix
    exact (List.suffix_cons i link.1).trans hsuffix

/-- A path leads from definitions of a stylesheet to such definitions. -/
private theorem defines_of_mem_ends {sheet : Stylesheet} (hlink : sheet.Defines link.1 link.2)
    (h : other ∈ link.ends path) : sheet.Defines other.1 other.2 := by
  induction path generalizing link with
  | nil =>
    rw [List.mem_singleton.1 h]
    exact hlink
  | cons segment rest ih =>
    obtain ⟨inner, hinner, hother⟩ := List.mem_flatMap.1 h
    have hdefined : sheet.Defines inner.1 inner.2 :=
      ⟨_, hlink.hasBlock, (mem_definitions_of_mem_named hinner).2⟩
    exact ih hdefined hother

/-- What a path leads to from one definition parts ways in the order of the ways there. -/
private theorem pairwise_ends (path : List Element) (link : Link) :
    (link.ends path).Pairwise fun a b => Site.Precedes a.1 b.1 := by
  induction path generalizing link with
  | nil => exact List.pairwise_singleton _ _
  | cons segment rest ih =>
    -- the members of one namespace follow each other
    have hsiblings : (link.named segment.value).Pairwise fun a b => Site.Precedes a.1 b.1 := by
      rw [named]
      split
      · exact (Node.pairwise_definitionsFrom link.1 0 link.2.body).filter _
      · exact List.Pairwise.nil
    rw [ends]
    -- and what is inside of them keeps their order
    refine List.pairwise_flatMap.2 ⟨fun inner _ => ih inner, hsiblings.imp ?_⟩
    intro a b hab x hx y hy
    exact hab.inside (suffix_of_mem_ends hx) (suffix_of_mem_ends hy)

/-- Only rulesets have something inside. -/
private theorem isNamespace_of_mem_ends (hpath : path ≠ []) (h : other ∈ link.ends path) :
    link.2.isNamespace = true := by
  cases path with
  | nil => exact absurd rfl hpath
  | cons segment rest =>
    obtain ⟨inner, hinner, -⟩ := List.mem_flatMap.1 h
    exact (mem_definitions_of_mem_named hinner).1

end Link

namespace Stylesheet.InSourceOrder

variable {sheet : Stylesheet} (h : sheet.InSourceOrder) {a b : Link} (path : List Element)

include h

/-- What a path leads to from definitions that part ways starts where they do. -/
private theorem compareStart_ends (ha : sheet.Defines a.1 a.2) (hb : sheet.Defines b.1 b.2)
    (hab : Site.Precedes a.1 b.1) :
    ∀ x ∈ a.ends path, ∀ y ∈ b.ends path, x.2.span.compareStart y.2.span = .lt := by
  intro x hx y hy
  have hxy := hab.inside (Link.suffix_of_mem_ends hx) (Link.suffix_of_mem_ends hy)
  exact h.compareStart_eq_lt (Link.defines_of_mem_ends ha hx) (Link.defines_of_mem_ends hb hy) hxy

/-- The ends of a path come in the order of their starts, when the sheet is in source order. -/
private theorem pairwise_ends (ha : sheet.Defines a.1 a.2) :
    (a.ends path).Pairwise fun x y => x.2.span.compareStart y.2.span = .lt := by
  refine (a.pairwise_ends path).imp_of_mem fun hx hy hxy => ?_
  exact h.compareStart_eq_lt (Link.defines_of_mem_ends ha hx) (Link.defines_of_mem_ends ha hy) hxy

/-- From starts in source order that are apart, a path leads to definitions in source order. -/
private theorem pairwise_flatMap_ends {path : List Element} (hpath : path ≠ [])
    {starts : List Closure} (hdefined : ∀ start ∈ starts, sheet.Defines start.site start.definition)
    (hsorted : starts.Pairwise fun a b =>
      a.definition.span.compareStart b.definition.span ≠ .gt)
    (hapart : (starts.filter (·.definition.isNamespace)).Pairwise
      fun a b => Site.Apart a.site b.site) :
    (starts.flatMap (·.link.ends path)).Pairwise fun a b =>
      a.2.span.compareStart b.2.span ≠ .gt := by
  have hlt : ∀ {a b : Link}, a.2.span.compareStart b.2.span = .lt →
      a.2.span.compareStart b.2.span ≠ .gt := by
    intro a b hab
    simp [hab]
  refine List.pairwise_flatMap.2 ⟨fun start hstart => ?_, ?_⟩
  · exact (h.pairwise_ends path (hdefined start hstart)).imp hlt
  · refine (hsorted.and (List.pairwise_filter.1 hapart)).imp_of_mem ?_
    intro a b ha hb hab x hx y hy
    obtain ⟨hle, hparts⟩ := hab
    -- both starts lead somewhere, so they are rulesets
    have hboth := hparts (Link.isNamespace_of_mem_ends hpath hx)
      (Link.isNamespace_of_mem_ends hpath hy)
    have ha' : sheet.Defines a.link.1 a.link.2 := hdefined a ha
    have hb' : sheet.Defines b.link.1 b.link.2 := hdefined b hb
    have hprecedes := h.precedes ha' hb' hboth hle
    exact hlt (h.compareStart_ends path ha' hb' hprecedes x hx y hy)

end Stylesheet.InSourceOrder

/-! ## What a call runs -/

/-- The accepted candidates keep their order. -/
private theorem accepted_sublist (candidates : List Closure) (verdicts : List Bool) :
    (accepted candidates verdicts).Sublist candidates := by
  induction candidates generalizing verdicts with
  | nil => exact List.Sublist.refl _
  | cons candidate rest ih =>
    cases verdicts with
    | nil => exact List.nil_sublist _
    | cons verdict verdicts =>
      cases verdict with
      | true => exact (ih verdicts).cons_cons candidate
      | false => exact (ih verdicts).cons candidate

/-- What a call runs is found among the ends of the chains, in the order of the chains. -/
private theorem exists_candidates_of_run_targets {settings : Settings σ} {s t : State σ}
    {call : Call} {args : List Value} {frame : FrameId} {found : List Closure} {first : Element}
    {rest : List Element} (hactive : s.scopes.active ≠ []) (hpath : call.path = first :: rest)
    (h : (targets settings call args frame).run settings s = (.ok found, t)) :
    ∃ candidates, found.Sublist candidates ∧
      candidates.map (·.link) =
        (s.scopes.visible frame first.value).flatMap (·.link.ends rest) := by
  have houtcome : ((targets settings call args frame).run settings s).1 = _ :=
    outcome_targets settings _ call args frame s
  have hlookup := leads_of_run_lookup settings hactive frame call.path
  -- a lookup that fails does not resolve the call
  rcases hrun : (lookup settings frame call.path).run settings s with ⟨failure | candidates, t'⟩
  · rw [EvalM.run] at hrun
    rw [hrun, h] at houtcome
    cases houtcome
  · rw [hrun] at hlookup
    rw [EvalM.run] at hrun
    rw [hrun, h] at houtcome
    refine ⟨candidates, ?_, ?_⟩
    · -- of the outcomes of a call only the last one is a success
      simp only at houtcome
      split at houtcome
      · cases houtcome
      · split at houtcome
        · cases houtcome
        · split at houtcome
          · cases houtcome
          · cases houtcome
            exact accepted_sublist _ _
    · -- the candidates are the ends of the chains that lead to them
      have hlast : List.Forall₂ (· = ·) (candidates.map (·.link))
          ((s.scopes.chains frame call.path).map Chain.last) := by
        rw [List.forall₂_map_left_iff, List.forall₂_map_right_iff]
        exact hlookup.2.flip.imp fun closure chain hleads => hleads.link_eq
      rw [List.forall₂_eq_eq_eq] at hlast
      rw [hlast, hpath, Scopes.chains, List.map_flatMap]
      refine List.flatMap_congr fun start _ => ?_
      rw [Closure.chains, List.map_map, ← Link.map_last_trails]
      rfl

/-- A part of several lists, one after the other, is made of parts of these lists. -/
private theorem exists_groups {starts candidates found : List Closure} {ends : Closure → List Link}
    (hsub : found.Sublist candidates) (hlinks : candidates.map (·.link) = starts.flatMap ends) :
    ∃ groups : List (List Closure), found = groups.flatten ∧
      List.Forall₂ (fun start group => (group.map (·.link)).Sublist (ends start)) starts
        groups := by
  induction starts generalizing candidates found with
  | nil =>
    rw [List.flatMap_nil, List.map_eq_nil_iff] at hlinks
    subst hlinks
    exact ⟨[], List.sublist_nil.1 hsub, .nil⟩
  | cons start rest ih =>
    -- the candidates of the first start come first, and so do those of them that are kept
    rw [List.flatMap_cons] at hlinks
    obtain ⟨own, others, rfl, hown, hothers⟩ := List.map_eq_append_iff.1 hlinks
    obtain ⟨group, later, rfl, hgroup, hlater⟩ := List.sublist_append_iff.1 hsub
    obtain ⟨groups, rfl, hgroups⟩ := ih hlater hothers
    have hstart : (group.map (·.link)).Sublist (ends start) := by
      rw [← hown]
      exact hgroup.map _
    exact ⟨group :: groups, rfl, .cons hstart hgroups⟩

/-- If definitions start in the order of the tree, then what a call runs comes by the starts of its
path: the starts are in source order, and so are the definitions that each of them leads to, all of
which lie inside of it or are the start itself. As a whole they are in source order if the path has
one segment only, or if no ruleset that the path may start with is inside another one or there
twice. -/
theorem targets_in_order_of_starts (settings : Settings σ) (sheet : Stylesheet) (natives : σ)
    (n : Nat) (call : Call) (args : List Value) (frame : FrameId) (first : Element)
    (rest : List Element) (found : List Closure) (t : State σ) (hsource : sheet.InSourceOrder)
    (hpath : call.path = first :: rest)
    (h : (targets settings call args frame).run settings (sheet.stateAt settings natives n) =
      (.ok found, t)) :
    let starts := (sheet.stateAt settings natives n).scopes.visible frame first.value
    starts.Pairwise (fun a b => a.definition.span.compareStart b.definition.span ≠ .gt) ∧
    (∃ groups : List (List Closure), found = groups.flatten ∧
      List.Forall₂ (fun start group =>
        (∀ closure ∈ group, start.site <:+ closure.site) ∧
        group.Pairwise fun a b => a.definition.span.compareStart b.definition.span = .lt)
        starts groups) ∧
    (rest = [] ∨ (starts.filter (·.definition.isNamespace)).Pairwise
        (fun a b => Site.Apart a.site b.site) →
      found.Pairwise fun a b => a.definition.span.compareStart b.definition.span ≠ .gt) := by
  have harena := arena_momentAt settings sheet natives n
  have hactive := (balanced_momentAt settings sheet natives n).2
  rw [Stylesheet.stateAt] at h
  simp only [Stylesheet.stateAt]
  generalize sheet.momentAt settings natives n = m at harena hactive h
  -- the found definitions are some of the candidates, in their order
  obtain ⟨candidates, hsub, hlinks⟩ := exists_candidates_of_run_targets hactive hpath h
  have hsorted := (m.state.scopes.stablySorts_visible frame first.value).ordered
  -- every start is a definition of the sheet
  have hdefined : ∀ start ∈ m.state.scopes.visible frame first.value,
      sheet.Defines start.site start.definition := by
    intro start hstart
    obtain ⟨ancestor, -, hmem⟩ := Scopes.exists_mem_closuresIn_of_mem_visible hstart
    exact harena.defined ancestor start hmem
  generalize m.state.scopes.visible frame first.value = starts at hlinks hsorted hdefined
  refine ⟨hsorted, ?_, ?_⟩
  · -- for each start the ends below it, in the order of the source
    obtain ⟨groups, hfound, hgroups⟩ := exists_groups hsub hlinks
    refine ⟨groups, hfound, ?_⟩
    refine ((List.forall₂_and_left _ _).2 ⟨hdefined, hgroups⟩).imp ?_
    rintro start group ⟨hstart, hgroup⟩
    refine ⟨fun closure hmem => ?_, ?_⟩
    · exact Link.suffix_of_mem_ends (hgroup.subset (List.mem_map_of_mem hmem))
    · exact List.pairwise_map.1 ((hsource.pairwise_ends rest hstart).sublist hgroup)
  · -- one element, or starts that are apart: then all ends are in order
    intro hstarts
    have hall : (starts.flatMap (·.link.ends rest)).Pairwise fun a b =>
        a.2.span.compareStart b.2.span ≠ .gt := by
      by_cases hrest : rest = []
      · simp only [hrest, Link.ends, ← List.map_eq_flatMap]
        exact List.pairwise_map.2 hsorted
      · exact hsource.pairwise_flatMap_ends hrest hdefined hsorted (hstarts.resolve_left hrest)
    rw [← hlinks, List.pairwise_map] at hall
    exact hall.sublist hsub

namespace Sketch

/-- A ruleset that starts at an offset. -/
def placed (offset : UInt64) (name : String) (body : List Node) : Node :=
  let start := { offset, row := 0, column := offset }
  .ruleset [selector name] body
    { file := { index := 0 }, range := { start, stop := start } }

/-- The call `.a .x`. -/
def memberCall : Call where
  path := [element ".a", element ".x"]
  args := []
  parenthesized := false
  span := default

/-- Two rulesets of one name, each with a ruleset of another name inside. -/
def union : Stylesheet where
  nodes := [placed 0 ".a" [placed 1 ".x" [], placed 2 ".x" []], placed 3 ".a" [placed 4 ".x" []]]

/-- A ruleset inside one of the same name, and after it a ruleset of the name that is called. -/
def nested : Stylesheet where
  nodes := [placed 0 ".a" [placed 1 ".a" [placed 2 ".x" []], placed 3 ".x" []]]

end Sketch

/-- In the example the members come from two namespaces, and run in the order of their starts. -/
theorem targets_in_order_of_starts_union :
    Sketch.union.InSourceOrder ∧
    ∃ found t, (targets (Sketch.settings 64) Sketch.memberCall [] Scopes.root).run
        (Sketch.settings 64) (Sketch.union.stateAt (Sketch.settings 64) () 1) = (.ok found, t) ∧
      found.map (·.site) = [[0, 0, 0], [1, 0, 0], [0, 1, 0]] ∧
      found.Pairwise fun a b => a.definition.span.compareStart b.definition.span ≠ .gt :=
  ⟨by decide, _, _, rfl, rfl,
    (targets_in_order_of_starts (Sketch.settings 64) Sketch.union () 1 Sketch.memberCall []
      Scopes.root (Sketch.element ".a") [Sketch.element ".x"] _ _ (by decide) rfl rfl).2.2
      (.inr (by decide))⟩

/-- Inside a ruleset that holds another one of the same name, what the outer one leads to is run
before what the inner one leads to, though it may come later in the source. -/
theorem targets_out_of_source_order :
    Sketch.nested.InSourceOrder ∧
    ∃ found t, (targets (Sketch.settings 64) Sketch.memberCall [] 1).run
        (Sketch.settings 64) (Sketch.nested.stateAt (Sketch.settings 64) () 4) = (.ok found, t) ∧
      found.map (·.site) = [[1, 0, 0], [0, 0, 0, 0]] ∧
      ¬ found.Pairwise fun a b => a.definition.span.compareStart b.definition.span ≠ .gt :=
  ⟨by decide, _, _, rfl, rfl, by decide⟩

end MixinSheet
