import MixinSheet.Proofs.Confinement
import MixinSheet.Proofs.Lists
import MixinSheet.Proofs.Origin

/-!
# Paths as chains of definitions

A path is resolved segment by segment: each segment enters all the rulesets found so far and
collects what they hold. The same definitions are found one by one, by following the path through
the tree. A chain starts with a definition that is visible, and each further link stands directly
inside the link before it; chains are enumerated in the order of their first links, then of their
second ones, and so on. Frames come into this only where a definition that is found gets its home:
it is the frame that was made for the link before it.

## Key definitions

- `Scopes.chains`: the chains of a path as seen from a frame
- `Scopes.Leads`: the definition that a chain comes to, by frames made on the way

## Key results

- `leads_of_runWith_descend`: the candidates of a call are what the chains lead to, one for each
- `entry_fails_of_runWith_descend`: nothing but entering a namespace can fail on the way
- `taking_eq_mapM`: candidates are asked one after the other, and those that accept are kept
- `candidates_are_chains`: how a call is resolved
-/

namespace MixinSheet

open Evaluation Resolution

variable {σ : Type}

/-! ## Chains in the tree -/

/-- A definition of the tree with its site. -/
abbrev Link := Site × Definition

/-- The definitions named `name` that stand directly inside a definition, in order; nothing is found
inside a mixin. -/
def Link.named (link : Link) (name : String) : List Link :=
  if link.2.isNamespace then (Node.definitions link.1 link.2.body).filter (·.2.isNamed name)
  else []

/-- The ways along a path from a definition inwards, in the order of their links. -/
def Link.trails : List Element → Link → List (List Link)
  | [], _ => [[]]
  | segment :: rest, link =>
    (link.named segment.value).flatMap fun inner => (trails rest inner).map (inner :: ·)

/-- The definition of a closure with its site. -/
def Closure.link (closure : Closure) : Link :=
  (closure.site, closure.definition)

/-- A definition that is registered somewhere, and definitions of which each stands directly inside
the one before it. -/
structure Chain where
  start : Closure
  links : List Link

/-- The chains along a path that start with a closure. -/
def Closure.chains (path : List Element) (start : Closure) : List Chain :=
  (start.link.trails path).map fun links => { start, links }

/-- The chains of a path as seen from a frame. -/
def Scopes.chains (scopes : Scopes) (frame : FrameId) : List Element → List Chain
  | [] => []
  | first :: rest => (scopes.visible frame first.value).flatMap (·.chains rest)

/-- The chain of an empty path is its start. -/
private theorem Closure.chains_nil (start : Closure) :
    start.chains [] = [{ start, links := [] }] := rfl

/-- The chains from several closures, by their first links. -/
private theorem flatMap_chains_cons (segment : Element) (rest : List Element)
    (starts : List Closure) :
    starts.flatMap (·.chains (segment :: rest)) =
      (starts.flatMap fun start => (start.link.named segment.value).map (start, ·)).flatMap
        fun (start, link) =>
          (link.trails rest).map fun links => { start, links := link :: links } := by
  rw [List.flatMap_assoc]
  refine List.flatMap_congr fun start _ => ?_
  simp only [Closure.chains, Link.trails, List.map_flatMap, List.map_map, List.flatMap_map]
  rfl

/-! ## Chains in the scopes -/

namespace Scopes

variable {scopes scopes' : Scopes} {first frame : FrameId} {space closure : Closure} {chain : Chain}

/-- A frame was made for a ruleset: it stands in the home of the ruleset and holds the definitions
of its block. -/
structure Opened (scopes : Scopes) (space : Closure) (frame : FrameId) : Prop where
  lt_next : frame < scopes.next
  parent : scopes.parent? frame = some space.home
  closures : scopes.closuresIn frame = closuresOf frame space.site space.definition.body

/-- The definition that a chain comes to. The home of each link but the first is a frame that was
made for the link before it, and the number of this frame is not below `first`. -/
inductive Leads (scopes : Scopes) (first : FrameId) : Chain → Closure → Prop
  | here (closure : Closure) : Leads scopes first { start := closure, links := [] } closure
  | inner {space closure : Closure} {frame : FrameId} {site : Site} {definition : Definition}
      {links : List Link} (hnew : first ≤ frame) (hopened : scopes.Opened space frame)
      (h : Leads scopes first { start := { site, definition, home := frame }, links } closure) :
      Leads scopes first { start := space, links := (site, definition) :: links } closure

/-- A member that was found in the frame made for a namespace. -/
def Holds (scopes : Scopes) (first : FrameId) (pair : Closure × Link) (member : Closure) : Prop :=
  ∃ frame, first ≤ frame ∧ scopes.Opened pair.1 frame ∧
    member = { site := pair.2.1, definition := pair.2.2, home := frame }

/-- A frame that exists keeps its parent. -/
theorem Confined.parent?_eq {extent : Extent} (h : scopes.Confined extent scopes')
    (hframe : frame < scopes.next) : scopes'.parent? frame = scopes.parent? frame := by
  obtain ⟨held, hheld⟩ := (exists_frame?_iff scopes frame).2 hframe
  obtain ⟨held', hheld', hallows⟩ := h.frames frame held hheld
  simp only [parent?, hheld, hheld', Option.bind_some, hallows.parent]

/-- A frame that was opened for a namespace stays so while its definitions are not touched. -/
theorem Opened.later {extent : Extent} (h : scopes.Opened space frame)
    (hconf : scopes.Confined extent scopes') (hframe : frame ∉ extent.closures) :
    scopes'.Opened space frame where
  lt_next := Nat.lt_of_lt_of_le h.lt_next hconf.next_le
  parent := (hconf.parent?_eq h.lt_next).trans h.parent
  closures := (hconf.closuresIn_eq h.lt_next hframe).trans h.closures

/-- A frame that was opened for a namespace stays so when it is left. -/
theorem Opened.pop (h : scopes.Opened space frame) : scopes.pop.Opened space frame where
  lt_next := by rw [next_pop]; exact h.lt_next
  parent := by rw [parent?, frame?_pop]; exact h.parent
  closures := by rw [closuresIn_pop]; exact h.closures

/-- A link that leads to a definition does so later as well. -/
theorem Holds.later {pair : Closure × Link} (h : scopes.Holds first pair closure)
    (hconf : scopes.Confined .nothing scopes') : scopes'.Holds first pair closure := by
  obtain ⟨frame, hnew, hopened, hclosure⟩ := h
  exact ⟨frame, hnew, hopened.later hconf (Set.notMem_empty frame), hclosure⟩

/-- A ruleset that was entered holds one member for each link with the name. -/
theorem Opened.members (hnew : first ≤ frame) (h : scopes.Opened space frame)
    (hspace : space.definition.isNamespace = true) (name : String) :
    List.Forall₂ (scopes.Holds first) ((space.link.named name).map (space, ·))
      ((scopes.closuresIn frame).filter (·.definition.isNamed name)) := by
  have hlinks : space.link.named name =
      (Node.definitions space.site space.definition.body).filter (·.2.isNamed name) :=
    if_pos hspace
  rw [hlinks, h.closures, closuresOf, List.filter_map, List.forall₂_map_left_iff,
    List.forall₂_map_right_iff]
  exact List.forall₂_same.2 fun link _ => ⟨frame, hnew, h, rfl⟩

/-- What the chains from some members come to, the chains with one more link in front come to as
well. -/
private theorem forall₂_leads {members : List Closure} {starts : List Closure} (segment : Element)
    (h : List.Forall₂ (scopes.Holds first)
      (starts.flatMap fun start => (start.link.named segment.value).map (start, ·)) members)
    (rest : List Element) :
    List.Forall₂ (fun longer shorter => ∀ closure, scopes.Leads first shorter closure →
        scopes.Leads first longer closure)
      (starts.flatMap (·.chains (segment :: rest))) (members.flatMap (·.chains rest)) := by
  rw [flatMap_chains_cons]
  refine List.rel_flatMap h ?_
  rintro ⟨space, site, definition⟩ member ⟨frame, hnew, hopened, rfl⟩
  simp only [Closure.chains, List.forall₂_map_left_iff, List.forall₂_map_right_iff]
  exact List.forall₂_same.2 fun links _ closure hleads => hleads.inner hnew hopened

end Scopes

/-! ## Entering a namespace -/

/-- The state in which the variables of a namespace are bound. -/
def State.opening (s : State σ) (space : Closure) : State σ :=
  (s.mapScopes (·.push space.home)).mapScopes
    (·.hoist s.scopes.next space.site space.definition.body)

/-- Before its variables are bound, the frame is new and holds the definitions of the block. -/
theorem State.opened_opening (s : State σ) (space : Closure) :
    (s.opening space).scopes.Opened space s.scopes.next := by
  have hscopes : (s.opening space).scopes =
      (s.scopes.push space.home).hoist s.scopes.next space.site space.definition.body := rfl
  have hpush : s.scopes.next < (s.scopes.push space.home).next := by simp
  rw [hscopes]
  refine ⟨?_, ?_, ?_⟩
  · rw [Scopes.hoist, Scopes.next_modify]
    exact hpush
  · simp [Scopes.hoist, Scopes.parent?, Frame.addClosures]
  · rw [Scopes.closuresIn_hoist_self hpush, Scopes.closuresIn_push,
      Scopes.closuresIn_of_next_le (Nat.le_refl _), List.nil_append]

section Runs

variable (settings : Settings σ) (runCall : CallRunner σ)

/-- An assignment binds a variable of the frame and does nothing else. -/
private theorem confined_runWith_assign (frame : FrameId) (assignment : Assignment) (s : State σ) :
    s.Confined (.bindingsOf frame)
      ((EvalM.assign settings frame assignment).runWith runCall s).2 := by
  simp only [EvalM.assign, EvalM.runWith_bind, EvalM.evaluate, EvalM.observe, EvalM.runWith,
    Step.apply]
  split
  · next value s' hvalue =>
    obtain ⟨-, rfl⟩ := Prod.mk.inj hvalue
    exact ⟨Scopes.confined_bind _ _ _ _, rfl⟩
  · next failure s' hvalue =>
    obtain ⟨-, rfl⟩ := Prod.mk.inj hvalue
    exact ⟨.refl _ _, rfl⟩

/-- Binding the variables of a block changes the bindings of its frame and nothing else. -/
private theorem confined_runWith_bindAll (frame : FrameId) (nodes : List Node) (s : State σ) :
    s.Confined (.bindingsOf frame) ((bindAll settings frame nodes).runWith runCall s).2 := by
  induction nodes generalizing s with
  | nil => exact .refl _ s
  | cons node rest ih =>
    -- only assignments are bound; the other nodes are passed over
    cases node with
    | assignment assignment =>
      have hassign := confined_runWith_assign settings runCall frame assignment s
      rw [bindAll, EvalM.runWith_bind]
      split
      · next _ s' hrun =>
        rw [hrun] at hassign
        exact hassign.trans (ih s')
      · next failure s' hrun =>
        -- a failing assignment ends the run, with nothing else changed
        rw [hrun] at hassign
        exact hassign
    | ruleset | mixin | call | declaration => exact ih s

/-- A namespace is entered if its variables can be bound. -/
theorem runWith_openNamespace (space : Closure) (s : State σ) :
    (openNamespace settings space).runWith runCall s =
      match (bindAll settings s.scopes.next space.definition.body).runWith runCall
        (s.opening space) with
      | (outcome, t) => (outcome.map fun _ => s.scopes.next, t.mapScopes Scopes.pop) := by
  rw [openNamespace, EvalM.inFrame, EvalM.runWith_perform_bind, EvalM.runWith_ensuring,
    EvalM.runWith_perform_bind, EvalM.runWith_bind]
  rcases hrun : (bindAll settings s.scopes.next space.definition.body).runWith runCall
    (s.opening space) with ⟨failure | _, t⟩ <;>
  · simp only [State.opening] at hrun
    simp only [Step.apply, Closure.block, hrun]
    rfl

variable {s t : State σ}

/-- Entering a namespace leaves no trace in the frames that were there. -/
private theorem confined_runWith_openNamespace (hactive : s.scopes.active ≠ []) (space : Closure) :
    s.Confined .nothing ((openNamespace settings space).runWith runCall s).2 := by
  have hbind := confined_runWith_bindAll settings runCall s.scopes.next space.definition.body
    (s.opening space)
  have hhoist := (Scopes.confined_hoist (s.scopes.push space.home) s.scopes.next space.site
    space.definition.body).mono (Extent.closuresOf_subset_only _)
  have hframe := hhoist.trans (hbind.scopes.mono (Extent.bindingsOf_subset_only _))
  rw [runWith_openNamespace]
  exact ⟨hframe.enter_leave hactive, hbind.callDepth⟩

variable {settings runCall}

/-- A namespace that was entered has a new frame. -/
theorem opened_of_runWith_openNamespace {space : Closure} {frame : FrameId}
    (h : (openNamespace settings space).runWith runCall s = (.ok frame, t)) :
    frame = s.scopes.next ∧ t.scopes.Opened space frame := by
  have hbind := (confined_runWith_bindAll settings runCall s.scopes.next space.definition.body
    (s.opening space)).scopes
  rw [runWith_openNamespace] at h
  generalize (bindAll settings s.scopes.next space.definition.body).runWith runCall
    (s.opening space) = result at h hbind
  obtain ⟨failure | _, t'⟩ := result
  · cases h
  · cases h
    exact ⟨rfl, ((s.opened_opening space).later hbind (Set.notMem_empty _)).pop⟩

/-! ## Following a path -/

/-- Only rulesets have definitions to be found inside. -/
private theorem flatMap_named_filter (name : String) (candidates : List Closure) :
    (candidates.filter (·.definition.isNamespace)).flatMap
        (fun space => (space.link.named name).map (space, ·)) =
      candidates.flatMap fun space => (space.link.named name).map (space, ·) := by
  induction candidates with
  | nil => rfl
  | cons candidate rest ih =>
    by_cases hspace : candidate.definition.isNamespace = true
    · rw [List.filter_cons, if_pos hspace, List.flatMap_cons, List.flatMap_cons, ih]
    · have hnone : candidate.link.named name = [] := if_neg hspace
      rw [List.filter_cons, if_neg hspace, List.flatMap_cons, ih, hnone]
      rfl

variable {first : FrameId}

/-- The definitions named `name` in namespaces that were entered are those that stand there in the
tree. -/
private theorem holds_of_runWith_membersNamed {name : String} {spaces members : List Closure}
    (hactive : s.scopes.active ≠ []) (hfirst : first ≤ s.scopes.next)
    (hspaces : ∀ space ∈ spaces, space.definition.isNamespace = true)
    (h : (membersNamed settings name spaces).runWith runCall s = (.ok members, t)) :
    s.Confined .nothing t ∧
      List.Forall₂ (t.scopes.Holds first)
        (spaces.flatMap fun space => (space.link.named name).map (space, ·)) members := by
  induction spaces generalizing s members with
  | nil =>
    cases h
    exact ⟨.refl _ _, .nil⟩
  | cons space rest ih =>
    obtain ⟨hspace, hrest⟩ := List.forall_mem_cons.1 hspaces
    rw [membersNamed] at h
    obtain ⟨frame, s₁, hopen, h⟩ := EvalM.exists_of_runWith_bind h
    rw [EvalM.runWith_perform_bind] at h
    obtain ⟨later, t', hlater, h⟩ := EvalM.exists_of_runWith_bind h
    cases h
    have hconf := confined_runWith_openNamespace settings runCall hactive space
    rw [hopen] at hconf
    obtain ⟨rfl, hopened⟩ := opened_of_runWith_openNamespace hopen
    have hactive₁ : s₁.scopes.active ≠ [] := by
      rw [hconf.scopes.active]
      exact hactive
    obtain ⟨hconf₁, hmembers⟩ :=
      ih hactive₁ (Nat.le_trans hfirst hconf.scopes.next_le) hrest hlater
    -- the frames that are made for the other namespaces leave this one as it is
    have hheld := (hopened.members hfirst hspace name).imp
      fun pair member hholds => hholds.later hconf₁.scopes
    exact ⟨hconf.trans hconf₁, List.rel_append hheld hmembers⟩

/-- If definitions cannot be collected, one of the namespaces cannot be entered. -/
private theorem entry_fails_of_runWith_membersNamed {name : String} {spaces : List Closure}
    {failure : Failure} (hactive : s.scopes.active ≠ [])
    (h : (membersNamed settings name spaces).runWith runCall s = (.error failure, t)) :
    ∃ space ∈ spaces, ∃ u v, s.Confined .nothing u ∧
      (openNamespace settings space).runWith runCall u = (.error failure, v) := by
  induction spaces generalizing s with
  | nil => cases h
  | cons space rest ih =>
    rw [membersNamed] at h
    -- either this namespace cannot be entered, or a later one cannot
    rcases EvalM.fails_of_runWith_bind h with hopen | ⟨frame, s₁, hopen, h⟩
    · exact ⟨space, List.mem_cons_self, s, t, .refl _ _, hopen⟩
    · rw [EvalM.runWith_perform_bind] at h
      -- entering the first one has changed nothing that was there, so the later state is confined
      -- too
      have hconf := confined_runWith_openNamespace settings runCall hactive space
      rw [hopen] at hconf
      have hactive₁ : s₁.scopes.active ≠ [] := by
        rw [hconf.scopes.active]
        exact hactive
      -- the failing part is the rest of the list, since returning a list cannot fail
      rcases EvalM.fails_of_runWith_bind h with hlater | ⟨later, t', hlater, h⟩
      · obtain ⟨other, hmem, u, v, hconf₁, hfails⟩ := ih hactive₁ hlater
        exact ⟨other, .tail _ hmem, u, v, hconf.trans hconf₁, hfails⟩
      · cases h

/-- The candidates of a path are what its chains lead to, one for each chain and in the same
order. -/
theorem leads_of_runWith_descend {path : List Element} {candidates found : List Closure}
    (hactive : s.scopes.active ≠ []) (hfirst : first ≤ s.scopes.next)
    (h : (descend settings path candidates).runWith runCall s = (.ok found, t)) :
    s.Confined .nothing t ∧
      List.Forall₂ (t.scopes.Leads first) (candidates.flatMap (·.chains path)) found := by
  induction path generalizing s candidates with
  | nil =>
    cases h
    refine ⟨.refl _ _, ?_⟩
    simp only [Closure.chains_nil, ← List.map_eq_flatMap, List.forall₂_map_left_iff]
    exact List.forall₂_same.2 fun closure _ => .here closure
  | cons segment rest ih =>
    rw [descend] at h
    obtain ⟨members, s₁, hmembers, h⟩ := EvalM.exists_of_runWith_bind h
    obtain ⟨hconf, hholds⟩ := holds_of_runWith_membersNamed hactive hfirst
      (fun space hmem => (List.mem_filter.1 hmem).2) hmembers
    rw [flatMap_named_filter] at hholds
    split at h
    · next hempty =>
      -- nothing is found here, so no chain goes on
      cases h
      rw [List.isEmpty_iff.1 hempty] at hholds
      have hnone := List.forall₂_nil_right_iff.1 hholds
      rw [flatMap_chains_cons, hnone]
      exact ⟨hconf, .nil⟩
    · have hactive₁ : s₁.scopes.active ≠ [] := by
        rw [hconf.scopes.active]
        exact hactive
      obtain ⟨hconf₁, hleads⟩ := ih hactive₁ (Nat.le_trans hfirst hconf.scopes.next_le) h
      have hlater := hholds.imp fun pair member hheld => hheld.later hconf₁.scopes
      have hlonger := Scopes.forall₂_leads segment hlater rest
      exact ⟨hconf.trans hconf₁,
        .comp (fun _ _ closure hstep => hstep closure) hlonger hleads⟩

/-- If a path cannot be followed, some part of it leads to a namespace that cannot be entered. -/
theorem entry_fails_of_runWith_descend {path : List Element} {candidates : List Closure}
    {failure : Failure} (hactive : s.scopes.active ≠ []) (hfirst : first ≤ s.scopes.next)
    (h : (descend settings path candidates).runWith runCall s = (.error failure, t)) :
    ∃ k < path.length, ∃ chain ∈ candidates.flatMap (·.chains (path.take k)), ∃ space u v,
      s.Confined .nothing u ∧ u.scopes.Leads first chain space ∧
      space.definition.isNamespace = true ∧
      (openNamespace settings space).runWith runCall u = (.error failure, v) := by
  induction path generalizing s candidates with
  | nil => cases h
  | cons segment rest ih =>
    rw [descend] at h
    rcases EvalM.fails_of_runWith_bind h with hmembers | ⟨members, s₁, hmembers, h⟩
    · obtain ⟨space, hmem, u, v, hconf, hfails⟩ :=
        entry_fails_of_runWith_membersNamed hactive hmembers
      obtain ⟨hcandidate, hspace⟩ := List.mem_filter.1 hmem
      refine ⟨0, Nat.succ_pos _, { start := space, links := [] }, ?_, space, u, v, hconf,
        .here space, hspace, hfails⟩
      exact List.mem_flatMap.2 ⟨space, hcandidate, List.mem_cons_self⟩
    · obtain ⟨hconf, hholds⟩ := holds_of_runWith_membersNamed hactive hfirst
        (fun space hmem => (List.mem_filter.1 hmem).2) hmembers
      rw [flatMap_named_filter] at hholds
      split at h
      · cases h
      · have hactive₁ : s₁.scopes.active ≠ [] := by
          rw [hconf.scopes.active]
          exact hactive
        obtain ⟨k, hk, shorter, hmem, space, u, v, hconf₁, hleads, hspace, hfails⟩ :=
          ih hactive₁ (Nat.le_trans hfirst hconf.scopes.next_le) h
        -- the chain that leads there starts one link earlier
        have hlater := hholds.imp fun pair member hheld => hheld.later hconf₁.scopes
        have hlonger := Scopes.forall₂_leads segment hlater (rest.take k)
        obtain ⟨chain, hchain, hstep⟩ := hlonger.exists_of_mem_right hmem
        exact ⟨k + 1, Nat.succ_lt_succ hk, chain, hchain, space, u, v, hconf.trans hconf₁,
          hstep space hleads, hspace, hfails⟩

end Runs

/-! ## Choosing among the candidates -/

/-- Those of the candidates with a favourable verdict. -/
def accepted (candidates : List Closure) (verdicts : List Bool) : List Closure :=
  ((candidates.zip verdicts).filter (·.2)).map (·.1)

/-- Candidates are asked one after the other, and those that accept are kept. -/
theorem taking_eq_mapM (settings : Settings σ) (args : List Value) (candidates : List Closure) :
    taking settings args candidates = do
      let verdicts ← candidates.mapM (takes settings · args)
      return accepted candidates verdicts := by
  induction candidates with
  | nil => rfl
  | cons candidate rest ih =>
    rw [taking, List.mapM_cons, ih]
    simp only [bind_assoc, pure_bind]
    congr 1
    funext verdict
    cases verdict <;> simp [accepted]

/-- The failure of a call whose path leads nowhere. -/
def Call.undefined (call : Call) : Failure where
  fault := .undefinedMixin call.pathText
  text := call.text
  span := call.span

/-- The failure of a call whose arguments no candidate takes. -/
def Call.unmatched (call : Call) : Failure where
  fault := .noMatchingMixin call.text
  text := call.text
  span := call.span

/-- The outcome of resolving a call, from its candidates and their verdicts. -/
theorem outcome_targets (settings : Settings σ) (runCall : CallRunner σ) (call : Call)
    (args : List Value) (frame : FrameId) (s : State σ) :
    ((targets settings call args frame).runWith runCall s).1 =
      match (lookup settings frame call.path).runWith runCall s with
      | (.error failure, _) => .error failure
      | (.ok candidates, t) =>
        if candidates.isEmpty then .error call.undefined
        else match ((candidates.mapM (takes settings · args)).runWith runCall t).1 with
          | .error failure => .error failure
          | .ok verdicts =>
            if (accepted candidates verdicts).isEmpty then .error call.unmatched
            else .ok (accepted candidates verdicts) := by
  rw [targets, EvalM.runWith_bind]
  -- the outcome follows the run: the lookup, the empty case, the verdicts, the accepted ones
  rcases (lookup settings frame call.path).runWith runCall s with ⟨failure | candidates, t⟩
  · rfl
  · simp only
    split
    · rfl
    · rw [taking_eq_mapM, bind_assoc, EvalM.runWith_bind]
      rcases (candidates.mapM (takes settings · args)).runWith runCall t with
        ⟨failure | verdicts, u⟩
      · rfl
      · -- the report of the call has no part in its outcome
        simp only [pure_bind, EvalM.runWith_perform_bind]
        split <;> rfl

/-- An unknown name is told apart from arguments that do not fit. -/
private theorem Call.undefined_ne_unmatched (call : Call) : call.undefined ≠ call.unmatched := by
  simp [Call.undefined, Call.unmatched]

/-- Which of its outcomes a call has, if all candidates have been asked. -/
private theorem outcome_iff (call : Call) {candidates : List Closure} {verdicts : List Bool}
    {outcome : Except Failure (List Closure)}
    (h : outcome =
      if candidates.isEmpty then .error call.undefined
      else if (accepted candidates verdicts).isEmpty then .error call.unmatched
      else .ok (accepted candidates verdicts)) :
    (outcome = .error call.undefined ↔ candidates = []) ∧
    (outcome = .error call.unmatched ↔ candidates ≠ [] ∧ accepted candidates verdicts = []) ∧
    ∀ found, outcome = .ok found ↔ found = accepted candidates verdicts ∧ found ≠ [] := by
  have hne := call.undefined_ne_unmatched
  by_cases hnone : candidates = []
  · simp [h, hnone, hne, accepted]
  · by_cases haccepted : accepted candidates verdicts = []
    · simp [h, hnone, haccepted, hne.symm]
    · simp only [h, List.isEmpty_iff, hnone, haccepted, if_false, reduceCtorEq, Except.ok.injEq,
        ne_eq, not_false_eq_true, and_false, true_and]
      grind

/-- Only the names of a path matter. -/
private theorem descend_congr (settings : Settings σ) {path path' : List Element}
    (h : path.map (·.value) = path'.map (·.value)) :
    descend settings path = descend settings path' := by
  induction path generalizing path' with
  | nil =>
    rw [List.map_nil, eq_comm, List.map_eq_nil_iff] at h
    rw [h]
  | cons segment rest ih =>
    obtain ⟨segment', rest', rfl, hsegment, hrest⟩ := List.map_eq_cons_iff.1 h.symm
    funext candidates
    rw [descend, descend, hsegment, ih hrest.symm]

/-- Of the segments of a path only their names matter. -/
private theorem lookup_congr (settings : Settings σ) (frame : FrameId) {path path' : List Element}
    (h : path.map (·.value) = path'.map (·.value)) :
    lookup settings frame path = lookup settings frame path' := by
  cases path with
  | nil =>
    rw [List.map_nil, eq_comm, List.map_eq_nil_iff] at h
    rw [h]
  | cons segment rest =>
    obtain ⟨segment', rest', rfl, hsegment, hrest⟩ := List.map_eq_cons_iff.1 h.symm
    rw [lookup, lookup, hsegment, descend_congr settings hrest.symm]

/-! ## Resolution as a whole -/

/-- Where as many calls are open, programs are run in the same way. -/
private theorem EvalM.run_eq_of_callDepth_eq {α : Type} (settings : Settings σ) {s t : State σ}
    (h : t.callDepth = s.callDepth) (act : EvalM σ α) :
    act.run settings t = act.runWith (callRunner settings (budget settings s)) t := by
  rw [EvalM.run, budget, h, budget]

/-- A chain leads to a ruleset that cannot be entered, from a state in which no frame that was there
before has changed. -/
def EntryFails (settings : Settings σ) (s : State σ) (chain : Chain) (failure : Failure) : Prop :=
  ∃ space u v, s.Confined .nothing u ∧ u.scopes.Leads s.scopes.next chain space ∧
    space.definition.isNamespace = true ∧
    (openNamespace settings space).run settings u = (.error failure, v)

/-- The candidates that a path has in a state, or the reason why there are none to be told. -/
theorem leads_of_run_lookup (settings : Settings σ) {s : State σ} (hactive : s.scopes.active ≠ [])
    (frame : FrameId) (path : List Element) :
    match (lookup settings frame path).run settings s with
    | (.ok candidates, t) => s.Confined .nothing t ∧
        List.Forall₂ (t.scopes.Leads s.scopes.next) (s.scopes.chains frame path) candidates
    | (.error failure, _) => ∃ k < path.length,
        ∃ chain ∈ s.scopes.chains frame (path.take k), EntryFails settings s chain failure := by
  cases path with
  | nil => exact ⟨.refl _ _, .nil⟩
  | cons segment rest =>
    simp only [EvalM.run, lookup, EvalM.runWith_perform_bind, Step.apply]
    split
    · next candidates t h =>
      exact leads_of_runWith_descend hactive (Nat.le_refl _) h
    · next failure t h =>
      -- `descend` counts the segments after the first one
      obtain ⟨k, hk, chain, hchain, space, u, v, hconf, hleads, hspace, hfails⟩ :=
        entry_fails_of_runWith_descend hactive (Nat.le_refl _) h
      refine ⟨k + 1, Nat.succ_lt_succ hk, chain, hchain, space, u, v, hconf, hleads, hspace, ?_⟩
      rw [EvalM.run_eq_of_callDepth_eq settings hconf.callDepth]
      exact hfails

/-- How a call is resolved, from every state that a run comes to. The chains of its path start with
what is visible from the frame under the first name, stably sorted by the places in the source. If
following the path fails, then entering some namespace on the way does. Otherwise each chain leads
to one candidate, in the order of the chains. If asking a candidate fails, so does the call.
Otherwise the call is undefined exactly if there is no chain, unmatched exactly if there are chains
and none accepts, and in all other cases those candidates are found that accept, in order. The
combinators of the path do not matter. -/
theorem candidates_are_chains (settings : Settings σ) (sheet : Stylesheet) (natives : σ) (n : Nat)
    (call : Call) (args : List Value) (frame : FrameId) :
    let s := sheet.stateAt settings natives n
    let chains := s.scopes.chains frame call.path
    let outcome := ((targets settings call args frame).run settings s).1
    (∀ name, Order.StablySorts (fun a b => a.definition.span.compareStart b.definition.span)
      (((s.scopes.ancestors frame).flatMap s.scopes.closuresIn).filter (·.definition.isNamed name))
      (s.scopes.visible frame name)) ∧
    (match (lookup settings frame call.path).run settings s with
      | (.error failure, _) => outcome = .error failure ∧ ∃ k < call.path.length,
          ∃ chain ∈ s.scopes.chains frame (call.path.take k), EntryFails settings s chain failure
      | (.ok candidates, t) =>
        List.Forall₂ (t.scopes.Leads s.scopes.next) chains candidates ∧
        match ((candidates.mapM (takes settings · args)).run settings t).1 with
        | .error failure => outcome = .error failure
        | .ok verdicts =>
          (outcome = .error call.undefined ↔ chains = []) ∧
          (outcome = .error call.unmatched ↔ chains ≠ [] ∧ accepted candidates verdicts = []) ∧
          ∀ found, outcome = .ok found ↔ found = accepted candidates verdicts ∧ found ≠ []) ∧
    ∀ other : Call, other.path.map (·.value) = call.path.map (·.value) →
      lookup settings frame other.path = lookup settings frame call.path ∧
      ∀ found, ((targets settings other args frame).run settings s).1 = .ok found ↔
        outcome = .ok found := by
  have hactive := (balanced_momentAt settings sheet natives n).2
  simp only [Stylesheet.stateAt]
  generalize (sheet.momentAt settings natives n).state = s at hactive
  refine ⟨s.scopes.stablySorts_visible frame, ?_, fun other hother => ?_⟩
  · -- the outcome of the call follows that of the lookup
    have hlookup := leads_of_run_lookup settings hactive frame call.path
    have houtcome : ((targets settings call args frame).run settings s).1 = _ :=
      outcome_targets settings _ call args frame s
    rcases hrun : (lookup settings frame call.path).run settings s with ⟨failure | candidates, t⟩
    · rw [hrun] at hlookup
      rw [EvalM.run] at hrun
      rw [hrun] at houtcome
      exact ⟨houtcome, hlookup⟩
    · rw [hrun] at hlookup
      obtain ⟨hconf, hleads⟩ := hlookup
      refine ⟨hleads, ?_⟩
      rw [EvalM.run] at hrun
      rw [hrun] at houtcome
      rw [EvalM.run_eq_of_callDepth_eq settings hconf.callDepth]
      -- chains and candidates stand side by side, so they are missing together
      have hnone : candidates = [] ↔ s.scopes.chains frame call.path = [] := by
        rw [← List.length_eq_zero_iff, ← hleads.length_eq, List.length_eq_zero_iff]
      split
      · next failure hasked =>
        -- a candidate was asked, so there is one
        have hsome : candidates ≠ [] := by
          rintro rfl
          cases hasked
        simpa [hsome, hasked] using houtcome
      · next verdicts hasked =>
        simp only [hasked] at houtcome
        simpa only [ne_eq, hnone] using outcome_iff call houtcome
  · -- only the names of the path enter the lookup
    have hsame := lookup_congr settings frame hother
    refine ⟨hsame, fun found => ?_⟩
    rw [EvalM.run, EvalM.run, outcome_targets, outcome_targets, hsame]
    split
    · rfl
    · split
      · simp
      · split
        · rfl
        · split <;> simp

end MixinSheet
