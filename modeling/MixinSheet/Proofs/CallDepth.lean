import MixinSheet.Proofs.Arena

/-!
# Bounds on calls and frames

Every call leads to a block somewhere in the tree, so neither the rest of the tree nor the nesting
of blocks gets smaller along a run; what does is the number of calls that may still be nested. At
each level of calls at most as many rulesets are open as the tree has around one another, so the
number of active frames is bounded as well.

## Key results

- `Discipline.bounded`: the discipline that keeps the number of active frames in bounds
- `run_ends_within_bounds`: every run ends, and no state of it is out of bounds
-/

namespace MixinSheet

open Evaluation

variable {σ : Type}

mutual

/-- The largest number of rulesets around one another on a path down from the node, itself
included; the path may lead through mixins. -/
def Node.rulesetHeight : Node → Nat
  | .ruleset _ body _ => rulesetHeights body + 1
  | .mixin _ _ body _ => rulesetHeights body
  | _ => 0

/-- The largest height of some nodes. -/
def Node.rulesetHeights : List Node → Nat
  | [] => 0
  | node :: rest => max node.rulesetHeight (rulesetHeights rest)

end

/-- The largest number of rulesets around one another in a stylesheet. -/
def Stylesheet.rulesetHeight (sheet : Stylesheet) : Nat :=
  Node.rulesetHeights sheet.nodes

/-- The largest number of frames that can be active when a ruleset is entered `depth` calls deep,
where at most `height` rulesets are around one another. -/
def frameBound (height depth : Nat) : Nat :=
  depth + (depth + 1) * height

/-- Deeper nesting allows for more frames. -/
private theorem frameBound_mono {height depth depth' : Nat} (h : depth ≤ depth') :
    frameBound height depth ≤ frameBound height depth' :=
  Nat.add_le_add h (Nat.mul_le_mul_right height (Nat.succ_le_succ h))

/-- One more call in progress allows for its own frame and those of the rulesets in it. -/
private theorem frameBound_succ (height depth : Nat) :
    frameBound height (depth + 1) = frameBound height depth + height + 1 := by
  simp only [frameBound]
  lia

/-- The body of a definition is no higher than the block it stands in. -/
private theorem Node.rulesetHeights_le_of_mem_definitionsFrom {site site' : Site} {index : Nat}
    {body : List Node} {definition : Definition}
    (h : (site', definition) ∈ Node.definitionsFrom site index body) :
    Node.rulesetHeights definition.body ≤ Node.rulesetHeights body := by
  induction body generalizing index with
  | nil => exact absurd h List.not_mem_nil
  | cons node rest ih =>
    rw [rulesetHeights]
    rw [definitionsFrom] at h
    cases hdef : node.definition? with
    | none =>
      rw [hdef] at h
      exact Nat.le_trans (ih h) (Nat.le_max_right _ _)
    | some found =>
      rw [hdef] at h
      -- a definition of the first node stands below it, and a later one is no higher by induction
      rcases List.mem_cons.1 h with heq | hrest
      · obtain ⟨-, rfl⟩ := Prod.mk.inj heq
        refine Nat.le_trans ?_ (Nat.le_max_left _ _)
        -- a ruleset counts itself as one more level, a mixin does not
        cases node <;> simp only [definition?, Option.some.injEq, reduceCtorEq] at hdef
        · subst hdef
          exact Nat.le_succ _
        · subst hdef
          exact Nat.le_refl _
      · exact Nat.le_trans (ih hrest) (Nat.le_max_right _ _)

/-- The depth that an event tells is in bounds. -/
def Event.WithinBounds (limit frames : Nat) : Event → Prop
  | .evaluatingRuleset _ depth => depth ≤ frames
  | .expandingMixin _ _ depth => 1 ≤ depth ∧ depth ≤ limit
  | _ => True

/-- Events that say nothing about depth are within all bounds. -/
private theorem Event.withinBounds_of_isQuiet {limit frames : Nat} {event : Event}
    (h : event.isQuiet = true) : event.WithinBounds limit frames := by
  cases event <;> first | exact trivial | exact absurd h Bool.false_ne_true

/-- Depths are in bounds at a moment, and definitions are no higher than `height`. -/
structure Moment.Bounded (settings : Settings σ) (height : Nat) (m : Moment σ) : Prop where
  callDepth : m.state.callDepth ≤ settings.limit
  active : m.state.scopes.active ≠ []
  events : ∀ event ∈ m.state.host.events,
    event.WithinBounds settings.limit (frameBound height settings.limit)
  closures : ∀ id, ∀ closure ∈ m.state.scopes.closuresIn id,
    Node.rulesetHeights closure.definition.body ≤ height

namespace Node

/-- The located nodes are the nodes. -/
@[simp] theorem map_snd_located (site : Site) (index : Nat) (nodes : List Node) :
    (located site index nodes).map Prod.snd = nodes := by
  induction nodes generalizing index with
  | nil => rfl
  | cons node rest ih => rw [located, List.map_cons, ih]

/-- A node is at most as high as the list that it starts. -/
private theorem rulesetHeight_le_heights_cons (node : Node) (rest : List Node) :
    node.rulesetHeight ≤ rulesetHeights (node :: rest) := by
  rw [rulesetHeights]
  exact Nat.le_max_left _ _

/-- The rest of a list is at most as high as the list. -/
private theorem rulesetHeights_le_heights_cons (node : Node) (rest : List Node) :
    rulesetHeights rest ≤ rulesetHeights (node :: rest) := by
  rw [rulesetHeights]
  exact Nat.le_max_right _ _

end Node

namespace Moment

variable {settings : Settings σ} {height : Nat} {m m' : Moment σ}

/-- Statements may be run: the rulesets around one another in them fit into what is left at the
present depth of calls. -/
structure HasRoom (height : Nat) (m : Moment σ) (nodes : List Node) : Prop where
  frames : m.state.scopes.depth + Node.rulesetHeights nodes ≤
    frameBound height m.state.callDepth + 1
  heights : Node.rulesetHeights nodes ≤ height

/-- Less needs no more room. -/
private theorem HasRoom.of_le {nodes nodes' : List Node} (h : m.HasRoom height nodes)
    (hle : Node.rulesetHeights nodes' ≤ Node.rulesetHeights nodes) : m.HasRoom height nodes' :=
  ⟨Nat.le_trans (Nat.add_le_add_left hle _) h.frames, Nat.le_trans hle h.heights⟩

/-- What is left below a ruleset. -/
theorem HasRoom.ruleset {selectors : List Selector} {body rest : List Node} {span : Span}
    (h : m.HasRoom height (.ruleset selectors body span :: rest)) :
    m.state.scopes.depth + Node.rulesetHeights body ≤ frameBound height m.state.callDepth ∧
      Node.rulesetHeights body < height := by
  have hle := Node.rulesetHeight_le_heights_cons (.ruleset selectors body span) rest
  rw [Node.rulesetHeight] at hle
  have hframes := h.frames
  have hheights := h.heights
  omega

/-- Room is kept by whatever makes no frames that stay open. -/
theorem HasRoom.later {nodes : List Node} {extent : Extent} (h : m.HasRoom height nodes)
    (hconf : m.Confined extent m') : m'.HasRoom height nodes := by
  refine ⟨?_, h.heights⟩
  rw [Scopes.depth, hconf.scopes.active, hconf.callDepth]
  exact h.frames

/-- At least one call is open, and the frames that are active were so before it was counted. -/
structure Expanding (height : Nat) (m : Moment σ) : Prop where
  counted : 1 ≤ m.state.callDepth
  frames : m.state.scopes.depth ≤ frameBound height (m.state.callDepth - 1) + 1

/-- The state inside an expansion is kept by whatever makes no frames that stay open. -/
theorem Expanding.later {extent : Extent} (h : m.Expanding height)
    (hconf : m.Confined extent m') : m'.Expanding height := by
  refine ⟨hconf.callDepth ▸ h.counted, ?_⟩
  rw [Scopes.depth, hconf.scopes.active, hconf.callDepth]
  exact h.frames

/-- A ruleset takes one frame and is one higher than its body. -/
theorem HasRoom.enter_ruleset {selectors : List Selector} {body rest : List Node} {span : Span}
    {id : FrameId} {site : Site} (h : m.HasRoom height (.ruleset selectors body span :: rest)) :
    ((m.after (.enter id { site, body })).after
      (.hoist m.state.scopes.next { site, body })).HasRoom height
        ((Node.located site 0 body).map Prod.snd) := by
  rw [Node.map_snd_located]
  obtain ⟨hframes, hheight⟩ := h.ruleset
  refine ⟨?_, Nat.le_of_lt hheight⟩
  change m.state.scopes.depth + 1 + _ ≤ _
  change _ ≤ frameBound height m.state.callDepth at hframes
  change _ ≤ frameBound height m.state.callDepth + 1
  omega

/-- The body of a definition has all the room that one more call gives. -/
theorem Expanding.enter_closure {closure : Closure} (h : m.Expanding height)
    (hheight : Node.rulesetHeights closure.definition.body ≤ height)
    (hbinds : (m.after (.enter closure.home closure.block)).Binds m.state.scopes.next m') :
    (m'.after (.hoist m.state.scopes.next closure.block)).HasRoom height
      ((Node.located closure.site 0 closure.definition.body).map Prod.snd) := by
  rw [Node.map_snd_located]
  refine ⟨?_, hheight⟩
  have hdepth : (m'.after (.hoist m.state.scopes.next closure.block)).state.scopes.depth =
      m.state.scopes.depth + 1 := congrArg List.length hbinds.state.scopes.active
  have hcalls : (m'.after (.hoist m.state.scopes.next closure.block)).state.callDepth =
      m.state.callDepth - 1 + 1 := by
    rw [Nat.sub_add_cancel h.counted]
    exact hbinds.state.callDepth
  have hframes := h.frames
  -- one more call makes room for the frame of the definition and `height` rulesets in it
  rw [hdepth, hcalls, frameBound_succ]
  omega

/-- Counting a call makes room for its expansion. -/
theorem HasRoom.count {nodes : List Node} (h : m.HasRoom height nodes) :
    (m.after .count).Expanding height :=
  ⟨Nat.succ_pos _, Nat.le_trans (Nat.le_add_right _ _) h.frames⟩

namespace Bounded

/-- New events that are in bounds keep the bounds. -/
theorem rehost {host : Host σ} {new : List Event} (h : m.Bounded settings height)
    (hevents : host.events = new ++ m.state.host.events)
    (hnew : ∀ event ∈ new,
      event.WithinBounds settings.limit (frameBound height settings.limit)) :
    Moment.Bounded settings height { m with state := { m.state with host } } := by
  refine ⟨h.callDepth, h.active, fun event hevent => ?_, h.closures⟩
  rw [hevents] at hevent
  rcases List.mem_append.1 hevent with hmem | hmem
  · exact hnew event hmem
  · exact h.events event hmem

/-- Emitting an event that is within bounds keeps the bounds. -/
theorem emit {event : State σ → Event} (h : m.Bounded settings height)
    (hevent : (event m.state).WithinBounds settings.limit (frameBound height settings.limit)) :
    (m.after (.emit event)).Bounded settings height := by
  refine h.rehost (List.singleton_append).symm fun _ hmem => ?_
  rw [List.mem_singleton.1 hmem]
  exact hevent

/-- Entering a frame keeps the bounds of the events. -/
theorem enter (h : m.Bounded settings height) (parent : FrameId) (block : Block) :
    (m.after (.enter parent block)).Bounded settings height := by
  refine ⟨h.callDepth, List.cons_ne_nil _ _, h.events, fun id closure hclosure => ?_⟩
  refine h.closures id closure ?_
  rwa [← Scopes.closuresIn_push]

/-- Leaving a frame keeps the bounds of the events. -/
theorem leave (h : m.Bounded settings height) : (m.after .leave).Bounded settings height := by
  refine ⟨h.callDepth, Scopes.active_pop_ne_nil h.active, h.events, fun id closure hclosure => ?_⟩
  refine h.closures id closure ?_
  rwa [← Scopes.closuresIn_pop]

/-- Binding a variable keeps the bounds of the events. -/
theorem bind (h : m.Bounded settings height) (id : FrameId) (name : String) (value : Value) :
    (m.after (.bind id name value)).Bounded settings height := by
  refine ⟨h.callDepth, h.active, h.events, fun other closure hclosure => ?_⟩
  refine h.closures other closure ?_
  rwa [← Scopes.closuresIn_bind]

/-- Hoisting a block that is not too high keeps the bounds. -/
theorem hoist {id : FrameId} {block : Block} (h : m.Bounded settings height)
    (hblock : Node.rulesetHeights block.body ≤ height) :
    (m.after (.hoist id block)).Bounded settings height := by
  refine ⟨h.callDepth, h.active, h.events, fun other closure hclosure => ?_⟩
  -- a definition of the block is no higher than the block
  rcases Scopes.mem_closuresIn_hoist hclosure with hold | hnew
  · exact h.closures other closure hold
  · obtain ⟨⟨site, definition⟩, hmem, rfl⟩ := List.mem_map.1 hnew
    exact Nat.le_trans (Node.rulesetHeights_le_of_mem_definitionsFrom hmem) hblock

/-- Exporting keeps the bounds of what is registered. -/
theorem publish (h : m.Bounded settings height) (source target : FrameId) :
    (m.after (.publish source target)).Bounded settings height := by
  refine ⟨h.callDepth, h.active, h.events, fun other closure hclosure => ?_⟩
  rcases Scopes.mem_closuresIn_publish hclosure with hmem | hmem
  · exact h.closures source closure hmem
  · exact h.closures other closure hmem

end Bounded

end Moment

/-- The discipline that keeps the number of active frames in bounds, where definitions and the
statements of a block are no higher than `height`. -/
def Discipline.bounded (settings : Settings σ) (height : Nat) : Discipline settings where
  holds m := m.Bounded settings height
  ready m _ nodes := m.HasRoom height (nodes.map Prod.snd)
  expanding m _ := m.Expanding height
  fresh _ _ block := Node.rulesetHeights block.body ≤ height
  callable _ closure := Node.rulesetHeights closure.definition.body ≤ height
  depth_le hm := hm.callDepth
  active_ne hm := hm.active
  callable_mem hm hclosure := hm.closures _ _ hclosure
  ready_tail hready := hready.of_le (Node.rulesetHeights_le_heights_cons _ _)
  ready_later hready hconf := hready.later hconf
  expanding_later hexpanding hconf := hexpanding.later hconf
  fresh_later hfresh _ := hfresh
  callable_later hcallable _ := hcallable
  rehost hm hquiet := by
    obtain ⟨new, hevents, hnew⟩ := hquiet
    exact hm.rehost hevents fun event hevent => Event.withinBounds_of_isQuiet (hnew event hevent)
  ruleset_event hm hready := by
    -- the event counts the frames around the ruleset, its own not included
    have hdepth := Nat.le_trans (Nat.le_add_right _ _) hready.ruleset.1
    exact hm.emit (Nat.le_trans hdepth (frameBound_mono hm.callDepth))
  expansion_event hm hexpanding _ := hm.emit ⟨hexpanding.counted, hm.callDepth⟩
  enter_ruleset hm hready := ⟨hm.enter _ _, Nat.le_of_lt hready.ruleset.2⟩
  enter_closure hm hcallable := ⟨hm.enter _ _, hcallable⟩
  bind id name value hm := hm.bind id name value
  hoist hm hfresh := hm.hoist hfresh
  ready_ruleset hready := hready.enter_ruleset
  ready_closure hexpanding hcallable hbinds := hexpanding.enter_closure hcallable hbinds
  leave hm := hm.leave
  publish _ _ hm := hm.publish _ _
  count hm hready hlimit :=
    ⟨⟨hlimit, hm.active, hm.events, hm.closures⟩, hready.count⟩
  uncount hm := ⟨Nat.le_trans (Nat.sub_le _ _) hm.callDepth, hm.active, hm.events, hm.closures⟩

variable (settings : Settings σ) (sheet : Stylesheet) (natives : σ)

/-- The bounds hold before the first step, and there is room for the whole stylesheet. -/
private theorem Stylesheet.bounded_start :
    (sheet.start settings natives).moment.Bounded settings sheet.rulesetHeight ∧
      ((sheet.start settings natives).moment.after
        (.hoist Scopes.root sheet.block)).HasRoom sheet.rulesetHeight
          ((Node.located Stylesheet.site 0 sheet.nodes).map Prod.snd) := by
  refine ⟨⟨Nat.zero_le _, List.cons_ne_nil _ _, ?_, ?_⟩, ?_⟩
  · intro event hevent
    exact absurd hevent List.not_mem_nil
  · intro id closure hclosure
    cases id with
    | zero => exact absurd hclosure List.not_mem_nil
    | succ id => exact absurd hclosure List.not_mem_nil
  · rw [Node.map_snd_located]
    refine ⟨?_, Nat.le_refl _⟩
    -- only the root frame is active, and no call is open
    change 1 + sheet.rulesetHeight ≤ frameBound sheet.rulesetHeight 0 + 1
    simp only [frameBound]
    omega

/-- The bounds hold after any number of steps. -/
private theorem bounded_momentAt (n : Nat) :
    (sheet.momentAt settings natives n).Bounded settings sheet.rulesetHeight := by
  obtain ⟨hbounded, hroom⟩ := sheet.bounded_start settings natives
  exact (Discipline.bounded settings sheet.rulesetHeight).holds_momentAt sheet natives hbounded
    (Nat.le_refl _) hroom n

/-- The machine comes to the end of the run of every stylesheet, with what `Stylesheet.run`
gives. -/
private theorem Stylesheet.exists_configAt_eq_done :
    ∃ n, (sheet.configAt settings natives n).program = .done (sheet.rules settings natives) ∧
      sheet.stateAt settings natives n = (sheet.run settings natives).2 := by
  obtain ⟨hbounded, hroom⟩ := sheet.bounded_start settings natives
  have hkeeps := Discipline.runSheet (D := .bounded settings sheet.rulesetHeight) sheet hbounded
    (Nat.le_refl _) hroom
  obtain ⟨past, ⟨n, hn⟩, -⟩ := Discipline.ends_run (Nat.le_refl _) hkeeps
  exact ⟨n, congrArg Config.program hn, congrArg (·.moment.state) hn⟩

/-- The run of every stylesheet ends, be it with rules or with a failure, and at every moment of it:
calls are nested no deeper than the limit, an expansion starts with its call counted and within the
limit, a ruleset is entered with no more active frames than the limit and the nesting of rulesets
allow, and parents are older, so that looking up a name ends as well. -/
theorem run_ends_within_bounds :
    (∃ n, (sheet.configAt settings natives n).program = .done (sheet.rules settings natives) ∧
      sheet.stateAt settings natives n = (sheet.run settings natives).2) ∧
    ∀ n,
      let state := sheet.stateAt settings natives n
      state.callDepth ≤ settings.limit ∧
      (∀ text span depth, .expandingMixin text span depth ∈ state.host.events →
        1 ≤ depth ∧ depth ≤ settings.limit) ∧
      (∀ text depth, .evaluatingRuleset text depth ∈ state.host.events →
        depth ≤ settings.limit + (settings.limit + 1) * sheet.rulesetHeight) ∧
      (∀ id parent, state.scopes.parent? id = some parent → parent < id) := by
  refine ⟨sheet.exists_configAt_eq_done settings natives, fun n => ?_⟩
  have hbounded := bounded_momentAt settings sheet natives n
  have harena := arena_momentAt settings sheet natives n
  exact ⟨hbounded.callDepth, fun _ _ _ hevent => hbounded.events _ hevent,
    fun _ _ hevent => hbounded.events _ hevent, fun _ _ => harena.rooted.parent_lt⟩

end MixinSheet
