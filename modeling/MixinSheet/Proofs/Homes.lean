import MixinSheet.Proofs.Arena

/-!
# Homes of definitions

A definition is registered in its home or, by exports, in older frames. So what is exported to a
frame has its home elsewhere, and the definitions that a frame made itself are never replaced: from
some state on, they stay the same in every frame that is there. This holds wherever the definitions
that are run come from; their sites do not matter.

## Key results

- `Scopes.filter_foldl_place`: exports leave the definitions that a frame made itself as they are
- `Scopes.Homed`: where the homes of definitions are, and that frames keep what they made themselves
- `Discipline.homed`: the discipline of homes
-/

namespace MixinSheet

open Evaluation

variable {σ : Type}

namespace Scopes

/-- The definitions that a frame made itself. -/
def ownClosures (scopes : Scopes) (id : FrameId) : List Closure :=
  (scopes.closuresIn id).filter (·.home == id)

/-- A definition from elsewhere takes no place of one that the frame made itself. -/
private theorem filter_place {target : FrameId} {closure : Closure} (h : closure.home ≠ target)
    (known : List Closure) :
    (place target closure known).filter (·.home == target) =
      known.filter (·.home == target) := by
  have hclosure : (closure.home == target) = false := beq_eq_false_iff_ne.2 h
  induction known with
  | nil => simp [place, hclosure]
  | cons existing rest ih =>
    rw [place]
    -- a closure that is replaced is foreign to the target, like the one that replaces it
    split
    · next hreplaced =>
      have hexisting : (existing.home == target) = false := by
        simp only [Bool.and_eq_true, bne_iff_ne] at hreplaced
        exact beq_eq_false_iff_ne.2 hreplaced.1
      simp [hclosure, hexisting]
    · rw [List.filter_cons, ih, List.filter_cons]

/-- Exports from elsewhere do not touch what a frame made itself. -/
theorem filter_foldl_place {target : FrameId} {exported : List Closure}
    (h : ∀ closure ∈ exported, closure.home ≠ target) (known : List Closure) :
    (exported.foldl (fun known closure => place target closure known) known).filter
      (·.home == target) = known.filter (·.home == target) := by
  induction exported generalizing known with
  | nil => rfl
  | cons closure rest ih =>
    obtain ⟨hclosure, hrest⟩ := List.forall_mem_cons.1 h
    rw [List.foldl_cons, ih hrest, filter_place hclosure]

/-- Hoisting changes what one frame made, and no other. -/
private theorem ownClosures_hoist_of_ne {id other : FrameId} (h : id ≠ other) (scopes : Scopes)
    (site : Site) (body : List Node) :
    (scopes.hoist id site body).ownClosures other = scopes.ownClosures other := by
  rw [ownClosures, closuresIn_hoist_of_ne h, ownClosures]

/-- Definitions are registered in their homes or in older frames, and the frames that were there at
the start still have the definitions that they made themselves. -/
structure Homed (start scopes : Scopes) : Prop where
  rooted : scopes.Rooted
  next_le : start.next ≤ scopes.next
  homes : ∀ id, ∀ closure ∈ scopes.closuresIn id, id ≤ closure.home ∧ closure.home < scopes.next
  own : ∀ id, id < start.next → scopes.ownClosures id = start.ownClosures id

namespace Homed

variable {start scopes scopes' : Scopes} {id parent source : FrameId}

/-- Every state is a start. -/
theorem rebase (h : start.Homed scopes) : scopes.Homed scopes :=
  ⟨h.rooted, Nat.le_refl _, h.homes, fun _ _ => rfl⟩

/-- Changes that make no frame and no definition. -/
theorem of_closuresIn_eq (h : start.Homed scopes) (hrooted : scopes'.Rooted)
    (hnext : scopes'.next = scopes.next)
    (hclosures : ∀ id, scopes'.closuresIn id = scopes.closuresIn id) : start.Homed scopes' := by
  refine ⟨hrooted, hnext ▸ h.next_le, fun id closure hmem => ?_, fun id hid => ?_⟩
  · rw [hclosures] at hmem
    rw [hnext]
    exact h.homes id closure hmem
  · rw [ownClosures, hclosures]
    exact h.own id hid

/-- Binding a variable keeps what frames made themselves. -/
theorem bind (h : start.Homed scopes) (id : FrameId) (name : String) (value : Value) :
    start.Homed (scopes.bind id name value) :=
  h.of_closuresIn_eq (h.rooted.modify fun _ => rfl) (next_modify _ _ _)
    fun other => closuresIn_bind scopes id other name value

/-- Leaving a frame keeps what frames made themselves. -/
theorem pop (h : start.Homed scopes) : start.Homed scopes.pop :=
  h.of_closuresIn_eq h.rooted.pop (next_pop scopes) (closuresIn_pop scopes)

/-- A new frame has made nothing yet. -/
theorem push (h : start.Homed scopes) (hparent : parent < scopes.next) :
    start.Homed (scopes.push parent) := by
  refine ⟨h.rooted.push hparent, ?_, fun id closure hmem => ?_, fun id hid => ?_⟩
  · rw [next_push]
    exact Nat.le_succ_of_le h.next_le
  · rw [closuresIn_push] at hmem
    obtain ⟨hle, hlt⟩ := h.homes id closure hmem
    rw [next_push]
    lia
  · rw [ownClosures, closuresIn_push]
    exact h.own id hid

/-- Definitions are registered in a frame that was not there at the start. -/
theorem hoist (h : start.Homed scopes) (hnew : start.next ≤ id) (hid : id < scopes.next)
    (site : Site) (body : List Node) : start.Homed (scopes.hoist id site body) := by
  have hnext : (scopes.hoist id site body).next = scopes.next := next_modify _ _ _
  refine ⟨h.rooted.modify fun _ => rfl, hnext ▸ h.next_le, fun other closure hmem => ?_,
    fun other hother => ?_⟩
  · -- closures that the block defines are at home in its frame, which is a new one
    rw [hnext]
    by_cases hsame : id = other
    · subst hsame
      rw [closuresIn_hoist_self hid] at hmem
      rcases List.mem_append.1 hmem with hold | hmade
      · exact h.homes id closure hold
      · rw [home_of_mem_closuresOf hmade]
        exact ⟨Nat.le_refl id, hid⟩
    · rw [closuresIn_hoist_of_ne hsame] at hmem
      exact h.homes other closure hmem
  · -- the frame is a new one, so older frames keep their own definitions
    rw [ownClosures_hoist_of_ne (by lia)]
    exact h.own other hother

/-- What a younger frame holds has its home there or in a still younger one. -/
private theorem home_ne (h : start.Homed scopes) (hid : id < source) :
    ∀ closure ∈ scopes.closuresIn source, closure.home ≠ id := by
  intro closure hmem
  obtain ⟨hle, -⟩ := h.homes source closure hmem
  lia

/-- Exports from a younger frame. -/
theorem publish (h : start.Homed scopes) (hid : id < source) (hnext : id < scopes.next) :
    start.Homed (scopes.publish source id) := by
  have hnext' : (scopes.publish source id).next = scopes.next := next_modify _ _ _
  refine ⟨h.rooted.modify fun _ => rfl, hnext' ▸ h.next_le, fun other closure hmem => ?_,
    fun other hother => ?_⟩
  · -- what is exported is at home in a younger frame, so its home is a new one too
    rw [hnext']
    by_cases hsame : id = other
    · subst hsame
      rcases mem_closuresIn_publish hmem with hexported | hold
      · obtain ⟨hle, hlt⟩ := h.homes source closure hexported
        exact ⟨by lia, hlt⟩
      · exact h.homes id closure hold
    · rw [closuresIn_publish_of_ne hsame] at hmem
      exact h.homes other closure hmem
  · -- exporting leaves the definitions that the frame has itself
    rw [← h.own other hother, ownClosures, ownClosures]
    by_cases hsame : id = other
    · subst hsame
      rw [closuresIn_publish_self hnext, filter_foldl_place (h.home_ne hid)]
    · rw [closuresIn_publish_of_ne hsame]

end Homed

end Scopes

/-- From every moment of a run on, homes are where they should be. -/
theorem Moment.Arena.homed {sheet : Stylesheet} {m : Moment σ} (h : m.Arena sheet) :
    m.state.scopes.Homed m.state.scopes :=
  ⟨h.rooted, Nat.le_refl _, fun _ => h.home_le, fun _ _ => rfl⟩

/-- What exports may change of a frame does not remove it. -/
theorem Moment.Confined.lt_next {m m' : Moment σ} {id : FrameId}
    (hid : id < m.state.scopes.next) (h : m.Confined (.closuresOf id) m') :
    id < m'.state.scopes.next :=
  Nat.lt_of_lt_of_le hid h.scopes.next_le

/-- The discipline of homes, from some state on. -/
def Discipline.homed (settings : Settings σ) (start : Scopes) : Discipline settings where
  holds m := m.state.callDepth ≤ settings.limit ∧ m.state.scopes.active ≠ [] ∧
    start.Homed m.state.scopes
  ready m id _ := id < m.state.scopes.next
  expanding m id := id < m.state.scopes.next
  fresh m id _ := start.next ≤ id ∧ id < m.state.scopes.next
  callable m closure := closure.home < m.state.scopes.next
  depth_le hm := hm.1
  active_ne hm := hm.2.1
  callable_mem hm hclosure := (hm.2.2.homes _ _ hclosure).2
  ready_tail hready := hready
  ready_later hready hconf := Nat.lt_of_lt_of_le hready hconf.scopes.next_le
  expanding_later := @Moment.Confined.lt_next σ
  fresh_later hfresh hbinds := ⟨hfresh.1, Nat.lt_of_lt_of_le hfresh.2 hbinds.state.scopes.next_le⟩
  callable_later hcallable hconf := Nat.lt_of_lt_of_le hcallable hconf.next_le
  rehost hm _ := hm
  ruleset_event hm _ := hm
  expansion_event hm _ _ := hm
  enter_ruleset hm hready := by
    refine ⟨⟨hm.1, List.cons_ne_nil _ _, hm.2.2.push hready⟩, hm.2.2.next_le, ?_⟩
    exact Nat.lt_of_lt_of_eq (Nat.lt_succ_self _) (Scopes.next_push _ _).symm
  enter_closure hm hcallable := by
    refine ⟨⟨hm.1, List.cons_ne_nil _ _, hm.2.2.push hcallable⟩, hm.2.2.next_le, ?_⟩
    exact Nat.lt_of_lt_of_eq (Nat.lt_succ_self _) (Scopes.next_push _ _).symm
  bind id name value hm := ⟨hm.1, hm.2.1, hm.2.2.bind id name value⟩
  hoist hm hfresh := ⟨hm.1, hm.2.1, hm.2.2.hoist hfresh.1 hfresh.2 _ _⟩
  ready_ruleset _ := by
    change _ < Scopes.next (Scopes.hoist _ _ _ _)
    rw [Scopes.hoist, Scopes.next_modify]
    exact Nat.lt_of_lt_of_eq (Nat.lt_succ_self _) (Scopes.next_push _ _).symm
  ready_closure _ _ hbinds := by
    change _ < Scopes.next (Scopes.hoist _ _ _ _)
    rw [Scopes.hoist, Scopes.next_modify]
    exact Nat.lt_of_lt_of_le (Nat.lt_of_lt_of_eq (Nat.lt_succ_self _) (Scopes.next_push _ _).symm)
      hbinds.state.scopes.next_le
  leave hm := ⟨hm.1, Scopes.active_pop_ne_nil hm.2.1, hm.2.2.pop⟩
  publish hexpanding hconf hm := ⟨hm.1, hm.2.1, hm.2.2.publish hexpanding
    (Nat.lt_of_lt_of_le hexpanding hconf.scopes.next_le)⟩
  count hm hready hlimit := ⟨⟨hlimit, hm.2⟩, hready⟩
  uncount hm := ⟨Nat.le_trans (Nat.sub_le _ _) hm.1, hm.2⟩

end MixinSheet
