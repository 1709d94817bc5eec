import MixinSheet.Proofs.Arena

/-!
# Frames as environments

A variable is looked up along the walk from a frame to the root. What is found there is told by one
list of bindings, the environment of the frame: those of the frame itself, the latest first, and
then those of the frames around it. A new frame starts with the environment of the frame it is in,
and what happens to younger frames does not change the environment of an older one.

## Key results

- `Scopes.Rooted.value?_eq`: a variable is looked up in a frame and then in the frame around it
- `Scopes.Shows`: the environment of a frame, with what each operation makes of it
-/

namespace MixinSheet.Scopes

variable {scopes scopes' : Scopes} {id : FrameId}

/-- A walk that is not cut off does not depend on its limit. -/
theorem Rooted.ancestorsWithin_eq (h : scopes.Rooted) {limit limit' : Nat} (hlimit : id < limit)
    (hlimit' : id < limit') :
    scopes.ancestorsWithin limit id = scopes.ancestorsWithin limit' id := by
  -- both limits suffice for the walk, since every step goes to an older frame
  induction limit generalizing id limit' with
  | zero => lia
  | succ limit ih =>
    cases limit' with
    | zero => lia
    | succ limit' =>
      simp only [Scopes.ancestorsWithin]
      cases hparent : scopes.parent? id with
      | none => rfl
      | some parent =>
        have hlt := h.parent_lt hparent
        have hwalk : scopes.ancestorsWithin limit parent = scopes.ancestorsWithin limit' parent :=
          ih (by lia) (by lia)
        simp only [hwalk]

/-- A variable is looked up in a frame and then in the frame around it. -/
theorem Rooted.value?_eq (h : scopes.Rooted) (hid : id < scopes.next) (name : String) :
    scopes.value? id name =
      ((scopes.frame? id).bind (·.value? name)).or
        ((scopes.parent? id).bind (scopes.value? · name)) := by
  have hsize : id < scopes.frames.size := hid
  obtain ⟨limit, hlimit⟩ : ∃ limit, scopes.frames.size = limit + 1 :=
    ⟨scopes.frames.size - 1, by lia⟩
  have hhead : scopes.value? id name =
      ((scopes.frame? id).bind (·.value? name)).or
        (((scopes.parent? id).map (scopes.ancestorsWithin limit)).bind fun walk =>
          walk.findSome? fun ancestor => (scopes.frame? ancestor).bind (·.value? name)) := by
    simp only [value?, Scopes.ancestors, hlimit, Scopes.ancestorsWithin, List.findSome?_cons]
    cases (scopes.frame? id).bind (·.value? name) <;> cases scopes.parent? id <;> rfl
  rw [hhead]
  congr 1
  cases hparent : scopes.parent? id with
  | none => rfl
  | some parent =>
    -- the walk from the parent is one shorter, but it is not cut off
    have hlt := h.parent_lt hparent
    have hwalk : scopes.ancestorsWithin limit parent = scopes.ancestors parent :=
      h.ancestorsWithin_eq (by lia) (by lia)
    simp only [Option.map_some, Option.bind_some, hwalk, value?]

/-- A variable has the same value in a frame as long as bindings change in younger frames only. -/
private theorem Rooted.value?_eq_of_allows {extent : Extent} (h : scopes.Rooted)
    (h' : scopes'.Rooted) (hframes : ∀ id frame, scopes.frame? id = some frame →
      ∃ frame', scopes'.frame? id = some frame' ∧ extent.Allows id frame frame')
    (hid : id < scopes.next) (hyounger : ∀ other ∈ extent.bindings, id < other) (name : String) :
    scopes'.value? id name = scopes.value? id name := by
  induction id using Nat.strong_induction_on with
  | _ id ih =>
    obtain ⟨frame, hframe⟩ := (exists_frame?_iff scopes id).2 hid
    obtain ⟨frame', hframe', hallows⟩ := hframes id frame hframe
    have hid' : id < scopes'.next := (exists_frame?_iff scopes' id).1 ⟨frame', hframe'⟩
    have hbindings : frame'.bindings = frame.bindings :=
      hallows.bindings fun hmem => Nat.lt_irrefl id (hyounger id hmem)
    have hvalue : frame'.value? name = frame.value? name := by
      rw [Frame.value?, Frame.value?, hbindings]
    have hparent : scopes'.parent? id = scopes.parent? id := by
      simp only [parent?, hframe, hframe', Option.bind_some, hallows.parent]
    rw [h'.value?_eq hid', h.value?_eq hid, hframe, hframe', hparent]
    simp only [Option.bind_some, hvalue]
    congr 1
    cases houter : scopes.parent? id with
    | none => rfl
    | some parent =>
      -- the frame around is older still
      have hlt := h.parent_lt houter
      have hyounger' : ∀ other ∈ extent.bindings, parent < other :=
        fun other hmem => Nat.lt_trans hlt (hyounger other hmem)
      exact ih parent hlt (Nat.lt_trans hlt hid) hyounger'

/-- Scopes with some variables in the root frame and nothing else. -/
def ofBindings (bindings : List (String × Value)) : Scopes where
  frames := #[{ bindings }]
  active := [root]

/-- The variables that a frame sees are those of an environment, with the same values. -/
structure Shows (scopes : Scopes) (id : FrameId) (bindings : List (String × Value)) : Prop where
  rooted : scopes.Rooted
  lt_next : id < scopes.next
  value : ∀ name, scopes.value? id name = bindings.lookup name

namespace Shows

variable {bindings : List (String × Value)}

/-- A root frame with some bindings shows these bindings. -/
theorem ofBindings (bindings : List (String × Value)) :
    (Scopes.ofBindings bindings).Shows root bindings := by
  have hrooted : (Scopes.ofBindings bindings).Rooted := by
    refine ⟨Nat.zero_lt_one, rfl, ?_⟩
    intro id hid hne
    exact absurd (Nat.lt_one_iff.1 hid) hne
  have hroot : root < (Scopes.ofBindings bindings).next := Nat.zero_lt_one
  refine ⟨hrooted, hroot, fun name => ?_⟩
  rw [hrooted.value?_eq hroot]
  exact Option.or_none

/-- What happens to younger frames does not change an environment. -/
theorem later (h : scopes.Shows id bindings) {extent : Extent} (hrooted : scopes'.Rooted)
    (hframes : ∀ id frame, scopes.frame? id = some frame →
      ∃ frame', scopes'.frame? id = some frame' ∧ extent.Allows id frame frame')
    (hyounger : ∀ other ∈ extent.bindings, id < other) : scopes'.Shows id bindings := by
  obtain ⟨frame, hframe⟩ := (exists_frame?_iff scopes id).2 h.lt_next
  obtain ⟨frame', hframe', -⟩ := hframes id frame hframe
  refine ⟨hrooted, (exists_frame?_iff scopes' id).1 ⟨frame', hframe'⟩, fun name => ?_⟩
  rw [h.rooted.value?_eq_of_allows hrooted hframes h.lt_next hyounger, h.value]

/-- Where no bindings change, no environment does. -/
theorem keep (h : scopes.Shows id bindings) {extent : Extent} (hnone : extent.bindings = ∅)
    (hrooted : scopes'.Rooted)
    (hframes : ∀ id frame, scopes.frame? id = some frame →
      ∃ frame', scopes'.frame? id = some frame' ∧ extent.Allows id frame frame') :
    scopes'.Shows id bindings := by
  have hyounger : ∀ other ∈ extent.bindings, id < other := by
    intro other hmem
    rw [hnone] at hmem
    exact absurd hmem (Set.notMem_empty other)
  exact h.later hrooted hframes hyounger

/-- A variable that is bound hides those of its name. -/
theorem bind (h : scopes.Shows id bindings) (name : String) (value : Value) :
    (scopes.bind id name value).Shows id ((name, value) :: bindings) := by
  have hrooted : (scopes.bind id name value).Rooted := h.rooted.modify fun _ => rfl
  have hnext : (scopes.bind id name value).next = scopes.next := next_modify _ _ _
  have hid : id < (scopes.bind id name value).next := hnext ▸ h.lt_next
  obtain ⟨frame, hframe⟩ := (exists_frame?_iff scopes id).2 h.lt_next
  have hframe' : (scopes.bind id name value).frame? id = some (frame.bind name value) := by
    simp only [Scopes.bind, frame?_modify, ↓reduceIte, hframe, Option.map_some]
  have hparent : (scopes.bind id name value).parent? id = scopes.parent? id := by
    simp only [parent?, hframe, hframe', Option.bind_some, Frame.bind]
  refine ⟨hrooted, hid, fun other => ?_⟩
  -- the frames around are as before, and this one has one more binding in front
  have houter : ((scopes.bind id name value).parent? id).bind
      ((scopes.bind id name value).value? · other) =
        (scopes.parent? id).bind (scopes.value? · other) := by
    rw [hparent]
    cases hparent : scopes.parent? id with
    | none => rfl
    | some parent =>
      have hlt := h.rooted.parent_lt hparent
      have hyounger : ∀ younger ∈ (Extent.bindingsOf id).bindings, parent < younger := by
        rintro younger rfl
        exact hlt
      exact h.rooted.value?_eq_of_allows hrooted (confined_bind scopes id name value).frames
        (Nat.lt_trans hlt h.lt_next) hyounger other
  have hvalue := h.value other
  rw [h.rooted.value?_eq h.lt_next, hframe] at hvalue
  rw [hrooted.value?_eq hid, hframe', houter, List.lookup_cons]
  simp only [Option.bind_some, Frame.value?, Frame.bind, List.lookup_cons] at hvalue ⊢
  by_cases hname : other = name
  · simp [hname]
  · have hbeq : (other == name) = false := beq_eq_false_iff_ne.2 hname
    simp only [hbeq]
    exact hvalue

/-- Definitions are not variables. -/
theorem hoist (h : scopes.Shows id bindings) (site : Site) (body : List Node) :
    (scopes.hoist id site body).Shows id bindings := by
  have hrooted : (scopes.hoist id site body).Rooted := h.rooted.modify fun _ => rfl
  exact h.keep rfl hrooted (confined_hoist scopes id site body).frames

/-- A new frame has the environment of the frame it is in. -/
theorem push (h : scopes.Shows id bindings) : (scopes.push id).Shows scopes.next bindings := by
  have hrooted : (scopes.push id).Rooted := h.rooted.push h.lt_next
  have hnext : scopes.next < (scopes.push id).next := by
    rw [next_push]
    exact Nat.lt_succ_self _
  have hframes : ∀ other frame, scopes.frame? other = some frame →
      ∃ frame', (scopes.push id).frame? other = some frame' ∧
        Extent.nothing.Allows other frame frame' := by
    intro other frame hframe
    have hlt : other < scopes.next := (exists_frame?_iff scopes other).1 ⟨frame, hframe⟩
    refine ⟨frame, ?_, .refl _ _ _⟩
    rw [frame?_push, if_neg (Nat.ne_of_lt hlt), hframe]
  have houter : (scopes.push id).Shows id bindings := h.keep rfl hrooted hframes
  have hframe : (scopes.push id).frame? scopes.next = some { parent := some id } := by
    rw [frame?_push, if_pos rfl]
  refine ⟨hrooted, hnext, fun name => ?_⟩
  -- nothing is bound in the new frame, so the walk goes on to the one around it
  rw [hrooted.value?_eq hnext, hframe, parent?, hframe]
  simp only [Option.bind_some, Frame.value?, List.lookup_nil, Option.none_or]
  exact houter.value name

/-- The stack of active frames does not matter. -/
theorem pop (h : scopes.Shows id bindings) : scopes.pop.Shows id bindings := by
  have hframes : ∀ other frame, scopes.frame? other = some frame →
      ∃ frame', scopes.pop.frame? other = some frame' ∧
        Extent.nothing.Allows other frame frame' := by
    intro other frame hframe
    exact ⟨frame, by rw [frame?_pop, hframe], .refl _ _ _⟩
  exact h.keep rfl h.rooted.pop hframes

/-- Whatever a block does in a frame of its own, the frame around it shows what it showed before. -/
theorem enter_leave (h : scopes.Shows id bindings) (hactive : scopes.active ≠ []) {site : Site}
    {body : List Node} (hrooted : scopes'.Rooted)
    (hconf : ((scopes.push id).hoist scopes.next site body).Confined (.only scopes.next) scopes') :
    scopes'.pop.Shows id bindings ∧ scopes.Confined .nothing scopes'.pop := by
  have hhoist := (confined_hoist (scopes.push id) scopes.next site body).mono
    (Extent.closuresOf_subset_only scopes.next)
  have hconf' := (hhoist.trans hconf).enter_leave hactive
  exact ⟨h.keep rfl hrooted.pop hconf'.frames, hconf'⟩

end Shows

end MixinSheet.Scopes
