import MixinSheet.Proofs.Machine
import Mathlib.Data.Set.Insert

/-!
# What may change

An extent names the frames whose bindings and whose definitions may change. A change is confined to
an extent if frames that were there before stay, change nothing else, keep the frame around them,
and the stack of active frames is as before. Such changes compose, so what a program changes is what
its parts change, except that a frame made and left inside a program counts for nothing outside.

## Key results

- `Scopes.Confined.trans`, `Scopes.Confined.mono`: changes compose, within larger extents too
- `Scopes.Confined.enter_leave`: all that happens to a new frame is no change outside
- `State.Confined.count_uncount`: counting a call and taking it back is no change
-/

namespace MixinSheet

variable {σ : Type}

/-- Of which frames something may change. -/
structure Extent where
  /-- Frames that may get other bindings. -/
  bindings : Set FrameId
  /-- Frames that may get other definitions. -/
  closures : Set FrameId

namespace Extent

/-- Nothing may change. -/
def nothing : Extent := ⟨∅, ∅⟩

/-- Only the bindings of a frame may change. -/
def bindingsOf (id : FrameId) : Extent := ⟨{id}, ∅⟩

/-- Only the definitions of a frame may change. -/
def closuresOf (id : FrameId) : Extent := ⟨∅, {id}⟩

/-- Only one frame may change. -/
def only (id : FrameId) : Extent := ⟨{id}, {id}⟩

/-- Whatever one extent allows, the other one does. -/
def Subset (extent extent' : Extent) : Prop :=
  extent.bindings ⊆ extent'.bindings ∧ extent.closures ⊆ extent'.closures

/-- To change nothing is within every extent. -/
theorem nothing_subset (extent : Extent) : nothing.Subset extent :=
  ⟨Set.empty_subset _, Set.empty_subset _⟩

/-- The bindings of a frame are a part of the frame. -/
theorem bindingsOf_subset_only (id : FrameId) : (bindingsOf id).Subset (only id) :=
  ⟨subset_rfl, Set.empty_subset _⟩

/-- The definitions of a frame are a part of the frame. -/
theorem closuresOf_subset_only (id : FrameId) : (closuresOf id).Subset (only id) :=
  ⟨Set.empty_subset _, subset_rfl⟩

/-- What becomes of one frame is within the extent. -/
structure Allows (extent : Extent) (id : FrameId) (frame frame' : Frame) : Prop where
  parent : frame'.parent = frame.parent
  bindings : id ∉ extent.bindings → frame'.bindings = frame.bindings
  closures : id ∉ extent.closures → frame'.closures = frame.closures

/-- A frame may stay as it is. -/
theorem Allows.refl (extent : Extent) (id : FrameId) (frame : Frame) :
    extent.Allows id frame frame :=
  ⟨rfl, fun _ => rfl, fun _ => rfl⟩

/-- Allowed changes add up. -/
theorem Allows.trans {extent : Extent} {id : FrameId} {frame frame' frame'' : Frame}
    (h : extent.Allows id frame frame') (h' : extent.Allows id frame' frame'') :
    extent.Allows id frame frame'' :=
  ⟨h'.parent.trans h.parent, fun hid => (h'.bindings hid).trans (h.bindings hid),
    fun hid => (h'.closures hid).trans (h.closures hid)⟩

/-- A greater extent allows for more. -/
theorem Allows.mono {extent extent' : Extent} {id : FrameId} {frame frame' : Frame}
    (h : extent.Allows id frame frame') (hsub : extent.Subset extent') :
    extent'.Allows id frame frame' :=
  ⟨h.parent, fun hid => h.bindings fun hmem => hid (hsub.1 hmem),
    fun hid => h.closures fun hmem => hid (hsub.2 hmem)⟩

/-- A frame outside the extent stays the same. -/
theorem Allows.eq {extent : Extent} {id : FrameId} {frame frame' : Frame}
    (h : extent.Allows id frame frame') (hb : id ∉ extent.bindings) (hc : id ∉ extent.closures) :
    frame' = frame := by
  obtain ⟨parent, bindings, closures⟩ := frame
  obtain ⟨parent', bindings', closures'⟩ := frame'
  obtain ⟨hp, hb', hc'⟩ := h
  simp only at hp hb' hc'
  rw [hp, hb' hb, hc' hc]

end Extent

namespace Scopes

/-- From `scopes` to `scopes'` only the extent has changed, apart from new frames. -/
structure Confined (extent : Extent) (scopes scopes' : Scopes) : Prop where
  active : scopes'.active = scopes.active
  frames : ∀ id frame, scopes.frame? id = some frame →
    ∃ frame', scopes'.frame? id = some frame' ∧ extent.Allows id frame frame'

variable {extent extent' : Extent} {scopes scopes' scopes'' : Scopes}

/-- Nothing has to change. -/
theorem Confined.refl (extent : Extent) (scopes : Scopes) : scopes.Confined extent scopes :=
  ⟨rfl, fun id frame h => ⟨frame, h, .refl extent id frame⟩⟩

/-- Changes within an extent add up. -/
theorem Confined.trans (h : scopes.Confined extent scopes')
    (h' : scopes'.Confined extent scopes'') : scopes.Confined extent scopes'' := by
  refine ⟨h'.active.trans h.active, fun id frame hid => ?_⟩
  obtain ⟨frame', hframe', hallows⟩ := h.frames id frame hid
  obtain ⟨frame'', hframe'', hallows'⟩ := h'.frames id frame' hframe'
  exact ⟨frame'', hframe'', hallows.trans hallows'⟩

/-- A greater extent contains more changes. -/
theorem Confined.mono (h : scopes.Confined extent scopes') (hsub : extent.Subset extent') :
    scopes.Confined extent' scopes' := by
  refine ⟨h.active, fun id frame hid => ?_⟩
  obtain ⟨frame', hframe', hallows⟩ := h.frames id frame hid
  exact ⟨frame', hframe', hallows.mono hsub⟩

/-- Frames are never removed. -/
theorem Confined.next_le (h : scopes.Confined extent scopes') : scopes.next ≤ scopes'.next := by
  by_contra hlt
  obtain ⟨frame, hframe⟩ := (exists_frame?_iff scopes scopes'.next).2 (by lia)
  obtain ⟨frame', hframe', -⟩ := h.frames _ frame hframe
  have := (exists_frame?_iff scopes' scopes'.next).1 ⟨frame', hframe'⟩
  lia

/-- The definitions of a frame outside the extent stay the same. -/
theorem Confined.closuresIn_eq (h : scopes.Confined extent scopes') {id : FrameId}
    (hid : id < scopes.next) (hextent : id ∉ extent.closures) :
    scopes'.closuresIn id = scopes.closuresIn id := by
  obtain ⟨frame, hframe⟩ := (exists_frame?_iff scopes id).2 hid
  obtain ⟨frame', hframe', hallows⟩ := h.frames id frame hframe
  rw [closuresIn_of_frame? hframe, closuresIn_of_frame? hframe']
  exact hallows.closures hextent

/-- A change of one frame that the extent allows. -/
private theorem confined_modify (scopes : Scopes) (id : FrameId) (f : Frame → Frame)
    (hf : ∀ frame, extent.Allows id frame (f frame)) :
    scopes.Confined extent (scopes.modify id f) := by
  refine ⟨rfl, fun other frame hother => ?_⟩
  rw [frame?_modify]
  split
  · next heq =>
    subst heq
    exact ⟨f frame, by rw [hother]; rfl, hf frame⟩
  · exact ⟨frame, hother, .refl extent other frame⟩

/-- Binding a variable changes the bindings of one frame. -/
theorem confined_bind (scopes : Scopes) (id : FrameId) (name : String) (value : Value) :
    scopes.Confined (.bindingsOf id) (scopes.bind id name value) :=
  confined_modify scopes id _ fun _ => ⟨rfl, fun hid => absurd rfl hid, fun _ => rfl⟩

/-- Hoisting changes the definitions of one frame. -/
theorem confined_hoist (scopes : Scopes) (id : FrameId) (site : Site) (body : List Node) :
    scopes.Confined (.closuresOf id) (scopes.hoist id site body) :=
  confined_modify scopes id _ fun _ => ⟨rfl, fun _ => rfl, fun hid => absurd rfl hid⟩

/-- Exporting changes the definitions of the target. -/
theorem confined_publish (scopes : Scopes) (source target : FrameId) :
    scopes.Confined (.closuresOf target) (scopes.publish source target) :=
  confined_modify scopes target _ fun _ => ⟨rfl, fun _ => rfl, fun hid => absurd rfl hid⟩

/-- Whatever happens to a new frame alone while it is active is no change for those that were there
before. -/
theorem Confined.enter_leave {parent : FrameId} (hactive : scopes.active ≠ [])
    (h : (scopes.push parent).Confined (.only scopes.next) scopes') :
    scopes.Confined .nothing scopes'.pop := by
  constructor
  · -- the entered frame is on top of the stack and is taken away again
    obtain ⟨outer, rest, houter⟩ := List.exists_cons_of_ne_nil hactive
    rw [houter]
    apply active_pop_of_active_eq
    rw [h.active, push, houter]
  · -- the frames that were there are not the entered one, so nothing about them has changed
    intro id frame hid
    have hlt : id < scopes.next := (exists_frame?_iff scopes id).1 ⟨frame, hid⟩
    have hne : id ∉ ({scopes.next} : Set FrameId) := by
      rw [Set.mem_singleton_iff]
      lia
    obtain ⟨frame', hframe', hallows⟩ := h.frames id frame (by
      rw [frame?_push, if_neg (by lia), hid])
    refine ⟨frame', ?_, ?_⟩
    · rw [← hframe', frame?, frame?, frames_pop]
    · rw [hallows.eq hne hne]
      exact .refl _ id frame

end Scopes

/-- From `s` to `s'` only the extent has changed, and as many calls are open. -/
structure State.Confined (extent : Extent) (s s' : State σ) : Prop where
  scopes : s.scopes.Confined extent s'.scopes
  callDepth : s'.callDepth = s.callDepth

namespace State

variable {extent extent' : Extent} {s s' s'' : State σ}

/-- Nothing has to change in a state. -/
theorem Confined.refl (extent : Extent) (s : State σ) : s.Confined extent s :=
  ⟨.refl extent s.scopes, rfl⟩

/-- Changes of states within an extent add up. -/
theorem Confined.trans (h : s.Confined extent s') (h' : s'.Confined extent s'') :
    s.Confined extent s'' :=
  ⟨h.scopes.trans h'.scopes, h'.callDepth.trans h.callDepth⟩

/-- Changes of states within an extent are within a greater one. -/
theorem Confined.mono (h : s.Confined extent s') (hsub : extent.Subset extent') :
    s.Confined extent' s' :=
  ⟨h.scopes.mono hsub, h.callDepth⟩

/-- What happens while a call is counted happens as well without the count. -/
theorem Confined.count_uncount (h : s.countCall.Confined extent s') :
    s.Confined extent s'.uncountCall :=
  ⟨h.scopes, by simp only [uncountCall, h.callDepth, countCall, Nat.add_sub_cancel]⟩

end State

end MixinSheet
