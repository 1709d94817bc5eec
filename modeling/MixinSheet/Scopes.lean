import MixinSheet.Order
import MixinSheet.Sheet.Node

/-!
# Lexical scopes

Frames hold the variables and the definitions of blocks. A frame is never removed and never moves,
so a definition can remember the frame it was made in as its home: the names in its body are looked
up there and not where it is called. The stack of active frames only counts how deeply blocks are
nested. A frame that does not exist holds nothing, and what is declared in it is ignored.
-/

namespace MixinSheet

/-- The number of a frame, in the order of creation. -/
abbrev FrameId := Nat

/-- A definition with the frame that its body sees. -/
structure Closure where
  site : Site
  definition : Definition
  home : FrameId
  deriving Inhabited

/-- The block that is run when the definition is called. -/
def Closure.block (closure : Closure) : Block where
  site := closure.site
  body := closure.definition.body

/-- The names of one block. -/
structure Frame where
  /-- The frame of the block around it. -/
  parent : Option FrameId := none
  /-- Variables, the latest binding first. -/
  bindings : List (String × Value) := []
  /-- Definitions, in the order they were registered. -/
  closures : List Closure := []
  deriving Inhabited

namespace Frame

/-- Binds a variable; a later binding hides an earlier one. -/
def bind (frame : Frame) (name : String) (value : Value) : Frame :=
  { frame with bindings := (name, value) :: frame.bindings }

/-- The value of a variable that this frame binds. -/
def value? (frame : Frame) (name : String) : Option Value :=
  frame.bindings.lookup name

/-- Registers definitions after those that are there. -/
def addClosures (frame : Frame) (closures : List Closure) : Frame :=
  { frame with closures := frame.closures ++ closures }

end Frame

/-- All frames and the stack of active ones, the innermost first. -/
structure Scopes where
  frames : Array Frame
  active : List FrameId
  deriving Inhabited

namespace Scopes

/-- The frame of the outermost block. -/
def root : FrameId := 0

/-- Only the root frame. -/
def initial : Scopes where
  frames := #[{}]
  active := [root]

/-- A frame by its number. -/
def frame? (scopes : Scopes) (id : FrameId) : Option Frame :=
  scopes.frames[id]?

/-- Changes a frame, if it exists. -/
def modify (scopes : Scopes) (id : FrameId) (f : Frame → Frame) : Scopes :=
  { scopes with frames := scopes.frames.modify id f }

/-- The number that the next frame gets. -/
def next (scopes : Scopes) : FrameId :=
  scopes.frames.size

/-- Makes a frame inside `parent` and puts it on the stack; its number is `next`. -/
def push (scopes : Scopes) (parent : FrameId) : Scopes where
  frames := scopes.frames.push { parent := some parent }
  active := scopes.next :: scopes.active

/-- Takes the innermost frame off the stack; the last one stays. -/
def pop (scopes : Scopes) : Scopes :=
  match scopes.active with
  | _ :: outer :: rest => { scopes with active := outer :: rest }
  | _ => scopes

/-- The frame that `pop` takes off the stack. -/
def popped? (scopes : Scopes) : Option FrameId :=
  match scopes.active with
  | inner :: _ :: _ => some inner
  | _ => none

/-- The number of active frames. -/
def depth (scopes : Scopes) : Nat :=
  scopes.active.length

/-- The frame around a frame. -/
def parent? (scopes : Scopes) (id : FrameId) : Option FrameId :=
  (scopes.frame? id).bind (·.parent)

/-- A frame and the frames around it, at most `limit` of them. -/
def ancestorsWithin (scopes : Scopes) : (limit : Nat) → FrameId → List FrameId
  | 0, _ => []
  | limit + 1, id =>
    id :: match scopes.parent? id with
      | some parent => scopes.ancestorsWithin limit parent
      | none => []

/-- A frame and the frames around it, the innermost first. -/
def ancestors (scopes : Scopes) (id : FrameId) : List FrameId :=
  scopes.ancestorsWithin scopes.frames.size id

/-- Binds a variable in a frame. -/
def bind (scopes : Scopes) (id : FrameId) (name : String) (value : Value) : Scopes :=
  scopes.modify id (·.bind name value)

/-- Registers a definition in a frame. -/
def register (scopes : Scopes) (id : FrameId) (closure : Closure) : Scopes :=
  scopes.modify id (·.addClosures [closure])

/-- The definitions of a block with a frame as their home, in order. -/
def closuresOf (id : FrameId) (site : Site) (body : List Node) : List Closure :=
  (Node.definitions site body).map fun (site, definition) => { site, definition, home := id }

/-- Registers the definitions of a block in a frame, which becomes their home. -/
def hoist (scopes : Scopes) (id : FrameId) (site : Site) (body : List Node) : Scopes :=
  scopes.modify id (·.addClosures (closuresOf id site body))

/-- The definitions that are registered in a frame itself. -/
def closuresIn (scopes : Scopes) (id : FrameId) : List Closure :=
  match scopes.frame? id with
  | some frame => frame.closures
  | none => []

/-- Puts an exported definition among those of frame `target`: in place of an earlier export of the
same node, or else at the end. The definitions that frame `target` made itself stay. -/
def place (target : FrameId) (closure : Closure) : List Closure → List Closure
  | [] => [closure]
  | existing :: rest =>
    if existing.home != target && existing.site == closure.site then closure :: rest
    else existing :: place target closure rest

/-- Makes the definitions of frame `source` known in frame `target`. -/
def publish (scopes : Scopes) (source target : FrameId) : Scopes :=
  let exported := scopes.closuresIn source
  scopes.modify target fun frame =>
    { frame with
      closures := exported.foldl (fun known closure => place target closure known) frame.closures }

/-- The value of a variable that is visible in a frame, the innermost binding. -/
def value? (scopes : Scopes) (id : FrameId) (name : String) : Option Value :=
  (scopes.ancestors id).findSome? fun ancestor => (scopes.frame? ancestor).bind (·.value? name)

/-- The definitions named `name` that are visible in a frame, in the order of the source; those that
start at the same place are taken innermost first. -/
def visible (scopes : Scopes) (id : FrameId) (name : String) : List Closure :=
  Order.sort (fun a b => a.definition.span.compareStart b.definition.span)
    (((scopes.ancestors id).flatMap scopes.closuresIn).filter (·.definition.isNamed name))

/-! ## Frames after each operation -/

/-- Only the frame that is modified changes. -/
@[simp] theorem frame?_modify (scopes : Scopes) (id other : FrameId) (f : Frame → Frame) :
    (scopes.modify id f).frame? other =
      if id = other then (scopes.frame? other).map f else scopes.frame? other := by
  simp only [modify, frame?, Array.getElem?_modify]

/-- No frame is made by modifying one. -/
@[simp] theorem next_modify (scopes : Scopes) (id : FrameId) (f : Frame → Frame) :
    (scopes.modify id f).next = scopes.next := by
  simp [modify, next]

/-- Modifying a frame neither enters nor leaves one. -/
@[simp] theorem active_modify (scopes : Scopes) (id : FrameId) (f : Frame → Frame) :
    (scopes.modify id f).active = scopes.active := rfl

/-- A new frame is empty, and every other frame is as before. -/
@[simp] theorem frame?_push (scopes : Scopes) (parent other : FrameId) :
    (scopes.push parent).frame? other =
      if other = scopes.next then some { parent := some parent } else scopes.frame? other := by
  simp only [push, frame?, next, Array.getElem?_push]
  rfl

/-- Entering makes one frame. -/
@[simp] theorem next_push (scopes : Scopes) (parent : FrameId) :
    (scopes.push parent).next = scopes.next + 1 := by
  simp [push, next]

/-- Leaving a frame does not remove it. -/
@[simp] theorem frames_pop (scopes : Scopes) : scopes.pop.frames = scopes.frames := by
  unfold pop
  split <;> rfl

/-- A frame can be looked up after it was left. -/
@[simp] theorem frame?_pop (scopes : Scopes) (id : FrameId) :
    scopes.pop.frame? id = scopes.frame? id := by
  simp only [frame?, frames_pop]

/-- No number is given back. -/
@[simp] theorem next_pop (scopes : Scopes) : scopes.pop.next = scopes.next := by
  simp only [next, frames_pop]

/-- Taking a new frame off the stack gives back the stack that was there. -/
theorem active_pop_of_active_eq {scopes : Scopes} {id outer : FrameId} {rest : List FrameId}
    (h : scopes.active = id :: outer :: rest) : scopes.pop.active = outer :: rest := by
  simp only [pop, h]

/-- The root frame is never left. -/
theorem active_pop_ne_nil {scopes : Scopes} (h : scopes.active ≠ []) :
    scopes.pop.active ≠ [] := by
  unfold pop
  split
  · exact List.cons_ne_nil _ _
  · exact h

/-- A number that was not given out belongs to no frame. -/
theorem frame?_eq_none_iff (scopes : Scopes) (id : FrameId) :
    scopes.frame? id = none ↔ scopes.next ≤ id := by
  simp only [frame?, next, Array.getElem?_eq_none_iff]

/-- The frames are those whose numbers were given out. -/
theorem exists_frame?_iff (scopes : Scopes) (id : FrameId) :
    (∃ frame, scopes.frame? id = some frame) ↔ id < scopes.next := by
  rw [← Option.isSome_iff_exists, ← Option.ne_none_iff_isSome, Ne, frame?_eq_none_iff]
  lia

/-! ## Definitions after each operation -/

/-- The definitions of a frame are looked up with the frame. -/
theorem closuresIn_of_frame? {scopes : Scopes} {id : FrameId} {frame : Frame}
    (h : scopes.frame? id = some frame) : scopes.closuresIn id = frame.closures := by
  simp only [closuresIn, h]

/-- A frame that does not exist holds no definitions. -/
theorem closuresIn_of_next_le {scopes : Scopes} {id : FrameId} (h : scopes.next ≤ id) :
    scopes.closuresIn id = [] := by
  simp only [closuresIn, (frame?_eq_none_iff scopes id).2 h]

/-- A new frame holds no definitions, and every other frame those it held. -/
@[simp] theorem closuresIn_push (scopes : Scopes) (parent id : FrameId) :
    (scopes.push parent).closuresIn id = scopes.closuresIn id := by
  by_cases h : id = scopes.next
  · rw [h, closuresIn_of_next_le (Nat.le_refl scopes.next)]
    simp only [closuresIn, frame?_push, ↓reduceIte]
  · simp only [closuresIn, frame?_push, h, ↓reduceIte]

/-- Leaving a frame changes no definitions. -/
@[simp] theorem closuresIn_pop (scopes : Scopes) (id : FrameId) :
    scopes.pop.closuresIn id = scopes.closuresIn id := by
  simp only [closuresIn, frame?_pop]

/-- Binding a variable changes no definitions. -/
@[simp] theorem closuresIn_bind (scopes : Scopes) (frame id : FrameId) (name : String)
    (value : Value) : (scopes.bind frame name value).closuresIn id = scopes.closuresIn id := by
  by_cases h : frame = id
  · simp only [closuresIn, bind, frame?_modify, h, ↓reduceIte]
    cases scopes.frame? id <;> rfl
  · simp only [closuresIn, bind, frame?_modify, h, ↓reduceIte]

/-- Hoisting adds the definitions of a block after those that a frame has. -/
theorem closuresIn_hoist_self {scopes : Scopes} {id : FrameId} (h : id < scopes.next)
    (site : Site) (body : List Node) :
    (scopes.hoist id site body).closuresIn id =
      scopes.closuresIn id ++ closuresOf id site body := by
  obtain ⟨frame, hframe⟩ := (exists_frame?_iff scopes id).2 h
  simp only [closuresIn, hoist, frame?_modify, ↓reduceIte, hframe]
  rfl

/-- Hoisting changes the definitions of one frame only. -/
theorem closuresIn_hoist_of_ne {id other : FrameId} (h : id ≠ other) (scopes : Scopes)
    (site : Site) (body : List Node) :
    (scopes.hoist id site body).closuresIn other = scopes.closuresIn other := by
  simp only [closuresIn, hoist, frame?_modify, h, ↓reduceIte]

/-- Exports are placed one after the other among the definitions of the frame. -/
theorem closuresIn_publish_self {scopes : Scopes} {target : FrameId} (h : target < scopes.next)
    (source : FrameId) :
    (scopes.publish source target).closuresIn target =
      (scopes.closuresIn source).foldl (fun known closure => place target closure known)
        (scopes.closuresIn target) := by
  obtain ⟨frame, hframe⟩ := (exists_frame?_iff scopes target).2 h
  rw [closuresIn_of_frame? hframe]
  simp only [publish]
  rw [closuresIn, frame?_modify, if_pos rfl, hframe]
  rfl

/-- Exporting changes the definitions of one frame only. -/
theorem closuresIn_publish_of_ne {target other : FrameId} (h : target ≠ other) (scopes : Scopes)
    (source : FrameId) :
    (scopes.publish source target).closuresIn other = scopes.closuresIn other := by
  simp only [publish]
  rw [closuresIn, frame?_modify, if_neg h]
  rfl

/-- After hoisting, a definition was there before or is one of the block. -/
theorem mem_closuresIn_hoist {scopes : Scopes} {id other : FrameId} {site : Site}
    {body : List Node} {closure : Closure}
    (h : closure ∈ (scopes.hoist id site body).closuresIn other) :
    closure ∈ scopes.closuresIn other ∨ closure ∈ closuresOf id site body := by
  by_cases hid : id = other
  · subst hid
    by_cases hlt : id < scopes.next
    · rw [closuresIn_hoist_self hlt] at h
      exact List.mem_append.1 h
    · rw [closuresIn_of_next_le (by rw [hoist, next_modify]; exact Nat.le_of_not_lt hlt)] at h
      exact absurd h List.not_mem_nil
  · rw [closuresIn_hoist_of_ne hid] at h
    exact .inl h

/-- What is in a list after placing a definition was there before or is the definition itself. -/
theorem mem_place {target : FrameId} {closure other : Closure} {known : List Closure}
    (h : other ∈ place target closure known) : other = closure ∨ other ∈ known := by
  induction known with
  | nil => exact .inl (List.mem_singleton.1 h)
  | cons existing rest ih =>
    rw [place] at h
    split at h
    · rcases List.mem_cons.1 h with rfl | hrest
      · exact .inl rfl
      · exact .inr (.tail _ hrest)
    · rcases List.mem_cons.1 h with rfl | hrest
      · exact .inr List.mem_cons_self
      · exact (ih hrest).imp_right (.tail _)

/-- What is in a list after placing several definitions was there before or is one of them. -/
theorem mem_foldl_place {target : FrameId} {exported known : List Closure} {other : Closure}
    (h : other ∈ exported.foldl (fun known closure => place target closure known) known) :
    other ∈ exported ∨ other ∈ known := by
  induction exported generalizing known with
  | nil => exact .inr h
  | cons closure rest ih =>
    rcases ih h with hrest | hplace
    · exact .inl (.tail _ hrest)
    · rcases mem_place hplace with rfl | hknown
      · exact .inl List.mem_cons_self
      · exact .inr hknown

/-- What is registered after an export was registered in the source or the target before. -/
theorem mem_closuresIn_publish {scopes : Scopes} {source target other : FrameId} {closure : Closure}
    (h : closure ∈ (scopes.publish source target).closuresIn other) :
    closure ∈ scopes.closuresIn source ∨ closure ∈ scopes.closuresIn other := by
  by_cases hid : target = other
  · subst hid
    by_cases hlt : target < scopes.next
    · rw [closuresIn_publish_self hlt] at h
      exact mem_foldl_place h
    · rw [closuresIn_of_next_le (by rw [publish, next_modify]; exact Nat.le_of_not_lt hlt)] at h
      exact absurd h List.not_mem_nil
  · rw [closuresIn_publish_of_ne hid] at h
    exact .inr h

/-! ## Visible definitions -/

/-- What is visible is taken from the frame outwards and then sorted by the places in the source. -/
theorem stablySorts_visible (scopes : Scopes) (id : FrameId) (name : String) :
    Order.StablySorts (fun a b => a.definition.span.compareStart b.definition.span)
      (((scopes.ancestors id).flatMap scopes.closuresIn).filter (·.definition.isNamed name))
      (scopes.visible id name) :=
  have := Order.transCmp_comap Span.compareStart fun closure : Closure => closure.definition.span
  Order.stablySorts_sort _ _

/-- Whatever is visible is registered in some frame around. -/
theorem exists_mem_closuresIn_of_mem_visible {scopes : Scopes} {id : FrameId} {name : String}
    {closure : Closure} (h : closure ∈ scopes.visible id name) :
    ∃ ancestor ∈ scopes.ancestors id, closure ∈ scopes.closuresIn ancestor := by
  have hmem := (List.mem_filter.1 ((scopes.stablySorts_visible id name).perm.mem_iff.1 h)).1
  obtain ⟨ancestor, hancestor, hclosure⟩ := List.mem_flatMap.1 hmem
  exact ⟨ancestor, hancestor, hclosure⟩

end Scopes

end MixinSheet
