import MixinSheet.Proofs.Expression
import MixinSheet.Proofs.Lockstep
import MixinSheet.Proofs.Machine
import MixinSheet.Proofs.Sketch

/-!
# Lexical scoping

What the body of a definition gives depends only on the frames that can be seen from its home, by
going outwards and on to the homes of the definitions that are met. Two evaluations that agree on
these frames expand the definition in the same way, however they differ elsewhere and wherever it is
called from.

The frames that an expansion makes are seen as well. They are the only ones that it writes, so the
two evaluations agree on them too as long as the expansion runs.

## Key results

- `Scopes.Shares`: two scopes agree on the frames that are shared
- `Coupling.sharing`: evaluations that agree on the shared frames, coupled
- `expansion_depends_on_home`: the outcome of an expansion is determined by the frames that can be
  seen from the home of the definition
-/

namespace MixinSheet

open Evaluation

variable {σ α : Type}

/-- Two frames look the same from inside. -/
structure Frame.Agrees (frame frame' : Frame) : Prop where
  parent : frame.parent = frame'.parent
  values : ∀ name, frame.value? name = frame'.value? name
  closures : frame.closures = frame'.closures

/-- Two scopes agree on a frame, or it exists in neither. -/
def Scopes.AgreesAt (scopes scopes' : Scopes) (id : FrameId) : Prop :=
  Option.Rel Frame.Agrees (scopes.frame? id) (scopes'.frame? id)

/-- The frames that can be seen from a frame. -/
inductive Scopes.Sees (scopes : Scopes) (start : FrameId) : FrameId → Prop
  | self : scopes.Sees start start
  | parent {id parent : FrameId} (h : scopes.Sees start id)
      (hparent : scopes.parent? id = some parent) : scopes.Sees start parent
  | home {id : FrameId} {closure : Closure} (h : scopes.Sees start id)
      (hclosure : closure ∈ scopes.closuresIn id) : scopes.Sees start closure.home

/-! ## Shared frames -/

/-- Two frames look the same, and whatever can be seen from them is shared. -/
structure Frame.Shares (shared : FrameId → Prop) (frame frame' : Frame) : Prop
    extends frame.Agrees frame' where
  outer : ∀ parent, frame.parent = some parent → shared parent
  homes : ∀ closure ∈ frame.closures, shared closure.home

/-- Two scopes agree on the frames that are shared, and from these only shared frames are seen. -/
structure Scopes.Shares (shared : FrameId → Prop) (scopes scopes' : Scopes) : Prop where
  next : scopes.next = scopes'.next
  frames : ∀ id, shared id →
    Option.Rel (Frame.Shares shared) (scopes.frame? id) (scopes'.frame? id)

namespace Frame.Shares

variable {shared : FrameId → Prop} {frame frame' : Frame}

/-- Binding the same value keeps frames shared. -/
theorem bind (h : frame.Shares shared frame') (name : String) (value : Value) :
    (frame.bind name value).Shares shared (frame'.bind name value) := by
  refine ⟨⟨h.parent, fun other => ?_, h.closures⟩, h.outer, h.homes⟩
  simp only [Frame.bind, Frame.value?, List.lookup_cons]
  split
  · rfl
  · exact h.values other

/-- Both frames get the same definitions. -/
private theorem withClosures {closures : List Closure} (h : frame.Shares shared frame')
    (hhomes : ∀ closure ∈ closures, shared closure.home) :
    Frame.Shares shared { frame with closures } { frame' with closures } :=
  ⟨⟨h.parent, h.values, rfl⟩, h.outer, hhomes⟩

end Frame.Shares

namespace Scopes.Shares

variable {shared : FrameId → Prop} {scopes scopes' : Scopes} {id : FrameId}

/-- A shared frame exists in both scopes or in neither. -/
private theorem frame?_cases (h : scopes.Shares shared scopes') (hid : shared id) :
    scopes.frame? id = none ∧ scopes'.frame? id = none ∨
      ∃ frame frame', scopes.frame? id = some frame ∧ scopes'.frame? id = some frame' ∧
        frame.Shares shared frame' := by
  have hframe := h.frames id hid
  generalize scopes.frame? id = found at hframe ⊢
  generalize scopes'.frame? id = found' at hframe ⊢
  cases hframe with
  | none => exact .inl ⟨rfl, rfl⟩
  | some hshares => exact .inr ⟨_, _, rfl, rfl, hshares⟩

/-- A shared frame has the same parent in both, which is shared as well. -/
theorem parent?_eq (h : scopes.Shares shared scopes') (hid : shared id) :
    scopes.parent? id = scopes'.parent? id ∧
      ∀ parent, scopes.parent? id = some parent → shared parent := by
  rw [parent?, parent?]
  rcases h.frame?_cases hid with ⟨hnone, hnone'⟩ | ⟨frame, frame', hframe, hframe', hshares⟩
  · rw [hnone, hnone']
    exact ⟨rfl, fun _ hsome => absurd hsome (Option.some_ne_none _).symm⟩
  · rw [hframe, hframe']
    exact ⟨hshares.parent, hshares.outer⟩

/-- A shared frame has the same definitions in both, whose homes are shared as well. -/
theorem closuresIn_eq (h : scopes.Shares shared scopes') (hid : shared id) :
    scopes.closuresIn id = scopes'.closuresIn id ∧
      ∀ closure ∈ scopes.closuresIn id, shared closure.home := by
  rw [closuresIn, closuresIn]
  rcases h.frame?_cases hid with ⟨hnone, hnone'⟩ | ⟨frame, frame', hframe, hframe', hshares⟩
  · rw [hnone, hnone']
    exact ⟨rfl, fun _ hmem => absurd hmem List.not_mem_nil⟩
  · rw [hframe, hframe']
    exact ⟨hshares.closures, hshares.homes⟩

/-- A walk outwards from a shared frame is the same in both and stays among shared frames. -/
theorem ancestorsWithin_eq (h : scopes.Shares shared scopes') (limit : Nat) (hid : shared id) :
    scopes.ancestorsWithin limit id = scopes'.ancestorsWithin limit id ∧
      ∀ ancestor ∈ scopes.ancestorsWithin limit id, shared ancestor := by
  -- the walk outwards stays within the shared frames, step by step
  induction limit generalizing id with
  | zero => exact ⟨rfl, fun _ hmem => absurd hmem List.not_mem_nil⟩
  | succ limit ih =>
    obtain ⟨hparent, houter⟩ := h.parent?_eq hid
    rw [ancestorsWithin, ancestorsWithin, ← hparent]
    cases hcase : scopes.parent? id with
    | none =>
      refine ⟨rfl, fun ancestor hmem => ?_⟩
      rw [List.mem_singleton.1 hmem]
      exact hid
    | some parent =>
      obtain ⟨heq, hshared⟩ := ih (houter parent hcase)
      refine ⟨congrArg (id :: ·) heq, fun ancestor hmem => ?_⟩
      rcases List.mem_cons.1 hmem with rfl | hmem
      · exact hid
      · exact hshared ancestor hmem

/-- The frames around a shared frame are the same in both, and shared. -/
theorem ancestors_eq (h : scopes.Shares shared scopes') (hid : shared id) :
    scopes.ancestors id = scopes'.ancestors id ∧
      ∀ ancestor ∈ scopes.ancestors id, shared ancestor := by
  have hsize : scopes.frames.size = scopes'.frames.size := h.next
  rw [ancestors, ancestors, ← hsize]
  exact h.ancestorsWithin_eq scopes.frames.size hid

/-- A variable has the same value in a shared frame. -/
theorem value?_eq (h : scopes.Shares shared scopes') (hid : shared id) (name : String) :
    scopes.value? id name = scopes'.value? id name := by
  obtain ⟨hancestors, hshared⟩ := h.ancestors_eq hid
  rw [value?, value?, ← hancestors]
  -- the value comes from the first shared frame that binds the name
  generalize scopes.ancestors id = ancestors at hshared
  induction ancestors with
  | nil => rfl
  | cons ancestor rest ih =>
    have hvalue : (scopes.frame? ancestor).bind (·.value? name) =
        (scopes'.frame? ancestor).bind (·.value? name) := by
      rcases h.frame?_cases (hshared ancestor List.mem_cons_self) with
        ⟨hnone, hnone'⟩ | ⟨frame, frame', hframe, hframe', hshares⟩
      · rw [hnone, hnone']
      · rw [hframe, hframe']
        exact hshares.values name
    rw [List.findSome?_cons, List.findSome?_cons, hvalue,
      ih fun other hother => hshared other (.tail _ hother)]

/-- The same definitions are visible in a shared frame. -/
private theorem visible_eq (h : scopes.Shares shared scopes') (hid : shared id) (name : String) :
    scopes.visible id name = scopes'.visible id name ∧
      ∀ closure ∈ scopes.visible id name, shared closure.home := by
  obtain ⟨hancestors, hshared⟩ := h.ancestors_eq hid
  constructor
  · have hclosures : (scopes.ancestors id).flatMap scopes.closuresIn =
        (scopes.ancestors id).flatMap scopes'.closuresIn :=
      List.flatMap_congr fun ancestor hmem => (h.closuresIn_eq (hshared ancestor hmem)).1
    rw [visible, visible, ← hancestors, hclosures]
  · intro closure hclosure
    obtain ⟨ancestor, hmem, hregistered⟩ := exists_mem_closuresIn_of_mem_visible hclosure
    exact (h.closuresIn_eq (hshared ancestor hmem)).2 closure hregistered

/-- A new frame inside a shared one is shared. -/
theorem push {parent : FrameId} (h : scopes.Shares shared scopes') (hparent : shared parent) :
    (scopes.push parent).Shares shared (scopes'.push parent) := by
  refine ⟨by rw [next_push, next_push, h.next], fun id hid => ?_⟩
  rw [frame?_push, frame?_push, ← h.next]
  split
  · -- the new frame is empty and sees only its parent
    refine .some ⟨⟨rfl, fun _ => rfl, rfl⟩, fun outer houter => ?_, fun _ hmem => ?_⟩
    · rwa [← Option.some.inj houter]
    · exact absurd hmem List.not_mem_nil
  · exact h.frames id hid

/-- Leaving a frame keeps frames shared. -/
theorem pop (h : scopes.Shares shared scopes') : scopes.pop.Shares shared scopes'.pop := by
  refine ⟨by rw [next_pop, next_pop, h.next], fun id hid => ?_⟩
  rw [frame?_pop, frame?_pop]
  exact h.frames id hid

/-- Both scopes change a frame in the same way. -/
theorem modify {f f' : Frame → Frame} (h : scopes.Shares shared scopes') (id : FrameId)
    (hf : ∀ {frame frame'}, frame.Shares shared frame' → (f frame).Shares shared (f' frame')) :
    (scopes.modify id f).Shares shared (scopes'.modify id f') := by
  refine ⟨by rw [next_modify, next_modify, h.next], fun other hother => ?_⟩
  rw [frame?_modify, frame?_modify]
  split
  · rcases h.frame?_cases hother with ⟨hnone, hnone'⟩ | ⟨frame, frame', hframe, hframe', hshares⟩
    · rw [hnone, hnone']
      exact .none
    · rw [hframe, hframe']
      exact .some (hf hshares)
  · exact h.frames other hother

/-- Hoisting into a shared frame keeps frames shared. -/
theorem hoist (h : scopes.Shares shared scopes') (hid : shared id) (site : Site)
    (body : List Node) :
    (scopes.hoist id site body).Shares shared (scopes'.hoist id site body) := by
  -- the home of the new definitions is the frame itself
  refine h.modify id fun {frame frame'} hframe => ?_
  rw [Frame.addClosures, Frame.addClosures, ← hframe.closures]
  refine hframe.withClosures fun closure hmem => ?_
  rcases List.mem_append.1 hmem with hold | hnew
  · exact hframe.homes closure hold
  · obtain ⟨_, -, rfl⟩ := List.mem_map.1 hnew
    exact hid

/-- Exports from a shared frame keep frames shared. -/
theorem publish {source : FrameId} (h : scopes.Shares shared scopes') (hsource : shared source)
    (target : FrameId) :
    (scopes.publish source target).Shares shared (scopes'.publish source target) := by
  obtain ⟨hexported, hhomes⟩ := h.closuresIn_eq hsource
  -- both export the same, with homes that are shared
  rw [Scopes.publish, Scopes.publish, ← hexported]
  refine h.modify target fun {frame frame'} hframe => ?_
  rw [← hframe.closures]
  refine hframe.withClosures fun closure hmem => ?_
  rcases mem_foldl_place hmem with hnew | hold
  · exact hhomes closure hnew
  · exact hframe.homes closure hold

/-- Scopes that agree on all frames that can be seen from a frame share these, and the frames that
do not exist yet. -/
private theorem of_agreesAt {start : FrameId} (hnext : scopes.next = scopes'.next)
    (hagree : ∀ id, scopes.Sees start id → scopes.AgreesAt scopes' id) :
    scopes.Shares (fun id => scopes.Sees start id ∨ scopes.next ≤ id) scopes' := by
  refine ⟨hnext, fun id hid => ?_⟩
  rcases hid with hsees | hnew
  · have hagrees := hagree id hsees
    rw [AgreesAt] at hagrees
    generalize hfound : scopes.frame? id = found at hagrees ⊢
    generalize scopes'.frame? id = found' at hagrees ⊢
    cases hagrees with
    | none => exact .none
    | some hframe =>
      -- what a frame that is seen leads to is seen as well
      refine .some ⟨hframe, fun parent hparent => .inl (hsees.parent ?_), fun closure hmem =>
        .inl (hsees.home ?_)⟩
      · rw [parent?, hfound]
        exact hparent
      · rw [closuresIn_of_frame? hfound]
        exact hmem
  · rw [(frame?_eq_none_iff scopes id).2 hnew, (frame?_eq_none_iff scopes' id).2 (hnext ▸ hnew)]
    exact .none

end Scopes.Shares

/-! ## Coupled evaluations -/

/-- Two states agree on the shared frames, on the call depth and on the native functions; frames
from `first` on are new. -/
structure State.Shares (shared : FrameId → Prop) (first : FrameId) (s t : State σ) : Prop where
  scopes : s.scopes.Shares shared t.scopes
  first_le : first ≤ s.scopes.next
  callDepth : s.callDepth = t.callDepth
  natives : s.host.natives = t.host.natives

namespace State.Shares

variable {shared : FrameId → Prop} {first : FrameId} {s t : State σ}

/-- Both states change their scopes, and no frame is removed. -/
theorem mapScopes {f f' : Scopes → Scopes} (h : s.Shares shared first t)
    (hf : (f s.scopes).Shares shared (f' t.scopes)) (hnext : s.scopes.next ≤ (f s.scopes).next) :
    (s.mapScopes f).Shares shared first (t.mapScopes f') :=
  ⟨hf, Nat.le_trans h.first_le hnext, h.callDepth, h.natives⟩

/-- A step that sees the same in both states gives the same and keeps what they share. -/
theorem observe {act act' : Scopes → HostM σ α} (h : s.Shares shared first t)
    (hsame : Host.Same (act s.scopes s.host) (act' t.scopes t.host)) :
    Matches (State.Shares shared first) (fun _ => False) Eq ((Step.observe act).apply s)
      ((Step.observe act').apply t) := by
  simp only [Step.apply]
  generalize act s.scopes s.host = after at hsame ⊢
  generalize act' t.scopes t.host = after' at hsame ⊢
  obtain ⟨result, host⟩ := after
  obtain ⟨result', host'⟩ := after'
  obtain ⟨hresult, hnatives⟩ := hsame
  obtain rfl : result = result' := hresult
  cases result with
  | ok value => exact .ok rfl ⟨h.scopes, h.first_le, h.callDepth, hnatives⟩
  | error failure => exact .error ⟨h.scopes, h.first_le, h.callDepth, hnatives⟩

end State.Shares

/-- Evaluations with the same settings whose states agree on the shared frames. Statements are run
in new frames only. -/
def Coupling.sharing (settings : Settings σ) (shared : FrameId → Prop) (first : FrameId)
    (hshared : ∀ {id}, first ≤ id → shared id) : Coupling σ where
  left := settings
  right := settings
  states := State.Shares shared first
  reads := shared
  writes id := first ≤ id
  callable closure := shared closure.home
  runnable _ := True
  contexts := .equal _
  excused _ := False
  reads_of_writes := hshared
  reads_of_callable := id
  runnable_of_callable _ := trivial
  runnable_tail _ := trivial
  runnable_ruleset _ := trivial
  excused_through _ hfalse := hfalse
  next_eq hst := hst.scopes.next
  writes_next hst := hst.first_le
  evaluate expression hst hid := hst.observe
    (Expression.evaluate_same settings (hst.scopes.value?_eq hid) expression hst.natives)
  evaluateAll expressions hst hid := hst.observe
    (Expression.evaluateAll_same settings (hst.scopes.value?_eq hid) expressions hst.natives)
  visible name hst hid := hst.scopes.visible_eq hid name
  closuresIn hst hid := hst.scopes.closuresIn_eq hid
  emit _ _ hst := ⟨hst.scopes, hst.first_le, hst.callDepth, hst.natives⟩
  enter hst hparent := hst.mapScopes (hst.scopes.push hparent)
    (Nat.le_trans (Nat.le_succ _) (Nat.le_of_eq (Scopes.next_push _ _).symm))
  leave hst := hst.mapScopes hst.scopes.pop
    (Nat.le_of_eq (Scopes.next_pop _).symm)
  bind name value hst _ := hst.mapScopes (hst.scopes.modify _ fun hframe => hframe.bind name value)
    (Nat.le_of_eq (Scopes.next_modify _ _ _).symm)
  hoist site hst hid _ := hst.mapScopes (hst.scopes.hoist (hshared hid) site _)
    (Nat.le_of_eq (Scopes.next_modify _ _ _).symm)
  publish hst hsource _ := hst.mapScopes (hst.scopes.publish hsource _)
    (Nat.le_of_eq (Scopes.next_modify _ _ _).symm)
  count hst hlimit := ⟨hst.callDepth ▸ hlimit,
    hst.scopes, hst.first_le, congrArg (· + 1) hst.callDepth, hst.natives⟩
  uncount hst := ⟨hst.scopes, hst.first_le, congrArg (· - 1) hst.callDepth, hst.natives⟩
  refuse _ hst hlimit := .inr ⟨hst.callDepth ▸ hlimit, rfl⟩

/-- Matching outcomes without excuses: the same was added, or the same failure was raised. -/
private theorem Coupling.same_growth {C : Coupling σ} {out out' : Collected}
    {result result' : Except Failure (α × Collected) × State σ}
    (hcontexts : ∀ context context', C.contexts context context' → context = context')
    (hexcused : ∀ failure, ¬ C.excused failure)
    (h : Matches C.states C.excused (fun a a' => C.Grows out out' a.2 a'.2) result result') :
    (∃ failure, result.1.map Prod.snd = .error failure ∧
      result'.1.map Prod.snd = .error failure) ∨
    ∃ declarations rules,
      result.1.map Prod.snd = .ok { declarations := out.declarations ++ declarations,
                                    nested := out.nested ++ rules } ∧
      result'.1.map Prod.snd = .ok { declarations := out'.declarations ++ declarations,
                                     nested := out'.nested ++ rules } := by
  cases h with
  | ok hgrows _ =>
    obtain ⟨declarations, rules, rules', hrules, hout, hout'⟩ := hgrows
    obtain rfl := eq_of_sameRule hcontexts hrules
    exact .inr ⟨declarations, rules, congrArg Except.ok hout, congrArg Except.ok hout'⟩
  | @error failure => exact .inl ⟨failure, rfl, rfl⟩
  | @excused failure _ _ hfailure => exact absurd hfailure (hexcused failure)

/-- What an expansion gives is what the run of the definition in its home gives: publishing comes
last and has no part in the outcome. -/
private theorem runWith_runDefinition (settings : Settings σ) (runCall : CallRunner σ) (call : Call)
    (closure : Closure) (args : List Value) (context : List Selector) (caller : FrameId)
    (out : Collected) (s : State σ) :
    ((runDefinition settings call closure args context caller out).runWith runCall s).1 =
      ((EvalM.inFrame closure.home closure.block fun frame => do
          return (frame, ← runDefinitionBody settings closure args context frame out)).through
            { text := call.text, span := call.span }
        |>.runWith runCall
          (s.emit (.expandingMixin call.text closure.definition.span s.callDepth))).1.map
            Prod.snd := by
  rw [runDefinition]
  change (((EvalM.through _ _).followedBy (EvalM.onSuccess _)).runWith runCall _).1 = _
  rw [EvalM.runWith_followedBy]
  generalize (EvalM.through _ _).runWith runCall _ = result
  obtain ⟨outcome, after⟩ := result
  cases outcome with
  | ok result => rfl
  | error failure => rfl

/-- Lexical scoping. Take two states with the same settings, call depth, number of frames and state
of the native functions that agree on every frame that can be seen from the home of a definition.
Expanding the definition gives the same in both, whatever the frames of the callers are and whatever
was collected before: the same declarations and rules are added, or the same failure is raised. -/
theorem expansion_depends_on_home (settings : Settings σ) (s t : State σ) (closure : Closure)
    (hnext : s.scopes.next = t.scopes.next) (hdepth : s.callDepth = t.callDepth)
    (hnatives : s.host.natives = t.host.natives)
    (hagree : ∀ id, s.scopes.Sees closure.home id → s.scopes.AgreesAt t.scopes id)
    (call : Call) (args : List Value) (context : List Selector) (caller caller' : FrameId)
    (out out' : Collected) :
    let run := (runDefinition settings call closure args context caller out).run settings s
    let run' := (runDefinition settings call closure args context caller' out').run settings t
    (∃ failure, run.1 = .error failure ∧ run'.1 = .error failure) ∨
    ∃ declarations rules,
      run.1 = .ok { declarations := out.declarations ++ declarations,
                    nested := out.nested ++ rules } ∧
      run'.1 = .ok { declarations := out'.declarations ++ declarations,
                     nested := out'.nested ++ rules } := by
  have hbudget : budget settings t = budget settings s := by rw [budget, budget, hdepth]
  simp only [EvalM.run, runWith_runDefinition, hbudget]
  -- shared are the frames that can be seen now, and all that will be made
  let C := Coupling.sharing settings (fun id => s.scopes.Sees closure.home id ∨ s.scopes.next ≤ id)
    s.scopes.next .inr
  have hst : C.states (s.emit (.expandingMixin call.text closure.definition.span s.callDepth))
      (t.emit (.expandingMixin call.text closure.definition.span t.callDepth)) :=
    C.emit _ _ ⟨.of_agreesAt hnext hagree, Nat.le_refl _, hdepth, hnatives⟩
  have hcalls : C.Calls (callRunner settings (budget settings s))
      (callRunner settings (budget settings s)) :=
    C.calls_callRunner (Nat.le_refl _) (.inr ⟨rfl, fun _ => rfl⟩)
  have halike := (Coupling.alike_runInHome (C := C) hcalls (rfl : context = context) (.inl .self)
    args { text := call.text, span := call.span } out out').mono fun _ _ hgrows => hgrows.2
  exact Coupling.same_growth (C := C) (fun _ _ heq => heq) (fun _ hfalse => hfalse)
    (halike _ _ hst)

/-! ## An example -/

namespace Shading

/-- A mixin that uses the variable `@shade` of the outermost block, inside a ruleset. -/
def paint : Mixin where
  name := ".paint"
  params := []
  body := [Sketch.ruleset [".box"] [Sketch.declaration "color" (Sketch.reference "@shade")]]
  span := default

/-- The call of `paint`. -/
def callPaint : Call :=
  Sketch.call ".paint" []

/-- A stylesheet that calls `paint` from a mixin whose own parameter is named `@shade` too. -/
def sheet (shade : String) : Stylesheet where
  nodes := [
    Sketch.assign "@shade" (Sketch.keyword "red"),
    .mixin paint.name paint.params paint.body paint.span,
    Sketch.mixin ".wrap" [Sketch.parameter "@shade"] [.call callPaint],
    .call (Sketch.call ".wrap" [Sketch.keyword shade])]

/-- The state in which `paint` is about to be expanded. -/
def state (shade : String) : State Unit :=
  (sheet shade).stateAt (Sketch.settings 64) () 20

/-- The definition of `paint` as it is registered in the root frame. -/
def closure : Closure where
  site := [1, 0]
  definition := .mixin paint
  home := Scopes.root

/-- The outcome of expanding `paint` from the frame of the mixin around the call. -/
def outcome (shade : String) : Except Failure Collected :=
  ((runDefinition (Sketch.settings 64) callPaint closure [] [] 1 {}).run (Sketch.settings 64)
    (state shade)).1

/-- The root frame in this state, whatever the shade. -/
def rootFrame : Frame where
  bindings := [("@shade", .keyword "red")]
  closures := Scopes.closuresOf Scopes.root Stylesheet.site (sheet "green").nodes

/-- The root frame, called with one shade. -/
private theorem frame?_root_green :
    (state "green").scopes.frame? Scopes.root = some rootFrame := rfl

/-- The root frame, called with the other shade. -/
private theorem frame?_root_blue : (state "blue").scopes.frame? Scopes.root = some rootFrame := rfl

/-- From the root frame nothing else is seen. -/
private theorem eq_root_of_sees {id : FrameId} (h : (state "green").scopes.Sees Scopes.root id) :
    id = Scopes.root := by
  induction h with
  | self => rfl
  | parent _ hparent ih =>
    rw [ih, Scopes.parent?, frame?_root_green] at hparent
    exact absurd hparent (Option.some_ne_none _).symm
  | home _ hclosure ih =>
    rw [ih, Scopes.closuresIn_of_frame? frame?_root_green] at hclosure
    obtain ⟨_, -, rfl⟩ := List.mem_map.1 hclosure
    rfl

end Shading

/-- The callers have different shades, and expanding the definition from their frames gives the
same. -/
theorem expansion_depends_on_home_shading :
    (Shading.state "green").scopes.value? 1 "@shade" = some (.keyword "green") ∧
    (Shading.state "blue").scopes.value? 1 "@shade" = some (.keyword "blue") ∧
    ((∃ failure, Shading.outcome "green" = .error failure ∧
        Shading.outcome "blue" = .error failure) ∨
      ∃ declarations rules,
        Shading.outcome "green" = .ok { declarations := [] ++ declarations,
                                        nested := [] ++ rules } ∧
        Shading.outcome "blue" = .ok { declarations := [] ++ declarations,
                                       nested := [] ++ rules }) := by
  -- each side is evaluated on its own, against a literal
  have hnext : (Shading.state "green").scopes.next = 2 := rfl
  have hnext' : (Shading.state "blue").scopes.next = 2 := rfl
  have hdepth : (Shading.state "green").callDepth = 2 := rfl
  have hdepth' : (Shading.state "blue").callDepth = 2 := rfl
  refine ⟨rfl, rfl, ?_⟩
  refine expansion_depends_on_home (Sketch.settings 64) (Shading.state "green")
    (Shading.state "blue") Shading.closure (hnext.trans hnext'.symm) (hdepth.trans hdepth'.symm)
    (Subsingleton.elim _ _) (fun id hsees => ?_) Shading.callPaint [] [] 1 1 {} {}
  rw [Shading.eq_root_of_sees hsees, Scopes.AgreesAt, Shading.frame?_root_green,
    Shading.frame?_root_blue]
  exact .some ⟨rfl, fun _ => rfl, rfl⟩

example : Shading.outcome "blue" =
    .ok { nested := [{ selectors := [".box"],
                       declarations := [Sketch.declared "color" "red"] }] } := rfl

end MixinSheet
