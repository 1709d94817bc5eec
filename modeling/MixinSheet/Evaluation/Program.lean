import MixinSheet.Evaluation.Collected
import MixinSheet.Evaluation.State

/-!
# Programs of the evaluator

Running statements is a program of steps on the state. `EvalM` keeps the program as a tree, so that
one can speak of every state between two steps and not only of the last one. A mixin call stands in
the tree as a call and not as the steps it leads to, for calls may lead to further calls without
end: `EvalM.runWith` runs a program given how calls are run.

A program ends with an outcome, which may be a failure. What is to happen after a failure is said
by `followedBy`, on which sequencing and cleaning up rest.
-/

namespace MixinSheet

/-- A mixin call and where it stands. -/
structure Invocation where
  call : Call
  /-- The selectors around the call. -/
  context : List Selector
  /-- The frame of the block that the call stands in. -/
  frame : FrameId
  /-- What was collected before the call. -/
  out : Collected
  deriving Inhabited

/-- One step on the state, with the type of its answer. -/
inductive Step (σ : Type) : Type → Type 1 where
  /-- Sees the scopes and may change the host. -/
  | observe {α : Type} (act : Scopes → HostM σ α) : Step σ (Except Failure α)
  /-- Reads something from the state. -/
  | inspect {α : Type} (view : State σ → α) : Step σ α
  /-- Adds an event that tells something about the state. -/
  | emit (event : State σ → Event) : Step σ Unit
  /-- Makes an active frame for a block; the answer is its number. -/
  | enter (parent : FrameId) (block : Block) : Step σ FrameId
  /-- Takes the innermost frame off the stack. -/
  | leave : Step σ Unit
  /-- Binds a variable. -/
  | bind (frame : FrameId) (name : String) (value : Value) : Step σ Unit
  /-- Registers the definitions of a block. -/
  | hoist (frame : FrameId) (block : Block) : Step σ Unit
  /-- Makes the definitions of a frame known in another one. -/
  | publish (source target : FrameId) : Step σ Unit
  /-- Counts a call. -/
  | count : Step σ Unit
  /-- Takes back what `count` counted. -/
  | uncount : Step σ Unit

/-- The answer of a step and the state after it. -/
def Step.apply {σ β : Type} : Step σ β → State σ → β × State σ
  | .observe act, state =>
    let (result, host) := act state.scopes state.host
    (result, { state with host })
  | .inspect view, state => (view state, state)
  | .emit event, state => ((), state.emit (event state))
  | .enter parent _, state => (state.scopes.next, state.mapScopes (·.push parent))
  | .leave, state => ((), state.mapScopes Scopes.pop)
  | .bind frame name value, state => ((), state.mapScopes (·.bind frame name value))
  | .hoist frame block, state => ((), state.mapScopes (·.hoist frame block.site block.body))
  | .publish source target, state => ((), state.mapScopes (·.publish source target))
  | .count, state => ((), state.countCall)
  | .uncount, state => ((), state.uncountCall)

/-- Evaluation of statements. -/
inductive EvalM (σ α : Type) : Type 1 where
  /-- Nothing is left to do. -/
  | done (outcome : Except Failure α)
  /-- A step, and what comes after its answer. -/
  | step {β : Type} (first : Step σ β) (next : β → EvalM σ α)
  /-- A mixin call, and what comes after its outcome. -/
  | call (invocation : Invocation) (next : Except Failure Collected → EvalM σ α)

namespace EvalM

variable {σ α β : Type}

/-- Runs `act` and then what `next` gives for its outcome, be it a failure. -/
def followedBy : EvalM σ α → (Except Failure α → EvalM σ β) → EvalM σ β
  | .done outcome, next => next outcome
  | .step first rest, next => .step first fun answer => (rest answer).followedBy next
  | .call invocation rest, next => .call invocation fun outcome => (rest outcome).followedBy next

/-- Fails. -/
def fail (failure : Failure) : EvalM σ α :=
  .done (.error failure)

/-- What `next` gives for a success; a failure stays. -/
def onSuccess (next : α → EvalM σ β) : Except Failure α → EvalM σ β
  | .ok a => next a
  | .error failure => fail failure

instance : Monad (EvalM σ) where
  pure a := .done (.ok a)
  bind act next := act.followedBy (onSuccess next)

/-- A single step. -/
def perform (first : Step σ α) : EvalM σ α :=
  .step first pure

/-- Runs a step that sees the scopes and leaves them as they are. -/
def observe (act : Scopes → HostM σ α) : EvalM σ α :=
  .step (.observe act) .done

/-- Runs `act` and then `cleanup`, be it after a failure. -/
def ensuring (act : EvalM σ α) (cleanup : Step σ Unit) : EvalM σ α :=
  act.followedBy fun outcome => .step cleanup fun _ => .done outcome

/-- Runs `act` with a new active frame for `block` inside `parent`. -/
def inFrame (parent : FrameId) (block : Block) (act : FrameId → EvalM σ α) : EvalM σ α := do
  let frame ← perform (.enter parent block)
  ensuring (act frame) .leave

/-- The failure of a call that would be nested too deeply. -/
def limitFailure (settings : Settings σ) (call : Call) : Failure where
  fault := .recursionLimit call.pathText settings.options.maxCallDepth
  text := call.text
  span := call.span

/-- Counts a call, or fails if calls are nested as deeply as they may be. -/
def countCall (settings : Settings σ) (call : Call) : EvalM σ Unit := do
  let depth ← perform (.inspect State.callDepth)
  if settings.limit ≤ depth then fail (limitFailure settings call) else perform .count

/-- Runs `act` as the expansion of a call. -/
def counted (settings : Settings σ) (call : Call) (act : EvalM σ α) : EvalM σ α := do
  countCall settings call
  ensuring act .uncount

/-- Adds an open call to a failure of `act`. -/
def through (act : EvalM σ α) (call : OpenCall) : EvalM σ α :=
  act.followedBy fun outcome => .done (outcome.mapError (·.through call))

end EvalM

/-- How a mixin call is run from a state. -/
abbrev CallRunner (σ : Type) :=
  Invocation → State σ → Except Failure Collected × State σ

/-- The outcome of a program and the state it leaves, given how calls are run. -/
def EvalM.runWith {σ α : Type} (runCall : CallRunner σ) :
    EvalM σ α → State σ → Except Failure α × State σ
  | .done outcome, state => (outcome, state)
  | .step first next, state =>
    let (answer, after) := first.apply state
    (next answer).runWith runCall after
  | .call invocation next, state =>
    let (outcome, after) := runCall invocation state
    (next outcome).runWith runCall after

/-- What comes after a program runs from the state that the program left. -/
theorem EvalM.runWith_followedBy {σ α β : Type} (runCall : CallRunner σ) (act : EvalM σ α)
    (next : Except Failure α → EvalM σ β) (state : State σ) :
    (act.followedBy next).runWith runCall state =
      (next (act.runWith runCall state).1).runWith runCall (act.runWith runCall state).2 := by
  induction act generalizing state with
  | done outcome => rfl
  | step first rest ih => exact ih _ _
  | call invocation rest ih => exact ih _ _

/-- The second part runs only if the first one succeeds, and from the state that it left. -/
theorem EvalM.runWith_bind {σ α β : Type} (runCall : CallRunner σ) (act : EvalM σ α)
    (next : α → EvalM σ β) (state : State σ) :
    (act >>= next).runWith runCall state =
      match act.runWith runCall state with
      | (.ok a, after) => (next a).runWith runCall after
      | (.error failure, after) => (.error failure, after) := by
  change (act.followedBy (onSuccess next)).runWith runCall state = _
  rw [runWith_followedBy]
  cases h : act.runWith runCall state with
  | mk outcome after =>
    cases outcome with
    | ok a => rfl
    | error failure => rfl

/-- What comes after a step gets its answer and the state after it. -/
theorem EvalM.runWith_perform_bind {σ α β : Type} (runCall : CallRunner σ) (first : Step σ α)
    (next : α → EvalM σ β) (state : State σ) :
    (perform first >>= next).runWith runCall state =
      (next (first.apply state).1).runWith runCall (first.apply state).2 := rfl

/-- Cleaning up changes the state and not the outcome. -/
theorem EvalM.runWith_ensuring {σ α : Type} (runCall : CallRunner σ) (act : EvalM σ α)
    (cleanup : Step σ Unit) (state : State σ) :
    (act.ensuring cleanup).runWith runCall state =
      ((act.runWith runCall state).1, (cleanup.apply (act.runWith runCall state).2).2) :=
  runWith_followedBy runCall act _ state

/-- If two parts succeed one after the other, each of them does. -/
theorem EvalM.exists_of_runWith_bind {σ α β : Type} {runCall : CallRunner σ} {act : EvalM σ α}
    {next : α → EvalM σ β} {state last : State σ} {b : β}
    (h : (act >>= next).runWith runCall state = (.ok b, last)) :
    ∃ a after, act.runWith runCall state = (.ok a, after) ∧
      (next a).runWith runCall after = (.ok b, last) := by
  rw [runWith_bind] at h
  split at h
  · next a after hact => exact ⟨a, after, hact, h⟩
  · simp at h

/-- An open call is added to failures only. -/
theorem EvalM.runWith_of_through {σ α : Type} {runCall : CallRunner σ} {act : EvalM σ α}
    {call : OpenCall} {state last : State σ} {a : α}
    (h : (act.through call).runWith runCall state = (.ok a, last)) :
    act.runWith runCall state = (.ok a, last) := by
  rw [through, runWith_followedBy] at h
  rcases hact : act.runWith runCall state with ⟨outcome, after⟩
  rw [hact] at h
  cases outcome with
  | error failure => cases h
  | ok a => exact h

end MixinSheet
