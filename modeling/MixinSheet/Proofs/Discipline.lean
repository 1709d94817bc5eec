import MixinSheet.Proofs.Contract
import MixinSheet.Proofs.Expression
import MixinSheet.Proofs.Extent

/-!
# Disciplines

What holds throughout a run is shown in one and the same way, whatever it is: along the tree of a
block, through the resolution of calls and from call to call. A `Discipline` is what varies: the
invariant, what it takes to run statements in a frame, to expand a call there, to register the
definitions of a new frame and to call a definition, and that single steps keep all this.

## Key results

- `Discipline.Keeps`: a program keeps a discipline and changes only what it may
- `Discipline.Keeps.bind`: sequencing
- `Discipline.Keeps.inFrame`: what is run in a new frame changes nothing outside
-/

namespace MixinSheet

open Evaluation

variable {σ α β : Type}

namespace Moment

/-- From `m` to `m'` only the host has changed. -/
structure Rehosts (m m' : Moment σ) : Prop where
  past : m'.past = m.past
  scopes : m'.state.scopes = m.state.scopes
  callDepth : m'.state.callDepth = m.state.callDepth

/-- From `m` to `m'` only variables of one frame were bound. -/
structure Binds (id : FrameId) (m m' : Moment σ) : Prop where
  past : m'.past = m.past
  state : m.state.Confined (.bindingsOf id) m'.state

/-- From `m` to `m'` only the extent has changed. -/
def Confined (extent : Extent) (m m' : Moment σ) : Prop :=
  m.state.Confined extent m'.state

variable {m m' m'' : Moment σ} {id : FrameId} {extent : Extent}

/-- Nothing has to happen to the host. -/
theorem Rehosts.refl (m : Moment σ) : m.Rehosts m :=
  ⟨rfl, rfl, rfl⟩

/-- Changes of the host add up. -/
theorem Rehosts.trans (h : m.Rehosts m') (h' : m'.Rehosts m'') : m.Rehosts m'' :=
  ⟨h'.past.trans h.past, h'.scopes.trans h.scopes, h'.callDepth.trans h.callDepth⟩

/-- A change of the host is within any extent. -/
theorem Rehosts.confined (h : m.Rehosts m') : m.Confined extent m' :=
  ⟨h.scopes ▸ .refl extent m.state.scopes, h.callDepth⟩

/-- A change of the host binds at most the variables of the frame. -/
theorem Rehosts.binds (h : m.Rehosts m') : m.Binds id m' :=
  ⟨h.past, h.confined⟩

/-- Nothing has to be bound. -/
theorem Binds.refl (id : FrameId) (m : Moment σ) : m.Binds id m :=
  ⟨rfl, .refl _ m.state⟩

/-- Bindings in one frame add up. -/
theorem Binds.trans (h : m.Binds id m') (h' : m'.Binds id m'') : m.Binds id m'' :=
  ⟨h'.past.trans h.past, h.state.trans h'.state⟩

/-- Bindings in one frame are within the extent of this frame. -/
theorem Binds.confined (h : m.Binds id m') : m.Confined (.only id) m' :=
  h.state.mono (Extent.bindingsOf_subset_only id)

/-- Changes within an extent add up. -/
theorem Confined.trans (h : m.Confined extent m') (h' : m'.Confined extent m'') :
    m.Confined extent m'' :=
  State.Confined.trans h h'

/-- An event changes the host only. -/
theorem rehosts_emit (m : Moment σ) (event : State σ → Event) : m.Rehosts (m.after (.emit event)) :=
  ⟨rfl, rfl, rfl⟩

/-- Binding a variable changes this frame only. -/
theorem binds_bind (m : Moment σ) (id : FrameId) (name : String) (value : Value) :
    m.Binds id (m.after (.bind id name value)) :=
  ⟨rfl, Scopes.confined_bind m.state.scopes id name value, rfl⟩

/-- Hoisting changes one frame only. -/
theorem confined_hoist (m : Moment σ) (id : FrameId) (block : Block) :
    m.Confined (.only id) (m.after (.hoist id block)) :=
  State.Confined.mono ⟨Scopes.confined_hoist m.state.scopes id block.site block.body, rfl⟩
    (Extent.closuresOf_subset_only id)

/-- Exporting changes the definitions of the target only. -/
theorem confined_publish (m : Moment σ) (source target : FrameId) :
    m.Confined (.closuresOf target) (m.after (.publish source target)) :=
  ⟨Scopes.confined_publish m.state.scopes source target, rfl⟩

/-- Whatever happens to a new frame alone while it is active is no change outside. -/
theorem Confined.enter_leave {parent : FrameId} {block : Block}
    (hactive : m.state.scopes.active ≠ [])
    (h : (m.after (.enter parent block)).Confined (.only m.state.scopes.next) m') :
    m.Confined .nothing (m'.after .leave) :=
  ⟨h.scopes.enter_leave hactive, h.callDepth⟩

end Moment

/-- The statements of a block with their sites, from the one with the given index on. -/
def Node.located (site : Site) (index : Nat) : List Node → List (Site × Node)
  | [] => []
  | node :: rest => (index :: site, node) :: located site (index + 1) rest

/-- An invariant of runs, with the conditions under which the parts of the evaluator keep it. -/
structure Discipline (settings : Settings σ) where
  /-- Holds at every moment. -/
  holds : Moment σ → Prop
  /-- Statements may be run in a frame. -/
  ready : Moment σ → FrameId → List (Site × Node) → Prop
  /-- A call that stands in a frame is being expanded. -/
  expanding : Moment σ → FrameId → Prop
  /-- A frame was made for a block, and the definitions of the block are not registered yet. -/
  fresh : Moment σ → FrameId → Block → Prop
  /-- A definition may be called. -/
  callable : Moment σ → Closure → Prop
  depth_le : ∀ {m}, holds m → m.state.callDepth ≤ settings.limit
  active_ne : ∀ {m}, holds m → m.state.scopes.active ≠ []
  callable_mem : ∀ {m id closure}, holds m → closure ∈ m.state.scopes.closuresIn id →
    callable m closure
  ready_tail : ∀ {m id first rest}, ready m id (first :: rest) → ready m id rest
  ready_later : ∀ {m m' id nodes}, ready m id nodes → m.Confined (.only id) m' → ready m' id nodes
  expanding_later : ∀ {m m' id}, expanding m id → m.Confined (.closuresOf id) m' → expanding m' id
  fresh_later : ∀ {m m' id block}, fresh m id block → m.Binds id m' → fresh m' id block
  callable_later : ∀ {m m' id closure}, callable m closure →
    m.state.scopes.Confined (.only id) m'.state.scopes → callable m' closure
  /-- Steps of expressions, and events that say nothing about depths. -/
  rehost : ∀ {m host}, holds m → m.state.host.Quiet host →
    holds { m with state := { m.state with host } }
  ruleset_event : ∀ {m id site selectors body span rest text}, holds m →
    ready m id ((site, .ruleset selectors body span) :: rest) →
    holds (m.after (.emit fun state => .evaluatingRuleset text state.scopes.depth))
  expansion_event : ∀ {m id closure text}, holds m → expanding m id → callable m closure →
    holds (m.after (.emit fun state =>
      .expandingMixin text closure.definition.span state.callDepth))
  enter_ruleset : ∀ {m id site selectors body span rest}, holds m →
    ready m id ((site, .ruleset selectors body span) :: rest) →
    holds (m.after (.enter id { site, body })) ∧
      fresh (m.after (.enter id { site, body })) m.state.scopes.next { site, body }
  enter_closure : ∀ {m closure}, holds m → callable m closure →
    holds (m.after (.enter closure.home closure.block)) ∧
      fresh (m.after (.enter closure.home closure.block)) m.state.scopes.next closure.block
  bind : ∀ {m} (id name value), holds m → holds (m.after (.bind id name value))
  hoist : ∀ {m id block}, holds m → fresh m id block → holds (m.after (.hoist id block))
  ready_ruleset : ∀ {m id site selectors body span rest},
    ready m id ((site, .ruleset selectors body span) :: rest) →
    ready ((m.after (.enter id { site, body })).after (.hoist m.state.scopes.next { site, body }))
      m.state.scopes.next (Node.located site 0 body)
  ready_closure : ∀ {m m' id closure}, expanding m id → callable m closure →
    (m.after (.enter closure.home closure.block)).Binds m.state.scopes.next m' →
    ready (m'.after (.hoist m.state.scopes.next closure.block)) m.state.scopes.next
      (Node.located closure.site 0 closure.definition.body)
  leave : ∀ {m}, holds m → holds (m.after .leave)
  publish : ∀ {m m' id}, expanding m id → m.Confined .nothing m' → holds m' →
    holds (m'.after (.publish m.state.scopes.next id))
  count : ∀ {m id site call rest}, holds m → ready m id ((site, .call call) :: rest) →
    m.state.callDepth < settings.limit → holds (m.after .count) ∧ expanding (m.after .count) id
  uncount : ∀ {m}, holds m → holds (m.after .uncount)

namespace Discipline

variable {settings : Settings σ} (D : Discipline settings)

/-- A call is made where it may be run as a statement, and it changes only the definitions there. -/
def contract : Contract σ where
  holds := D.holds
  requires invocation m := D.holds m ∧
    ∃ site rest, D.ready m invocation.frame ((site, .call invocation.call) :: rest)
  ensures invocation m _ m' := D.holds m' ∧ m.Confined (.closuresOf invocation.frame) m'

/-- The invariant holds at the end, the last moment is related to `m`, and a success is as `Φ`
says. -/
def Gives (R : Moment σ → Moment σ → Prop) (Φ : α → Moment σ → Prop) (m : Moment σ)
    (outcome : Except Failure α) (m' : Moment σ) : Prop :=
  D.holds m' ∧ R m m' ∧ ∀ a, outcome = .ok a → Φ a m'

/-- The program keeps the contract for calls at one depth. -/
def Keeps (depth : Nat) (act : EvalM σ α) (R : Moment σ → Moment σ → Prop)
    (Φ : α → Moment σ → Prop) (m : Moment σ) : Prop :=
  act.Meets (D.contract.atDepth depth) m (D.Gives R Φ m)

variable {D} {depth : Nat} {R R' : Moment σ → Moment σ → Prop} {Φ : α → Moment σ → Prop}
  {Ψ : β → Moment σ → Prop} {m m' : Moment σ}

/-! ## Rules -/

/-- A program that changes little changes no more than allowed. -/
theorem Keeps.within {act : EvalM σ α} (h : D.Keeps depth act R Φ m)
    (hR : ∀ m', R m m' → R' m m') : D.Keeps depth act R' Φ m :=
  EvalM.Meets.mono h fun _ m' hgives => ⟨hgives.1, hR m' hgives.2.1, hgives.2.2⟩

/-- A result is given without a step. -/
theorem Keeps.pure {a : α} (hm : D.holds m) (hR : R m m) (ha : Φ a m) :
    D.Keeps depth (Pure.pure a) R Φ m :=
  ⟨hm, hR, by rintro _ ⟨⟩; exact ha⟩

/-- A failure is raised without a step. -/
theorem Keeps.fail {failure : Failure} (hm : D.holds m) (hR : R m m) :
    D.Keeps depth (EvalM.fail failure) R Φ m :=
  ⟨hm, hR, by rintro _ ⟨⟩⟩

/-- Sequencing, for changes that compose. -/
theorem Keeps.bind {act : EvalM σ α} {next : α → EvalM σ β}
    (htrans : ∀ {m' m''}, R m m' → R m' m'' → R m m'') (h : D.Keeps depth act R Φ m)
    (hnext : ∀ a m', D.holds m' → R m m' → Φ a m' → D.Keeps depth (next a) R Ψ m') :
    D.Keeps depth (act >>= next) R Ψ m := by
  refine EvalM.Meets.bind h ?_ ?_
  · rintro failure m' ⟨hm', hR, -⟩
    exact ⟨hm', hR, by rintro _ ⟨⟩⟩
  · rintro a m' ⟨hm', hR, hΦ⟩
    refine EvalM.Meets.mono (hnext a m' hm' hR (hΦ a rfl)) ?_
    rintro outcome m'' ⟨hm'', hR', hΨ⟩
    exact ⟨hm'', htrans hR hR', hΨ⟩

/-- A step and then a program. -/
theorem Keeps.step_bind {first : Step σ α} {next : α → EvalM σ β}
    (htrans : ∀ {m' m''}, R m m' → R m' m'' → R m m'') (hm : D.holds m) (hR : R m (m.after first))
    (h : D.Keeps depth (next (first.apply m.state).1) R Ψ (m.after first)) :
    D.Keeps depth (EvalM.perform first >>= next) R Ψ m := by
  refine EvalM.Meets.step_bind hm (EvalM.Meets.mono h ?_)
  rintro outcome m' ⟨hm', hR', hΨ⟩
  exact ⟨hm', htrans hR hR', hΨ⟩

/-- Reading from the state and then a program. -/
theorem Keeps.inspect_bind {view : State σ → α} {next : α → EvalM σ β} (hm : D.holds m)
    (h : D.Keeps depth (next (view m.state)) R Ψ m) :
    D.Keeps depth (EvalM.perform (.inspect view) >>= next) R Ψ m :=
  EvalM.Meets.step_bind hm h

/-- One step keeps the discipline if the moment after it does. -/
theorem Keeps.perform {first : Step σ Unit} (hm : D.holds m) (hR : R m (m.after first))
    (h : D.holds (m.after first)) :
    D.Keeps depth (EvalM.perform first) R (fun _ _ => True) m :=
  ⟨hm, h, hR, fun _ _ => trivial⟩

/-- What is run in a new frame changes nothing outside. -/
theorem Keeps.inFrame {parent : FrameId} {block : Block} {act : FrameId → EvalM σ α}
    {P : α → Prop} (hm : D.holds m)
    (h : D.Keeps depth (act m.state.scopes.next) (Moment.Confined (.only m.state.scopes.next))
      (fun a _ => P a) (m.after (.enter parent block))) :
    D.Keeps depth (EvalM.inFrame parent block act) (Moment.Confined .nothing)
      (fun a _ => P a) m := by
  refine EvalM.Meets.step_bind hm (EvalM.Meets.followedBy (EvalM.Meets.mono h ?_))
  rintro outcome m' ⟨hm', hR, hP⟩
  exact ⟨hm', D.leave hm', Moment.Confined.enter_leave (D.active_ne hm) hR, hP⟩

/-- What is run as the expansion of a call starts below the limit, with the call counted. -/
theorem Keeps.counted {call : Call} {act : EvalM σ α} {extent : Extent} (hm : D.holds m)
    (h : m.state.callDepth < settings.limit →
      D.Keeps depth act (Moment.Confined extent) (fun _ _ => True) (m.after .count)) :
    D.Keeps depth (EvalM.counted settings call act) (Moment.Confined extent)
      (fun _ _ => True) m := by
  have hcount : (EvalM.countCall settings call).Meets (D.contract.atDepth depth) m
      fun outcome m' =>
        match outcome with
        | .ok _ => m' = m.after .count ∧ m.state.callDepth < settings.limit
        | .error _ => m' = m := by
    -- either the limit is reached and nothing has changed, or one more call is open
    refine EvalM.Meets.step_bind hm ?_
    split
    · rfl
    · next hlimit => exact ⟨hm, rfl, Nat.lt_of_not_le hlimit⟩
  refine EvalM.Meets.bind hcount ?_ ?_
  · rintro failure m' rfl
    exact ⟨hm, .refl _ _, by rintro _ ⟨⟩⟩
  · rintro _ m' ⟨rfl, hlimit⟩
    refine EvalM.Meets.followedBy (EvalM.Meets.mono (h hlimit) ?_)
    -- the count is taken back in the end, whatever the outcome
    rintro outcome m' ⟨hm', hconf, htrue⟩
    exact ⟨hm', D.uncount hm', State.Confined.count_uncount hconf, htrue⟩

/-- An open call is added to failures only. -/
theorem Keeps.through {act : EvalM σ α} (h : D.Keeps depth act R Φ m) (call : OpenCall) :
    D.Keeps depth (act.through call) R Φ m := by
  refine EvalM.Meets.followedBy (EvalM.Meets.mono h ?_)
  rintro (failure | a) m' ⟨hm', hR, hΦ⟩
  · exact ⟨hm', hR, by rintro _ ⟨⟩⟩
  · exact ⟨hm', hR, by rintro _ ⟨⟩; exact hΦ a rfl⟩

end Discipline

end MixinSheet
