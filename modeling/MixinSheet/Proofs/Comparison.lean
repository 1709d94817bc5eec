import MixinSheet.Proofs.Expression
import MixinSheet.Proofs.Lockstep

/-!
# Runs from states that agree

Two runs that start with the same frames, the same call depth and the same state of the native
functions stay together in all of this as long as every expression has the same value in both. So to
compare two ways of running the same statements, one has to look at single expressions, at the
selectors around, and at the limit of calls: this is what a `Comparison` asks for. A restriction on
the statements is carried along, for it has to hold of every definition that a call may find.

## Key results

- `Comparison.coupling`: what a comparison asks for makes a coupling
- `Comparison.run_matches`: whole runs come to matching outcomes, however deeply calls are nested
-/

namespace MixinSheet

open Evaluation

variable {σ α β : Type}

/-- Two evaluations come to the same, unless the first one fails in a way that is excused. -/
def Host.SameUnless (excused : Failure → Prop) (result result' : Except Failure α × Host σ) :
    Prop :=
  Host.Same result result' ∨ ∃ failure, result.1 = .error failure ∧ excused failure

/-- Evaluations in a row are the same unless one of them fails with an excuse. -/
theorem HostM.sameUnless_bind {excused : Failure → Prop} {act act' : HostM σ α}
    {next next' : α → HostM σ β} {host host' : Host σ}
    (hact : Host.SameUnless excused (act host) (act' host'))
    (hnext : ∀ a after after', after.natives = after'.natives →
      Host.SameUnless excused (next a after) (next' a after')) :
    Host.SameUnless excused ((act >>= next) host) ((act' >>= next') host') := by
  rw [bind_apply, bind_apply]
  rcases h : act host with ⟨result, after⟩
  rcases h' : act' host' with ⟨result', after'⟩
  rw [h, h'] at hact
  rcases hact with ⟨hresult, hnatives⟩ | ⟨failure, hresult, hexcused⟩
  · simp only at hresult hnatives
    subst hresult
    cases result with
    | error failure => exact .inl ⟨rfl, hnatives⟩
    | ok a => exact hnext a after after' hnatives
  · -- an excused failure of the first part is one of the whole
    simp only at hresult
    subst hresult
    exact .inr ⟨failure, rfl, hexcused⟩

/-- Two states differ at most in their events, and the body of every definition that is registered
may be run. -/
structure State.Agrees (runnable : List Node → Prop) (s t : State σ) : Prop where
  scopes : s.scopes = t.scopes
  callDepth : s.callDepth = t.callDepth
  natives : s.host.natives = t.host.natives
  bodies : ∀ id, ∀ closure ∈ s.scopes.closuresIn id, runnable closure.definition.body

namespace State.Agrees

variable {runnable : List Node → Prop} {s t : State σ}

/-- Both states change their scopes in the same way. -/
theorem mapScopes (h : s.Agrees runnable t) (f : Scopes → Scopes)
    (hbodies : ∀ id, ∀ closure ∈ (f s.scopes).closuresIn id, runnable closure.definition.body) :
    (s.mapScopes f).Agrees runnable (t.mapScopes f) :=
  ⟨congrArg f h.scopes, h.callDepth, h.natives, hbodies⟩

/-- Whatever is visible may be run. -/
private theorem body_of_mem_visible (h : s.Agrees runnable t) {id : FrameId} {name : String}
    {closure : Closure} (hmem : closure ∈ s.scopes.visible id name) :
    runnable closure.definition.body := by
  obtain ⟨ancestor, -, hregistered⟩ := Scopes.exists_mem_closuresIn_of_mem_visible hmem
  exact h.bodies ancestor closure hregistered

/-- A step that sees the same scopes in both states and comes to the same. -/
theorem observe {excused : Failure → Prop} {act act' : Scopes → HostM σ α}
    (h : s.Agrees runnable t)
    (hsame : Host.SameUnless excused (act s.scopes s.host) (act' t.scopes t.host)) :
    Matches (State.Agrees runnable) excused Eq ((Step.observe act).apply s)
      ((Step.observe act').apply t) := by
  simp only [Step.apply]
  generalize act s.scopes s.host = after at hsame ⊢
  generalize act' t.scopes t.host = after' at hsame ⊢
  obtain ⟨result, host⟩ := after
  obtain ⟨result', host'⟩ := after'
  -- the two runs give one result, or the first one fails with an excused failure
  rcases hsame with ⟨hresult, hnatives⟩ | ⟨failure, hresult, hexcused⟩
  · obtain rfl : result = result' := hresult
    cases result with
    | ok value => exact .ok rfl ⟨h.scopes, h.callDepth, hnatives, h.bodies⟩
    | error failure => exact .error ⟨h.scopes, h.callDepth, hnatives, h.bodies⟩
  · obtain rfl : result = .error failure := hresult
    exact .excused hexcused

end State.Agrees

/-- Two ways of running the same statements: what may differ, and why it makes no difference. -/
structure Comparison (σ : Type) where
  left : Settings σ
  right : Settings σ
  /-- The statements may be run. -/
  runnable : List Node → Prop
  /-- The selectors around belong together. -/
  contexts : Contexts runnable
  /-- After this failure of the first run, nothing is said about the second one. -/
  excused : Failure → Prop
  runnable_tail : ∀ {node rest}, runnable (node :: rest) → runnable rest
  runnable_body : ∀ {node rest definition}, runnable (node :: rest) →
    node.definition? = some definition → runnable definition.body
  excused_through : ∀ {failure} (call), excused failure → excused (failure.through call)
  evaluate : ∀ (scopes : Scopes) (frame : FrameId) (expression : Expression) {host host' : Host σ},
    host.natives = host'.natives → Host.SameUnless excused
      (expression.evaluate left scopes frame host) (expression.evaluate right scopes frame host')
  limit_le : left.limit ≤ right.limit
  limit : (∀ call, excused (EvalM.limitFailure left call)) ∨
    left.limit = right.limit ∧
      ∀ call, EvalM.limitFailure left call = EvalM.limitFailure right call

namespace Comparison

variable {K : Comparison σ}

/-- Expressions in a row come to the same if each one does. -/
theorem evaluateAll (K : Comparison σ) (scopes : Scopes) (frame : FrameId)
    (expressions : List Expression) {host host' : Host σ} (h : host.natives = host'.natives) :
    Host.SameUnless K.excused (Expression.evaluateAll K.left scopes frame expressions host)
      (Expression.evaluateAll K.right scopes frame expressions host') := by
  induction expressions generalizing host host' with
  | nil => exact .inl ⟨rfl, h⟩
  | cons expression rest ih =>
    rw [Expression.evaluateAll, Expression.evaluateAll]
    refine HostM.sameUnless_bind (K.evaluate scopes frame expression h)
      fun value after after' hafter => ?_
    exact HostM.sameUnless_bind (ih hafter) fun values last last' hlast => .inl ⟨rfl, hlast⟩

/-- The definitions of a block that may be run have bodies that may be run. -/
private theorem runnable_of_mem_definitionsFrom {site site' : Site} {index : Nat} {body : List Node}
    {definition : Definition} (h : K.runnable body)
    (hmem : (site', definition) ∈ Node.definitionsFrom site index body) :
    K.runnable definition.body := by
  induction body generalizing index with
  | nil => exact absurd hmem List.not_mem_nil
  | cons node rest ih =>
    have hrest := K.runnable_tail h
    rw [Node.definitionsFrom] at hmem
    -- a definition of the block is that of its first node or one of a later node
    cases hdef : node.definition? with
    | none =>
      rw [hdef] at hmem
      exact ih hrest hmem
    | some found =>
      rw [hdef] at hmem
      rcases List.mem_cons.1 hmem with heq | hlater
      · obtain ⟨-, rfl⟩ := Prod.mk.inj heq
        exact K.runnable_body h hdef
      · exact ih hrest hlater

/-- Hoisting a block that may be run keeps states in agreement. -/
private theorem agrees_hoist {s t : State σ} {body : List Node} (h : s.Agrees K.runnable t)
    (hbody : K.runnable body) (id : FrameId) (site : Site) :
    (s.mapScopes (·.hoist id site body)).Agrees K.runnable
      (t.mapScopes (·.hoist id site body)) := by
  refine h.mapScopes _ fun other closure hmem => ?_
  rcases Scopes.mem_closuresIn_hoist hmem with hold | hnew
  · exact h.bodies other closure hold
  · obtain ⟨⟨site', definition⟩, hdefined, rfl⟩ := List.mem_map.1 hnew
    exact runnable_of_mem_definitionsFrom hbody hdefined

/-- Exporting keeps states in agreement. -/
private theorem agrees_publish {s t : State σ} (h : s.Agrees K.runnable t)
    (source target : FrameId) :
    (s.mapScopes (·.publish source target)).Agrees K.runnable
      (t.mapScopes (·.publish source target)) := by
  refine h.mapScopes _ fun other closure hmem => ?_
  rcases Scopes.mem_closuresIn_publish hmem with hfrom | hold
  · exact h.bodies source closure hfrom
  · exact h.bodies other closure hold

/-- All frames may be read and written, for the two runs agree on all of them. -/
def coupling (K : Comparison σ) : Coupling σ where
  left := K.left
  right := K.right
  states := State.Agrees K.runnable
  reads _ := True
  writes _ := True
  callable closure := K.runnable closure.definition.body
  runnable := K.runnable
  contexts := K.contexts
  excused := K.excused
  reads_of_writes _ := trivial
  reads_of_callable _ := trivial
  runnable_of_callable hclosure := hclosure
  runnable_tail := K.runnable_tail
  runnable_ruleset hnodes := K.runnable_body hnodes rfl
  excused_through := K.excused_through
  next_eq hst := congrArg Scopes.next hst.scopes
  writes_next _ := trivial
  evaluate expression hst _ :=
    hst.observe (hst.scopes ▸ K.evaluate _ _ expression hst.natives)
  evaluateAll expressions hst _ :=
    hst.observe (hst.scopes ▸ K.evaluateAll _ _ expressions hst.natives)
  visible name hst _ := ⟨by rw [hst.scopes], fun _ hmem => hst.body_of_mem_visible hmem⟩
  closuresIn hst _ := ⟨by rw [hst.scopes], hst.bodies _⟩
  emit _ _ hst := ⟨hst.scopes, hst.callDepth, hst.natives, hst.bodies⟩
  enter hst _ := hst.mapScopes _ fun id closure hmem =>
    hst.bodies id closure (Scopes.closuresIn_push _ _ id ▸ hmem)
  leave hst := hst.mapScopes _ fun id closure hmem =>
    hst.bodies id closure (Scopes.closuresIn_pop _ id ▸ hmem)
  bind name value hst _ := hst.mapScopes _ fun id closure hmem =>
    hst.bodies id closure (Scopes.closuresIn_bind _ _ id name value ▸ hmem)
  hoist site hst _ hbody := agrees_hoist hst hbody _ site
  publish hst _ _ := agrees_publish hst _ _
  count hst hlimit := ⟨Nat.lt_of_lt_of_le (hst.callDepth ▸ hlimit) K.limit_le,
    hst.scopes, congrArg (· + 1) hst.callDepth, hst.natives, hst.bodies⟩
  uncount hst := ⟨hst.scopes, congrArg (· - 1) hst.callDepth, hst.natives, hst.bodies⟩
  refuse call hst hlimit := K.limit.imp (fun hexcused => hexcused call)
    fun ⟨heq, hfailure⟩ => ⟨heq ▸ hst.callDepth ▸ hlimit, hfailure call⟩

/-- Calls from states that agree collect the same: the budget of each run goes beyond its limit. -/
private theorem calls_budget {s t : State σ} (h : s.callDepth = t.callDepth) :
    K.coupling.Calls (callRunner K.left (budget K.left s))
      (callRunner K.right (budget K.right t)) := by
  have hbudget : budget K.left s ≤ budget K.right t := by
    have hlimit := K.limit_le
    simp only [budget, h]
    omega
  have hlimit := K.limit.imp_right fun ⟨heq, hfailure⟩ =>
    And.intro (show budget K.left s = budget K.right t by simp only [budget, heq, h]) hfailure
  intro call context context' frame out out'
  exact K.coupling.calls_callRunner hbudget hlimit

/-- Programs that come to matching outcomes, given how calls are run, do so in whole runs. -/
theorem run_matches {Φ : α → β → Prop} {act : EvalM σ α} {act' : EvalM σ β} {s t : State σ}
    (hst : s.Agrees K.runnable t)
    (h : ∀ runCall runCall', K.coupling.Calls runCall runCall' →
      K.coupling.Alike runCall runCall' Φ act act') :
    Matches (State.Agrees K.runnable) K.excused Φ (act.run K.left s) (act'.run K.right t) :=
  h _ _ (calls_budget hst.callDepth) s t hst

end Comparison

end MixinSheet
