import MixinSheet.Evaluation.Expansion

/-!
# Two runs side by side

A `Coupling` relates the states of two runs of the same statements, which may differ in their
settings, in the selectors around and in what was collected before. What has to be shown of it is
local: related states stay related when both runs take the same step, and names that are looked up
give the same in both. From this follows that the runs give the same outcome and add the same to
what they have collected.

Not every frame has to be related. Statements run only in frames that may be written, and look up
names only from frames that may be read. Nor does every statement have to be: only definitions that
may be called are ever found, and these lead to statements that may be run. Some failures of the
first run may be excused: after one of them nothing is said about the second run.

## Key results

- `Coupling.Alike.followedBy`: what comes after matching outcomes, from which sequencing follows
- `Coupling.Alike.inFrame`: what is run in a new frame
- `Coupling.Alike.counted`: what is run as the expansion of a call
-/

namespace MixinSheet

open Evaluation

variable {σ α α' β β' : Type}

/-- What two runs have come to: related successes, the same failure, or an excused one of the first
run. -/
inductive Matches (states : State σ → State σ → Prop) (excused : Failure → Prop)
    (Φ : α → α' → Prop) : Except Failure α × State σ → Except Failure α' × State σ → Prop
  | ok {a : α} {a' : α'} {s t : State σ} (ha : Φ a a') (hst : states s t) :
      Matches states excused Φ (.ok a, s) (.ok a', t)
  | error {failure : Failure} {s t : State σ} (hst : states s t) :
      Matches states excused Φ (.error failure, s) (.error failure, t)
  | excused {failure : Failure} {s : State σ} {result : Except Failure α' × State σ}
      (h : excused failure) : Matches states excused Φ (.error failure, s) result

/-- How the selectors around matching statements of two runs belong together. Only statements that
may be run are ever nested. -/
structure Contexts (runnable : List Node → Prop) where
  related : List Selector → List Selector → Prop
  isEmpty : ∀ {context context'}, related context context' → context.isEmpty = context'.isEmpty
  nestAll : ∀ {context context' selectors body span rest}, related context context' →
    runnable (.ruleset selectors body span :: rest) →
    related (Selector.nestAll context selectors) (Selector.nestAll context' selectors)

instance {runnable : List Node → Prop} :
    CoeFun (Contexts runnable) fun _ => List Selector → List Selector → Prop :=
  ⟨Contexts.related⟩

/-- The selectors around are the same in both runs. -/
def Contexts.equal (runnable : List Node → Prop) : Contexts runnable where
  related := Eq
  isEmpty hcontext := congrArg _ hcontext
  nestAll hcontext _ := congrArg (Selector.nestAll · _) hcontext

/-- Two runs of the same statements, and what they have in common. -/
structure Coupling (σ : Type) where
  left : Settings σ
  right : Settings σ
  /-- The states of the two runs belong together. -/
  states : State σ → State σ → Prop
  /-- Names may be looked up from the frame. -/
  reads : FrameId → Prop
  /-- Statements may be run in the frame. -/
  writes : FrameId → Prop
  /-- The definition may be called. -/
  callable : Closure → Prop
  /-- The statements may be run. -/
  runnable : List Node → Prop
  /-- The selectors around belong together. -/
  contexts : Contexts runnable
  /-- After this failure of the first run, nothing is said about the second one. -/
  excused : Failure → Prop
  reads_of_writes : ∀ {id}, writes id → reads id
  reads_of_callable : ∀ {closure}, callable closure → reads closure.home
  runnable_of_callable : ∀ {closure}, callable closure → runnable closure.definition.body
  runnable_tail : ∀ {node rest}, runnable (node :: rest) → runnable rest
  runnable_ruleset : ∀ {selectors body span rest},
    runnable (.ruleset selectors body span :: rest) → runnable body
  excused_through : ∀ {failure} (call), excused failure → excused (failure.through call)
  next_eq : ∀ {s t}, states s t → s.scopes.next = t.scopes.next
  writes_next : ∀ {s t}, states s t → writes s.scopes.next
  evaluate : ∀ {s t id} (expression : Expression), states s t → reads id →
    Matches states excused Eq
      ((Step.observe fun scopes => expression.evaluate left scopes id).apply s)
      ((Step.observe fun scopes => expression.evaluate right scopes id).apply t)
  evaluateAll : ∀ {s t id} (expressions : List Expression), states s t → reads id →
    Matches states excused Eq
      ((Step.observe fun scopes => Expression.evaluateAll left scopes id expressions).apply s)
      ((Step.observe fun scopes => Expression.evaluateAll right scopes id expressions).apply t)
  visible : ∀ {s t id} (name), states s t → reads id →
    s.scopes.visible id name = t.scopes.visible id name ∧
      ∀ closure ∈ s.scopes.visible id name, callable closure
  closuresIn : ∀ {s t id}, states s t → reads id →
    s.scopes.closuresIn id = t.scopes.closuresIn id ∧
      ∀ closure ∈ s.scopes.closuresIn id, callable closure
  emit : ∀ {s t} (event event'), states s t → states (s.emit event) (t.emit event')
  enter : ∀ {s t parent}, states s t → reads parent →
    states (s.mapScopes (·.push parent)) (t.mapScopes (·.push parent))
  leave : ∀ {s t}, states s t → states (s.mapScopes Scopes.pop) (t.mapScopes Scopes.pop)
  bind : ∀ {s t id} (name value), states s t → writes id →
    states (s.mapScopes (·.bind id name value)) (t.mapScopes (·.bind id name value))
  hoist : ∀ {s t id body} (site), states s t → writes id → runnable body →
    states (s.mapScopes (·.hoist id site body)) (t.mapScopes (·.hoist id site body))
  publish : ∀ {s t source target}, states s t → reads source → writes target →
    states (s.mapScopes (·.publish source target)) (t.mapScopes (·.publish source target))
  count : ∀ {s t}, states s t → s.callDepth < left.limit →
    t.callDepth < right.limit ∧ states s.countCall t.countCall
  uncount : ∀ {s t}, states s t → states s.uncountCall t.uncountCall
  refuse : ∀ {s t} (call), states s t → left.limit ≤ s.callDepth →
    excused (EvalM.limitFailure left call) ∨
      right.limit ≤ t.callDepth ∧ EvalM.limitFailure left call = EvalM.limitFailure right call

namespace Coupling

/-- Two programs come to matching outcomes from related states, given how calls are run. -/
def Alike (C : Coupling σ) (runCall runCall' : CallRunner σ) (Φ : α → α' → Prop)
    (act : EvalM σ α) (act' : EvalM σ α') : Prop :=
  ∀ s t, C.states s t →
    Matches C.states C.excused Φ (act.runWith runCall s) (act'.runWith runCall' t)

variable {C : Coupling σ} {runCall runCall' : CallRunner σ} {Φ : α → α' → Prop}
  {Ψ : β → β' → Prop} {act : EvalM σ α} {act' : EvalM σ α'}

/-! ## Rules -/

/-- What is known of the results can be weakened. -/
theorem Alike.mono {Φ' : α → α' → Prop} (h : C.Alike runCall runCall' Φ act act')
    (hΦ : ∀ a a', Φ a a' → Φ' a a') : C.Alike runCall runCall' Φ' act act' := by
  intro s t hst
  have hact := h s t hst
  generalize act.runWith runCall s = result at hact ⊢
  generalize act'.runWith runCall' t = result' at hact ⊢
  cases hact with
  | ok ha hst' => exact .ok (hΦ _ _ ha) hst'
  | error hst' => exact .error hst'
  | excused hexcused => exact .excused hexcused

/-- Results that belong together may be given. -/
theorem Alike.pure {a : α} {a' : α'} (ha : Φ a a') :
    C.Alike runCall runCall' Φ (Pure.pure a) (Pure.pure a') :=
  fun _ _ hst => .ok ha hst

/-- Both evaluations may fail with the same failure. -/
theorem Alike.fail (failure : Failure) :
    C.Alike runCall runCall' Φ (EvalM.fail failure) (EvalM.fail failure) :=
  fun _ _ hst => .error hst

/-- What comes after matching outcomes. After an excused failure the second run may be anywhere, so
there the first run alone has to come to an excused failure again. -/
theorem Alike.followedBy {next : Except Failure α → EvalM σ β}
    {next' : Except Failure α' → EvalM σ β'} (h : C.Alike runCall runCall' Φ act act')
    (hok : ∀ a a', Φ a a' → C.Alike runCall runCall' Ψ (next (.ok a)) (next' (.ok a')))
    (herror : ∀ failure,
      C.Alike runCall runCall' Ψ (next (.error failure)) (next' (.error failure)))
    (hexcused : ∀ failure, C.excused failure → ∀ s result,
      Matches C.states C.excused Ψ ((next (.error failure)).runWith runCall s) result) :
    C.Alike runCall runCall' Ψ (act.followedBy next) (act'.followedBy next') := by
  intro s t hst
  rw [EvalM.runWith_followedBy, EvalM.runWith_followedBy]
  have hact := h s t hst
  generalize act.runWith runCall s = result at hact ⊢
  generalize act'.runWith runCall' t = result' at hact ⊢
  cases hact with
  | ok ha hst' => exact hok _ _ ha _ _ hst'
  | error hst' => exact herror _ _ _ hst'
  | excused hfailure => exact hexcused _ hfailure _ _

/-- Sequencing. -/
theorem Alike.bind {next : α → EvalM σ β} {next' : α' → EvalM σ β'}
    (h : C.Alike runCall runCall' Φ act act')
    (hnext : ∀ a a', Φ a a' → C.Alike runCall runCall' Ψ (next a) (next' a')) :
    C.Alike runCall runCall' Ψ (act >>= next) (act' >>= next') :=
  .followedBy h hnext (fun failure => .fail failure) fun _ hfailure _ _ => .excused hfailure

/-- The same kind of step in both runs. -/
theorem Alike.perform {first : Step σ α} {first' : Step σ α'}
    (h : ∀ {s t}, C.states s t → Φ (first.apply s).1 (first'.apply t).1 ∧
      C.states (first.apply s).2 (first'.apply t).2) :
    C.Alike runCall runCall' Φ (EvalM.perform first) (EvalM.perform first') :=
  fun _ _ hst => .ok (h hst).1 (h hst).2

/-- Cleaning up keeps the outcome. -/
theorem Alike.ensuring {cleanup : Step σ Unit} (h : C.Alike runCall runCall' Φ act act')
    (hcleanup : ∀ {s t}, C.states s t → C.states (cleanup.apply s).2 (cleanup.apply t).2) :
    C.Alike runCall runCall' Φ (act.ensuring cleanup) (act'.ensuring cleanup) :=
  .followedBy h (fun _ _ ha _ _ hst => .ok ha (hcleanup hst))
    (fun _ _ _ hst => .error (hcleanup hst)) fun _ hfailure _ _ => .excused hfailure

/-- The same open call is added to both failures. -/
theorem Alike.through (h : C.Alike runCall runCall' Φ act act') (call : OpenCall) :
    C.Alike runCall runCall' Φ (act.through call) (act'.through call) :=
  .followedBy h (fun _ _ ha _ _ hst => .ok ha hst) (fun _ _ _ hst => .error hst)
    fun _ hfailure _ _ => .excused (C.excused_through call hfailure)

/-- Both runs make the same new frame, which may be written. -/
theorem Alike.inFrame {parent : FrameId} {block : Block} {run : FrameId → EvalM σ α}
    {run' : FrameId → EvalM σ α'} (hparent : C.reads parent)
    (h : ∀ id, C.writes id → C.Alike runCall runCall' Φ (run id) (run' id)) :
    C.Alike runCall runCall' Φ (EvalM.inFrame parent block run)
      (EvalM.inFrame parent block run') := by
  have henter : C.Alike runCall runCall' (fun id id' => id = id' ∧ C.writes id)
      (EvalM.perform (.enter parent block)) (EvalM.perform (.enter parent block)) :=
    .perform fun hst => ⟨⟨C.next_eq hst, C.writes_next hst⟩, C.enter hst hparent⟩
  refine .bind henter ?_
  rintro id _ ⟨rfl, hwrites⟩
  exact .ensuring (h id hwrites) C.leave

/-- Both runs refuse the call, or both run what it leads to. -/
theorem Alike.counted (h : C.Alike runCall runCall' Φ act act') (call : Call) :
    C.Alike runCall runCall' Φ (EvalM.counted C.left call act)
      (EvalM.counted C.right call act') := by
  have hcount : C.Alike runCall runCall' (fun _ _ => True) (EvalM.countCall C.left call)
      (EvalM.countCall C.right call) := by
    intro s t hst
    change Matches C.states C.excused _
      ((if C.left.limit ≤ s.callDepth then EvalM.fail (EvalM.limitFailure C.left call)
        else EvalM.perform Step.count).runWith runCall s)
      ((if C.right.limit ≤ t.callDepth then EvalM.fail (EvalM.limitFailure C.right call)
        else EvalM.perform Step.count).runWith runCall' t)
    -- at the limit the left run refuses; the right run refuses alike, or the refusal is excused
    by_cases hlimit : C.left.limit ≤ s.callDepth
    · rw [if_pos hlimit]
      rcases C.refuse call hst hlimit with hexcused | ⟨hlimit', hfailure⟩
      · exact .excused hexcused
      · rw [if_pos hlimit', ← hfailure]
        exact .error hst
    · -- below it both calls are counted
      obtain ⟨hlimit', hst'⟩ := C.count hst (Nat.lt_of_not_le hlimit)
      rw [if_neg hlimit, if_neg (Nat.not_le_of_lt hlimit')]
      exact .ok trivial hst'
  exact .bind hcount fun _ _ _ => .ensuring h C.uncount

end Coupling

end MixinSheet
