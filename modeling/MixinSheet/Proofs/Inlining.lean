import MixinSheet.Proofs.Confinement
import MixinSheet.Proofs.Sketch

/-!
# Inlining of calls

A call puts what the definitions it resolves to give in its own place. What was collected before
the call is handed through all of them, yet none looks at it: running a program that collects adds
to what was there what it would have collected from nothing. A call is therefore the same as its
expansions one by one, each from nothing and from the state that the one before it left.

## Key results

- `WriteOnly`: a program only adds to what was collected before
- `writeOnly_callRunner`: so do calls, however deeply they are nested
- `call_inlines_expansions`: what a call gives is what its expansions give, in order
-/

namespace MixinSheet

open Evaluation

variable {σ α β γ : Type}

namespace Collected

/-- What was collected first, and what was collected after it. -/
instance : Append Collected where
  append first more :=
    { declarations := first.declarations ++ more.declarations
      nested := first.nested ++ more.nested }

/-- Collections are joined part by part. -/
private theorem append_eq (first more : Collected) :
    first ++ more =
      { declarations := first.declarations ++ more.declarations,
        nested := first.nested ++ more.nested } := rfl

/-- Nothing is joined to a collection by an empty one. -/
@[simp] theorem append_empty (first : Collected) : first ++ ({} : Collected) = first := by
  simp [append_eq]

/-- A declaration is added at the end. -/
private theorem append_declare (first more : Collected) (declaration : FlatDeclaration) :
    (first ++ more).declare declaration = first ++ more.declare declaration := by
  simp [append_eq, declare]

/-- Rules are added at the end. -/
private theorem append_nest (first more : Collected) (rules : List FlatRule) :
    (first ++ more).nest rules = first ++ more.nest rules := by
  simp [append_eq, nest]

end Collected

/-- The result of a run with its success changed; a failure and the state stay. -/
def mapSuccess (f : α → β) (result : Except Failure α × State σ) : Except Failure β × State σ :=
  (result.1.map f, result.2)

/-- A result that was mapped and succeeded has succeeded before. -/
private theorem exists_of_mapSuccess_eq_ok {f : α → β} {result : Except Failure α × State σ} {b : β}
    {s : State σ} (h : mapSuccess f result = (.ok b, s)) : ∃ a, result = (.ok a, s) ∧ f a = b := by
  obtain ⟨outcome, after⟩ := result
  cases outcome with
  | error failure => simp [mapSuccess, Except.map] at h
  | ok a =>
    simp only [mapSuccess, Except.map, Prod.mk.injEq, Except.ok.injEq] at h
    exact ⟨a, by rw [h.2], h.1⟩

/-! ## Programs that only add -/

/-- The program does nothing with what was collected before but to add to it. How something
collected earlier is put in front of an answer is given by `put`. -/
def WriteOnly (runCall : CallRunner σ) (put : Collected → β → β) (act : Collected → EvalM σ β) :
    Prop :=
  ∀ first more s, (act (first ++ more)).runWith runCall s =
    mapSuccess (put first) ((act more).runWith runCall s)

/-- Calls do nothing with what was collected before but to add to it. -/
def WriteOnlyCalls (runCall : CallRunner σ) : Prop :=
  ∀ call context frame first more s,
    runCall { call, context, frame, out := first ++ more } s =
      mapSuccess (first ++ ·) (runCall { call, context, frame, out := more } s)

namespace WriteOnly

variable {runCall : CallRunner σ} {put : Collected → β → β} {put' : Collected → γ → γ}
  {act : Collected → EvalM σ β}

/-- A result that adds at the end may be given. -/
theorem pure {f : Collected → β} (h : ∀ first more, f (first ++ more) = put first (f more)) :
    WriteOnly runCall put fun out => Pure.pure (f out) := by
  intro first more s
  simp only [h]
  rfl

/-- A failure adds nothing. -/
theorem fail (failure : Failure) : WriteOnly runCall put fun _ => EvalM.fail failure :=
  fun _ _ _ => rfl

/-- What comes after a program sees its outcome only through what was collected. -/
theorem followedBy {next : Except Failure β → EvalM σ γ} (h : WriteOnly runCall put act)
    (hnext : ∀ first outcome s, (next (outcome.map (put first))).runWith runCall s =
      mapSuccess (put' first) ((next outcome).runWith runCall s)) :
    WriteOnly runCall put' fun out => (act out).followedBy next := by
  intro first more s
  rw [EvalM.runWith_followedBy, EvalM.runWith_followedBy, h first more s]
  exact hnext first _ _

/-- Sequencing. -/
theorem bind {next : β → EvalM σ γ} (h : WriteOnly runCall put act)
    (hnext : ∀ first b s, (next (put first b)).runWith runCall s =
      mapSuccess (put' first) ((next b).runWith runCall s)) :
    WriteOnly runCall put' fun out => act out >>= next := by
  refine followedBy h fun first outcome s => ?_
  cases outcome with
  | ok b => exact hnext first b s
  | error failure => rfl

/-- A program before that does not collect. -/
theorem after (before : EvalM σ α) {next : α → Collected → EvalM σ β}
    (h : ∀ a, WriteOnly runCall put (next a)) :
    WriteOnly runCall put fun out => before >>= fun a => next a out := by
  intro first more s
  simp only [EvalM.runWith_bind]
  cases before.runWith runCall s with
  | mk outcome s' =>
    cases outcome with
    | ok a => exact h a first more s'
    | error failure => rfl

/-- Cleaning up does not look at what was collected. -/
theorem ensuring (h : WriteOnly runCall put act) (cleanup : Step σ Unit) :
    WriteOnly runCall put fun out => (act out).ensuring cleanup :=
  followedBy h fun _ _ _ => rfl

/-- Naming the call of a failure does not look at what was collected. -/
theorem through (h : WriteOnly runCall put act) (call : OpenCall) :
    WriteOnly runCall put fun out => (act out).through call := by
  refine followedBy h fun first outcome s => ?_
  cases outcome with
  | ok b => rfl
  | error failure => rfl

/-- A frame is entered without looking at what was collected. -/
theorem inFrame {act : FrameId → Collected → EvalM σ β} (parent : FrameId) (block : Block)
    (h : ∀ frame, WriteOnly runCall put (act frame)) :
    WriteOnly runCall put fun out => EvalM.inFrame parent block fun frame => act frame out :=
  after _ fun frame => (h frame).ensuring .leave

/-- Counting a call does not look at what was collected. -/
theorem counted (settings : Settings σ) (call : Call) (h : WriteOnly runCall put act) :
    WriteOnly runCall put fun out => EvalM.counted settings call (act out) :=
  after _ fun _ => h.ensuring .uncount

end WriteOnly

/-! ## The parts of the evaluator -/

section Parts

variable {runCall : CallRunner σ} (settings : Settings σ)

/-- A declaration is added to whatever was collected before. -/
private theorem writeOnly_runDeclaration (context : List Selector) (frame : FrameId)
    (declaration : Declaration) :
    WriteOnly runCall (· ++ ·) fun out =>
      runDeclaration settings context frame out declaration := by
  by_cases hcontext : context.isEmpty = true
  · simp only [runDeclaration, hcontext, if_true]
    exact .fail _
  · simp only [runDeclaration, hcontext]
    exact .after _ fun value => .pure fun first more => first.append_declare more _

variable (hcalls : WriteOnlyCalls runCall)

include hcalls

/-- A statement adds to whatever was collected before. -/
private theorem writeOnly_runNode (context : List Selector) (frame : FrameId) (site : Site)
    (node : Node) :
    WriteOnly runCall (· ++ ·) fun out => runNode settings context frame site out node := by
  cases node with
  | assignment assignment =>
    simp only [runNode]
    exact .after _ fun _ => .pure fun _ _ => rfl
  | declaration declaration =>
    simp only [runNode]
    exact writeOnly_runDeclaration settings context frame declaration
  | call call =>
    intro first more s
    simp only [runNode, EvalM.runWith]
    exact hcalls call context frame first more s
  | ruleset selectors body span =>
    -- the rules inside are collected from nothing, whatever is there before
    simp only [runNode]
    exact .after _ fun rules => .pure fun first more => first.append_nest more rules
  | mixin mixin =>
    simp only [runNode]
    exact .pure fun _ _ => rfl

/-- The statements of a block add to whatever was collected before. -/
private theorem writeOnly_runBody (context : List Selector) (frame : FrameId) (site : Site)
    (index : Nat) (nodes : List Node) :
    WriteOnly runCall (· ++ ·) fun out => runBody settings context frame site index out nodes := by
  induction nodes generalizing index with
  | nil =>
    simp only [runBody]
    exact .pure fun _ _ => rfl
  | cons node rest ih =>
    simp only [runBody]
    exact .bind (writeOnly_runNode settings hcalls context frame (index :: site) node)
      (ih (index + 1))

/-- The body of a definition adds to whatever was collected before. -/
private theorem writeOnly_runDefinitionBody (closure : Closure) (args : List Value)
    (context : List Selector) (frame : FrameId) :
    WriteOnly runCall (· ++ ·) fun out =>
      runDefinitionBody settings closure args context frame out := by
  have hbody := writeOnly_runBody settings hcalls context frame closure.site 0
    closure.definition.body
  exact .after _ fun _ => .after _ fun _ => hbody

/-- A definition adds to whatever was collected before. -/
private theorem writeOnly_runDefinition (call : Call) (closure : Closure) (args : List Value)
    (context : List Selector) (caller : FrameId) :
    WriteOnly runCall (· ++ ·) fun out =>
      runDefinition settings call closure args context caller out := by
  -- the body answers with the number of its frame beside what it collected
  have hbody : ∀ frame, WriteOnly runCall (fun first answer => (answer.1, first ++ answer.2))
      fun out => do
        return (frame, ← runDefinitionBody settings closure args context frame out) :=
    fun frame => .bind (writeOnly_runDefinitionBody settings hcalls closure args context frame)
      fun _ _ _ => rfl
  have hframe := (WriteOnly.inFrame closure.home closure.block hbody).through
    { text := call.text, span := call.span }
  exact .after _ fun _ => hframe.bind fun _ _ _ => rfl

/-- Definitions in a row add to whatever was collected before. -/
private theorem writeOnly_runDefinitions (call : Call) (args : List Value) (context : List Selector)
    (caller : FrameId) (closures : List Closure) :
    WriteOnly runCall (· ++ ·) fun out =>
      runDefinitions settings call args context caller out closures := by
  induction closures with
  | nil => exact .pure fun _ _ => rfl
  | cons closure rest ih =>
    exact .bind (writeOnly_runDefinition settings hcalls call closure args context caller) ih

/-- A call adds to whatever was collected before, if the calls in it do. -/
private theorem writeOnly_runCall (call : Call) (context : List Selector) (frame : FrameId) :
    WriteOnly runCall (· ++ ·) fun out =>
      Evaluation.runCall settings { call, context, frame, out } := by
  have hexpanded := fun args targets =>
    writeOnly_runDefinitions settings hcalls call args context frame targets
  exact .after _ fun args => .after _ fun targets => .counted settings call (hexpanded args targets)

end Parts

/-- Calls only add, however deeply they are nested. -/
theorem writeOnly_callRunner (settings : Settings σ) (budget : Nat) :
    WriteOnlyCalls (callRunner settings budget) := by
  induction budget with
  | zero => exact fun _ _ _ _ _ _ => rfl
  | succ budget ih => exact writeOnly_runCall settings ih

/-- What is collected is what was there before and what is collected from nothing. -/
private theorem WriteOnly.run_eq {settings : Settings σ} {put : Collected → β → β}
    {act : Collected → EvalM σ β}
    (h : ∀ {runCall : CallRunner σ}, WriteOnlyCalls runCall → WriteOnly runCall put act)
    (out : Collected) (s : State σ) :
    (act out).run settings s = mapSuccess (put out) ((act {}).run settings s) := by
  have hrun := h (writeOnly_callRunner settings (budget settings s)) out {} s
  rw [Collected.append_empty] at hrun
  exact hrun

/-! ## Expansions one by one -/

/-- The definitions are expanded one after the other from `s` to `t`, each from nothing and from the
state that the one before it left; the last list is what each of them gives. -/
inductive Expansions (settings : Settings σ) (call : Call) (args : List Value)
    (context : List Selector) (caller : FrameId) :
    State σ → List Closure → List Collected → State σ → Prop
  | nil (s : State σ) : Expansions settings call args context caller s [] [] s
  | cons {s s' t : State σ} {closure : Closure} {rest : List Closure} {part : Collected}
      {parts : List Collected}
      (hfirst : (runDefinition settings call closure args context caller {}).run settings s =
        (.ok part, s'))
      (hrest : Expansions settings call args context caller s' rest parts t) :
      Expansions settings call args context caller s (closure :: rest) (part :: parts) t

/-- What is expanded starts with the call counted, and the count is taken back after it. -/
private theorem exists_of_runWith_counted {runCall : CallRunner σ} {settings : Settings σ}
    {call : Call} {act : EvalM σ α} {s t : State σ} {a : α}
    (h : (EvalM.counted settings call act).runWith runCall s = (.ok a, t)) :
    s.callDepth < settings.limit ∧
      ∃ after, act.runWith runCall s.countCall = (.ok a, after) ∧ t = after.uncountCall := by
  obtain ⟨_, s', hcount, hact⟩ := EvalM.exists_of_runWith_bind h
  rw [EvalM.countCall, EvalM.runWith_perform_bind] at hcount
  by_cases hlimit : settings.limit ≤ s.callDepth
  · simp [Step.apply, hlimit, EvalM.fail, EvalM.runWith] at hcount
  · simp only [Step.apply, hlimit, if_false, EvalM.perform, EvalM.runWith, pure,
      Prod.mk.injEq, true_and] at hcount
    rw [EvalM.runWith_ensuring, ← hcount] at hact
    simp only [Step.apply, Prod.mk.injEq] at hact
    exact ⟨Nat.lt_of_not_le hlimit, _, Prod.ext hact.1 rfl, hact.2.symm⟩

/-- Definitions that are run one after the other on what was collected before are expanded one by
one. -/
private theorem exists_expansions {settings : Settings σ} {m : Moment σ} {budget : Nat}
    (hm : (Discipline.balanced settings).holds m)
    (hbudget : settings.limit < m.state.callDepth + budget) {call : Call} {args : List Value}
    {context : List Selector} {caller : FrameId} {out result : Collected}
    {closures : List Closure} {t : State σ}
    (h : (runDefinitions settings call args context caller out closures).runWith
      (callRunner settings budget) m.state = (.ok result, t)) :
    ∃ parts, Expansions settings call args context caller m.state closures parts t ∧
      result.declarations = out.declarations ++ parts.flatMap (·.declarations) ∧
      result.nested = out.nested ++ parts.flatMap (·.nested) := by
  induction closures generalizing m out with
  | nil =>
    simp only [runDefinitions, pure, EvalM.runWith, Prod.mk.injEq, Except.ok.injEq] at h
    obtain ⟨rfl, rfl⟩ := h
    exact ⟨[], .nil _, by simp⟩
  | cons closure rest ih =>
    obtain ⟨out', s', hfirst, hrest⟩ := EvalM.exists_of_runWith_bind h
    have hmeets : (runDefinition settings call closure args context caller {}).Meets
        ((Discipline.balanced settings).contract.atDepth m.state.callDepth) m
        ((Discipline.balanced settings).Expands caller m) :=
      Discipline.runDefinition hm rfl trivial trivial call args context {}
    -- from nothing the definition gives a part that stands after what was there before
    have hempty := writeOnly_runDefinition settings (writeOnly_callRunner settings budget) call
      closure args context caller out {} m.state
    rw [Collected.append_empty, hfirst] at hempty
    obtain ⟨part, hpart, rfl⟩ := exists_of_mapSuccess_eq_ok hempty.symm
    rw [Discipline.runWith_eq_run (Nat.le_refl _) hbudget hmeets] at hpart
    obtain ⟨past, -, hexpands⟩ := Discipline.ends_run (Nat.le_refl _) hmeets
    rw [hpart] at hexpands
    have hdepth : s'.callDepth = m.state.callDepth := hexpands.2.callDepth
    have hbudget' : settings.limit < s'.callDepth + budget := by omega
    obtain ⟨parts, hparts, hdeclarations, hnested⟩ :=
      ih (m := ⟨s', past⟩) hexpands.1 hbudget' hrest
    refine ⟨part :: parts, .cons hpart hparts, ?_, ?_⟩
    · simp only [hdeclarations, Collected.append_eq, List.flatMap_cons, List.append_assoc]
    · simp only [hnested, Collected.append_eq, List.flatMap_cons, List.append_assoc]

/-- A call that succeeds is expanded one by one, after its arguments are evaluated, its targets are
found and the call is counted. -/
private theorem exists_expansions_of_runCall {settings : Settings σ} {m : Moment σ}
    (hm : (Discipline.balanced settings).holds m) {call : Call} {context : List Selector}
    {frame : FrameId} {out result : Collected} {args : List Value} {closures : List Closure}
    {s₁ s₂ s' : State σ}
    (hargs : (EvalM.evaluateAll settings frame call.args).run settings m.state = (.ok args, s₁))
    (htargets : (Resolution.targets settings call args frame).run settings s₁ = (.ok closures, s₂))
    (hcall : (runCall settings { call, context, frame, out }).run settings m.state =
      (.ok result, s')) :
    ∃ parts t, Expansions settings call args context frame s₂.countCall closures parts t ∧
      s' = t.uncountCall ∧
      result.declarations = out.declarations ++ parts.flatMap (·.declarations) ∧
      result.nested = out.nested ++ parts.flatMap (·.nested) := by
  obtain ⟨args', s₁', hargs', hcall⟩ := EvalM.exists_of_runWith_bind hcall
  obtain ⟨rfl, rfl⟩ : args = args' ∧ s₁ = s₁' := by
    have hsame := hargs.symm.trans hargs'
    simpa using hsame
  -- the arguments and the resolution keep the discipline, so the depth is still that of the call
  obtain ⟨past₁, -, hm₁, hrehosts, -⟩ := Discipline.ends_run (Nat.le_refl _)
    (Discipline.evaluateAll hm frame call.args)
  rw [hargs] at hm₁ hrehosts
  have hdepth₁ : s₁.callDepth = m.state.callDepth := hrehosts.callDepth
  have hresolves : (Resolution.targets settings call args frame).Meets
      ((Discipline.balanced settings).contract.atDepth s₁.callDepth) ⟨s₁, past₁⟩ _ :=
    Discipline.targets hm₁ call args frame
  obtain ⟨past₂, -, hm₂, hconf, -⟩ :=
    Discipline.ends_run (m := ⟨s₁, past₁⟩) (Nat.le_refl _) hresolves
  rw [htargets] at hm₂ hconf
  have hdepth₂ : s₂.callDepth = s₁.callDepth := hconf.callDepth
  have hreach : settings.limit < s₁.callDepth + budget settings m.state :=
    limit_lt_budget settings (Nat.le_of_eq hdepth₁.symm)
  obtain ⟨closures', s₂', htargets', hcounted⟩ := EvalM.exists_of_runWith_bind hcall
  obtain ⟨rfl, rfl⟩ : closures = closures' ∧ s₂ = s₂' := by
    rw [Discipline.runWith_eq_run (m := ⟨s₁, past₁⟩) (Nat.le_refl _) hreach hresolves] at htargets'
    have hsame := htargets.symm.trans htargets'
    simpa using hsame
  obtain ⟨hlimit, t, hexpanded, rfl⟩ := exists_of_runWith_counted hcounted
  have hm₃ : (Discipline.balanced settings).holds ⟨s₂.countCall, past₂⟩ := ⟨hlimit, hm₂.2⟩
  have hreach' : settings.limit < s₂.countCall.callDepth + budget settings m.state := by
    apply limit_lt_budget
    simp only [State.countCall]
    omega
  obtain ⟨parts, hparts, hresult⟩ := exists_expansions hm₃ hreach' hexpanded
  exact ⟨parts, t, hparts, rfl, hresult⟩

/-- From every state that a run comes to, whatever was collected before: a call that succeeds keeps
what was there and adds what its targets give, one after the other, each expanded from nothing and
from the state that the one before it left. Blocks, calls and expansions all end with what was there
before followed by what they give from nothing, and in the same state. -/
theorem call_inlines_expansions (settings : Settings σ) (sheet : Stylesheet) (natives : σ) (n : Nat)
    (context : List Selector) (frame : FrameId) (out : Collected) :
    let s := sheet.stateAt settings natives n
    (∀ call args closures result s₁ s₂ s',
      (EvalM.evaluateAll settings frame call.args).run settings s = (.ok args, s₁) →
      (Resolution.targets settings call args frame).run settings s₁ = (.ok closures, s₂) →
      (runCall settings { call, context, frame, out }).run settings s = (.ok result, s') →
      ∃ parts t, Expansions settings call args context frame s₂.countCall closures parts t ∧
        s' = t.uncountCall ∧
        result.declarations = out.declarations ++ parts.flatMap (·.declarations) ∧
        result.nested = out.nested ++ parts.flatMap (·.nested)) ∧
    (∀ site index nodes,
      (runBody settings context frame site index out nodes).run settings s =
        mapSuccess (out ++ ·)
          ((runBody settings context frame site index {} nodes).run settings s)) ∧
    (∀ call,
      (runCall settings { call, context, frame, out }).run settings s =
        mapSuccess (out ++ ·)
          ((runCall settings { call, context, frame, out := {} }).run settings s)) ∧
    (∀ call closure args,
      (runDefinition settings call closure args context frame out).run settings s =
        mapSuccess (out ++ ·)
          ((runDefinition settings call closure args context frame {}).run settings s)) := by
  have hm := balanced_momentAt settings sheet natives n
  simp only [Stylesheet.stateAt]
  generalize sheet.momentAt settings natives n = m at hm
  refine ⟨?_, ?_, ?_, ?_⟩
  · -- the call as the expansions of its definitions, one after the other
    intro call args closures result s₁ s₂ s' hargs htargets hcall
    exact exists_expansions_of_runCall hm hargs htargets hcall
  · -- bodies, calls and definitions write to the end of what is collected and read nothing of it
    intro site index nodes
    exact WriteOnly.run_eq (fun hcalls =>
      writeOnly_runBody settings hcalls context frame site index nodes) out m.state
  · intro call
    exact WriteOnly.run_eq (fun hcalls =>
      writeOnly_runCall settings hcalls call context frame) out m.state
  · intro call closure args
    exact WriteOnly.run_eq (fun hcalls =>
      writeOnly_runDefinition settings hcalls call closure args context frame) out m.state

/-! ## An example -/

namespace Overloads

/-- The call of `.glow` with the keyword `wide`. -/
def call : Call :=
  Sketch.call ".glow" [Sketch.keyword "wide"]

/-- Two mixins of one name: one takes any argument and has a ruleset inside, the other one takes
only the keyword `wide`. -/
def sheet : Stylesheet where
  nodes := [
    Sketch.mixin ".glow" [Sketch.parameter "@size"]
      [Sketch.declaration "glow" (Sketch.reference "@size"),
        Sketch.ruleset [".ring"] [Sketch.declaration "width" (Sketch.reference "@size")]],
    Sketch.mixin ".glow" [Sketch.pattern "wide"] [Sketch.declare "spread" "far"]]

/-- The selectors around the call. -/
def context : List Selector :=
  [Sketch.selector ".box"]

/-- What was collected before the call. -/
def out : Collected where
  declarations := [Sketch.declared "color" "red"]

end Overloads

/-- Both overloads take the argument, and the call is made after a declaration. -/
theorem call_inlines_expansions_overloads :
    let settings := Sketch.settings 64
    let call := Overloads.call
    let context := Overloads.context
    let out := Overloads.out
    let s := Overloads.sheet.stateAt settings () 1
    ∃ args closures result s₁ s₂ s',
      (EvalM.evaluateAll settings Scopes.root call.args).run settings s = (.ok args, s₁) ∧
      (Resolution.targets settings call args Scopes.root).run settings s₁ = (.ok closures, s₂) ∧
      (runCall settings { call, context, frame := Scopes.root, out }).run settings s =
        (.ok result, s') ∧
      closures.length = 2 ∧
      result.declarations.map (·.property) = ["color", "glow", "spread"] ∧
      result.nested.map (·.selectors) = [[".box .ring"]] ∧
      ∃ parts t, Expansions settings call args context Scopes.root s₂.countCall closures parts t ∧
        s' = t.uncountCall ∧
        result.declarations = out.declarations ++ parts.flatMap (·.declarations) ∧
        result.nested = out.nested ++ parts.flatMap (·.nested) := by
  have hcall := (call_inlines_expansions (Sketch.settings 64) Overloads.sheet () 1 Overloads.context
    Scopes.root Overloads.out).1 Overloads.call
  exact ⟨_, _, _, _, _, _, rfl, rfl, rfl, rfl, rfl, rfl, hcall _ _ _ _ _ _ rfl rfl rfl⟩

end MixinSheet
