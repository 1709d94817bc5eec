import MixinSheet.Proofs.Machine

/-!
# Contracts for programs

`EvalM.Meets` says what a program does when it is started at a moment: an invariant holds at every
moment, calls are made only where a contract allows them, and the outcome and the last moment are as
stated, provided that calls do what the contract promises. As the contract stands for the calls,
`Meets` is settled along the tree of one program; the calls are tied together only afterwards, once
for the machine and once for `EvalM.run`.

## Key results

- `EvalM.Meets.bind`: the rule for sequencing
- `EvalM.Meets.holds_iterate`: the invariant holds after every number of steps
- `EvalM.Meets.reaches_run`: if every call is made one level deeper than the call it is part of, the
  machine ends, and with what `EvalM.run` gives
- `EvalM.Meets.runWith_eq_run`: a budget that reaches beyond the limit gives what `EvalM.run` gives
-/

namespace MixinSheet

open Evaluation

variable {σ α β : Type}

/-- What holds during a run, and what calls need and promise. -/
structure Contract (σ : Type) where
  /-- Holds at every moment. -/
  holds : Moment σ → Prop
  /-- Holds when a call starts. -/
  requires : Invocation → Moment σ → Prop
  /-- Holds between the start and the end of a call. -/
  ensures : Invocation → Moment σ → Except Failure Collected → Moment σ → Prop

/-- The contract for calls at one depth only. -/
def Contract.atDepth (contract : Contract σ) (depth : Nat) : Contract σ :=
  { contract with
    requires := fun invocation m => contract.requires invocation m ∧ m.state.callDepth = depth }

namespace EvalM

/-- What the program does from `m` on, by the contract for its calls; `Q` is about the outcome and
the last moment. -/
def Meets (contract : Contract σ) :
    EvalM σ α → (m : Moment σ) → (Q : Except Failure α → Moment σ → Prop) → Prop
  | .done outcome, m, Q => Q outcome m
  | .step first next, m, Q =>
    contract.holds m ∧ (next (first.apply m.state).1).Meets contract (m.after first) Q
  | .call invocation next, m, Q =>
    contract.holds m ∧ contract.requires invocation m ∧
      ∀ outcome m', contract.ensures invocation m outcome m' → (next outcome).Meets contract m' Q

variable {contract contract' : Contract σ} {m : Moment σ}

/-- What a program meets can be weakened. -/
theorem Meets.mono {act : EvalM σ α} {Q Q' : Except Failure α → Moment σ → Prop}
    (h : act.Meets contract m Q) (hQ : ∀ outcome m', Q outcome m' → Q' outcome m') :
    act.Meets contract m Q' := by
  induction act generalizing m with
  | done outcome => exact hQ outcome m h
  | step first next ih => exact ⟨h.1, ih _ h.2⟩
  | call invocation next ih =>
    exact ⟨h.1, h.2.1, fun outcome m' hens => ih outcome (h.2.2 outcome m' hens)⟩

/-- A program keeps a contract that asks less of its calls. -/
theorem Meets.weaken {act : EvalM σ α} {Q : Except Failure α → Moment σ → Prop} {depth : Nat}
    (h : act.Meets (contract.atDepth depth) m Q) : act.Meets contract m Q := by
  induction act generalizing m with
  | done outcome => exact h
  | step first next ih => exact ⟨h.1, ih _ h.2⟩
  | call invocation next ih =>
    exact ⟨h.1, h.2.1.1, fun outcome m' hens => ih outcome (h.2.2 outcome m' hens)⟩

/-- What comes after a program starts where the program ends. -/
theorem Meets.followedBy {act : EvalM σ α} {next : Except Failure α → EvalM σ β}
    {Q : Except Failure β → Moment σ → Prop}
    (h : act.Meets contract m fun outcome m' => (next outcome).Meets contract m' Q) :
    (act.followedBy next).Meets contract m Q := by
  induction act generalizing m with
  | done outcome => exact h
  | step first rest ih => exact ⟨h.1, ih _ h.2⟩
  | call invocation rest ih =>
    exact ⟨h.1, h.2.1, fun outcome m' hens => ih outcome (h.2.2 outcome m' hens)⟩

/-- After a success comes the next program; a failure is the outcome of the whole. -/
theorem Meets.bind {act : EvalM σ α} {next : α → EvalM σ β}
    {P : Except Failure α → Moment σ → Prop} {Q : Except Failure β → Moment σ → Prop}
    (h : act.Meets contract m P)
    (herror : ∀ failure m', P (.error failure) m' → Q (.error failure) m')
    (hok : ∀ a m', P (.ok a) m' → (next a).Meets contract m' Q) :
    (act >>= next).Meets contract m Q := by
  refine Meets.followedBy (h.mono ?_)
  rintro (failure | a) m' hP
  · exact herror failure m' hP
  · exact hok a m' hP

/-- A step and then a program. -/
theorem Meets.step_bind {first : Step σ α} {next : α → EvalM σ β}
    {Q : Except Failure β → Moment σ → Prop} (hm : contract.holds m)
    (h : (next (first.apply m.state).1).Meets contract (m.after first) Q) :
    (EvalM.perform first >>= next).Meets contract m Q :=
  ⟨hm, h⟩

/-! ## Runs of the machine -/

variable {settings : Settings σ}

/-- If calls keep the contract, the invariant holds after every number of steps. -/
theorem Meets.holds_iterate
    (hcalls : ∀ invocation m, contract.requires invocation m →
      (runCall settings invocation).Meets contract m (contract.ensures invocation m))
    {c : Config σ α} (h : c.program.Meets contract c.moment fun _ m => contract.holds m) (n : Nat) :
    contract.holds ((Config.next settings)^[n] c).moment := by
  induction n generalizing c with
  | zero =>
    -- the configuration holds before anything is done, whatever comes next
    obtain ⟨program, m⟩ := c
    cases program with
    | done outcome => exact h
    | step first next => exact h.1
    | call invocation next => exact h.1
  | succ n ih =>
    rw [Function.iterate_succ_apply]
    apply ih
    obtain ⟨program, m⟩ := c
    -- one step keeps the obligation: a call is replaced by its body, which ensures what the rest
    -- asks for
    cases program with
    | done outcome => exact h
    | step first next => exact h.2
    | call invocation next =>
      exact Meets.followedBy ((hcalls invocation m h.2.1).mono h.2.2)

/-- The machine comes to the end of a program, with the outcome and the state that are expected, and
`Q` holds there. -/
def Ends (settings : Settings σ) (act : EvalM σ α) (m : Moment σ)
    (expected : Except Failure α × State σ) (Q : Except Failure α → Moment σ → Prop) : Prop :=
  ∃ past, Config.Reaches settings ⟨act, m⟩ ⟨.done expected.1, ⟨expected.2, past⟩⟩ ∧
    Q expected.1 ⟨expected.2, past⟩

/-- A program ends if the calls it makes do. -/
private theorem Meets.ends_of_calls {budget depth : Nat}
    (hcalls : ∀ invocation m, contract.requires invocation m → m.state.callDepth = depth →
      Ends settings (runCall settings invocation) m
        (callRunner settings budget invocation m.state) (contract.ensures invocation m))
    {act : EvalM σ α} {Q : Except Failure α → Moment σ → Prop}
    (h : act.Meets (contract.atDepth depth) m Q) :
    Ends settings act m (act.runWith (callRunner settings budget) m.state) Q := by
  induction act generalizing m with
  | done outcome => exact ⟨m.past, .refl _, h⟩
  | step first next ih =>
    obtain ⟨past, hreach, hQ⟩ := ih (first.apply m.state).1 h.2
    exact ⟨past, .trans (.next _) hreach, hQ⟩
  | call invocation next ih =>
    obtain ⟨past, hreach, hens⟩ := hcalls invocation m h.2.1.1 h.2.1.2
    obtain ⟨past', hreach', hQ⟩ := ih _ (h.2.2 _ _ hens)
    exact ⟨past', .trans (.next _) (.trans (hreach.followedBy next) hreach'), hQ⟩

section Budget

variable
  (hlimit : ∀ invocation m, contract.requires invocation m → m.state.callDepth ≤ settings.limit)
  (hcalls : ∀ invocation m, contract.requires invocation m →
    (runCall settings invocation).Meets (contract.atDepth (m.state.callDepth + 1)) m
      (contract.ensures invocation m))

include hlimit hcalls

/-- A call ends if the budget reaches beyond the limit: it is then used up only where no call can
stand. -/
theorem ends_runCall {budget depth : Nat} (hbudget : settings.limit < depth + budget)
    (invocation : Invocation) (m : Moment σ) (hreq : contract.requires invocation m)
    (hdepth : m.state.callDepth = depth) :
    Ends settings (runCall settings invocation) m
      (callRunner settings budget invocation m.state) (contract.ensures invocation m) := by
  induction budget generalizing depth invocation m with
  | zero =>
    have := hlimit invocation m hreq
    omega
  | succ budget ih =>
    have hbody := hcalls invocation m hreq
    rw [hdepth] at hbody
    have hbudget' : settings.limit < depth + 1 + budget := by omega
    exact Meets.ends_of_calls (ih hbudget') hbody

/-- Whatever budget reaches beyond the limit, the machine ends with what it gives. -/
theorem Meets.reaches_runWith {act : EvalM σ α} {Q : Except Failure α → Moment σ → Prop}
    {budget depth : Nat} (hbudget : settings.limit < depth + budget)
    (h : act.Meets (contract.atDepth depth) m Q) :
    Ends settings act m (act.runWith (callRunner settings budget) m.state) Q :=
  Meets.ends_of_calls (ends_runCall hlimit hcalls hbudget) h

/-- If every call that the program of a call makes is one level deeper and calls stand no deeper
than the limit, then the machine ends, with what `EvalM.run` gives. -/
theorem Meets.reaches_run {act : EvalM σ α} {Q : Except Failure α → Moment σ → Prop} {depth : Nat}
    (hdepth : m.state.callDepth ≤ depth) (h : act.Meets (contract.atDepth depth) m Q) :
    Ends settings act m (act.run settings m.state) Q :=
  h.reaches_runWith hlimit hcalls (limit_lt_budget settings hdepth)

/-- Budgets that reach beyond the limit all give the same. -/
theorem Meets.runWith_eq_run {act : EvalM σ α} {Q : Except Failure α → Moment σ → Prop}
    {budget depth : Nat} (hdepth : m.state.callDepth ≤ depth)
    (hbudget : settings.limit < depth + budget) (h : act.Meets (contract.atDepth depth) m Q) :
    act.runWith (callRunner settings budget) m.state = act.run settings m.state := by
  obtain ⟨past, hreach, -⟩ := h.reaches_runWith hlimit hcalls hbudget
  obtain ⟨past', hreach', -⟩ := h.reaches_run hlimit hcalls hdepth
  -- the machine is one, and it stops only once
  have hsame := hreach.done_unique hreach'
  simp only [Config.mk.injEq, EvalM.done.injEq, Moment.mk.injEq] at hsame
  exact Prod.ext hsame.1 hsame.2.1

end Budget

end EvalM

end MixinSheet
