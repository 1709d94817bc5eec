import MixinSheet.Proofs.Preservation

/-!
# Confinement

What the parts of the evaluator change, from any state that the run of a stylesheet comes to and
whatever they are applied to, be the outcome a success or a failure. In all cases the stack of
active frames and the call depth are in the end as they were before.

## Key results

- `confined_from_stateAt`: rulesets and the resolution of calls change no existing frame, an
  expansion only the definitions of the caller and only if it succeeds, a block only its own frame,
  and a call only the definitions of the frame it stands in
-/

namespace MixinSheet

open Evaluation

variable {σ α : Type}

/-- The discipline that only keeps the stack of active frames and the depth in bounds. -/
def Discipline.balanced (settings : Settings σ) : Discipline settings where
  holds m := m.state.callDepth ≤ settings.limit ∧ m.state.scopes.active ≠ []
  ready _ _ _ := True
  expanding _ _ := True
  fresh _ _ _ := True
  callable _ _ := True
  depth_le hm := hm.1
  active_ne hm := hm.2
  callable_mem _ _ := trivial
  ready_tail _ := trivial
  ready_later _ _ := trivial
  expanding_later _ _ := trivial
  fresh_later _ _ := trivial
  callable_later _ _ := trivial
  rehost hm _ := hm
  ruleset_event hm _ := hm
  expansion_event hm _ _ := hm
  enter_ruleset hm _ := ⟨⟨hm.1, List.cons_ne_nil _ _⟩, trivial⟩
  enter_closure hm _ := ⟨⟨hm.1, List.cons_ne_nil _ _⟩, trivial⟩
  bind _ _ _ hm := hm
  hoist hm _ := hm
  ready_ruleset _ := trivial
  ready_closure _ _ _ := trivial
  leave hm := ⟨hm.1, Scopes.active_pop_ne_nil hm.2⟩
  publish _ _ hm := hm
  count hm _ hlimit := ⟨⟨hlimit, hm.2⟩, trivial⟩
  uncount hm := ⟨Nat.le_trans (Nat.sub_le _ _) hm.1, hm.2⟩

/-- Frames are entered and left in pairs at every moment of a run. -/
theorem balanced_momentAt (settings : Settings σ) (sheet : Stylesheet) (natives : σ) (n : Nat) :
    (Discipline.balanced settings).holds (sheet.momentAt settings natives n) :=
  (Discipline.balanced settings).holds_momentAt sheet natives
    ⟨Nat.zero_le _, List.cons_ne_nil _ _⟩ trivial trivial n

/-- What a program that keeps the discipline has changed in the end. -/
private theorem Discipline.Keeps.confined_run {settings : Settings σ} {m : Moment σ}
    {act : EvalM σ α} {depth : Nat} {extent : Extent} {Φ : α → Moment σ → Prop}
    (h : (Discipline.balanced settings).Keeps depth act (Moment.Confined extent) Φ m)
    (hdepth : m.state.callDepth ≤ depth) :
    m.state.Confined extent (act.run settings m.state).2 := by
  obtain ⟨past, -, -, hconf, -⟩ := Discipline.ends_run hdepth h
  exact hconf

/-- From every state that a run comes to, every part of the evaluator changes only what it may, and
the stack of active frames and the call depth are restored. -/
theorem confined_from_stateAt (settings : Settings σ) (sheet : Stylesheet) (natives : σ) (n : Nat) :
    let s := sheet.stateAt settings natives n
    (∀ site ruleset context parent,
      s.Confined .nothing ((runRuleset settings site ruleset context parent).run settings s).2) ∧
    (∀ call args frame,
      s.Confined .nothing ((Resolution.targets settings call args frame).run settings s).2) ∧
    (∀ call closure args context caller out,
      match (runDefinition settings call closure args context caller out).run settings s with
      | (.ok _, s') => s.Confined (.closuresOf caller) s'
      | (.error _, s') => s.Confined .nothing s') ∧
    (∀ context frame site index out nodes, s.Confined (.only frame)
      ((runBody settings context frame site index out nodes).run settings s).2) ∧
    (∀ invocation, s.Confined (.closuresOf invocation.frame)
      ((runCall settings invocation).run settings s).2) := by
  have hm := balanced_momentAt settings sheet natives n
  simp only [Stylesheet.stateAt]
  generalize sheet.momentAt settings natives n = m at hm
  refine ⟨?_, ?_, ?_, ?_, ?_⟩
  · intro site ruleset context parent
    exact (Discipline.runRuleset [] hm rfl trivial).confined_run (Nat.le_refl _)
  · intro call args frame
    exact (Discipline.targets hm call args frame).confined_run (Nat.le_refl _)
  · -- what the outcome tells about the change is kept, so this is not a plain frame condition
    intro call closure args context caller out
    obtain ⟨past, -, hexpands⟩ := Discipline.ends_run (Nat.le_refl _)
      (Discipline.runDefinition hm rfl trivial trivial call args context out)
    split
    · next heq =>
      rw [heq] at hexpands
      exact hexpands.2
    · next heq =>
      rw [heq] at hexpands
      exact hexpands.2
  · intro context frame site index out nodes
    exact (Discipline.runBody context frame site index out nodes hm rfl trivial).confined_run
      (Nat.le_refl _)
  · -- the calls that a call makes are one level deeper
    intro invocation
    exact (Discipline.runCall invocation ⟨hm, [], [], trivial⟩).confined_run (Nat.le_succ _)

end MixinSheet
