import MixinSheet.Proofs.Comparison
import MixinSheet.Proofs.Origin
import MixinSheet.Proofs.Sketch

/-!
# Strict units

Whether units are strict matters in one place, where two dimensions are combined, and there strict
units can only refuse. Such a failure ends the whole run wherever the expression stands: it is never
taken for an answer, so it neither rules out a candidate of a call nor hides a name. A run under
strict units therefore goes the way of the run under lenient units for as long as it goes.

## Key results

- `Value.combine_strict`: strict units refuse an operation or do not change it
- `Comparison.strictUnits`: runs under strict and lenient units, failures of units excused
- `strict_units_only_refuse`: the rules are the same, or strict units refuse the stylesheet
-/

namespace MixinSheet

open Evaluation

variable {σ : Type}

/-- The settings with strict or lenient units. -/
def Settings.withUnits (settings : Settings σ) (strict : Bool) : Settings σ :=
  { settings with options := { settings.options with strictUnits := strict } }

/-- The failure is about an operation on two units that differ. -/
def Failure.MixesUnits (failure : Failure) : Prop :=
  ∃ op left right, failure.fault = .incompatibleUnits op left right ∧ left ≠ right

/-- Strict units refuse to combine two values, or combine them as lenient units do. -/
theorem Value.combine_strict (lhs rhs : Value) (op : Operator) :
    lhs.combine op rhs true = lhs.combine op rhs false ∨
      ∃ left right, lhs.combine op rhs true = .error (.incompatibleUnits op left right) ∧
        left ≠ right := by
  -- units are compared only where both operands have one
  cases lhs with
  | dimension a left =>
    cases rhs with
    | dimension b right =>
      by_cases hunits : left = right
      · left
        simp [combine, hunits]
      · right
        exact ⟨left, right, by simp [combine, hunits]; rfl, hunits⟩
    | number | color | quoted | keyword | list => exact .inl rfl
  | number | color | quoted | keyword | list =>
    left
    cases rhs <;> rfl

namespace Expression

variable (settings : Settings σ) (scopes : Scopes) (frame : FrameId)

/-- An operation has the same result under strict units, unless it mixes units. -/
private theorem operation_strict (expression : Expression) (lhs rhs : Value) (op : Operator)
    {host host' : Host σ} (h : host.natives = host'.natives) :
    Host.SameUnless Failure.MixesUnits (expression.conclude (lhs.combine op rhs true) host)
      (expression.conclude (lhs.combine op rhs false) host') := by
  rcases Value.combine_strict lhs rhs op with hsame | ⟨left, right, hrefused, hunits⟩
  · rw [hsame]
    exact .inl (conclude_alike _ _ h)
  · rw [hrefused]
    exact .inr ⟨_, rfl, op, left, right, rfl, hunits⟩

mutual

/-- An expression has the same value under strict and under lenient units, unless strict units
refuse it. -/
private theorem evaluate_strict (expression : Expression) {host host' : Host σ}
    (h : host.natives = host'.natives) :
    Host.SameUnless Failure.MixesUnits
      (expression.evaluate (settings.withUnits true) scopes frame host)
      (expression.evaluate (settings.withUnits false) scopes frame host') := by
  -- by recursion on the expression; only an operation looks at the units
  cases expression with
  | literal value span => exact .inl ⟨rfl, h⟩
  | reference name span =>
    rw [evaluate, evaluate]
    cases scopes.value? frame name with
    | some value => exact .inl ⟨rfl, h⟩
    | none => exact .inl ⟨rfl, h⟩
  | operation op lhs rhs span =>
    rw [evaluate, evaluate]
    refine HostM.sameUnless_bind (evaluate_strict lhs h) fun left after after' hafter => ?_
    refine HostM.sameUnless_bind (evaluate_strict rhs hafter) fun right last last' hlast => ?_
    exact operation_strict _ left right op hlast
  | negate operand span =>
    rw [evaluate, evaluate]
    refine HostM.sameUnless_bind (evaluate_strict operand h) fun value after after' hafter => ?_
    exact .inl (conclude_alike _ _ hafter)
  | list separator items span =>
    rw [evaluate, evaluate]
    exact HostM.sameUnless_bind (evaluateAll_strict items h) fun values after after' hafter =>
      .inl ⟨rfl, hafter⟩
  | call name args span =>
    rw [evaluate, evaluate]
    refine HostM.sameUnless_bind (evaluateAll_strict args h) fun values after after' hafter => ?_
    exact .inl (callFunction_same rfl _ name values after after' hafter)

/-- Several expressions have the same values, unless strict units refuse one of them. -/
private theorem evaluateAll_strict (expressions : List Expression) {host host' : Host σ}
    (h : host.natives = host'.natives) :
    Host.SameUnless Failure.MixesUnits
      (evaluateAll (settings.withUnits true) scopes frame expressions host)
      (evaluateAll (settings.withUnits false) scopes frame expressions host') := by
  cases expressions with
  | nil => exact .inl ⟨rfl, h⟩
  | cons expression rest =>
    rw [evaluateAll, evaluateAll]
    refine HostM.sameUnless_bind (evaluate_strict expression h) fun value after after' hafter => ?_
    exact HostM.sameUnless_bind (evaluateAll_strict rest hafter) fun values last last' hlast =>
      .inl ⟨rfl, hlast⟩

end

end Expression

/-- Runs of the same statements under strict and under lenient units. Where strict units refuse an
operation, the other run goes on, so this failure is excused. -/
def Comparison.strictUnits (settings : Settings σ) : Comparison σ where
  left := settings.withUnits true
  right := settings.withUnits false
  runnable _ := True
  contexts := .equal _
  excused := Failure.MixesUnits
  runnable_tail _ := trivial
  runnable_body _ _ := trivial
  excused_through _ hfailure := hfailure
  evaluate scopes frame expression _ _ hnatives :=
    Expression.evaluate_strict settings scopes frame expression hnatives
  limit_le := Nat.le_refl _
  limit := .inr ⟨rfl, fun _ => rfl⟩

/-- Under strict units a stylesheet gives what it gives under lenient ones, the same rules or the
same failure, or else it fails for an operation on two units that differ. Under lenient units no
stylesheet fails for its units. -/
theorem strict_units_only_refuse (settings : Settings σ) (sheet : Stylesheet) (natives : σ) :
    (sheet.rules (settings.withUnits true) natives =
        sheet.rules (settings.withUnits false) natives ∨
      ∃ failure, sheet.rules (settings.withUnits true) natives = .error failure ∧
        ∃ op left right, failure.fault = .incompatibleUnits op left right ∧ left ≠ right) ∧
    ∀ failure, sheet.rules (settings.withUnits false) natives = .error failure →
      ∀ op left right, failure.fault ≠ .incompatibleUnits op left right := by
  constructor
  · -- the runs under both settings go on side by side, until a failure that mixes units
    let K := Comparison.strictUnits settings
    have hst : (State.initial natives).Agrees K.runnable (State.initial natives) :=
      ⟨rfl, rfl, rfl, fun _ _ _ => trivial⟩
    have hmatch : Matches (State.Agrees K.runnable) K.excused (List.Forall₂ K.coupling.SameRule)
        (sheet.run (settings.withUnits true) natives)
        (sheet.run (settings.withUnits false) natives) :=
      K.run_matches hst fun _ _ hcalls => Coupling.alike_runSheet hcalls rfl trivial trivial
    simp only [Stylesheet.rules]
    generalize sheet.run (settings.withUnits true) natives = result at hmatch ⊢
    generalize sheet.run (settings.withUnits false) natives = result' at hmatch ⊢
    cases hmatch with
    | ok hrules _ => exact .inl (by rw [Coupling.eq_of_sameRule (fun _ _ heq => heq) hrules])
    | error _ => exact .inl rfl
    | @excused failure _ _ hexcused => exact .inr ⟨failure, rfl, hexcused⟩
  · -- without strict units no operation raises this fault, and a call limit is another fault
    intro failure hfailure op left right hunits
    rcases Stylesheet.fault_of_rules hfailure with harises | ⟨call, hlimit⟩
    · rw [hunits] at harises
      exact absurd harises.1 Bool.false_ne_true
    · rw [hunits] at hlimit
      cases hlimit

namespace MixedUnits

/-- The sum of a pixel and an em. -/
def sum : Expression :=
  .operation .add (.literal (.dimension 1.0 "px") default) (.literal (.dimension 1.0 "em") default)
    default

/-- A call with a word. -/
def call : Call :=
  Sketch.call ".size" [Sketch.keyword "wide"]

/-- A mixin whose pattern mixes units, and the call, which the pattern does not fit. -/
def sheet : Stylesheet where
  nodes := [
    Sketch.mixin ".size" [{ name := none, default := none, guard := some sum }] [],
    .call call]

/-- The settings with strict or lenient units. -/
def settings (strict : Bool) : Settings Unit :=
  (Sketch.settings 64).withUnits strict

/-- The pattern cannot be evaluated. -/
def refused : Failure where
  fault := .incompatibleUnits .add "px" "em"
  text := sum.text
  span := default

/-- No candidate takes the word. -/
def unmatched : Failure where
  fault := .noMatchingMixin call.text
  text := call.text
  span := default

end MixedUnits

/-- Strict units refuse the pattern; they do not rule out the candidate. -/
theorem strict_units_only_refuse_pattern :
    MixedUnits.sheet.rules (MixedUnits.settings true) () = .error MixedUnits.refused ∧
    MixedUnits.sheet.rules (MixedUnits.settings false) () = .error MixedUnits.unmatched ∧
    ∀ op left right, MixedUnits.unmatched.fault ≠ .incompatibleUnits op left right :=
  ⟨rfl, rfl, (strict_units_only_refuse (Sketch.settings 64) MixedUnits.sheet ()).2 _ rfl⟩

end MixinSheet
