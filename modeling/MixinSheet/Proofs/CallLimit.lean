import MixinSheet.Proofs.Comparison
import MixinSheet.Proofs.Sketch

/-!
# Raising the limit of calls

How deeply calls may be nested matters only to a run that comes to the limit. A run that does not
fail there goes the same way under every higher limit, for the limit is looked at nowhere but when a
call has been resolved and is about to be expanded.

## Key results

- `Comparison.raisingLimit`: runs under two limits, failures at the lower one excused
- `rules_of_higher_limit`: what was no failure at the limit stays under every higher limit
-/

namespace MixinSheet

open Evaluation

variable {σ : Type}

/-- Whether calls were nested more deeply than the limit allows. -/
def Fault.isLimit : Fault → Bool
  | .recursionLimit .. => true
  | _ => false

/-- The settings with another limit of calls. -/
def Settings.withLimit (settings : Settings σ) (limit : UInt64) : Settings σ :=
  { settings with options := { settings.options with maxCallDepth := limit } }

/-- Runs of the same statements under two limits. Where the first run comes to its limit, the second
one may go on, so this failure is excused. -/
def Comparison.raisingLimit (settings : Settings σ) {limit limit' : UInt64} (h : limit ≤ limit') :
    Comparison σ where
  left := settings.withLimit limit
  right := settings.withLimit limit'
  runnable _ := True
  contexts := .equal _
  excused failure := failure.fault.isLimit = true
  runnable_tail _ := trivial
  runnable_body _ _ := trivial
  excused_through _ hfailure := hfailure
  evaluate scopes frame expression host host' hnatives := by
    -- expressions do not see the limit
    have hview : Expression.SameView (fun host host' => host.natives = host'.natives)
        (settings.withLimit limit) (settings.withLimit limit') scopes scopes frame frame :=
      ⟨rfl, Expression.callFunction_same rfl, fun _ => rfl⟩
    exact .inl (Expression.evaluate_alike hview expression hnatives)
  limit_le := UInt64.le_iff_toNat_le.1 h
  limit := .inl fun _ => rfl

/-- If a stylesheet gives rules or fails otherwise than at the limit of calls, it gives the same
rules or the same failure under every higher limit. -/
theorem rules_of_higher_limit (settings : Settings σ) (sheet : Stylesheet) (natives : σ)
    {limit limit' : UInt64} (hle : limit ≤ limit')
    (hlimit : ∀ failure, sheet.rules (settings.withLimit limit) natives = .error failure →
      failure.fault.isLimit = false) :
    sheet.rules (settings.withLimit limit') natives =
      sheet.rules (settings.withLimit limit) natives := by
  let K := Comparison.raisingLimit settings hle
  have hst : (State.initial natives).Agrees K.runnable (State.initial natives) :=
    ⟨rfl, rfl, rfl, fun _ _ _ => trivial⟩
  have hmatch : Matches (State.Agrees K.runnable) K.excused (List.Forall₂ K.coupling.SameRule)
      (sheet.run (settings.withLimit limit) natives)
      (sheet.run (settings.withLimit limit') natives) :=
    K.run_matches hst fun _ _ hcalls => Coupling.alike_runSheet hcalls rfl trivial trivial
  simp only [Stylesheet.rules] at hlimit ⊢
  generalize sheet.run (settings.withLimit limit) natives = result at hmatch hlimit ⊢
  generalize sheet.run (settings.withLimit limit') natives = result' at hmatch ⊢
  cases hmatch with
  | ok hrules _ => rw [Coupling.eq_of_sameRule (fun _ _ heq => heq) hrules]
  | error _ => rfl
  | @excused failure _ _ hexcused =>
    -- the first run did not fail at the limit
    have hnot : failure.fault.isLimit = false := hlimit failure rfl
    have his : failure.fault.isLimit = true := hexcused
    rw [hnot] at his
    exact absurd his Bool.false_ne_true

/-! ## An example -/

namespace Chain

/-- A mixin that calls another one, which does not exist, and the call of it. -/
def sheet : Stylesheet where
  nodes := [
    Sketch.mixin ".link" [] [.call (Sketch.call ".end" [])],
    .call (Sketch.call ".link" [])]

/-- The missing mixin, called inside of the other one. -/
def failure : Failure where
  fault := .undefinedMixin ".end"
  text := ".end()"
  span := default
  openCalls := [{ text := ".link()", span := default }]

end Chain

/-- The call that is missing stands as deeply as the limit allows. As it is resolved before it is
counted, the limit does not come in. -/
theorem rules_of_higher_limit_chain :
    (1 : UInt64) ≤ 64 ∧
    Chain.sheet.rules ((Sketch.settings 64).withLimit 1) () = .error Chain.failure ∧
    Chain.sheet.rules ((Sketch.settings 64).withLimit 64) () =
      Chain.sheet.rules ((Sketch.settings 64).withLimit 1) () := by
  have hle : (1 : UInt64) ≤ 64 := by decide
  have hrules : Chain.sheet.rules ((Sketch.settings 64).withLimit 1) () =
      .error Chain.failure := rfl
  refine ⟨hle, hrules, rules_of_higher_limit (Sketch.settings 64) Chain.sheet () hle ?_⟩
  intro failure hfailure
  obtain rfl := Except.error.inj (hrules.symm.trans hfailure)
  rfl

end MixinSheet
