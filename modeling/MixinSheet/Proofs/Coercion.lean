import MixinSheet.Proofs.ExactValue
import MixinSheet.Proofs.NativeCalls

/-!
# The coercion table

Arithmetic on two values is compared with a table of the kinds that can be combined and with four
views of a value: its kind, its unit, its opacity and its three components. The table says whether
there is a result and of which kind, and the views of the operands say what the result is, when
units are refused and when a divisor is zero. In an evaluation that succeeds, no divisor is zero
anywhere in the expression.

## Key results

- `Kind.coerced?`: the table
- `Value.IsResult`: the result that the table gives, with the sum, the difference, the product or the
  quotient of the components
- `Value.outcome_combine`: the outcomes of an operation, each with its condition
- `arithmetic_follows_table`: when each outcome arises, and which divisors an evaluation has used
-/

namespace MixinSheet

/-! ## The table -/

/-- The kinds of values. -/
inductive Kind where
  | number
  | dimension
  | color
  | quoted
  | keyword
  | list

/-- The kind of the result for the kinds of the operands. -/
def Kind.coerced? : Kind → Kind → Option Kind
  | .number, .number => some .number
  | .number, .dimension => some .dimension
  | .number, .color => some .color
  | .dimension, .number => some .dimension
  | .dimension, .dimension => some .dimension
  | .color, .number => some .color
  | .color, .color => some .color
  | _, _ => none

namespace Value

/-- The kind of a value. -/
def kind : Value → Kind
  | .number _ => .number
  | .dimension .. => .dimension
  | .color _ => .color
  | .quoted .. => .quoted
  | .keyword _ => .keyword
  | .list .. => .list

/-- The unit of a dimension. -/
def unit? : Value → Option String
  | .dimension _ unit => some unit
  | _ => none

/-- The opacity of a colour. -/
def alpha? : Value → Option Float
  | .color c => some c.alpha
  | _ => none

/-- The components of a value, one for each channel of a colour. A magnitude stands for all three.
-/
def components : Value → List Float
  | .number a | .dimension a _ => [a, a, a]
  | .color c => c.channels
  | _ => []

/-- The result that the table gives. The unit and the opacity are those of the left operand if it
has them, and the components are those of both operands, added, subtracted, multiplied or divided
from left to right. -/
structure IsResult (lhs : Value) (op : Operator) (rhs value : Value) : Prop where
  kind : Kind.coerced? lhs.kind rhs.kind = some value.kind
  unit : value.unit? = lhs.unit?.or rhs.unit?
  alpha : value.alpha? = lhs.alpha?.or rhs.alpha?
  sum : op = .add → value.components = List.zipWith (· + ·) lhs.components rhs.components
  difference : op = .subtract →
    value.components = List.zipWith (· - ·) lhs.components rhs.components
  product : op = .multiply → value.components = List.zipWith (· * ·) lhs.components rhs.components
  quotient : op = .divide → value.components = List.zipWith (· / ·) lhs.components rhs.components

/-- Whatever the operator is, its doubles are combined component by component. -/
private theorem IsResult.of_apply {lhs rhs value : Value} {op : Operator}
    (hkind : Kind.coerced? lhs.kind rhs.kind = some value.kind)
    (hunit : value.unit? = lhs.unit?.or rhs.unit?)
    (halpha : value.alpha? = lhs.alpha?.or rhs.alpha?)
    (happly : value.components = List.zipWith op.apply lhs.components rhs.components) :
    IsResult lhs op rhs value where
  kind := hkind
  unit := hunit
  alpha := halpha
  sum hop := by subst hop; exact happly
  difference hop := by subst hop; exact happly
  product hop := by subst hop; exact happly
  quotient hop := by subst hop; exact happly

/-- Both values have a unit, and not the same. -/
def UnitsDiffer (lhs rhs : Value) : Prop :=
  ∃ left right, lhs.unit? = some left ∧ rhs.unit? = some right ∧ left ≠ right

/-- A component of the value is a zero of either sign. -/
def HasZero (value : Value) : Prop :=
  ∃ x ∈ value.components, x = 0.0 ∨ x = -0.0

/-- The operation divides by a zero. -/
def DividesByZero (op : Operator) (rhs : Value) : Prop :=
  op = .divide ∧ rhs.HasZero

/-! ## Divisors -/

/-- The check refuses a division under the condition, and else it has no effect. -/
def RefusesIf (condition : Prop) : Except Fault Unit → Prop
  | .error fault => fault = .divideByZero ∧ condition
  | .ok _ => ¬ condition

/-- A divisor is refused if it is one of the two zeros. -/
private theorem refusesIf_checkDivisor (op : Operator) (x : Float) :
    RefusesIf (op = .divide ∧ (x = 0.0 ∨ x = -0.0)) (checkDivisor op x) := by
  rw [checkDivisor, ← Number.beq_zero_iff]
  split
  · next hzero => exact ⟨rfl, hzero⟩
  · next hzero => exact hzero

/-- Of two checks in a row, one has to refuse. -/
private theorem RefusesIf.seq {first second : Prop} {check next : Except Fault Unit}
    (hcheck : RefusesIf first check) (hnext : RefusesIf second next) :
    RefusesIf (first ∨ second) (check >>= fun _ => next) := by
  cases check with
  | error fault => exact ⟨hcheck.1, .inl hcheck.2⟩
  | ok =>
    cases next with
    | error fault => exact ⟨hnext.1, .inr hnext.2⟩
    | ok => exact not_or.2 ⟨hcheck, hnext⟩

/-- The divisors are checked one after the other, and a zero among them is found. -/
private theorem refusesIf_forM_checkDivisor (op : Operator) (divisors : List Float) :
    RefusesIf (op = .divide ∧ ∃ x ∈ divisors, x = 0.0 ∨ x = -0.0)
      (divisors.forM (checkDivisor op)) := by
  induction divisors with
  | nil =>
    rintro ⟨-, x, hx, -⟩
    exact nomatch hx
  | cons x rest ih =>
    rw [List.exists_mem_cons_iff, and_or_left]
    exact (refusesIf_checkDivisor op x).seq ih

/-- A number is checked as the one divisor that it is. -/
private theorem refusesIf_number (op : Operator) (x : Float) :
    RefusesIf (DividesByZero op (.number x)) (checkDivisor op x) := by
  have hzero : HasZero (.number x) ↔ x = 0.0 ∨ x = -0.0 := by simp [HasZero, components]
  rw [DividesByZero, hzero]
  exact refusesIf_checkDivisor op x

/-- The divisor of a dimension is its number. -/
private theorem refusesIf_dimension (op : Operator) (x : Float) (unit : String) :
    RefusesIf (DividesByZero op (.dimension x unit)) (checkDivisor op x) :=
  refusesIf_number op x

/-- A colour is checked channel by channel. -/
private theorem refusesIf_color (op : Operator) (c : Color) :
    RefusesIf (DividesByZero op (.color c)) (c.channels.forM (checkDivisor op)) :=
  refusesIf_forM_checkDivisor op c.channels

/-! ## Outcomes -/

/-- Kinds that cannot be combined are refused, whatever the values. -/
private theorem combine_of_coerced?_eq_none {lhs rhs : Value} (op : Operator) (strict : Bool)
    (h : Kind.coerced? lhs.kind rhs.kind = none) :
    lhs.combine op rhs strict = .error (.invalidOperation op lhs.kindName rhs.kindName) := by
  -- the pairs without an entry in the table are those of the last case of `combine`
  cases lhs with
  | quoted | keyword | list => rfl
  | number =>
    cases rhs with
    | number | dimension | color => exact nomatch h
    | quoted | keyword | list => rfl
  | dimension =>
    cases rhs with
    | number | dimension => exact nomatch h
    | color | quoted | keyword | list => rfl
  | color =>
    cases rhs with
    | number | color => exact nomatch h
    | dimension | quoted | keyword | list => rfl

/-- What becomes of an operation when its units are accepted. -/
def Carried (lhs : Value) (op : Operator) (rhs : Value) : Except Fault Value → Prop
  | .error fault => fault = .divideByZero ∧ DividesByZero op rhs
  | .ok value => ¬ DividesByZero op rhs ∧ IsResult lhs op rhs value

/-- After the check for zeros the result is the one that the table says. -/
private theorem RefusesIf.carried {lhs rhs value : Value} {op : Operator}
    {check : Except Fault Unit}
    (hcheck : RefusesIf (DividesByZero op rhs) check) (hresult : IsResult lhs op rhs value) :
    Carried lhs op rhs (check >>= fun _ => .ok value) := by
  cases check with
  | error fault => exact hcheck
  | ok => exact ⟨hcheck, hresult⟩

/-- Where the table has a kind and the units do not differ, the operation is carried out but for a
division by zero. -/
private theorem carried_combine {lhs rhs : Value} {kind : Kind} (op : Operator) {strict : Bool}
    (h : Kind.coerced? lhs.kind rhs.kind = some kind)
    (hunits : ¬ (strict = true ∧ UnitsDiffer lhs rhs)) :
    Carried lhs op rhs (lhs.combine op rhs strict) := by
  -- the entries of the table, row by row; each one has a check for zero divisors of its own
  cases lhs with
  | quoted | keyword | list => exact nomatch h
  | number a =>
    cases rhs with
    | number b => exact (refusesIf_number op b).carried (.of_apply rfl rfl rfl rfl)
    | dimension b unit => exact (refusesIf_dimension op b unit).carried (.of_apply rfl rfl rfl rfl)
    | color b => exact (refusesIf_color op b).carried (.of_apply rfl rfl rfl rfl)
    | quoted | keyword | list => exact nomatch h
  | dimension a left =>
    cases rhs with
    | number b => exact (refusesIf_number op b).carried (.of_apply rfl rfl rfl rfl)
    | dimension b right =>
      -- two dimensions: equal units under strict units, since different ones are excluded
      have hsame : ¬ (strict = true ∧ left ≠ right) :=
        fun ⟨hstrict, hne⟩ => hunits ⟨hstrict, left, right, rfl, rfl, hne⟩
      simp only [combine, if_neg hsame]
      exact (refusesIf_dimension op b right).carried (.of_apply rfl rfl rfl rfl)
    | color | quoted | keyword | list => exact nomatch h
  | color a =>
    cases rhs with
    | number b => exact (refusesIf_number op b).carried (.of_apply rfl rfl rfl rfl)
    | color b => exact (refusesIf_color op b).carried (.of_apply rfl rfl rfl rfl)
    | dimension | quoted | keyword | list => exact nomatch h

/-- Only dimensions have a unit. -/
private theorem eq_dimension_of_unit? {value : Value} {unit : String}
    (h : value.unit? = some unit) : ∃ a, value = .dimension a unit := by
  cases value with
  | dimension a own =>
    obtain rfl := Option.some.inj h
    exact ⟨a, rfl⟩
  | number | color | quoted | keyword | list => exact nomatch h

/-- Different units are refused where units are strict. -/
private theorem combine_of_units_ne {lhs rhs : Value} {left right : String} (op : Operator)
    (hleft : lhs.unit? = some left) (hright : rhs.unit? = some right) (hne : left ≠ right) :
    lhs.combine op rhs true = .error (.incompatibleUnits op left right) := by
  obtain ⟨a, rfl⟩ := eq_dimension_of_unit? hleft
  obtain ⟨b, rfl⟩ := eq_dimension_of_unit? hright
  rw [combine, if_pos ⟨rfl, hne⟩]
  rfl

/-- Only values whose kinds can be combined have a result. -/
private theorem IsResult.coerced?_ne_none {lhs rhs value : Value} {op : Operator}
    (h : IsResult lhs op rhs value) : Kind.coerced? lhs.kind rhs.kind ≠ none := by
  rw [h.kind]
  exact nofun

/-- The outcomes of an operation, each with its condition. -/
inductive Outcome (lhs : Value) (op : Operator) (rhs : Value) (strict : Bool) :
    Except Fault Value → Prop
  | noEntry (hentry : Kind.coerced? lhs.kind rhs.kind = none) :
    Outcome lhs op rhs strict (.error (.invalidOperation op lhs.kindName rhs.kindName))
  | units {left right : String} (hentry : Kind.coerced? lhs.kind rhs.kind ≠ none)
    (hstrict : strict = true) (hleft : lhs.unit? = some left) (hright : rhs.unit? = some right)
    (hne : left ≠ right) : Outcome lhs op rhs strict (.error (.incompatibleUnits op left right))
  | zero (hentry : Kind.coerced? lhs.kind rhs.kind ≠ none)
    (hunits : ¬ (strict = true ∧ UnitsDiffer lhs rhs)) (hzero : DividesByZero op rhs) :
    Outcome lhs op rhs strict (.error .divideByZero)
  | result {value : Value} (hunits : ¬ (strict = true ∧ UnitsDiffer lhs rhs))
    (hzero : ¬ DividesByZero op rhs) (hresult : IsResult lhs op rhs value) :
    Outcome lhs op rhs strict (.ok value)

/-- Every operation has one of the outcomes of the table. -/
theorem outcome_combine (lhs rhs : Value) (op : Operator) (strict : Bool) :
    Outcome lhs op rhs strict (lhs.combine op rhs strict) := by
  -- the table is asked first, then the units, and the zero divisor last
  cases hentry : Kind.coerced? lhs.kind rhs.kind with
  | none =>
    rw [combine_of_coerced?_eq_none op strict hentry]
    exact .noEntry hentry
  | some kind =>
    have hsome : Kind.coerced? lhs.kind rhs.kind ≠ none := by rw [hentry]; exact nofun
    by_cases hunits : strict = true ∧ UnitsDiffer lhs rhs
    · obtain ⟨rfl, left, right, hleft, hright, hne⟩ := hunits
      rw [combine_of_units_ne op hleft hright hne]
      exact .units hsome rfl hleft hright hne
    · have hcarried := carried_combine op hentry hunits
      cases hcombine : lhs.combine op rhs strict with
      | error fault =>
        rw [hcombine] at hcarried
        obtain ⟨rfl, hzero⟩ := hcarried
        exact .zero hsome hunits hzero
      | ok value =>
        rw [hcombine] at hcarried
        exact .result hunits hcarried.1 hcarried.2

/-- What was divided by has no zero. -/
private theorem not_hasZero_of_combine_divide {lhs rhs value : Value} {strict : Bool}
    (h : lhs.combine .divide rhs strict = .ok value) : ¬ rhs.HasZero := by
  have houtcome := outcome_combine lhs rhs .divide strict
  rw [h] at houtcome
  cases houtcome with
  | result _ hzero => exact fun hrhs => hzero ⟨rfl, hrhs⟩

end Value

/-! ## Evaluations -/

namespace Evaluated

variable {σ : Type} {settings : Settings σ} {scopes : Scopes} {frame : FrameId}

/-- An operation in a tree of values has two operands, and their values have been combined. -/
theorem Agrees.combine {node : Evaluated} {op : Operator} {lhs rhs : Expression} {span : Span}
    (h : node.Agrees settings scopes frame) (hnode : node.expression = .operation op lhs rhs span) :
    ∃ a b, node.parts.map Evaluated.value = [a, b] ∧
      a.combine op b settings.options.strictUnits = .ok node.value := by
  have hgives := h.value
  rw [hnode, Expression.Gives] at hgives
  unfold Expression.combined at hgives
  split at hgives
  · next a b hparts => exact ⟨a, b, hparts, hgives⟩
  · exact nomatch hgives

/-- No division in the tree is by a value with a zero. -/
def NoZeroDivisor (tree : Evaluated) : Prop :=
  ∀ node ∈ tree.postorder, ∀ dividend divisor span,
    node.expression = .operation .divide dividend divisor span →
    ∃ a b, node.parts.map Evaluated.value = [a, b] ∧ ¬ b.HasZero

/-- In a sound evaluation nothing is divided by zero. -/
private theorem Sound.noZeroDivisor {tree : Evaluated} (h : tree.Sound settings scopes frame) :
    tree.NoZeroDivisor := by
  intro node hnode dividend divisor span hdivide
  obtain ⟨a, b, hparts, hcombine⟩ := (h node hnode).combine hdivide
  exact ⟨a, b, hparts, Value.not_hasZero_of_combine_divide hcombine⟩

end Evaluated

open Value

/-- An operation on two values fails with both of their kinds if and only if the table has no entry
for them. Otherwise it fails for the units if and only if units are strict and differ; otherwise it
fails if and only if it divides by a value with a zero of either sign; otherwise it has the result
that the table gives. When an expression has a value, the sub-expressions have values that go with
the calls of the functions, and no division in them is by a value with a zero. -/
theorem arithmetic_follows_table {σ : Type} (lhs rhs : Value) (op : Operator) (strict : Bool)
    (settings : Settings σ) (scopes : Scopes) (frame : FrameId) (host : Host σ)
    (expression : Expression) :
    (lhs.combine op rhs strict = .error (.invalidOperation op lhs.kindName rhs.kindName) ↔
      Kind.coerced? lhs.kind rhs.kind = none) ∧
    ((∃ left right, lhs.combine op rhs strict = .error (.incompatibleUnits op left right) ∧
        lhs.unit? = some left ∧ rhs.unit? = some right) ↔
      Kind.coerced? lhs.kind rhs.kind ≠ none ∧ (strict = true ∧ UnitsDiffer lhs rhs)) ∧
    (lhs.combine op rhs strict = .error .divideByZero ↔
      Kind.coerced? lhs.kind rhs.kind ≠ none ∧ ¬ (strict = true ∧ UnitsDiffer lhs rhs) ∧
        DividesByZero op rhs) ∧
    ((∃ value, lhs.combine op rhs strict = .ok value ∧ IsResult lhs op rhs value) ↔
      Kind.coerced? lhs.kind rhs.kind ≠ none ∧ ¬ (strict = true ∧ UnitsDiffer lhs rhs) ∧
        ¬ DividesByZero op rhs) ∧
    ∀ value after, expression.evaluate settings scopes frame host = (.ok value, after) →
      ∃ tree : Evaluated, tree.expression = expression ∧ tree.value = value ∧
        tree.postorder.map Evaluated.expression = expression.postorder ∧
        tree.Sound settings scopes frame ∧
        expression.evaluate settings.recorded scopes frame (host.recording []) =
          (.ok value, after.recording (tree.calls settings.functions)) ∧
        tree.NoZeroDivisor := by
  have houtcome := outcome_combine lhs rhs op strict
  generalize lhs.combine op rhs strict = outcome at houtcome ⊢
  rw [← and_assoc, ← and_assoc, ← and_assoc]
  constructor
  · -- the conditions exclude each other, so the outcome decides all of them
    cases houtcome with
    | noEntry hentry => simp [hentry]
    | units hentry hstrict hleft hright hne =>
      have hunits : strict = true ∧ UnitsDiffer lhs rhs := ⟨hstrict, _, _, hleft, hright, hne⟩
      simp [hentry, hunits, hleft, hright]
    | zero hentry hunits hzero => simp [hentry, hunits, hzero]
    | result hunits hzero hresult => simp [hresult.coerced?_ne_none, hunits, hzero, hresult]
  · -- every value in the recorded tree comes from an operation that succeeded
    intro value after hrun
    obtain ⟨calls, hrecorded, hcalls⟩ := expression.evaluate_records settings scopes frame host []
    rw [hrun] at hrecorded hcalls
    obtain ⟨tree, rfl, rfl, hsound, rfl⟩ := hcalls
    exact ⟨tree, rfl, rfl, hsound.map_expression_postorder, hsound, hrecorded,
      hsound.noZeroDivisor⟩

namespace HalfLength

def length : Value := .dimension 8.0 "px"

/-- Half of a length. -/
def half : Expression :=
  .operation .divide (.literal length default) (.literal (.number 2.0) default) default

end HalfLength

/-- Two is neither of the zeros. -/
private theorem HalfLength.not_hasZero_two : ¬ HasZero (.number 2.0) := by
  have hpositive : (2.0 : Float) ≠ 0.0 := by decide +kernel
  have hnegative : (2.0 : Float) ≠ -0.0 := by decide +kernel
  simp [HasZero, components, hpositive, hnegative]

/-- A dimension is determined by what the table says of a result. -/
private theorem eq_dimension_of_isResult {lhs rhs value : Value} {op : Operator} {x : Float}
    {unit : String} (h : IsResult lhs op rhs value) (hunit : lhs.unit?.or rhs.unit? = some unit)
    (hcomponents : value.components = [x, x, x]) : value = .dimension x unit := by
  obtain ⟨y, rfl⟩ := eq_dimension_of_unit? (h.unit.trans hunit)
  obtain rfl : y = x := by simpa [components] using hcomponents
  rfl

/-- Two has no zero, so 8px divided by two are 4px, and this is the value of the expression. -/
theorem arithmetic_follows_table_half :
    HalfLength.length.combine .divide (.number 2.0) false = .ok (.dimension 4.0 "px") ∧
      IsResult HalfLength.length .divide (.number 2.0) (.dimension 4.0 "px") ∧
      HalfLength.half.evaluate (Sketch.settings 1) .initial Scopes.root { natives := () } =
        (.ok (.dimension 4.0 "px"), { natives := () }) ∧
      ∃ tree : Evaluated, tree.expression = HalfLength.half ∧
        tree.value = .dimension 4.0 "px" ∧ tree.NoZeroDivisor := by
  obtain ⟨-, -, -, hresult, htree⟩ := arithmetic_follows_table HalfLength.length (.number 2.0)
    .divide false (Sketch.settings 1) .initial Scopes.root { natives := () } HalfLength.half
  obtain ⟨value, hcombine, hvalue⟩ := hresult.2
    ⟨nofun, nofun, fun hzero => HalfLength.not_hasZero_two hzero.2⟩
  -- the quotient of the magnitudes is computed, and with the unit it is the whole result
  have hquotient : (8.0 / 2.0 : Float) = 4.0 := by decide +kernel
  have hcomponents : value.components = [4.0, 4.0, 4.0] := by
    rw [← hquotient]
    exact hvalue.quotient rfl
  obtain rfl := eq_dimension_of_isResult hvalue rfl hcomponents
  have hrun : HalfLength.half.evaluate (Sketch.settings 1) .initial Scopes.root
      { natives := () } = (.ok (.dimension 4.0 "px"), { natives := () }) := by
    show HalfLength.half.conclude (HalfLength.length.combine .divide (.number 2.0) false)
      { natives := () } = _
    rw [hcombine]
    rfl
  obtain ⟨tree, hexpression, htreeValue, -, -, -, hdivisors⟩ := htree _ _ hrun
  exact ⟨hcombine, hvalue, hrun, tree, hexpression, htreeValue, hdivisors⟩

end MixinSheet
