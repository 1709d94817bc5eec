import MixinSheet.Proofs.Expression
import MixinSheet.Proofs.Sketch

/-!
# The parts of an expression

Expressions of every kind are evaluated in the same way: first the parts from left to right, and
then the expression itself, which sees of its parts only their values. A failure starts at an
expression whose parts all have values, and it is not changed on its way out.

## Key results

- `Expression.parts_induction`: induction over the parts, whatever the kind of expression
- `Expression.evaluate_eq`: first the values of the parts, then `Expression.finish`
- `Expression.postorder`: the sub-expressions in the order in which they get their values
- `failure_points_at_innermost`: a failure names the first sub-expression that has no value
-/

namespace MixinSheet

variable {σ : Type}

namespace Expression

/-! ## Parts -/

/-- The direct operands, items or arguments in order. -/
def parts : Expression → List Expression
  | .literal .. | .reference .. => []
  | .operation _ lhs rhs _ => [lhs, rhs]
  | .negate operand _ => [operand]
  | .list _ items _ => items
  | .call _ args _ => args

mutual

/-- What holds of an expression if it holds of its parts, holds of every expression. -/
theorem parts_induction {motive : Expression → Prop}
    (step : ∀ expression, (∀ part ∈ expression.parts, motive part) → motive expression)
    (expression : Expression) : motive expression := by
  apply step
  cases expression with
  | literal | reference => exact List.forall_mem_nil _
  | operation op lhs rhs span =>
    exact List.forall_mem_cons.2 ⟨parts_induction step lhs,
      List.forall_mem_singleton.2 (parts_induction step rhs)⟩
  | negate operand span => exact List.forall_mem_singleton.2 (parts_induction step operand)
  | list separator items span => exact forall_mem_induction step items
  | call name args span => exact forall_mem_induction step args

/-- Induction over the parts of an expression, for each expression of a list. -/
private theorem forall_mem_induction {motive : Expression → Prop}
    (step : ∀ expression, (∀ part ∈ expression.parts, motive part) → motive expression)
    (expressions : List Expression) : ∀ expression ∈ expressions, motive expression := by
  cases expressions with
  | nil => exact List.forall_mem_nil _
  | cons expression rest =>
    exact List.forall_mem_cons.2 ⟨parts_induction step expression, forall_mem_induction step rest⟩

end

mutual

/-- The sub-expressions from left to right, each after its parts; the expression itself is the last
of them. -/
def postorder : Expression → List Expression
  | .literal value span => [.literal value span]
  | .reference name span => [.reference name span]
  | .operation op lhs rhs span => lhs.postorder ++ rhs.postorder ++ [.operation op lhs rhs span]
  | .negate operand span => operand.postorder ++ [.negate operand span]
  | .list separator items span => postorderAll items ++ [.list separator items span]
  | .call name args span => postorderAll args ++ [.call name args span]

/-- The sub-expressions of some expressions in order. -/
def postorderAll : List Expression → List Expression
  | [] => []
  | expression :: rest => expression.postorder ++ postorderAll rest

end

theorem postorderAll_eq_flatMap (expressions : List Expression) :
    postorderAll expressions = expressions.flatMap postorder := by
  induction expressions with
  | nil => rfl
  | cons expression rest ih => rw [postorderAll, ih, List.flatMap_cons]

/-- An expression comes after its parts, each of them with its own parts first. -/
theorem postorder_eq (expression : Expression) :
    expression.postorder = expression.parts.flatMap postorder ++ [expression] := by
  cases expression <;> simp [postorder, parts, postorderAll_eq_flatMap]

/-! ## From the values of the parts to the value of the expression -/

/-- The result of an operator on its operands; there are always two of them. -/
def combined (op : Operator) (strictUnits : Bool) : List Value → Except Fault Value
  | [left, right] => left.combine op right strictUnits
  | _ => .error (.invalidOperation op "" "")

/-- The result of a negation on its operands; there is always one. -/
def negated : List Value → Except Fault Value
  | [value] => value.negate
  | _ => .error (.invalidOperation .subtract "" "")

variable (settings : Settings σ) (scopes : Scopes) (frame : FrameId)

/-- What is left to do once the parts have values. -/
def finish : Expression → List Value → HostM σ Value
  | .literal value span, _ => (Expression.literal value span).evaluate settings scopes frame
  | .reference name span, _ => (Expression.reference name span).evaluate settings scopes frame
  | .operation op lhs rhs span, operands =>
    (Expression.operation op lhs rhs span).conclude
      (combined op settings.options.strictUnits operands)
  | .negate operand span, operands =>
    (Expression.negate operand span).conclude (negated operands)
  | .list separator _ _, items => return .list separator items
  | .call name args span, values => (Expression.call name args span).callFunction settings name values

/-- First the parts get their values, and then the expression does. -/
theorem evaluate_eq (expression : Expression) :
    expression.evaluate settings scopes frame =
      evaluateAll settings scopes frame expression.parts >>=
        expression.finish settings scopes frame := by
  -- the parts in order are the operands, the items or the arguments
  cases expression with
  | literal | reference => rfl
  | operation op lhs rhs span =>
    simp only [evaluate, parts, evaluateAll, bind_assoc, pure_bind, finish, combined]
  | negate operand span =>
    simp only [evaluate, parts, evaluateAll, bind_assoc, pure_bind, finish, negated]
  | list separator items span =>
    rw [evaluate]
    rfl
  | call name args span =>
    rw [evaluate]
    rfl

end Expression

/-! ## Failures -/

/-- The failure quotes the expression, and no call is open around it. -/
structure Failure.Names (failure : Failure) (expression : Expression) : Prop where
  text : failure.text = expression.text
  span : failure.span = expression.span
  openCalls : failure.openCalls = []

namespace Expression

variable {settings : Settings σ} {scopes : Scopes} {frame : FrameId} {host : Host σ}

/-- A failure to conclude names the expression that concludes. -/
private theorem names_of_conclude {expression : Expression} {result : Except Fault Value}
    {failure : Failure} (h : (expression.conclude result host).1 = .error failure) :
    failure.Names expression := by
  cases result with
  | ok value => exact nomatch h
  | error fault =>
    cases h
    exact ⟨rfl, rfl, rfl⟩

/-- A failure of a function call names the call. -/
private theorem names_of_callFunction {expression : Expression} {name : String} {args : List Value}
    {failure : Failure}
    (h : (expression.callFunction settings name args host).1 = .error failure) :
    failure.Names expression := by
  unfold callFunction at h
  -- a name of no function is kept as text and does not fail
  cases hfind : settings.functions.find? name with
  | none =>
    rw [hfind] at h
    exact nomatch h
  | some function =>
    rw [hfind] at h
    obtain hinvoke | ⟨result, after, -, hresult⟩ := HostM.of_bind_error h
    · exact nomatch hinvoke
    · cases result with
      | ok value => exact nomatch hresult
      | error message =>
        cases hresult
        exact ⟨rfl, rfl, rfl⟩

/-- Once the parts have values, a failure can only be the expression's own. -/
private theorem names_of_finish {expression : Expression} {operands : List Value}
    {failure : Failure}
    (h : (expression.finish settings scopes frame operands host).1 = .error failure) :
    failure.Names expression := by
  -- literals and lists always have a value, and a name fails when it has none
  cases expression with
  | literal | list => exact nomatch h
  | reference name span =>
    rw [finish, evaluate] at h
    cases hvalue : scopes.value? frame name with
    | some value =>
      rw [hvalue] at h
      exact nomatch h
    | none =>
      rw [hvalue] at h
      cases h
      exact ⟨rfl, rfl, rfl⟩
  | operation | negate => exact names_of_conclude h
  | call => exact names_of_callFunction h

variable (settings scopes frame) in
/-- The expression has a value, whatever state the native functions are in. -/
def HasValue (expression : Expression) : Prop :=
  ∀ host, ∃ value, (expression.evaluate settings scopes frame host).1 = .ok value

section Pure

variable (hpure : settings.functions.IsPure)
include hpure

/-- With pure functions an expression that has a value at one host has one at every host. -/
private theorem hasValue_of_evaluate {expression : Expression} {value : Value}
    (h : (expression.evaluate settings scopes frame host).1 = .ok value) :
    expression.HasValue settings scopes frame := fun host' => by
  rw [evaluate_pure hpure (fun _ => rfl) expression host' host]
  exact ⟨value, h⟩

/-- So have the expressions of a list. -/
private theorem hasValue_of_evaluateAll {expressions : List Expression} {values : List Value}
    (h : (evaluateAll settings scopes frame expressions host).1 = .ok values) :
    ∀ expression ∈ expressions, expression.HasValue settings scopes frame := by
  induction expressions generalizing host values with
  | nil => exact List.forall_mem_nil _
  | cons expression rest ih =>
    rw [evaluateAll] at h
    obtain ⟨value, after, hfirst, hrest⟩ := HostM.exists_of_bind_ok h
    obtain ⟨others, _, hothers, -⟩ := HostM.exists_of_bind_ok hrest
    have hvalue : (expression.evaluate settings scopes frame host).1 = .ok value := by rw [hfirst]
    exact List.forall_mem_cons.2
      ⟨hasValue_of_evaluate hpure hvalue, ih (congrArg Prod.fst hothers)⟩

/-- One of several expressions fails only after those before it got values. -/
private theorem exists_failing_of_evaluateAll {expressions : List Expression} {failure : Failure}
    (h : (evaluateAll settings scopes frame expressions host).1 = .error failure) :
    ∃ before expression rest host', expressions = before ++ expression :: rest ∧
      (∀ earlier ∈ before, earlier.HasValue settings scopes frame) ∧
      (expression.evaluate settings scopes frame host').1 = .error failure := by
  induction expressions generalizing host with
  | nil => exact nomatch h
  | cons expression rest ih =>
    rw [evaluateAll] at h
    -- the first expression fails itself, or has a value at every host
    obtain hfirst | ⟨value, after, hfirst, hrest⟩ := HostM.of_bind_error h
    · exact ⟨[], expression, rest, host, rfl, List.forall_mem_nil _, hfirst⟩
    · have hvalue : (expression.evaluate settings scopes frame host).1 = .ok value := by rw [hfirst]
      obtain hothers | ⟨others, _, -, hpair⟩ := HostM.of_bind_error hrest
      · obtain ⟨before, failing, rest', host', rfl, hbefore, hfails⟩ := ih hothers
        refine ⟨expression :: before, failing, rest', host', rfl, ?_, hfails⟩
        exact List.forall_mem_cons.2 ⟨hasValue_of_evaluate hpure hvalue, hbefore⟩
      · exact nomatch hpair

/-- With an expression, all its sub-expressions have values. -/
private theorem hasValue_of_mem_postorder (host : Host σ) (expression : Expression)
    (h : expression.HasValue settings scopes frame) :
    ∀ inner ∈ expression.postorder, inner.HasValue settings scopes frame := by
  induction expression using parts_induction with
  | step expression ih =>
    obtain ⟨value, hvalue⟩ := h host
    rw [evaluate_eq] at hvalue
    obtain ⟨operands, _, hoperands, -⟩ := HostM.exists_of_bind_ok hvalue
    have hparts := hasValue_of_evaluateAll hpure (congrArg Prod.fst hoperands)
    intro inner hinner
    rw [postorder_eq, List.mem_append, List.mem_flatMap, List.mem_singleton] at hinner
    obtain ⟨part, hpart, hmem⟩ | rfl := hinner
    · exact ih part hpart (hparts part hpart) inner hmem
    · exact h

/-- A failure starts at a sub-expression whose parts have values, and so have all sub-expressions
that come before it. -/
private theorem exists_innermost (expression : Expression) {failure : Failure}
    (h : (expression.evaluate settings scopes frame host).1 = .error failure) :
    ∃ before failing rest, expression.postorder = before ++ failing :: rest ∧
      failure.Names failing ∧
      (∀ host', (failing.evaluate settings scopes frame host').1 = .error failure) ∧
      (∀ part ∈ failing.parts, part.HasValue settings scopes frame) ∧
      ∀ earlier ∈ before, earlier.HasValue settings scopes frame := by
  induction expression using parts_induction generalizing host with
  | step expression ih =>
    have hrun := h
    rw [evaluate_eq] at hrun
    obtain hparts | ⟨operands, after, hparts, hfinish⟩ := HostM.of_bind_error hrun
    · -- a part fails: what comes before it is in the parts before it, or inside of it
      obtain ⟨earlier, part, later, host', hsplit, hearlier, hfails⟩ :=
        exists_failing_of_evaluateAll hpure hparts
      have hmem : part ∈ expression.parts := by simp [hsplit]
      obtain ⟨before, failing, rest, horder, hnames, halone, hvalues, hbefore⟩ :=
        ih part hmem hfails
      refine ⟨earlier.flatMap postorder ++ before, failing,
        rest ++ later.flatMap postorder ++ [expression], ?_, hnames, halone, hvalues, ?_⟩
      · rw [postorder_eq, hsplit]
        simp [horder]
      · intro inner hinner
        rw [List.mem_append, List.mem_flatMap] at hinner
        obtain ⟨whole, hwhole, hmem⟩ | hmem := hinner
        · exact hasValue_of_mem_postorder hpure host whole (hearlier whole hwhole) inner hmem
        · exact hbefore inner hmem
    · -- the parts have values: the expression itself fails
      have hvalues := hasValue_of_evaluateAll hpure (congrArg Prod.fst hparts)
      refine ⟨expression.parts.flatMap postorder, expression, [], postorder_eq expression,
        names_of_finish hfinish, fun host' => ?_, hvalues, fun inner hinner => ?_⟩
      · rw [evaluate_pure hpure (fun _ => rfl) expression host' host]
        exact h
      · obtain ⟨part, hpart, hmem⟩ := List.mem_flatMap.1 hinner
        exact hasValue_of_mem_postorder hpure host part (hvalues part hpart) inner hmem

end Pure

end Expression

/-- If functions depend on their arguments only, a failure of an expression quotes the sub-expression
that it starts at, with its position: on its own this one fails in the same way, its parts all have
values, and so have all sub-expressions before it. Those around it come after it, since
`Expression.postorder` lists an expression after its parts. -/
theorem failure_points_at_innermost (settings : Settings σ) (hpure : settings.functions.IsPure)
    (scopes : Scopes) (frame : FrameId) (host : Host σ) (expression : Expression)
    (failure : Failure)
    (h : (expression.evaluate settings scopes frame host).1 = .error failure) :
    failure.openCalls = [] ∧
    ∃ before failing rest, expression.postorder = before ++ failing :: rest ∧
      failure.text = failing.text ∧ failure.span = failing.span ∧
      (∀ host', (failing.evaluate settings scopes frame host').1 = .error failure) ∧
      (∀ part ∈ failing.parts, ∀ host', ∃ value,
        (part.evaluate settings scopes frame host').1 = .ok value) ∧
      ∀ earlier ∈ before, ∀ host', ∃ value,
        (earlier.evaluate settings scopes frame host').1 = .ok value := by
  obtain ⟨before, failing, rest, horder, hnames, halone, hparts, hbefore⟩ :=
    Expression.exists_innermost hpure expression h
  exact ⟨hnames.openCalls, before, failing, rest, horder, hnames.text, hnames.span, halone, hparts,
    hbefore⟩

namespace Innermost

/-- A function that gives back its first argument. -/
def first : Native Unit :=
  .ofPure fun args => .ok (args.headD (.keyword ""))

/-- The default options and the function. -/
def settings : Settings Unit where
  options := {}
  functions := { entries := [("first", first)] }

private theorem pure_functions : settings.functions.IsPure :=
  .of_entries (List.forall_mem_singleton.2 fun _ _ _ => rfl)

/-- A sum of keywords in a file of its own. -/
def sum : Expression :=
  .operation .add (.call "first" [Sketch.keyword "b"] default) (Sketch.keyword "c")
    { file := ⟨7⟩, range := default }

/-- The sum stands inside a call, between an item that has a value and one that has none. -/
def items : Expression :=
  .list .space [.call "first" [Sketch.keyword "a"] default, .negate (.call "url" [sum] default) default,
    .reference "@missing" default] default

/-- The failure of the sum. -/
def failure : Failure where
  fault := .invalidOperation .add "keyword" "keyword"
  text := "first(b) + c"
  span := { file := ⟨7⟩, range := default }

end Innermost

/-- The variable without a value comes later, so the failure is that of the sum. -/
theorem failure_points_at_innermost_sum :
    Innermost.settings.functions.IsPure ∧
    (Innermost.items.evaluate Innermost.settings .initial Scopes.root { natives := () }).1 =
      .error Innermost.failure ∧
    ∃ before failing rest, Innermost.items.postorder = before ++ failing :: rest ∧
      Innermost.failure.text = failing.text ∧ Innermost.failure.span = failing.span ∧
      (∀ host', (failing.evaluate Innermost.settings .initial Scopes.root host').1 =
        .error Innermost.failure) ∧
      (∀ part ∈ failing.parts, ∀ host', ∃ value,
        (part.evaluate Innermost.settings .initial Scopes.root host').1 = .ok value) ∧
      ∀ earlier ∈ before, ∀ host', ∃ value,
        (earlier.evaluate Innermost.settings .initial Scopes.root host').1 = .ok value := by
  have hfails : (Innermost.items.evaluate Innermost.settings .initial Scopes.root
    { natives := () }).1 = .error Innermost.failure := rfl
  exact ⟨Innermost.pure_functions, hfails, (failure_points_at_innermost Innermost.settings
    Innermost.pure_functions .initial Scopes.root { natives := () } Innermost.items
    Innermost.failure hfails).2⟩

end MixinSheet
