import MixinSheet.Evaluation.Expression

/-!
# What expressions see and what they change

An expression sees the scopes only through the values of variables in its frame, and of the host it
sees only the state of the native functions. It changes nothing but the host, where it adds events
about functions that are passed on.

## Key results

- `Value.ofOperation_of_combine`: which faults an operation can have
- `Expression.evaluate_quiet`: only quiet events are added
- `Expression.evaluate_alike`: where expressions see the same, they have the same value
- `Expression.evaluate_same`: equal variables and equal native functions give equal values
- `Expression.evaluate_pure`: if functions depend on their arguments only, so does a value on the
  variables
-/

namespace MixinSheet

variable {σ α β : Type}

/-! ## Faults of operations -/

/-- A fault that an operation on values can have; units matter only if they are strict, and only if
they differ. -/
def Fault.OfOperation (strictUnits : Bool) : Fault → Prop
  | .divideByZero | .invalidOperation .. => True
  | .incompatibleUnits _ left right => strictUnits = true ∧ left ≠ right
  | _ => False

/-- An operation does not fail in the way in which a function does. -/
theorem Fault.OfOperation.ne_invalidArguments {strictUnits : Bool} {fault : Fault}
    (h : fault.OfOperation strictUnits) (function message : String) :
    fault ≠ .invalidArguments function message := by
  intro heq
  rw [heq] at h
  exact h

namespace Value

/-- A divisor that is refused is refused as a division by zero. -/
private theorem ofOperation_of_checkDivisor {op : Operator} {divisor : Float} {fault : Fault}
    {strict : Bool} (h : checkDivisor op divisor = .error fault) : fault.OfOperation strict := by
  unfold checkDivisor at h
  split at h
  · cases h
    trivial
  · cases h

/-- A list of divisors is refused as a division by zero. -/
private theorem ofOperation_of_checkDivisors {op : Operator} {divisors : List Float} {fault : Fault}
    {strict : Bool} (h : divisors.forM (checkDivisor op) = .error fault) :
    fault.OfOperation strict := by
  induction divisors with
  | nil => cases h
  | cons divisor rest ih =>
    rw [List.forM_eq_forM, List.forM_cons] at h
    -- the first divisor that is refused gives the fault
    cases hfirst : checkDivisor op divisor with
    | error other =>
      rw [hfirst] at h
      cases h
      exact ofOperation_of_checkDivisor hfirst
    | ok _ =>
      rw [hfirst] at h
      exact ih h

/-- A check and then a value: only the check can fail. -/
private theorem ofOperation_of_check {check : Except Fault Unit} {value : Value} {fault : Fault}
    {strict : Bool} (hcheck : ∀ other, check = .error other → other.OfOperation strict)
    (h : (do check; return value) = .error fault) : fault.OfOperation strict := by
  cases check with
  | error other =>
    cases h
    exact hcheck fault rfl
  | ok _ => cases h

/-- Combining values fails only in the ways of an operation. -/
theorem ofOperation_of_combine {lhs rhs : Value} {op : Operator} {strict : Bool} {fault : Fault}
    (h : lhs.combine op rhs strict = .error fault) : fault.OfOperation strict := by
  unfold combine at h
  split at h
  · -- numbers and dimensions with a number as one of the operands: the divisor alone is checked
    exact ofOperation_of_check (fun _ => ofOperation_of_checkDivisor) h
  · exact ofOperation_of_check (fun _ => ofOperation_of_checkDivisor) h
  · exact ofOperation_of_check (fun _ => ofOperation_of_checkDivisor) h
  · -- two dimensions: the units come before the divisor
    split at h
    · next hunits =>
      cases h
      exact hunits
    · exact ofOperation_of_check (fun _ => ofOperation_of_checkDivisor) h
  · exact ofOperation_of_check (fun _ => ofOperation_of_checkDivisor) h
  · -- a colour on the right: every channel is a divisor
    exact ofOperation_of_check (fun _ => ofOperation_of_checkDivisors) h
  · exact ofOperation_of_check (fun _ => ofOperation_of_checkDivisors) h
  · cases h
    trivial

/-- A value is negated or cannot be negated at all. -/
theorem ofOperation_of_negate {value : Value} {strict : Bool} {fault : Fault}
    (h : value.negate = .error fault) : fault.OfOperation strict := by
  unfold negate at h
  split at h
  · cases h
  · cases h
  · cases h
    trivial

end Value

/-! ## Hosts -/

/-- Whether an event says nothing about depths. -/
def Event.isQuiet : Event → Bool
  | .resolvedCall .. | .passingFunction _ | .evaluatedSheet .. => true
  | .evaluatingRuleset .. | .expandingMixin .. => false

/-- Only quiet events are added. -/
def Host.Quiet (host host' : Host σ) : Prop :=
  ∃ new : List Event, host'.events = new ++ host.events ∧ ∀ event ∈ new, event.isQuiet = true

namespace Host

/-- A host that is not used is quiet. -/
theorem Quiet.refl (host : Host σ) : host.Quiet host :=
  ⟨[], rfl, by simp⟩

/-- Two quiet uses in a row are quiet. -/
theorem Quiet.trans {host host' host'' : Host σ} (h : host.Quiet host')
    (h' : host'.Quiet host'') : host.Quiet host'' := by
  obtain ⟨new, hnew, hquiet⟩ := h
  obtain ⟨new', hnew', hquiet'⟩ := h'
  refine ⟨new' ++ new, by rw [hnew', hnew, List.append_assoc], fun event hevent => ?_⟩
  rcases List.mem_append.1 hevent with hmem | hmem
  · exact hquiet' event hmem
  · exact hquiet event hmem

/-- Two evaluations have the same result and leave hosts that are related. -/
def Alike (R : Host σ → Host σ → Prop) (result result' : Except Failure α × Host σ) : Prop :=
  result.1 = result'.1 ∧ R result.2 result'.2

/-- Two evaluations have the same result and leave the native functions in the same state. -/
def Same (result result' : Except Failure α × Host σ) : Prop :=
  Alike (fun host host' => host.natives = host'.natives) result result'

end Host

namespace HostM

/-- If two steps succeed one after the other, both of them do. -/
theorem exists_of_bind_ok {act : HostM σ α} {next : α → HostM σ β} {host : Host σ} {b : β}
    (h : ((act >>= next) host).1 = .ok b) :
    ∃ a after, act host = (.ok a, after) ∧ (next a after).1 = .ok b := by
  rw [bind_apply] at h
  rcases hact : act host with ⟨failure | a, after⟩
  · rw [hact] at h
    exact nomatch h
  · rw [hact] at h
    exact ⟨a, after, rfl, h⟩

/-- If two steps fail, the first one does, or the second one after the first has succeeded. -/
theorem of_bind_error {act : HostM σ α} {next : α → HostM σ β} {host : Host σ} {failure : Failure}
    (h : ((act >>= next) host).1 = .error failure) :
    (act host).1 = .error failure ∨
      ∃ a after, act host = (.ok a, after) ∧ (next a after).1 = .error failure := by
  rw [bind_apply] at h
  rcases hact : act host with ⟨other | a, after⟩
  · rw [hact] at h
    cases h
    exact .inl rfl
  · rw [hact] at h
    exact .inr ⟨a, after, rfl, h⟩

/-- An evaluation is quiet if its parts are. -/
private theorem quiet_bind {act : HostM σ α} {next : α → HostM σ β} {host : Host σ}
    (hact : host.Quiet (act host).2)
    (hnext : ∀ a (host' : Host σ), host'.Quiet (next a host').2) :
    host.Quiet ((act >>= next) host).2 := by
  rw [bind_apply]
  rcases h : act host with ⟨failure | a, after⟩
  · rwa [h] at hact
  · rw [h] at hact
    exact hact.trans (hnext a after)

/-- Evaluations in a row are alike if their parts are. -/
private theorem alike_bind {R : Host σ → Host σ → Prop} {act act' : HostM σ α}
    {next next' : α → HostM σ β} {host host' : Host σ} (hact : Host.Alike R (act host) (act' host'))
    (hnext : ∀ a after after', R after after' → Host.Alike R (next a after) (next' a after')) :
    Host.Alike R ((act >>= next) host) ((act' >>= next') host') := by
  rw [bind_apply, bind_apply]
  rcases h : act host with ⟨result, after⟩
  rcases h' : act' host' with ⟨result', after'⟩
  rw [h, h'] at hact
  obtain ⟨hresult, hrelated⟩ := hact
  simp only at hresult hrelated
  subst hresult
  cases result with
  | error failure => exact ⟨rfl, hrelated⟩
  | ok a => exact hnext a after after' hrelated

end HostM

namespace Expression

variable (settings : Settings σ)

/-! ## Events -/

/-- Turning a fault into a failure uses no host. -/
private theorem conclude_quiet (expression : Expression) (result : Except Fault Value)
    (host : Host σ) : host.Quiet (expression.conclude result host).2 := by
  cases result <;> exact .refl host

/-- Calling a function emits no events but its own. -/
private theorem callFunction_quiet (expression : Expression) (name : String) (args : List Value)
    (host : Host σ) : host.Quiet (expression.callFunction settings name args host).2 := by
  unfold callFunction
  cases settings.functions.find? name with
  | some function =>
    refine HostM.quiet_bind ⟨[], rfl, by simp⟩ fun result host' => ?_
    cases result <;> exact .refl host'
  | none => exact ⟨[.passingFunction name], rfl, by simp [Event.isQuiet]⟩

variable (scopes : Scopes) (frame : FrameId)

mutual

/-- An expression adds only quiet events. -/
theorem evaluate_quiet (expression : Expression) (host : Host σ) :
    host.Quiet (expression.evaluate settings scopes frame host).2 := by
  -- by recursion on the expression, with `evaluateAll_quiet` for lists and arguments
  cases expression with
  | literal value span => exact .refl host
  | reference name span =>
    rw [evaluate]
    cases scopes.value? frame name <;> exact .refl host
  | operation op lhs rhs span =>
    rw [evaluate]
    refine HostM.quiet_bind (evaluate_quiet lhs host) fun left host' => ?_
    refine HostM.quiet_bind (evaluate_quiet rhs host') fun right host'' => ?_
    exact conclude_quiet _ _ host''
  | negate operand span =>
    rw [evaluate]
    exact HostM.quiet_bind (evaluate_quiet operand host) fun value host' =>
      conclude_quiet _ _ host'
  | list separator items span =>
    rw [evaluate]
    exact HostM.quiet_bind (evaluateAll_quiet items host) fun values host' => .refl host'
  | call name args span =>
    rw [evaluate]
    exact HostM.quiet_bind (evaluateAll_quiet args host) fun values host' =>
      callFunction_quiet settings _ name values host'

/-- Several expressions add only quiet events. -/
theorem evaluateAll_quiet (expressions : List Expression) (host : Host σ) :
    host.Quiet (evaluateAll settings scopes frame expressions host).2 := by
  cases expressions with
  | nil => exact .refl host
  | cons expression rest =>
    rw [evaluateAll]
    refine HostM.quiet_bind (evaluate_quiet expression host) fun value host' => ?_
    exact HostM.quiet_bind (evaluateAll_quiet rest host') fun values host'' => .refl host''

end

/-! ## Two evaluations -/

/-- Turning a fault into a failure is alike for all hosts. -/
theorem conclude_alike {R : Host σ → Host σ → Prop} (expression : Expression)
    (result : Except Fault Value) {host host' : Host σ} (h : R host host') :
    Host.Alike R (expression.conclude result host) (expression.conclude result host') := by
  cases result <;> exact ⟨rfl, h⟩

/-- All that expressions see is the same in two places: variables have the same values, units are
equally strict, and calls of functions agree and keep hosts related. -/
structure SameView (R : Host σ → Host σ → Prop) (settings settings' : Settings σ)
    (scopes scopes' : Scopes) (frame frame' : FrameId) : Prop where
  units : settings.options.strictUnits = settings'.options.strictUnits
  calls : ∀ (expression : Expression) name args (host host' : Host σ), R host host' →
    Host.Alike R (expression.callFunction settings name args host)
      (expression.callFunction settings' name args host')
  values : ∀ name, scopes.value? frame name = scopes'.value? frame' name

section Alike

variable {settings settings' : Settings σ} {R : Host σ → Host σ → Prop} {scopes scopes' : Scopes}
  {frame frame' : FrameId}

mutual

/-- Where expressions see the same, they have the same value. -/
theorem evaluate_alike (hview : SameView R settings settings' scopes scopes' frame frame')
    (expression : Expression) {host host' : Host σ} (h : R host host') :
    Host.Alike R (expression.evaluate settings scopes frame host)
      (expression.evaluate settings' scopes' frame' host') := by
  -- by recursion on the expression, with `evaluateAll_alike` for lists and arguments
  cases expression with
  | literal value span => exact ⟨rfl, h⟩
  | reference name span =>
    rw [evaluate, evaluate, hview.values name]
    cases scopes'.value? frame' name <;> exact ⟨rfl, h⟩
  | operation op lhs rhs span =>
    rw [evaluate, evaluate, hview.units]
    refine HostM.alike_bind (evaluate_alike hview lhs h) fun left after after' hafter => ?_
    refine HostM.alike_bind (evaluate_alike hview rhs hafter) fun right after after' hafter => ?_
    exact conclude_alike _ _ hafter
  | negate operand span =>
    rw [evaluate, evaluate]
    exact HostM.alike_bind (evaluate_alike hview operand h) fun value after after' hafter =>
      conclude_alike _ _ hafter
  | list separator items span =>
    rw [evaluate, evaluate]
    exact HostM.alike_bind (evaluateAll_alike hview items h) fun values after after' hafter =>
      ⟨rfl, hafter⟩
  | call name args span =>
    rw [evaluate, evaluate]
    exact HostM.alike_bind (evaluateAll_alike hview args h) fun values after after' hafter =>
      hview.calls _ name values after after' hafter

/-- Where expressions see the same, several of them have the same values. -/
private theorem evaluateAll_alike
    (hview : SameView R settings settings' scopes scopes' frame frame')
    (expressions : List Expression) {host host' : Host σ} (h : R host host') :
    Host.Alike R (evaluateAll settings scopes frame expressions host)
      (evaluateAll settings' scopes' frame' expressions host') := by
  cases expressions with
  | nil => exact ⟨rfl, h⟩
  | cons expression rest =>
    rw [evaluateAll, evaluateAll]
    refine HostM.alike_bind (evaluate_alike hview expression h) fun value after after' hafter => ?_
    exact HostM.alike_bind (evaluateAll_alike hview rest hafter) fun values after after' hafter =>
      ⟨rfl, hafter⟩

end

end Alike

/-! ## Values -/

/-- A function gives the same from the same native state. -/
theorem callFunction_same {settings settings' : Settings σ}
    (hfunctions : settings.functions = settings'.functions) (expression : Expression)
    (name : String) (args : List Value) (host host' : Host σ)
    (h : host.natives = host'.natives) :
    Host.Same (expression.callFunction settings name args host)
      (expression.callFunction settings' name args host') := by
  unfold callFunction
  rw [hfunctions]
  cases settings'.functions.find? name with
  | some function =>
    refine HostM.alike_bind ?_ fun result after after' hafter => ?_
    · rw [Host.invoke_apply, Host.invoke_apply, h]
      exact ⟨rfl, rfl⟩
    · cases result <;> exact ⟨rfl, hafter⟩
  | none => exact ⟨rfl, h⟩

variable {scopes frame} {scopes' : Scopes} {frame' : FrameId}

/-- An expression has the same value where the variables have the same values. -/
theorem evaluate_same (hvalues : ∀ name, scopes.value? frame name = scopes'.value? frame' name)
    (expression : Expression) {host host' : Host σ} (h : host.natives = host'.natives) :
    Host.Same (expression.evaluate settings scopes frame host)
      (expression.evaluate settings scopes' frame' host') :=
  evaluate_alike ⟨rfl, callFunction_same rfl, hvalues⟩ expression h

/-- Several expressions have the same values where the variables have the same values. -/
theorem evaluateAll_same (hvalues : ∀ name, scopes.value? frame name = scopes'.value? frame' name)
    (expressions : List Expression) {host host' : Host σ} (h : host.natives = host'.natives) :
    Host.Same (evaluateAll settings scopes frame expressions host)
      (evaluateAll settings scopes' frame' expressions host') :=
  evaluateAll_alike ⟨rfl, callFunction_same rfl, hvalues⟩ expressions h

/-! ## Pure functions -/

end Expression

/-- The result of a function depends only on its arguments. -/
def Native.IsPure (function : Native σ) : Prop :=
  ∀ args natives natives', (function args natives).1 = (function args natives').1

/-- The results of all functions depend only on their arguments. -/
def FunctionTable.IsPure (functions : FunctionTable σ) : Prop :=
  ∀ name function, functions.find? name = some function → function.IsPure

/-- A table is pure if each of its functions is. -/
theorem FunctionTable.IsPure.of_entries {functions : FunctionTable σ}
    (h : ∀ entry ∈ functions.entries, entry.2.IsPure) : functions.IsPure := by
  intro name function hfind
  obtain ⟨before, after, hentries, -⟩ := List.lookup_eq_some_iff.1 hfind
  have hmem : (Text.lowercase name, function) ∈ functions.entries := by simp [hentries]
  exact h _ hmem

namespace Expression

variable {settings : Settings σ}

/-- A pure function gives the same for every host. -/
private theorem callFunction_pure (hpure : settings.functions.IsPure) (expression : Expression)
    (name : String) (args : List Value) (host host' : Host σ) (_ : True) :
    Host.Alike (fun _ _ => True) (expression.callFunction settings name args host)
      (expression.callFunction settings name args host') := by
  unfold callFunction
  cases hfind : settings.functions.find? name with
  | some function =>
    refine HostM.alike_bind ⟨?_, trivial⟩ fun result after after' _ => ?_
    · exact congrArg Except.ok (hpure name function hfind args host.natives host'.natives)
    · cases result <;> exact ⟨rfl, trivial⟩
  | none => exact ⟨rfl, trivial⟩

/-- If functions depend on their arguments only, a value depends on nothing but the variables. -/
theorem evaluate_pure (hpure : settings.functions.IsPure) {scopes scopes' : Scopes}
    {frame frame' : FrameId}
    (hvalues : ∀ name, scopes.value? frame name = scopes'.value? frame' name)
    (expression : Expression) (host host' : Host σ) :
    (expression.evaluate settings scopes frame host).1 =
      (expression.evaluate settings scopes' frame' host').1 :=
  (evaluate_alike ⟨rfl, callFunction_pure hpure, hvalues⟩ expression trivial).1

end Expression

/-- Where the value of an expression is needed, it is evaluated in the scopes and from the host of
the state, and only the host changes. -/
theorem evaluate_of_runWith_evaluate {settings : Settings σ} {runCall : CallRunner σ}
    {frame : FrameId} {s t : State σ} {expression : Expression} {value : Value}
    (h : (EvalM.evaluate settings frame expression).runWith runCall s = (.ok value, t)) :
    expression.evaluate settings s.scopes frame s.host = (.ok value, t.host) ∧
      t = { s with host := t.host } := by
  simp only [EvalM.evaluate, EvalM.observe, EvalM.runWith, Step.apply, Prod.mk.injEq] at h
  obtain ⟨hvalue, rfl⟩ := h
  exact ⟨Prod.ext hvalue rfl, rfl⟩

/-- The value that is needed, and the scopes that stay. -/
theorem value_of_runWith_evaluate {settings : Settings σ} {runCall : CallRunner σ}
    {frame : FrameId} {s t : State σ} {expression : Expression} {value : Value}
    (h : (EvalM.evaluate settings frame expression).runWith runCall s = (.ok value, t)) :
    (expression.evaluate settings s.scopes frame s.host).1 = .ok value ∧ t.scopes = s.scopes := by
  obtain ⟨hvalue, hstate⟩ := evaluate_of_runWith_evaluate h
  rw [hvalue, hstate]
  exact ⟨rfl, rfl⟩

end MixinSheet
