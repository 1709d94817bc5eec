import MixinSheet.Evaluation.Expansion
import MixinSheet.Proofs.Expression
import MixinSheet.Proofs.Sketch

/-!
# Parameters of an accepted call

A mixin is asked whether it takes the arguments before its parameters are bound. It counts the
parameters without a default, and compares the arguments with the patterns of the parameters they
are for. Binding then goes by position: a parameter takes the argument in its place or else the
value of its default, in which the parameters before it can be used.

Counting is not enough. A parameter that expects an argument, since it has no default or has a
pattern, may be left without one: it is then passed over, and its pattern is compared with nothing.
Where every such parameter has an argument in its place, each parameter of an accepted call is bound
to its value and each pattern has been met. They do if parameters without a default come first.

## Key results

- `Parameter.Taken`: which value each parameter takes, and in which state of the run
- `taken_of_runWith_bindParameters`: parameters are bound to the values they take
- `fits_of_runWith_fitsPatterns`: arguments fit the patterns they were compared with
- `lt_length_of_leastArity_le`: counting is enough if parameters without a default come first
- `accepted_call_fills_parameters`: what an accepted call leaves in the frame of the body
- `accepted_call_leaves_parameters`: a call that is accepted although an argument is missing
-/

namespace MixinSheet

open Evaluation

variable {σ : Type}

/-! ## Binding several variables -/

namespace Scopes

/-- Binds variables in a frame, one after the other. -/
def bindEach (scopes : Scopes) (id : FrameId) (bindings : List (String × Value)) : Scopes :=
  bindings.foldl (fun scopes (name, value) => scopes.bind id name value) scopes

/-- The value that a frame itself has for a variable. -/
def ownValue? (scopes : Scopes) (id : FrameId) (name : String) : Option Value :=
  (scopes.frame? id).bind (·.value? name)

/-- Bindings can be made in two portions. -/
private theorem bindEach_append (scopes : Scopes) (id : FrameId)
    (bindings bindings' : List (String × Value)) :
    scopes.bindEach id (bindings ++ bindings') =
      (scopes.bindEach id bindings).bindEach id bindings' :=
  List.foldl_append

/-- Bindings make no frames. -/
private theorem next_bindEach (scopes : Scopes) (id : FrameId) (bindings : List (String × Value)) :
    (scopes.bindEach id bindings).next = scopes.next := by
  induction bindings generalizing scopes with
  | nil => rfl
  | cons binding rest ih =>
    change ((scopes.bind id binding.1 binding.2).bindEach id rest).next = _
    rw [ih, Scopes.bind, next_modify]

/-- A variable has the value that it was bound to last. -/
private theorem ownValue?_bind {scopes : Scopes} {id : FrameId} (hid : id < scopes.next)
    (name name' : String) (value : Value) :
    (scopes.bind id name value).ownValue? id name' =
      if name' = name then some value else scopes.ownValue? id name' := by
  obtain ⟨frame, hframe⟩ := (exists_frame?_iff scopes id).2 hid
  simp only [ownValue?, Scopes.bind, frame?_modify, hframe, if_true, Option.map_some,
    Option.bind_some, Frame.value?, Frame.bind, List.lookup_cons]
  by_cases h : name' = name
  · simp [h]
  · simp [h, beq_false_of_ne h]

/-- Of several bindings of a variable the last one counts. -/
private theorem ownValue?_bindEach {scopes : Scopes} {id : FrameId} (hid : id < scopes.next)
    (name : String) (bindings : List (String × Value)) :
    (scopes.bindEach id bindings).ownValue? id name =
      (bindings.reverse.lookup name).or (scopes.ownValue? id name) := by
  induction bindings generalizing scopes with
  | nil => rfl
  | cons binding rest ih =>
    obtain ⟨name', value⟩ := binding
    have hid' : id < (scopes.bind id name' value).next := by
      rwa [Scopes.bind, next_modify]
    change ((scopes.bind id name' value).bindEach id rest).ownValue? id name = _
    -- the first binding is searched after all others
    rw [ih hid', ownValue?_bind hid, List.reverse_cons, List.lookup_append, Option.or_assoc]
    by_cases h : name = name'
    · simp [h]
    · simp [h, List.lookup_cons, beq_false_of_ne h]

end Scopes

/-! ## What parameters take -/

namespace Parameter

/-- An argument is expected for the parameter: it has no default, or a pattern that is to be met. -/
def expectsArgument (param : Parameter) : Bool :=
  param.needsArgument || param.guard.isSome

/-- The variables of parameters with their values, in order. -/
def bindings (params : List Parameter) (values : List Value) : List (String × Value) :=
  (params.zip values).filterMap fun (param, value) => param.name.map (·, value)

/-- The first parameter is bound first. -/
private theorem bindings_cons (param : Parameter) (params : List Parameter) (value : Value)
    (values : List Value) :
    bindings (param :: params) (value :: values) =
      bindings [param] [value] ++ bindings params values := by
  cases h : param.name <;> simp [bindings, h]

/-- Only variables of the parameters are bound. -/
private theorem name_of_mem_bindings {params : List Parameter} {values : List Value}
    {binding : String × Value} (h : binding ∈ bindings params values) :
    ∃ param ∈ params, param.name = some binding.1 := by
  obtain ⟨⟨param, value⟩, hmem, hbinding⟩ := List.mem_filterMap.1 h
  obtain ⟨name, hname, rfl⟩ := Option.map_eq_some_iff.1 hbinding
  exact ⟨param, (List.of_mem_zip hmem).1, hname⟩

/-- The last parameter with a name decides what the name is bound to. -/
private theorem lookup_bindings {params : List Parameter} {values : List Value} {i : Nat}
    {param : Parameter} {name : String} {value : Value} (hparam : params[i]? = some param)
    (hname : param.name = some name) (hvalue : values[i]? = some value)
    (hlast : ∀ j later, i < j → params[j]? = some later → later.name ≠ some name) :
    (bindings params values).reverse.lookup name = some value := by
  induction params generalizing values i with
  | nil => simp at hparam
  | cons first params ih =>
    obtain ⟨head, values, rfl⟩ : ∃ head rest, values = head :: rest := by
      cases values with
      | nil => simp at hvalue
      | cons head rest => exact ⟨head, rest, rfl⟩
    rw [bindings_cons, List.reverse_append, List.lookup_append]
    -- later bindings stand before earlier ones, so the rest is searched first
    cases i with
    | zero =>
      simp only [List.getElem?_cons_zero, Option.some.injEq] at hparam hvalue
      subst hparam hvalue
      have hlater : (bindings params values).reverse.lookup name = none := by
        rw [List.lookup_eq_none_iff]
        intro binding hmem
        obtain ⟨later, hlater, hname'⟩ := name_of_mem_bindings (List.mem_reverse.1 hmem)
        obtain ⟨j, hj⟩ := List.getElem?_of_mem hlater
        have hne := hlast (j + 1) later (Nat.succ_pos j) hj
        rw [hname', Ne, Option.some.injEq] at hne
        exact bne_iff_ne.2 (Ne.symm hne)
      rw [hlater]
      simp [bindings, hname]
    | succ i =>
      rw [ih hparam hvalue fun j later hj hlater =>
        hlast (j + 1) later (Nat.succ_lt_succ hj) hlater]
      rfl

/-- The values that parameters take, from left to right. `before i` is the state in which the
parameter at `i` is bound: nothing but the parameters before it has been bound since `scopes`. A
parameter takes the argument in its place, or else the value that its default has in this state. -/
structure Taken (settings : Settings σ) (frame : FrameId) (before : Nat → State σ)
    (scopes : Scopes) (params : List Parameter) (args values : List Value) : Prop where
  length_eq : values.length = params.length
  earlier : ∀ i ≤ params.length, (before i).scopes =
    scopes.bindEach frame (bindings (params.take i) (values.take i))
  argument : ∀ (i : Nat) param arg, params[i]? = some param → args[i]? = some arg →
    values[i]? = some arg
  default : ∀ (i : Nat) param, params[i]? = some param → args[i]? = none →
    ∃ default value host, param.default = some default ∧
      default.evaluate settings (before i).scopes frame (before i).host = (.ok value, host) ∧
      values[i]? = some value

namespace Taken

variable {settings : Settings σ} {frame : FrameId} {before : Nat → State σ} {scopes : Scopes}
  {param : Parameter} {params : List Parameter} {args values : List Value} {value : Value}

/-- Without parameters there is nothing to take. -/
theorem nil (hstart : (before 0).scopes = scopes) (args : List Value) :
    Taken settings frame before scopes [] args [] where
  length_eq := rfl
  earlier i hi := by
    obtain rfl := Nat.le_zero.1 hi
    exact hstart
  argument := by simp
  default := by simp

/-- The first parameter takes a value, and the others do once it is bound. -/
theorem cons (hstart : (before 0).scopes = scopes)
    (h : Taken settings frame (fun i => before (i + 1))
      (scopes.bindEach frame (bindings [param] [value])) params args.tail values)
    (hargument : ∀ arg, args.head? = some arg → value = arg)
    (hdefault : args = [] → ∃ default host, param.default = some default ∧
      default.evaluate settings scopes frame (before 0).host = (.ok value, host)) :
    Taken settings frame before scopes (param :: params) args (value :: values) where
  length_eq := congrArg (· + 1) h.length_eq
  -- before the first parameter nothing is bound; before a later one the first is bound already
  earlier i hi := by
    cases i with
    | zero => exact hstart
    | succ i =>
      rw [h.earlier i (Nat.le_of_succ_le_succ hi), ← Scopes.bindEach_append, ← bindings_cons]
      rfl
  -- the argument of a later parameter is one of the remaining arguments
  argument i other arg hother harg := by
    cases i with
    | zero =>
      rw [← List.head?_eq_getElem?] at harg
      rw [hargument arg harg, List.getElem?_cons_zero]
    | succ i =>
      rw [← List.getElem?_tail] at harg
      exact h.argument i other arg hother harg
  -- the first parameter has its default where no argument is left at all
  default i other hother harg := by
    cases i with
    | zero =>
      obtain rfl : param = other := by simpa using hother
      rw [← List.head?_eq_getElem?, List.head?_eq_none_iff] at harg
      obtain ⟨default, host, hparam, hvalue⟩ := hdefault harg
      exact ⟨default, value, host, hparam, hstart ▸ hvalue, rfl⟩
    | succ i =>
      rw [← List.getElem?_tail] at harg
      exact h.default i other hother harg

end Taken

end Parameter

/-! ## Running the loops -/

section Runs

variable {settings : Settings σ} {runCall : CallRunner σ} {frame : FrameId} {s t : State σ}

/-- Wrapping up a result leaves the state alone. -/
private theorem state_runWith_bind_pure {α β : Type} (act : EvalM σ α) (f : α → β) :
    ((act >>= fun a => pure (f a)).runWith runCall s).2 = (act.runWith runCall s).2 := by
  rw [EvalM.runWith_bind]
  rcases act.runWith runCall s with ⟨outcome, after⟩
  cases outcome <;> rfl

/-- Binding a parameter always succeeds. -/
private theorem runWith_bindParameter (param : Parameter) (value : Value) :
    (bindParameter frame param value).runWith runCall s =
      (.ok (), s.mapScopes (·.bindEach frame (Parameter.bindings [param] [value]))) := by
  unfold bindParameter
  split
  · next name hname =>
    simp only [Parameter.bindings, List.zip_cons_cons, List.zip_nil_left, List.filterMap_cons,
      List.filterMap_nil, hname, Option.map_some]
    rfl
  · next hname =>
    simp only [Parameter.bindings, List.zip_cons_cons, List.zip_nil_left, List.filterMap_cons,
      List.filterMap_nil, hname, Option.map_none]
    rfl

/-- Parameters are taken one at a time: once the first one is bound to its value, in whatever way the
value was found, the others are bound in the state that this leaves. -/
private theorem taken_of_runWith_bindParameters_cons {param : Parameter} {params : List Parameter}
    {args values : List Value} (value : Value) (s₁ : State σ) (hscopes : s₁.scopes = s.scopes)
    (hstep : ∀ others, (bindParameters settings frame (param :: others) args).runWith runCall s =
      (bindParameters settings frame others args.tail >>= fun rest =>
        pure (value :: rest)).runWith runCall
          (s₁.mapScopes (·.bindEach frame (Parameter.bindings [param] [value]))))
    (hrest : ∀ {s : State σ} {values},
      (bindParameters settings frame params args.tail).runWith runCall s = (.ok values, t) →
      Parameter.Taken settings frame
        (fun i => ((bindParameters settings frame (params.take i) args.tail).runWith runCall s).2)
        s.scopes params args.tail values ∧
      t.scopes = s.scopes.bindEach frame (Parameter.bindings params values))
    (hargument : ∀ arg, args.head? = some arg → value = arg)
    (hdefault : args = [] → ∃ default host, param.default = some default ∧
      default.evaluate settings s.scopes frame s.host = (.ok value, host))
    (h : (bindParameters settings frame (param :: params) args).runWith runCall s =
      (.ok values, t)) :
    Parameter.Taken settings frame
      (fun i => ((bindParameters settings frame ((param :: params).take i) args).runWith
        runCall s).2)
      s.scopes (param :: params) args values ∧
    t.scopes = s.scopes.bindEach frame (Parameter.bindings (param :: params) values) := by
  rw [hstep] at h
  obtain ⟨rest, after, hlater, h⟩ := EvalM.exists_of_runWith_bind h
  cases h
  obtain ⟨htaken, hlast⟩ := hrest hlater
  refine ⟨.cons rfl ?_ hargument hdefault, ?_⟩
  · -- the loop over the parameters before a later one starts with this binding
    simp only [List.take_succ_cons, hstep, state_runWith_bind_pure, ← hscopes]
    exact htaken
  · rw [hlast, Parameter.bindings_cons param params, Scopes.bindEach_append, ← hscopes]
    rfl

/-- The loop over the parameters binds them to the values they take, and gives these values. The
state in which a parameter is bound is the one that the loop over those before it leaves. -/
theorem taken_of_runWith_bindParameters {params : List Parameter} {args values : List Value}
    (hargs : ∀ (i : Nat) param, params[i]? = some param → param.needsArgument = true →
      i < args.length)
    (h : (bindParameters settings frame params args).runWith runCall s = (.ok values, t)) :
    Parameter.Taken settings frame
      (fun i => ((bindParameters settings frame (params.take i) args).runWith runCall s).2)
      s.scopes params args values ∧
    t.scopes = s.scopes.bindEach frame (Parameter.bindings params values) := by
  induction params generalizing args values s with
  | nil =>
    rw [bindParameters] at h
    cases h
    exact ⟨.nil rfl args, rfl⟩
  | cons param params ih =>
    have hrest : ∀ (i : Nat) other, params[i]? = some other → other.needsArgument = true →
        i < args.tail.length := by
      intro i other hother hneeds
      have hlt := hargs (i + 1) other hother hneeds
      rw [List.length_tail]
      omega
    cases args with
    | cons arg args =>
      refine taken_of_runWith_bindParameters_cons arg s rfl ?_ (ih hrest) (by simp) (by simp) h
      intro others
      rw [bindParameters, EvalM.runWith_bind, runWith_bindParameter]
      rfl
    | nil =>
      -- there is no argument left, so the parameter has a default
      obtain ⟨default, hdefault⟩ : ∃ default, param.default = some default := by
        refine Option.ne_none_iff_exists'.1 fun hnone => ?_
        have hlt := hargs 0 param rfl (by rw [Parameter.needsArgument, hnone]; rfl)
        exact absurd hlt (Nat.not_lt_zero 0)
      have hrun := h
      simp only [bindParameters, hdefault] at hrun
      obtain ⟨value, s₁, hvalue, -⟩ := EvalM.exists_of_runWith_bind hrun
      obtain ⟨heval, hstate⟩ := evaluate_of_runWith_evaluate hvalue
      refine taken_of_runWith_bindParameters_cons value s₁ (by rw [hstate]) ?_ (ih hrest)
        (by simp) (fun _ => ⟨default, s₁.host, hdefault, heval⟩) h
      intro others
      simp only [bindParameters, hdefault]
      rw [EvalM.runWith_bind, hvalue]
      dsimp only
      rw [EvalM.runWith_bind, runWith_bindParameter]
      rfl

/-- Arguments that were accepted fit the patterns of the parameters they are for. The state in which
a pattern is evaluated is the one that the comparisons before it leave. -/
theorem fits_of_runWith_fitsPatterns {params : List Parameter} {args : List Value}
    (h : (Resolution.fitsPatterns settings frame params args).runWith runCall s = (.ok true, t))
    {i : Nat} {param : Parameter} {guard : Expression} {arg : Value}
    (hparam : params[i]? = some param) (hguard : param.guard = some guard)
    (harg : args[i]? = some arg) {before : State σ}
    (hbefore : before =
      ((Resolution.fitsPatterns settings frame (params.take i) args).runWith runCall s).2) :
    ∃ pattern host, guard.evaluate settings before.scopes frame before.host = (.ok pattern, host) ∧
      pattern.fits arg = true := by
  induction params generalizing args s i with
  | nil => simp at hparam
  | cons first params ih =>
    cases args with
    | nil => simp at harg
    | cons value args =>
      rw [Resolution.fitsPatterns] at h
      -- only a parameter with a pattern is compared with its argument
      split at h
      · next hnone =>
        cases i with
        | zero =>
          obtain rfl : first = param := by simpa using hparam
          rw [hnone] at hguard
          cases hguard
        | succ i =>
          refine ih h hparam harg ?_
          simpa only [List.take_succ_cons, Resolution.fitsPatterns, hnone] using hbefore
      · next other hother =>
        -- the pattern is evaluated, and the next parameters are tried in the state that this leaves
        obtain ⟨pattern, s₁, hpattern, h⟩ := EvalM.exists_of_runWith_bind h
        obtain ⟨heval, hstate⟩ := evaluate_of_runWith_evaluate hpattern
        -- an argument that does not fit ends the comparison
        split at h
        · next hfits =>
          cases i with
          | zero =>
            obtain rfl : first = param := by simpa using hparam
            obtain rfl : value = arg := by simpa using harg
            obtain rfl : other = guard := by simpa [hother] using hguard
            obtain rfl : before = s := hbefore
            exact ⟨pattern, s₁.host, heval, hfits⟩
          | succ i =>
            refine ih h hparam harg ?_
            simp only [List.take_succ_cons, Resolution.fitsPatterns, hother] at hbefore
            rw [EvalM.runWith_bind, hpattern] at hbefore
            simpa only [hfits, if_true] using hbefore
        · cases h

end Runs

/-! ## Counting arguments -/

/-- If parameters that need an argument come first and those after them expect none, then as many
arguments as are needed are enough for each parameter that expects one. -/
theorem lt_length_of_leastArity_le {mixin : Mixin} {args : List Value}
    (hargs : mixin.leastArity ≤ args.length) {needed others : List Parameter}
    (hparams : mixin.params = needed ++ others)
    (hneeded : ∀ param ∈ needed, param.needsArgument = true)
    (hothers : ∀ param ∈ others, param.expectsArgument = false)
    {i : Nat} {param : Parameter} (hparam : mixin.params[i]? = some param)
    (hexpects : param.expectsArgument = true) : i < args.length := by
  have hcount : needed.length ≤ mixin.leastArity := by
    rw [Mixin.leastArity, hparams, List.countP_append, List.countP_eq_length.2 hneeded]
    exact Nat.le_add_right _ _
  refine Nat.not_le.1 fun hle => ?_
  -- the parameter would be one of those that expect no argument
  rw [hparams, List.getElem?_append_right (by omega)] at hparam
  rw [hothers param (List.mem_of_getElem? hparam)] at hexpects
  cases hexpects

/-! ## Accepted calls -/

/-- What is left by binding the parameters of a mixin that takes the arguments, where every
parameter that expects an argument has one in its place. Each parameter takes its argument or else
the value of its default, as the run evaluates it once the parameters before are bound. The frame
of the body itself has the variable of a parameter with the value taken, unless a later parameter
or `@arguments` has the same name. `@arguments` has the values of all parameters. Every pattern was
compared with the argument in its place, which fits. -/
theorem accepted_call_fills_parameters (settings : Settings σ) {closure : Closure} {mixin : Mixin}
    {args : List Value} {asked asked' start last : State σ} {frame : FrameId}
    (hmixin : closure.definition = .mixin mixin)
    (haccepts : (Resolution.takes settings closure args).run settings asked = (.ok true, asked'))
    (hframe : frame < start.scopes.next)
    (hbind : (bindArguments settings frame args closure.definition).run settings start =
      (.ok (), last))
    (hargs : ∀ (i : Nat) param, mixin.params[i]? = some param → param.expectsArgument = true →
      i < args.length) :
    ∃ values, Parameter.Taken settings frame
        (fun i => ((bindParameters settings frame (mixin.params.take i) args).run settings start).2)
        start.scopes mixin.params args values ∧
      (∀ (i : Nat) param name, mixin.params[i]? = some param → param.name = some name →
        (∀ (j : Nat) later, i < j → mixin.params[j]? = some later → later.name ≠ some name) →
        name ≠ "@arguments" →
        ∃ value, values[i]? = some value ∧ last.scopes.ownValue? frame name = some value) ∧
      last.scopes.ownValue? frame "@arguments" = some (.list .space values) ∧
      (∀ (i : Nat) param guard, mixin.params[i]? = some param → param.guard = some guard →
        ∀ before, before = ((Resolution.fitsPatterns settings closure.home (mixin.params.take i)
          args).run settings asked).2 →
        ∃ arg pattern host, args[i]? = some arg ∧
          guard.evaluate settings before.scopes closure.home before.host = (.ok pattern, host) ∧
          pattern.fits arg = true) := by
  simp only [Resolution.takes, hmixin] at haccepts
  -- the number of arguments was checked first, so they are not too many or too few
  split at haccepts
  · cases haccepts
  rw [hmixin, bindArguments] at hbind
  obtain ⟨values, middle, hvalues, hlast⟩ := EvalM.exists_of_runWith_bind hbind
  have hneeded : ∀ (i : Nat) param, mixin.params[i]? = some param →
      param.needsArgument = true → i < args.length := fun i param hparam hneeds =>
    hargs i param hparam (by rw [Parameter.expectsArgument, hneeds, Bool.true_or])
  -- the values that the parameters take
  obtain ⟨htaken, hmiddle⟩ := taken_of_runWith_bindParameters hneeded hvalues
  have hlast : last.scopes = middle.scopes.bind frame "@arguments" (.list .space values) := by
    cases hlast
    rfl
  have hframe' : frame < middle.scopes.next := by rwa [hmiddle, Scopes.next_bindEach]
  refine ⟨values, htaken, ?_, ?_, ?_⟩
  · -- the last parameter of a name gives the variable its value, which `@arguments` leaves alone
    intro i param name hparam hname hlater hne
    obtain ⟨hi, -⟩ := List.getElem?_eq_some_iff.1 hparam
    obtain ⟨value, hvalue⟩ : ∃ value, values[i]? = some value :=
      ⟨_, List.getElem?_eq_getElem (htaken.length_eq ▸ hi)⟩
    refine ⟨value, hvalue, ?_⟩
    rw [hlast, Scopes.ownValue?_bind hframe', if_neg hne, hmiddle,
      Scopes.ownValue?_bindEach hframe, Parameter.lookup_bindings hparam hname hvalue hlater]
    rfl
  · rw [hlast, Scopes.ownValue?_bind hframe', if_pos rfl]
  · -- a parameter with a pattern has an argument, which the pattern was compared with
    intro i param guard hparam hguard before hbefore
    have hlt : i < args.length := hargs i param hparam (by
      rw [Parameter.expectsArgument, hguard, Option.isSome_some, Bool.or_true])
    have harg : args[i]? = some args[i] := List.getElem?_eq_getElem hlt
    obtain ⟨pattern, host, hpattern, hfits⟩ :=
      fits_of_runWith_fitsPatterns haccepts hparam hguard harg hbefore
    exact ⟨_, pattern, host, harg, hpattern, hfits⟩

namespace Echo

/-- A parameter for the keyword `wide`, and one that takes the same by default. -/
def params : List Parameter :=
  [{ name := some "@a", default := none, guard := some (Sketch.keyword "wide") },
    { name := some "@b", default := some (.reference "@a" default), guard := none }]

/-- The state after the parameters have been bound. -/
def last : State Unit :=
  ((bindArguments (Sketch.settings 2) 1 [.keyword "wide"]
    (Sketch.closure params).definition).run (Sketch.settings 2) Sketch.entered).2

end Echo

/-- With one argument for two parameters, both are bound and `@arguments` has two values. -/
theorem accepted_call_fills_parameters_echo :
    Echo.last.scopes.ownValue? 1 "@a" = some (.keyword "wide") ∧
    Echo.last.scopes.ownValue? 1 "@b" = some (.keyword "wide") ∧
    ∃ values : List Value, values.length = 2 ∧
      Echo.last.scopes.ownValue? 1 "@arguments" = some (.list .space values) := by
  have hargs : ∀ (i : Nat) param, Echo.params[i]? = some param → param.expectsArgument = true →
      i < [Value.keyword "wide"].length := fun _ _ =>
    @lt_length_of_leastArity_le { (default : Mixin) with params := Echo.params }
      [.keyword "wide"] (by decide) (Echo.params.take 1) (Echo.params.drop 1) rfl (by decide)
      (by decide) _ _
  obtain ⟨values, htaken, -, hvalues, -⟩ :=
    @accepted_call_fills_parameters Unit (Sketch.settings 2) (Sketch.closure Echo.params) _
      [.keyword "wide"] Sketch.entered _ Sketch.entered Echo.last 1 rfl rfl (by decide) rfl hargs
  exact ⟨rfl, rfl, values, htaken.length_eq, hvalues⟩

namespace Overlooked

/-- A parameter with a default, and after it one that has to be given the keyword `left`. -/
def params : List Parameter :=
  [{ name := some "@a", default := some (Sketch.keyword "x"), guard := none },
    { name := some "@b", default := none, guard := some (Sketch.keyword "left") }]

/-- An argument for the first parameter only. -/
def args : List Value :=
  [.keyword "y"]

/-- The state after the parameters have been bound. -/
def last : State Unit :=
  ((bindArguments (Sketch.settings 2) 1 args (Sketch.closure params).definition).run
    (Sketch.settings 2) Sketch.entered).2

end Overlooked

/-- The call is accepted and the parameters are bound, since one argument is needed and there is
one. But it is not in the place of `@b`: this parameter is not bound, its pattern was compared with
nothing, and `@arguments` has one value for two parameters. -/
theorem accepted_call_leaves_parameters :
    ((Resolution.takes (Sketch.settings 2) (Sketch.closure Overlooked.params) Overlooked.args).run
      (Sketch.settings 2) Sketch.entered).1 = .ok true ∧
    ((bindArguments (Sketch.settings 2) 1 Overlooked.args
      (Sketch.closure Overlooked.params).definition).run (Sketch.settings 2) Sketch.entered).1 =
        .ok () ∧
    Overlooked.last.scopes.ownValue? 1 "@a" = some (.keyword "y") ∧
    Overlooked.last.scopes.ownValue? 1 "@b" = none ∧
    Overlooked.last.scopes.ownValue? 1 "@arguments" = some (.list .space Overlooked.args) ∧
    Overlooked.args.length < Overlooked.params.length ∧
    Overlooked.args[1]? = none ∧ (Overlooked.params[1]?.bind (·.guard)).isSome = true :=
  ⟨rfl, rfl, rfl, rfl, rfl, by decide, rfl, rfl⟩

end MixinSheet
