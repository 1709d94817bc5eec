import MixinSheet.Proofs.Subexpression

/-!
# The calls of native functions

A native function may keep a state, so it matters how often it is called and when. To see the calls
of an evaluation, every function is given a list to which it adds each of its calls; a function
cannot see the list, so the evaluation goes on as before. The list then holds one call for each
sub-expression that calls a registered function, in the order of `Expression.postorder`, on the
values that the arguments have in this evaluation. If the evaluation fails, the list ends where the
evaluation does.

## Key results

- `FunctionTable.recorded`: the functions, each with the list of calls beside its state
- `Evaluated`: the values that an expression and its sub-expressions have in one evaluation
- `Expression.evaluate_records`: recording changes nothing, and which calls are recorded
- `functions_called_once_in_order`: functions are neither skipped nor called twice or out of order
-/

namespace MixinSheet

variable {σ α β : Type}

/-! ## Recording calls -/

/-- A call of a native function. -/
structure NativeCall where
  /-- The name under which the function is registered. -/
  function : String
  args : List Value
  outcome : Except String Value

/-- The function, with a list of all calls beside its state. -/
def Native.recorded (key : String) (function : Native σ) : Native (σ × List NativeCall) :=
  fun args state =>
    let (outcome, natives) := function args state.1
    (outcome, (natives, state.2 ++ [{ function := key, args, outcome }]))

/-- The functions, with a list of all their calls beside their state. -/
def FunctionTable.recorded (functions : FunctionTable σ) : FunctionTable (σ × List NativeCall) where
  entries := functions.entries.map fun entry => (entry.1, entry.2.recorded entry.1)

/-- The settings with functions that record their calls. -/
def Settings.recorded (settings : Settings σ) : Settings (σ × List NativeCall) where
  options := settings.options
  functions := settings.functions.recorded

/-- The host with a list of calls beside the state of the functions. -/
def Host.recording (host : Host σ) (calls : List NativeCall) : Host (σ × List NativeCall) where
  natives := (host.natives, calls)
  events := host.events

/-- A function that records is found where the function is. -/
private theorem FunctionTable.find?_recorded (functions : FunctionTable σ) (name : String) :
    functions.recorded.find? name =
      (functions.find? name).map (Native.recorded (Text.lowercase name)) := by
  unfold find? recorded
  induction functions.entries with
  | nil => rfl
  | cons entry rest ih =>
    rw [List.map_cons, List.lookup_cons, List.lookup_cons, ih]
    cases hkey : Text.lowercase name == entry.1 with
    | true => rw [eq_of_beq hkey]; rfl
    | false => rfl

namespace HostM

/-- The second evaluation does what the first one does and adds calls to the list, as described. -/
def Records (act : HostM σ α) (act' : HostM (σ × List NativeCall) α)
    (Made : Except Failure α → List NativeCall → Prop) : Prop :=
  ∀ (host : Host σ) (calls : List NativeCall), ∃ new,
    act' (host.recording calls) = ((act host).1, (act host).2.recording (calls ++ new)) ∧
    Made (act host).1 new

/-- A result is recorded with no calls. -/
theorem Records.pure {Made : Except Failure α → List NativeCall → Prop} {a : α}
    (h : Made (.ok a) []) : Records (Pure.pure a : HostM σ α) (Pure.pure a) Made := by
  intro host calls
  exact ⟨[], by rw [List.append_nil]; rfl, h⟩

/-- A failure is recorded with no calls. -/
theorem Records.throw {Made : Except Failure α → List NativeCall → Prop} {failure : Failure}
    (h : Made (.error failure) []) :
    Records (MonadExcept.throw failure : HostM σ α) (MonadExcept.throw failure) Made := by
  intro host calls
  exact ⟨[], by rw [List.append_nil]; rfl, h⟩

/-- What is known of the record can be weakened. -/
theorem Records.mono {act : HostM σ α} {act' : HostM (σ × List NativeCall) α}
    {Made Made' : Except Failure α → List NativeCall → Prop} (h : Records act act' Made)
    (hmade : ∀ result new, Made result new → Made' result new) : Records act act' Made' := by
  intro host calls
  obtain ⟨new, hrun, hnew⟩ := h host calls
  exact ⟨new, hrun, hmade _ _ hnew⟩

/-- The record of two evaluations in a row is the record of the first one and then of the second
one. -/
theorem Records.bind {act : HostM σ α} {act' : HostM (σ × List NativeCall) α}
    {next : α → HostM σ β} {next' : α → HostM (σ × List NativeCall) β}
    {First : Except Failure α → List NativeCall → Prop}
    {Made : Except Failure β → List NativeCall → Prop} (hact : Records act act' First)
    (hfailed : ∀ failure new, First (.error failure) new → Made (.error failure) new)
    (hnext : ∀ a new, First (.ok a) new →
      Records (next a) (next' a) fun result more => Made result (new ++ more)) :
    Records (act >>= next) (act' >>= next') Made := by
  intro host calls
  obtain ⟨new, hrun, hmade⟩ := hact host calls
  rw [bind_apply, bind_apply, hrun]
  rcases hfirst : act host with ⟨failure | a, after⟩
  · rw [hfirst] at hmade
    exact ⟨new, rfl, hfailed failure new hmade⟩
  · rw [hfirst] at hmade
    obtain ⟨more, hrun', hmade'⟩ := hnext a new hmade after (calls ++ new)
    exact ⟨new ++ more, by rw [← List.append_assoc]; exact hrun', hmade'⟩

end HostM

/-! ## Which calls an expression makes -/

namespace Expression

/-- The function that an expression calls itself, if it is a registered one. -/
def calledFunction? (functions : FunctionTable σ) : Expression → Option String
  | .call name _ _ => if functions.contains name then some (Text.lowercase name) else none
  | _ => none

/-- The registered functions that are called in an expression, once for each of the calls and from
left to right, those in arguments first. -/
def calledFunctions (functions : FunctionTable σ) (expression : Expression) : List String :=
  expression.postorder.filterMap (calledFunction? functions)

variable (settings : Settings σ) (scopes : Scopes) (frame : FrameId)

/-- What an expression makes of the values of its parts. The value that a registered function gives
is left open; it is the outcome of its call. -/
def Gives : Expression → List Value → Value → Prop
  | .literal own _, _, value => value = own
  | .reference name _, _, value => scopes.value? frame name = some value
  | .operation op _ _ _, operands, value =>
    combined op settings.options.strictUnits operands = .ok value
  | .negate _ _, operands, value => negated operands = .ok value
  | .list separator _ _, items, value => value = .list separator items
  | .call name _ _, args, value =>
    settings.functions.contains name = true ∨
      value = .keyword (name ++ "(" ++ ", ".intercalate (Value.texts args) ++ ")")

/-- The call that an expression makes itself, once its parts and then it have the given values. -/
def ownCall? (functions : FunctionTable σ) (expression : Expression) (operands : List Value)
    (value : Value) : Option NativeCall :=
  (expression.calledFunction? functions).map fun function =>
    { function, args := operands, outcome := .ok value }

/-- The calls that an expression makes itself when it fails although its parts have values: if a
function has failed, the call of this function, and else none. -/
inductive FailingCalls (functions : FunctionTable σ) :
    Expression → List Value → Fault → List NativeCall → Prop
  | refused {name : String} {args : List Expression} {span : Span} {operands : List Value}
    {message function : String}
    (hcalled : (Expression.call name args span).calledFunction? functions = some function) :
    FailingCalls functions (.call name args span) operands (.invalidArguments name message)
      [{ function, args := operands, outcome := .error message }]
  | none {expression : Expression} {operands : List Value} {fault : Fault}
    (hcalled : expression.calledFunction? functions = none)
    (hfault : ∀ name message, fault ≠ .invalidArguments name message) :
    FailingCalls functions expression operands fault []

end Expression

/-- An expression that was evaluated, with the values of all its sub-expressions. -/
structure Evaluated where
  expression : Expression
  parts : List Evaluated
  value : Value

namespace Evaluated

mutual

/-- The evaluated sub-expressions, each after its parts. -/
def postorder : Evaluated → List Evaluated
  | ⟨expression, parts, value⟩ => postorderAll parts ++ [⟨expression, parts, value⟩]

/-- The evaluated sub-expressions of some expressions in order. -/
def postorderAll : List Evaluated → List Evaluated
  | [] => []
  | tree :: rest => tree.postorder ++ postorderAll rest

end

/-- The parts of several trees come one after the other. -/
theorem postorderAll_eq_flatMap (trees : List Evaluated) :
    postorderAll trees = trees.flatMap postorder := by
  induction trees with
  | nil => rfl
  | cons tree rest ih => rw [postorderAll, ih, List.flatMap_cons]

/-- The parts of a tree come before the tree itself. -/
theorem postorder_eq (tree : Evaluated) :
    tree.postorder = tree.parts.flatMap postorder ++ [tree] := by
  cases tree
  rw [postorder, postorderAll_eq_flatMap]

/-- The calls that were made for the values of a tree. -/
def calls (functions : FunctionTable σ) (tree : Evaluated) : List NativeCall :=
  tree.postorder.filterMap fun node =>
    node.expression.ownCall? functions (node.parts.map value) node.value

/-- The calls of the parts of a tree come before its own. -/
private theorem calls_eq (functions : FunctionTable σ) (tree : Evaluated) :
    tree.calls functions = tree.parts.flatMap (calls functions) ++
      (tree.expression.ownCall? functions (tree.parts.map value) tree.value).toList := by
  rw [calls, postorder_eq, List.filterMap_append, List.filterMap_flatMap, List.filterMap_cons]
  cases tree.expression.ownCall? functions (tree.parts.map value) tree.value <;> rfl

variable (settings : Settings σ) (scopes : Scopes) (frame : FrameId)

/-- The parts of the tree are those of its expression, and their values give the value of the
expression. -/
structure Agrees (tree : Evaluated) : Prop where
  parts : tree.parts.map expression = tree.expression.parts
  value : tree.expression.Gives settings scopes frame (tree.parts.map value) tree.value

/-- All values in the tree follow from those below them. -/
def Sound (tree : Evaluated) : Prop :=
  ∀ node ∈ tree.postorder, node.Agrees settings scopes frame

variable {settings scopes frame}

/-- A tree is sound if its parts are and it agrees with them. -/
private theorem Sound.of_parts {tree : Evaluated}
    (hparts : ∀ part ∈ tree.parts, part.Sound settings scopes frame)
    (hagrees : tree.Agrees settings scopes frame) : tree.Sound settings scopes frame := by
  intro node hnode
  rw [postorder_eq, List.mem_append, List.mem_flatMap, List.mem_singleton] at hnode
  obtain ⟨part, hpart, hmem⟩ | rfl := hnode
  · exact hparts part hpart node hmem
  · exact hagrees

/-- A sound tree agrees with its parts. -/
private theorem Sound.agrees {tree : Evaluated} (h : tree.Sound settings scopes frame) :
    tree.Agrees settings scopes frame :=
  h tree (by rw [postorder_eq]; simp)

/-- The parts of a sound tree are sound. -/
theorem Sound.part {tree part : Evaluated} (h : tree.Sound settings scopes frame)
    (hpart : part ∈ tree.parts) : part.Sound settings scopes frame := by
  intro node hnode
  have hmem : node ∈ tree.parts.flatMap postorder := List.mem_flatMap.2 ⟨part, hpart, hnode⟩
  exact h node (by rw [postorder_eq]; exact List.mem_append_left _ hmem)

/-- The tree has a node for each sub-expression and no other. -/
theorem Sound.map_expression_postorder {tree : Evaluated} (h : tree.Sound settings scopes frame) :
    tree.postorder.map expression = tree.expression.postorder := by
  -- the tree follows its expression, so the induction can be on that
  induction hexpression : tree.expression using Expression.parts_induction generalizing tree with
  | step e ih =>
    subst hexpression
    have hparts : ∀ part ∈ tree.parts,
        part.postorder.map expression = part.expression.postorder := by
      intro part hpart
      have hmem : part.expression ∈ tree.expression.parts := by
        rw [← h.agrees.parts]
        exact List.mem_map_of_mem hpart
      exact ih part.expression hmem (h.part hpart) rfl
    calc tree.postorder.map expression
        = (tree.parts.flatMap fun part => part.postorder.map expression) ++ [tree.expression] := by
          rw [postorder_eq, List.map_append, List.map_flatMap, List.map_singleton]
      _ = (tree.parts.flatMap fun part => part.expression.postorder) ++ [tree.expression] := by
          rw [List.flatMap_def, List.flatMap_def, List.map_congr_left hparts]
      _ = tree.expression.parts.flatMap Expression.postorder ++ [tree.expression] := by
          rw [← h.agrees.parts, List.flatMap_map]
      _ = tree.expression.postorder := tree.expression.postorder_eq.symm

/-- The calls are those that can be read off the expression. -/
private theorem Sound.map_function_calls {tree : Evaluated} (h : tree.Sound settings scopes frame)
    (functions : FunctionTable σ) :
    (tree.calls functions).map NativeCall.function =
      tree.expression.calledFunctions functions := by
  rw [calls, Expression.calledFunctions, ← h.map_expression_postorder, List.filterMap_map,
    List.map_filterMap]
  congr 1
  funext node
  simp [Expression.ownCall?, Function.comp_def]

end Evaluated

/-! ## Evaluations that record -/

namespace Expression

variable (settings : Settings σ) (scopes : Scopes) (frame : FrameId)

/-- What is recorded from the moment when the parts have values. -/
def Finishes (expression : Expression) (operands : List Value) :
    Except Failure Value → List NativeCall → Prop
  | .ok value, calls => expression.Gives settings scopes frame operands value ∧
      calls = (expression.ownCall? settings.functions operands value).toList
  | .error failure, calls => failure.Names expression ∧
      FailingCalls settings.functions expression operands failure.fault calls

/-- An operation fails only in the ways of an operation. -/
private theorem ofOperation_of_combined {op : Operator} {strict : Bool} {operands : List Value}
    {fault : Fault} (h : combined op strict operands = .error fault) :
    fault.OfOperation strict := by
  unfold combined at h
  split at h
  · exact Value.ofOperation_of_combine h
  · cases h
    trivial

/-- A negation fails only in the ways of an operation. -/
private theorem ofOperation_of_negated {strict : Bool} {operands : List Value} {fault : Fault}
    (h : negated operands = .error fault) : fault.OfOperation strict := by
  unfold negated at h
  split at h
  · exact Value.ofOperation_of_negate h
  · cases h
    trivial

/-- Turning a fault into a failure records no call. -/
private theorem conclude_records {expression : Expression} {operands : List Value}
    {result : Except Fault Value} (hcalled : expression.calledFunction? settings.functions = none)
    (hgives : ∀ value, result = .ok value → expression.Gives settings scopes frame operands value)
    (hfault : ∀ fault, result = .error fault → fault.OfOperation settings.options.strictUnits) :
    HostM.Records (expression.conclude result : HostM σ Value) (expression.conclude result)
      (expression.Finishes settings scopes frame operands) := by
  cases result with
  | ok value =>
    refine .pure ⟨hgives value rfl, ?_⟩
    rw [ownCall?, hcalled]
    rfl
  | error fault =>
    exact .throw ⟨⟨rfl, rfl, rfl⟩, .none hcalled (hfault fault rfl).ne_invalidArguments⟩

/-- Calling a function records this call, if the function is known. -/
private theorem callFunction_records (name : String) (args : List Expression) (span : Span)
    (operands : List Value) :
    HostM.Records ((Expression.call name args span).callFunction settings name operands)
      ((Expression.call name args span).callFunction settings.recorded name operands)
      ((Expression.call name args span).Finishes settings scopes frame operands) := by
  intro host calls
  have hfind' : settings.recorded.functions.find? name = _ :=
    settings.functions.find?_recorded name
  cases hfind : settings.functions.find? name with
  | none =>
    have hcontains : settings.functions.contains name = false := by
      simp [FunctionTable.contains, hfind]
    refine ⟨[], ?_, ?_⟩
    · simp only [callFunction, hfind', hfind]
      rw [List.append_nil]
      rfl
    · simp only [callFunction, hfind]
      refine ⟨.inr rfl, ?_⟩
      simp [ownCall?, calledFunction?, hcontains]
  | some function =>
    have hcontains : settings.functions.contains name = true := by
      simp [FunctionTable.contains, hfind]
    have hcalled : (Expression.call name args span).calledFunction? settings.functions =
        some (Text.lowercase name) := by simp [calledFunction?, hcontains]
    -- both functions are called on the same state, and the second one adds the call to the list
    simp only [callFunction, hfind', hfind, Option.map_some, HostM.bind_apply, Host.invoke_apply,
      Native.recorded, Host.recording]
    obtain ⟨outcome, natives⟩ := function operands host.natives
    refine ⟨[{ function := Text.lowercase name, args := operands, outcome }], ?_, ?_⟩
    · cases outcome <;> rfl
    · cases outcome with
      | ok value =>
        refine ⟨.inl hcontains, ?_⟩
        rw [ownCall?, hcalled]
        rfl
      | error message => exact ⟨⟨rfl, rfl, rfl⟩, .refused hcalled⟩

/-- Finishing an expression records the call that it makes itself, if it makes one. -/
private theorem finish_records (expression : Expression) (operands : List Value) :
    HostM.Records (expression.finish settings scopes frame operands)
      (expression.finish settings.recorded scopes frame operands)
      (expression.Finishes settings scopes frame operands) := by
  -- only a call of a function reaches the host; everything else records nothing
  cases expression with
  | literal value span => exact .pure ⟨rfl, rfl⟩
  | reference name span =>
    simp only [finish, evaluate]
    cases hvalue : scopes.value? frame name with
    | some value => exact .pure ⟨hvalue, rfl⟩
    | none => exact .throw ⟨⟨rfl, rfl, rfl⟩, .none rfl fun _ _ => Fault.noConfusion⟩
  | operation op lhs rhs span =>
    exact conclude_records settings scopes frame rfl (fun _ h => h) fun _ => ofOperation_of_combined
  | negate operand span =>
    exact conclude_records settings scopes frame rfl (fun _ h => h) fun _ => ofOperation_of_negated
  | list separator items span => exact .pure ⟨rfl, rfl⟩
  | call name args span => exact callFunction_records settings scopes frame name args span operands

/-- An evaluation of the sub-expressions `order` stopped at one of them: those before it have
values, and the calls are those made for these values and perhaps one more, which was refused. -/
def Stopped (order : List Expression) (failure : Failure) (calls : List NativeCall) : Prop :=
  ∃ (done operands : List Evaluated) (failing : Expression) (rest : List Expression)
    (last : List NativeCall),
    order = (done ++ operands).flatMap (·.expression.postorder) ++ failing :: rest ∧
    (∀ tree ∈ done ++ operands, tree.Sound settings scopes frame) ∧
    operands.map Evaluated.expression = failing.parts ∧
    failure.Names failing ∧
    FailingCalls settings.functions failing (operands.map Evaluated.value) failure.fault last ∧
    calls = (done ++ operands).flatMap (Evaluated.calls settings.functions) ++ last

/-- The calls made for an expression. -/
def Calls (expression : Expression) : Except Failure Value → List NativeCall → Prop
  | .ok value, calls => ∃ tree : Evaluated, tree.expression = expression ∧ tree.value = value ∧
      tree.Sound settings scopes frame ∧ calls = tree.calls settings.functions
  | .error failure, calls => Stopped settings scopes frame expression.postorder failure calls

/-- The calls made for some expressions in order. -/
def CallsAll (expressions : List Expression) :
    Except Failure (List Value) → List NativeCall → Prop
  | .ok values, calls => ∃ trees : List Evaluated, trees.map Evaluated.expression = expressions ∧
      trees.map Evaluated.value = values ∧ (∀ tree ∈ trees, tree.Sound settings scopes frame) ∧
      calls = trees.flatMap (Evaluated.calls settings.functions)
  | .error failure, calls =>
    Stopped settings scopes frame (expressions.flatMap postorder) failure calls

variable {settings scopes frame}

/-- What comes later is not reached after a failure. -/
theorem Stopped.append {order : List Expression} {failure : Failure} {calls : List NativeCall}
    (h : Stopped settings scopes frame order failure calls) (later : List Expression) :
    Stopped settings scopes frame (order ++ later) failure calls := by
  obtain ⟨done, operands, failing, rest, last, rfl, hrest⟩ := h
  exact ⟨done, operands, failing, rest ++ later, last, by simp, hrest⟩

/-- What succeeded before a failure has made its calls. -/
theorem Stopped.after {order : List Expression} {failure : Failure} {calls : List NativeCall}
    (h : Stopped settings scopes frame order failure calls) {tree : Evaluated}
    (hsound : tree.Sound settings scopes frame) :
    Stopped settings scopes frame (tree.expression.postorder ++ order) failure
      (tree.calls settings.functions ++ calls) := by
  obtain ⟨done, operands, failing, rest, last, rfl, htrees, hparts, hnames, hlast, rfl⟩ := h
  refine ⟨tree :: done, operands, failing, rest, last, by simp, ?_, hparts, hnames, hlast, by simp⟩
  exact List.forall_mem_cons.2 ⟨hsound, htrees⟩

variable (settings scopes frame)

/-- Expressions in a row record their calls in a row, up to the first one that fails. -/
private theorem evaluateAll_records {expressions : List Expression}
    (h : ∀ expression ∈ expressions, HostM.Records (expression.evaluate settings scopes frame)
      (expression.evaluate settings.recorded scopes frame)
      (expression.Calls settings scopes frame)) :
    HostM.Records (evaluateAll settings scopes frame expressions)
      (evaluateAll settings.recorded scopes frame expressions)
      (CallsAll settings scopes frame expressions) := by
  induction expressions with
  | nil => exact .pure ⟨[], rfl, rfl, List.forall_mem_nil _, rfl⟩
  | cons expression rest ih =>
    obtain ⟨hfirst, hrest⟩ := List.forall_mem_cons.1 h
    rw [evaluateAll, evaluateAll]
    refine .bind hfirst (fun failure new hnew => ?_) fun value new hnew => ?_
    · -- the first one fails, and the rest is not evaluated
      exact hnew.append _
    · -- the first one has a value, so its calls come before those of the rest
      obtain ⟨tree, rfl, rfl, hsound, rfl⟩ := hnew
      refine .bind (ih hrest) (fun failure new hnew => ?_) fun values new hnew => ?_
      · -- a later one fails, after all calls of the first
        exact hnew.after hsound
      · obtain ⟨trees, rfl, rfl, hsounds, rfl⟩ := hnew
        refine .pure ⟨tree :: trees, rfl, rfl, ?_, by simp⟩
        exact List.forall_mem_cons.2 ⟨hsound, hsounds⟩

/-- Functions that record their calls give the same values and are left in the same state, and the
calls they record are those of the expression. -/
theorem evaluate_records (expression : Expression) :
    HostM.Records (expression.evaluate settings scopes frame)
      (expression.evaluate settings.recorded scopes frame)
      (expression.Calls settings scopes frame) := by
  -- the parts are evaluated first, so their calls are recorded before the call of the expression
  induction expression using parts_induction with
  | step expression ih =>
    rw [evaluate_eq, evaluate_eq]
    refine .bind (evaluateAll_records settings scopes frame ih) (fun failure new hnew => ?_)
      fun values new hnew => ?_
    · -- a part fails, and the expression itself calls nothing
      rw [Calls, postorder_eq]
      exact hnew.append _
    · obtain ⟨trees, hparts, rfl, hsounds, rfl⟩ := hnew
      refine (finish_records settings scopes frame expression _).mono fun result last hlast => ?_
      cases result with
      | ok value =>
        -- the tree of the expression has the trees of its parts below its value
        obtain ⟨hgives, rfl⟩ := hlast
        refine ⟨⟨expression, trees, value⟩, rfl, rfl, .of_parts hsounds ⟨hparts, hgives⟩, ?_⟩
        rw [Evaluated.calls_eq]
      | error failure =>
        -- the expression fails itself, with all its parts evaluated
        obtain ⟨hnames, hfailing⟩ := hlast
        refine ⟨[], trees, expression, [], last, ?_, hsounds, hparts, hnames, hfailing, rfl⟩
        rw [postorder_eq, ← hparts, List.flatMap_map]
        rfl

/-- The call that failed is the call of the expression. -/
private theorem FailingCalls.map_function {functions : FunctionTable σ} {expression : Expression}
    {operands : List Value} {fault : Fault} {calls : List NativeCall}
    (h : FailingCalls functions expression operands fault calls) :
    calls.map NativeCall.function = [expression].filterMap (calledFunction? functions) := by
  cases h with
  | refused hcalled => simp [hcalled]
  | none hcalled => simp [hcalled]

variable {settings scopes frame} in
/-- The functions that were called are the first ones of those that the expression calls. -/
private theorem Stopped.isPrefix_map_function {order : List Expression} {failure : Failure}
    {calls : List NativeCall} (h : Stopped settings scopes frame order failure calls) :
    calls.map NativeCall.function <+: order.filterMap (calledFunction? settings.functions) := by
  obtain ⟨done, operands, failing, rest, last, rfl, htrees, -, -, hlast, rfl⟩ := h
  have hcalls : ∀ tree ∈ done ++ operands,
      (tree.calls settings.functions).map NativeCall.function =
        tree.expression.postorder.filterMap (calledFunction? settings.functions) :=
    fun tree htree => (htrees tree htree).map_function_calls settings.functions
  refine ⟨rest.filterMap (calledFunction? settings.functions), ?_⟩
  rw [List.map_append, List.map_flatMap, hlast.map_function, List.flatMap_def,
    List.map_congr_left hcalls, ← List.flatMap_def, ← List.filterMap_flatMap,
    ← List.filterMap_append, ← List.filterMap_append, List.append_assoc, List.singleton_append]

end Expression

/-- Let every native function, however it uses its state, add its calls to a list. The evaluation of
an expression is the same as without the list. If it succeeds, there is one call for each
sub-expression that calls a registered function, in the order of `Expression.postorder` and on the
values of the arguments, as they are in a tree of the values of all sub-expressions. If it fails, it
has come to one sub-expression, and the calls are those for the values of the sub-expressions before
it; when a function has failed, its call is the last. -/
theorem functions_called_once_in_order (settings : Settings σ) (scopes : Scopes) (frame : FrameId)
    (host : Host σ) (expression : Expression) :
    ∃ calls,
      expression.evaluate settings.recorded scopes frame (host.recording []) =
        ((expression.evaluate settings scopes frame host).1,
          (expression.evaluate settings scopes frame host).2.recording calls) ∧
      match (expression.evaluate settings scopes frame host).1 with
      | .ok value =>
        calls.map NativeCall.function = expression.calledFunctions settings.functions ∧
        ∃ tree : Evaluated, tree.expression = expression ∧ tree.value = value ∧
          tree.postorder.map Evaluated.expression = expression.postorder ∧
          tree.Sound settings scopes frame ∧ calls = tree.calls settings.functions
      | .error failure =>
        calls.map NativeCall.function <+: expression.calledFunctions settings.functions ∧
        ∃ (done operands : List Evaluated) (failing : Expression) (rest : List Expression)
          (last : List NativeCall),
          expression.postorder =
            (done ++ operands).flatMap (·.expression.postorder) ++ failing :: rest ∧
          (∀ tree ∈ done ++ operands, tree.Sound settings scopes frame) ∧
          operands.map Evaluated.expression = failing.parts ∧
          failure.text = failing.text ∧ failure.span = failing.span ∧
          Expression.FailingCalls settings.functions failing (operands.map Evaluated.value)
            failure.fault last ∧
          calls = (done ++ operands).flatMap (Evaluated.calls settings.functions) ++ last := by
  obtain ⟨calls, hrun, hcalls⟩ := expression.evaluate_records settings scopes frame host []
  refine ⟨calls, hrun, ?_⟩
  cases hresult : (expression.evaluate settings scopes frame host).1 with
  | ok value =>
    -- all functions are called, in the order of the tree
    rw [hresult] at hcalls
    obtain ⟨tree, rfl, hvalue, hsound, rfl⟩ := hcalls
    exact ⟨hsound.map_function_calls settings.functions, tree, rfl, hvalue,
      hsound.map_expression_postorder, hsound, rfl⟩
  | error failure =>
    -- the calls up to the failing sub-expression are made, and none after it
    rw [hresult] at hcalls
    have hfunctions := hcalls.isPrefix_map_function
    obtain ⟨done, operands, failing, rest, last, horder, hsound, hparts, hnames, hlast, heq⟩ := hcalls
    exact ⟨hfunctions, done, operands, failing, rest, last, horder, hsound, hparts, hnames.text,
      hnames.span, hlast, heq⟩

end MixinSheet
