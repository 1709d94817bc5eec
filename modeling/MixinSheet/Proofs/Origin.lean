import MixinSheet.Evaluation.Sheet
import MixinSheet.Proofs.Expression

/-!
# Where failures come from

A failure starts with no open calls, in an expression, in a declaration that has no selectors or in
a call that cannot be resolved. A program either raises it itself or gets it from a call that it
makes; the expansion of a definition adds the call to it, and nothing else changes it on its way.

## Key results

- `Expression.evaluate_raises`: what expressions can fail with
- `EvalM.Makes`: a run of a program makes a call in some state
- `EvalM.Accounts`: every failure of a program is its own or that of a call it makes
- `accounts_runBody`: the calls that a block makes stand in it, at most inside rulesets
- `origin_of_runCall`: how a call can fail
- `Stylesheet.fault_of_rules`: what a stylesheet can fail with
-/

namespace MixinSheet

open Evaluation

variable {σ α β : Type}

/-! ## Failures of expressions -/

/-- A fault that has a reason other than the limit of calls; units matter only if they are strict,
and only if they differ. -/
def Fault.Arises (strictUnits : Bool) : Fault → Prop
  | .recursionLimit .. => False
  | .incompatibleUnits _ left right => strictUnits = true ∧ left ≠ right
  | _ => True

/-- A failure where it starts: no call is open yet, and the limit of calls has no part in it. -/
structure Failure.Raised (settings : Settings σ) (failure : Failure) : Prop where
  openCalls : failure.openCalls = []
  fault : failure.fault.Arises settings.options.strictUnits

/-- The faults of operations are among those of expressions. -/
private theorem Fault.OfOperation.arises {strictUnits : Bool} {fault : Fault}
    (h : fault.OfOperation strictUnits) : fault.Arises strictUnits := by
  cases fault with
  | divideByZero | invalidOperation => trivial
  | incompatibleUnits => exact h
  | _ => exact h.elim

/-- The evaluation can fail only with failures that it raises itself. -/
def HostM.Raises (settings : Settings σ) (act : HostM σ α) : Prop :=
  ∀ host failure, (act host).1 = .error failure → failure.Raised settings

namespace HostM

variable {settings : Settings σ}

/-- To give a value raises nothing. -/
theorem Raises.pure (a : α) : Raises settings (Pure.pure a : HostM σ α) := by
  intro host failure h
  cases h

/-- Evaluations in a row raise what one of them does. -/
theorem Raises.bind {act : HostM σ α} {next : α → HostM σ β} (hact : Raises settings act)
    (hnext : ∀ a, Raises settings (next a)) : Raises settings (act >>= next) := by
  intro host failure h
  obtain hfirst | ⟨a, after, -, hsecond⟩ := of_bind_error h
  · exact hact host failure hfirst
  · exact hnext a after failure hsecond

end HostM

namespace Expression

variable {settings : Settings σ}

/-- An expression may be refused for a fault that can arise. -/
private theorem refuse_raises {fault : Fault} (h : fault.Arises settings.options.strictUnits)
    (expression : Expression) : HostM.Raises settings (expression.refuse fault : HostM σ α) := by
  intro host failure hfailure
  cases hfailure
  exact ⟨rfl, h⟩

/-- Turning a fault into a failure raises the fault. -/
private theorem conclude_raises {result : Except Fault Value}
    (h : ∀ fault, result = .error fault → fault.Arises settings.options.strictUnits)
    (expression : Expression) : HostM.Raises settings (expression.conclude result) := by
  cases result with
  | ok value => exact .pure value
  | error fault => exact refuse_raises (h fault rfl) expression

/-- Calling a function raises the refusal of the function only. -/
private theorem callFunction_raises (expression : Expression) (name : String) (args : List Value) :
    HostM.Raises settings (expression.callFunction settings name args) := by
  unfold callFunction
  -- a name of no function is kept as text, so nothing is raised
  cases settings.functions.find? name with
  | none =>
    intro host failure h
    cases h
  | some function =>
    have hinvoke : HostM.Raises settings (Host.invoke function args) := by
      intro host failure h
      cases h
    refine .bind hinvoke fun result => ?_
    cases result with
    | ok value => exact .pure value
    | error message =>
      -- the function has refused its arguments
      have harises : (Fault.invalidArguments name message).Arises settings.options.strictUnits :=
        trivial
      exact refuse_raises harises expression

variable (scopes : Scopes) (frame : FrameId)

mutual

/-- An expression fails only with failures that it raises itself. -/
theorem evaluate_raises (expression : Expression) :
    HostM.Raises settings (expression.evaluate settings scopes frame) := by
  -- by recursion on the expression: its parts raise only what arises, and so does its own operation
  cases expression with
  | literal value span => exact .pure value
  | reference name span =>
    rw [evaluate]
    cases scopes.value? frame name with
    | some value => exact .pure value
    | none =>
      intro host failure h
      cases h
      exact ⟨rfl, trivial⟩
  | operation op lhs rhs span =>
    rw [evaluate]
    refine .bind (evaluate_raises lhs) fun left => .bind (evaluate_raises rhs) fun right => ?_
    exact conclude_raises (fun _ h => (Value.ofOperation_of_combine h).arises) _
  | negate operand span =>
    rw [evaluate]
    refine .bind (evaluate_raises operand) fun value => ?_
    exact conclude_raises (fun _ h => (Value.ofOperation_of_negate h).arises) _
  | list separator items span =>
    rw [evaluate]
    exact .bind (evaluateAll_raises items) fun values => .pure _
  | call name args span =>
    rw [evaluate]
    exact .bind (evaluateAll_raises args) fun values => callFunction_raises _ name values

/-- Several expressions fail only with failures that one of them raises. -/
private theorem evaluateAll_raises (expressions : List Expression) :
    HostM.Raises settings (evaluateAll settings scopes frame expressions) := by
  cases expressions with
  | nil => exact .pure []
  | cons expression rest =>
    rw [evaluateAll]
    exact .bind (evaluate_raises expression) fun value =>
      .bind (evaluateAll_raises rest) fun values => .pure _

end

end Expression

/-! ## Calls that a run makes -/

/-- A run of the program from the first state makes a call in the second state, given how the calls
before it are run. -/
inductive EvalM.Makes (runCall : CallRunner σ) :
    EvalM σ α → State σ → Invocation → State σ → Prop
  | here {invocation : Invocation} {next : Except Failure Collected → EvalM σ α} {s : State σ} :
      Makes runCall (.call invocation next) s invocation s
  | step {γ : Type} {first : Step σ γ} {next : γ → EvalM σ α} {invocation : Invocation}
      {s t : State σ}
      (h : Makes runCall (next (first.apply s).1) (first.apply s).2 invocation t) :
      Makes runCall (.step first next) s invocation t
  | later {earlier invocation : Invocation} {next : Except Failure Collected → EvalM σ α}
      {s t : State σ}
      (h : Makes runCall (next (runCall earlier s).1) (runCall earlier s).2 invocation t) :
      Makes runCall (.call earlier next) s invocation t

namespace EvalM

section Makes

variable {runCall : CallRunner σ} {act : EvalM σ α} {s t : State σ} {invocation : Invocation}

/-- What a program does, it also does when something comes after it. -/
theorem Makes.followedBy (h : act.Makes runCall s invocation t)
    (next : Except Failure α → EvalM σ β) :
    (act.followedBy next).Makes runCall s invocation t := by
  induction h with
  | here => exact .here
  | step _ ih => exact .step ih
  | later _ ih => exact .later ih

/-- What comes after a program is done from the state that the program leaves. -/
theorem Makes.after {next : Except Failure α → EvalM σ β}
    (h : (next (act.runWith runCall s).1).Makes runCall (act.runWith runCall s).2 invocation t) :
    (act.followedBy next).Makes runCall s invocation t := by
  induction act generalizing s with
  | done outcome => exact h
  | step first rest ih => exact .step (ih _ h)
  | call earlier rest ih => exact .later (ih _ h)

/-- A call that is made after something else is made by the whole. -/
private theorem Makes.after_bind {next : α → EvalM σ β} {a : α} {s' : State σ}
    (hact : act.runWith runCall s = (.ok a, s'))
    (h : (next a).Makes runCall s' invocation t) :
    (act >>= next).Makes runCall s invocation t := by
  apply Makes.after
  rw [hact]
  exact h

/-- If two parts fail one after the other, the first one does, or it succeeds and the second one
fails. -/
theorem fails_of_runWith_bind {next : α → EvalM σ β} {failure : Failure}
    (h : (act >>= next).runWith runCall s = (.error failure, t)) :
    act.runWith runCall s = (.error failure, t) ∨
      ∃ a s', act.runWith runCall s = (.ok a, s') ∧
        (next a).runWith runCall s' = (.error failure, t) := by
  rw [runWith_bind] at h
  split at h
  · next a s' hact => exact .inr ⟨a, s', hact, h⟩
  · next other s' hact =>
    obtain ⟨hother, rfl⟩ := Prod.mk.inj h
    rw [Except.error.inj hother] at hact
    exact .inl hact

/-- A failure has gone through the call. -/
private theorem fails_of_runWith_through {call : OpenCall} {failure : Failure}
    (h : (act.through call).runWith runCall s = (.error failure, t)) :
    ∃ inner, act.runWith runCall s = (.error inner, t) ∧ failure = inner.through call := by
  rw [through, runWith_followedBy] at h
  rcases hact : act.runWith runCall s with ⟨outcome, s'⟩
  rw [hact] at h
  obtain ⟨houtcome, rfl⟩ := Prod.mk.inj h
  cases outcome with
  | ok a => cases houtcome
  | error inner => exact ⟨inner, rfl, (Except.error.inj houtcome).symm⟩

end Makes

/-! ## Accounting for failures -/

variable (settings : Settings σ) (runCall : CallRunner σ)

/-- Where a failure of a program started from `s` comes from: the program raises it, or a call that
the program makes fails with it. -/
inductive Origin (asked : Call → Prop) (act : EvalM σ α) (s : State σ) (failure : Failure) : Prop
  | raised (h : failure.Raised settings)
  | call {invocation : Invocation} {s' t : State σ} (hasked : asked invocation.call)
      (hmakes : act.Makes runCall s invocation s')
      (hfails : runCall invocation s' = (.error failure, t))

/-- All failures of the program have an origin, and the calls that it may get one from are as
`asked` tells. -/
def Accounts (asked : Call → Prop) (act : EvalM σ α) : Prop :=
  ∀ s failure t, act.runWith runCall s = (.error failure, t) →
    act.Origin settings runCall asked s failure

variable {settings runCall} {asked : Call → Prop} {act : EvalM σ α} {s t : State σ}

/-- The calls of a part are calls of the whole. -/
private theorem Origin.lift {asked' : Call → Prop} {whole : EvalM σ β} {failure : Failure}
    (h : act.Origin settings runCall asked t failure) (hasked : ∀ call, asked call → asked' call)
    (hmakes : ∀ invocation s', act.Makes runCall t invocation s' →
      whole.Makes runCall s invocation s') :
    whole.Origin settings runCall asked' s failure := by
  cases h with
  | raised hraised => exact .raised hraised
  | call hcall hmake hfails => exact .call (hasked _ hcall) (hmakes _ _ hmake) hfails

/-- A result has nothing to account for. -/
theorem Accounts.pure (a : α) : Accounts settings runCall asked (Pure.pure a) := by
  intro s failure t h
  cases h

/-- A failure that was raised is accounted for. -/
theorem Accounts.fail {failure : Failure} (h : failure.Raised settings) :
    Accounts settings runCall asked (EvalM.fail failure : EvalM σ α) := by
  intro s other t hfail
  cases hfail
  exact .raised h

/-- More calls may be asked for. -/
theorem Accounts.mono {asked' : Call → Prop} (h : Accounts settings runCall asked act)
    (hasked : ∀ call, asked call → asked' call) : Accounts settings runCall asked' act :=
  fun s failure t hfails => (h s failure t hfails).lift hasked fun _ _ hmakes => hmakes

/-- Sequencing. -/
theorem Accounts.bind {next : α → EvalM σ β} (h : Accounts settings runCall asked act)
    (hnext : ∀ a, Accounts settings runCall asked (next a)) :
    Accounts settings runCall asked (act >>= next) := by
  intro s failure t hfails
  rcases fails_of_runWith_bind hfails with hact | ⟨a, s', hact, hfails'⟩
  · exact (h s failure t hact).lift (fun _ hcall => hcall) fun _ _ hmakes => hmakes.followedBy _
  · exact (hnext a s' failure t hfails').lift (fun _ hcall => hcall) fun _ _ hmakes =>
      hmakes.after_bind hact

/-- Single steps do not fail. -/
theorem Accounts.perform (first : Step σ α) :
    Accounts settings runCall asked (EvalM.perform first) := by
  intro s failure t h
  cases h

/-- An evaluation accounts for what it raises. -/
theorem Accounts.observe {act : Scopes → HostM σ α}
    (h : ∀ scopes, HostM.Raises settings (act scopes)) :
    Accounts settings runCall asked (EvalM.observe act) := by
  intro s failure t hfails
  exact .raised (h s.scopes s.host failure (congrArg Prod.fst hfails))

/-- Cleaning up passes a failure on. -/
theorem Accounts.ensuring (h : Accounts settings runCall asked act) (cleanup : Step σ Unit) :
    Accounts settings runCall asked (act.ensuring cleanup) := by
  intro s failure t hfails
  rw [runWith_ensuring] at hfails
  have hact : act.runWith runCall s = (.error failure, (act.runWith runCall s).2) :=
    Prod.ext (Prod.mk.inj hfails).1 rfl
  exact (h s failure _ hact).lift (fun _ hcall => hcall) fun _ _ hmakes => hmakes.followedBy _

/-- What is run in a frame accounts for its failures. -/
theorem Accounts.inFrame {act : FrameId → EvalM σ α} (parent : FrameId) (block : Block)
    (h : ∀ frame, Accounts settings runCall asked (act frame)) :
    Accounts settings runCall asked (EvalM.inFrame parent block act) :=
  .bind (.perform _) fun frame => (h frame).ensuring .leave

end EvalM

/-! ## The parts of the evaluator -/

section Parts

variable {settings : Settings σ} {runCall : CallRunner σ} {asked : Call → Prop}

/-- An expression accounts for its failures. -/
private theorem accounts_evaluate (frame : FrameId) (expression : Expression) :
    (EvalM.evaluate settings frame expression).Accounts settings runCall asked :=
  .observe fun scopes => Expression.evaluate_raises scopes frame expression

/-- Expressions in a row account for their failures. -/
private theorem accounts_evaluateAll (frame : FrameId) (expressions : List Expression) :
    (EvalM.evaluateAll settings frame expressions).Accounts settings runCall asked :=
  .observe fun scopes => Expression.evaluateAll_raises scopes frame expressions

/-- An assignment accounts for its failures. -/
private theorem accounts_assign (frame : FrameId) (assignment : Assignment) :
    (EvalM.assign settings frame assignment).Accounts settings runCall asked :=
  .bind (accounts_evaluate frame assignment.value) fun _ => .perform _

/-- The assignments of a block account for their failures. -/
private theorem accounts_bindAll (frame : FrameId) (nodes : List Node) :
    (Resolution.bindAll settings frame nodes).Accounts settings runCall asked := by
  induction nodes with
  | nil => exact .pure ()
  | cons node rest ih =>
    cases node with
    | assignment assignment => exact .bind (accounts_assign frame assignment) fun _ => ih
    | ruleset | mixin | call | declaration => exact ih

/-- Looking for members accounts for the failures of their assignments. -/
private theorem accounts_membersNamed (name : String) (spaces : List Closure) :
    (Resolution.membersNamed settings name spaces).Accounts settings runCall asked := by
  induction spaces with
  | nil => exact .pure []
  | cons space rest ih =>
    have hopen : (Resolution.openNamespace settings space).Accounts settings runCall asked :=
      .inFrame _ _ fun frame => .bind (.perform _) fun _ =>
        .bind (accounts_bindAll frame space.definition.body) fun _ => .pure frame
    exact .bind hopen fun frame => .bind (.perform _) fun members => .bind ih fun later => .pure _

/-- Looking up a path accounts for the failures on the way. -/
private theorem accounts_lookup (frame : FrameId) (path : List Element) :
    (Resolution.lookup settings frame path).Accounts settings runCall asked := by
  -- each element of the path opens namespaces, which may raise what their assignments raise
  have hdescend : ∀ (rest : List Element) (candidates : List Closure),
      (Resolution.descend settings rest candidates).Accounts settings runCall asked := by
    intro rest
    induction rest with
    | nil => exact fun candidates => .pure candidates
    | cons segment rest ih =>
      intro candidates
      refine .bind (accounts_membersNamed segment.value _) fun members => ?_
      split
      · exact .pure []
      · exact ih members
  cases path with
  | nil => exact .pure []
  | cons first rest => exact .bind (.perform _) fun candidates => hdescend rest candidates

/-- Comparing patterns accounts for the failures of the patterns. -/
private theorem accounts_fitsPatterns (frame : FrameId) (params : List Parameter)
    (args : List Value) :
    (Resolution.fitsPatterns settings frame params args).Accounts settings runCall asked := by
  induction params generalizing args with
  | nil => exact .pure true
  | cons param params ih =>
    cases args with
    | nil => exact .pure true
    | cons arg args =>
      rw [Resolution.fitsPatterns]
      -- only patterns are evaluated
      cases param.guard with
      | none => exact ih args
      | some guard =>
        refine .bind (accounts_evaluate frame guard) fun pattern => ?_
        split
        · exact ih args
        · exact .pure false

/-- Choosing among candidates accounts for the failures of their patterns. -/
private theorem accounts_taking (args : List Value) (candidates : List Closure) :
    (Resolution.taking settings args candidates).Accounts settings runCall asked := by
  induction candidates with
  | nil => exact .pure []
  | cons candidate rest ih =>
    -- a ruleset is not asked further, and a mixin by its patterns
    have htakes : (Resolution.takes settings candidate args).Accounts settings runCall asked := by
      unfold Resolution.takes
      cases candidate.definition with
      | ruleset ruleset => exact .pure _
      | mixin mixin =>
        simp only
        split
        · exact .pure false
        · exact accounts_fitsPatterns candidate.home mixin.params args
    refine .bind htakes fun accepts => ?_
    split
    · exact .bind ih fun accepted => .pure _
    · exact ih

/-- A call that cannot be resolved fails by itself. -/
private theorem accounts_targets (call : Call) (args : List Value) (frame : FrameId) :
    (Resolution.targets settings call args frame).Accounts settings runCall asked := by
  refine .bind (accounts_lookup frame call.path) fun candidates => ?_
  split
  · exact .fail ⟨rfl, trivial⟩
  · refine .bind (accounts_taking args candidates) fun accepted => .bind (.perform _) fun _ => ?_
    split
    · exact .fail ⟨rfl, trivial⟩
    · exact .pure accepted

/-- Binding the arguments accounts for the failures of the defaults. -/
private theorem accounts_bindArguments (frame : FrameId) (args : List Value)
    (definition : Definition) :
    (bindArguments settings frame args definition).Accounts settings runCall asked := by
  -- binding a value raises nothing
  have hbind : ∀ (param : Parameter) (value : Value),
      (bindParameter frame param value : EvalM σ Unit).Accounts settings runCall asked := by
    intro param value
    unfold bindParameter
    cases param.name with
    | none => exact .pure ()
    | some name => exact .perform _
  -- but a default that is evaluated for a missing argument may
  have hparams : ∀ (params : List Parameter) (args : List Value),
      (bindParameters settings frame params args).Accounts settings runCall asked := by
    intro params
    induction params with
    | nil => exact fun args => .pure []
    | cons param params ih =>
      intro args
      cases args with
      | cons arg args =>
        exact .bind (hbind param arg) fun _ => .bind (ih args) fun values => .pure _
      | nil =>
        rw [bindParameters]
        cases param.default with
        | none => exact ih []
        | some default =>
          exact .bind (accounts_evaluate frame default) fun value =>
            .bind (hbind param value) fun _ => .bind (ih []) fun values => .pure _
  cases definition with
  | ruleset ruleset => exact .pure ()
  | mixin mixin => exact .bind (hparams mixin.params args) fun bound => .perform _

/-- A declaration accounts for its failures. -/
private theorem accounts_runDeclaration (context : List Selector) (frame : FrameId)
    (out : Collected) (declaration : Declaration) :
    (runDeclaration settings context frame out declaration).Accounts settings runCall asked := by
  unfold runDeclaration
  split
  · exact .fail ⟨rfl, trivial⟩
  · exact .bind (accounts_evaluate frame declaration.value) fun value => .pure _

/-- The call is a statement of the block, or of a ruleset inside of it at any depth; the bodies of
mixins are passed over. -/
inductive Node.Runs : List Node → Call → Prop
  | call {nodes : List Node} {call : Call} (hmem : .call call ∈ nodes) : Runs nodes call
  | ruleset {nodes body : List Node} {selectors : List Selector} {span : Span} {call : Call}
      (hmem : .ruleset selectors body span ∈ nodes) (h : Runs body call) : Runs nodes call

/-- A longer list runs more calls. -/
theorem Node.Runs.mono {nodes nodes' : List Node} {call : Call} (h : Runs nodes call)
    (hsubset : ∀ node ∈ nodes, node ∈ nodes') : Runs nodes' call := by
  cases h with
  | call hmem => exact .call (hsubset _ hmem)
  | ruleset hmem hbody => exact .ruleset (hsubset _ hmem) hbody

mutual

/-- A statement gets failures only from the calls that it is or that stand in it. -/
private theorem accounts_runNode (context : List Selector) (frame : FrameId) (site : Site)
    (out : Collected) (node : Node) :
    (runNode settings context frame site out node).Accounts settings runCall
      (Node.Runs [node]) := by
  cases node with
  | assignment assignment =>
    rw [runNode]
    exact .bind (accounts_assign frame assignment) fun _ => .pure out
  | declaration declaration =>
    rw [runNode]
    exact accounts_runDeclaration context frame out declaration
  | call call =>
    -- the statement is nothing but the call
    rw [runNode]
    intro s failure t hfails
    exact .call (.call List.mem_cons_self) .here hfails
  | ruleset selectors body span =>
    rw [runNode]
    have hbody : ∀ context frame,
        (runBody settings context frame site 0 {} body).Accounts settings runCall
          (Node.Runs [.ruleset selectors body span]) := fun context frame =>
      (accounts_runBody context frame site 0 {} body).mono fun call hruns =>
        .ruleset List.mem_cons_self hruns
    have hruleset : (runRulesetWith site { selectors, body, span } context frame
        fun context frame => runBody settings context frame site 0 {} body).Accounts settings
          runCall (Node.Runs [.ruleset selectors body span]) :=
      .bind (.perform _) fun _ => .bind (.inFrame _ _ fun frame =>
        .bind (.perform _) fun _ => hbody _ frame) fun inner => .pure _
    exact .bind hruleset fun rules => .pure _
  | mixin name params body span =>
    rw [runNode]
    exact .pure out

/-- A block gets failures only from the calls that stand in it. -/
theorem accounts_runBody (context : List Selector) (frame : FrameId) (site : Site) (index : Nat)
    (out : Collected) (nodes : List Node) :
    (runBody settings context frame site index out nodes).Accounts settings runCall
      (Node.Runs nodes) := by
  cases nodes with
  | nil =>
    rw [runBody]
    exact .pure out
  | cons node rest =>
    rw [runBody]
    -- the calls of the first node and those of the rest are calls of the whole list
    have hnode : (runNode settings context frame (index :: site) out node).Accounts settings runCall
        (Node.Runs (node :: rest)) :=
      (accounts_runNode context frame (index :: site) out node).mono fun call hruns =>
        hruns.mono fun other hmem => List.mem_cons.2 (.inl (List.mem_singleton.1 hmem))
    have hrest : ∀ out, (runBody settings context frame site (index + 1) out rest).Accounts settings
        runCall (Node.Runs (node :: rest)) := fun out =>
      (accounts_runBody context frame site (index + 1) out rest).mono fun call hruns =>
        hruns.mono fun other hmem => .tail node hmem
    exact .bind hnode hrest

end

/-- A stylesheet accounts for its failures. -/
theorem accounts_runSheet (sheet : Stylesheet) :
    (runSheet settings sheet).Accounts settings runCall (Node.Runs sheet.nodes) :=
  .bind (.perform _) fun _ => .bind (accounts_runBody [] Scopes.root Stylesheet.site 0 {} _)
    fun _ => .bind (.perform _) fun _ => .pure _

/-! ## Failures of calls -/

/-- A failure of an expansion has gone through the call, and comes from the body of the
definition. -/
private theorem origin_of_runDefinition {call : Call} {closure : Closure} {args : List Value}
    {context : List Selector} {caller : FrameId} {out : Collected} {s t : State σ}
    {failure : Failure}
    (h : (runDefinition settings call closure args context caller out).runWith runCall s =
      (.error failure, t)) :
    ∃ inner : Failure, failure = inner.through { text := call.text, span := call.span } ∧
      (runDefinition settings call closure args context caller out).Origin settings runCall
        (Node.Runs closure.definition.body) s inner := by
  -- before the failure goes through the call, it is one of the body
  have hframe : (EvalM.inFrame closure.home closure.block fun frame => do
      return (frame, ← runDefinitionBody settings closure args context frame out)).Accounts settings
        runCall (Node.Runs closure.definition.body) :=
    .inFrame _ _ fun frame => .bind (.bind (accounts_bindArguments frame args closure.definition)
      fun _ => .bind (.perform _) fun _ => accounts_runBody _ _ _ _ _ _) fun out => .pure _
  rw [runDefinition, EvalM.runWith_perform_bind] at h
  rcases EvalM.fails_of_runWith_bind h with hbody | ⟨answer, s', -, hpublish⟩
  · obtain ⟨inner, hinner, hthrough⟩ := EvalM.fails_of_runWith_through hbody
    refine ⟨inner, hthrough, (hframe _ inner _ hinner).lift (fun _ hruns => hruns) ?_⟩
    intro invocation s' hmakes
    rw [runDefinition]
    exact .step ((hmakes.followedBy _).followedBy _)
  · -- publishing does not fail
    cases hpublish

/-- One of the definitions has failed. -/
private theorem origin_of_runDefinitions {call : Call} {args : List Value} {context : List Selector}
    {caller : FrameId} {out : Collected} {closures : List Closure} {s t : State σ}
    {failure : Failure}
    (h : (runDefinitions settings call args context caller out closures).runWith runCall s =
      (.error failure, t)) :
    ∃ closure ∈ closures, ∃ inner : Failure,
      failure = inner.through { text := call.text, span := call.span } ∧
      (runDefinitions settings call args context caller out closures).Origin settings runCall
        (Node.Runs closure.definition.body) s inner := by
  induction closures generalizing out s with
  | nil => cases h
  | cons closure rest ih =>
    rw [runDefinitions] at h
    -- the first definition fails, or it ends and a later one does
    rcases EvalM.fails_of_runWith_bind h with hfirst | ⟨out', s', hfirst, hrest⟩
    · obtain ⟨inner, hthrough, horigin⟩ := origin_of_runDefinition hfirst
      refine ⟨closure, List.mem_cons_self, inner, hthrough, ?_⟩
      rw [runDefinitions]
      exact horigin.lift (fun _ hruns => hruns) fun _ _ hmakes => hmakes.followedBy _
    · obtain ⟨found, hmem, inner, hthrough, horigin⟩ := ih hrest
      refine ⟨found, .tail closure hmem, inner, hthrough, ?_⟩
      rw [runDefinitions]
      exact horigin.lift (fun _ hruns => hruns) fun _ _ hmakes => hmakes.after_bind hfirst

/-- What is expanded either is refused at the limit or fails with its call counted. -/
private theorem fails_of_runWith_counted {call : Call} {act : EvalM σ α} {s t : State σ}
    {failure : Failure}
    (h : (EvalM.counted settings call act).runWith runCall s = (.error failure, t)) :
    settings.limit ≤ s.callDepth ∧ failure = EvalM.limitFailure settings call ∨
      s.callDepth < settings.limit ∧ ∃ t', act.runWith runCall s.countCall = (.error failure, t') ∧
        ∀ invocation s', act.Makes runCall s.countCall invocation s' →
          (EvalM.counted settings call act).Makes runCall s invocation s' := by
  -- counting fails at the limit and changes the count below it
  have hcount : (EvalM.countCall settings call).runWith runCall s =
      if settings.limit ≤ s.callDepth then (.error (EvalM.limitFailure settings call), s)
      else (.ok (), s.countCall) := by
    rw [EvalM.countCall, EvalM.runWith_perform_bind]
    show (if settings.limit ≤ s.callDepth then EvalM.fail (EvalM.limitFailure settings call)
      else EvalM.perform .count).runWith runCall s = _
    split
    · rfl
    · rfl
  -- at the limit the call is refused before anything of it is run
  by_cases hlimit : settings.limit ≤ s.callDepth
  · rw [if_pos hlimit] at hcount
    rcases EvalM.fails_of_runWith_bind h with hrefused | ⟨_, s', hcounted, -⟩
    · rw [hcount] at hrefused
      have hfailure := (Prod.mk.inj hrefused).1
      exact .inl ⟨hlimit, (Except.error.inj hfailure).symm⟩
    · rw [hcount] at hcounted
      cases hcounted
  · rw [if_neg hlimit] at hcount
    rcases EvalM.fails_of_runWith_bind h with hrefused | ⟨_, s', hcounted, hact⟩
    · rw [hcount] at hrefused
      cases hrefused
    · -- below the limit the failure is that of the counted action, and its calls are made by the
      -- whole
      rw [hcount] at hcounted
      obtain ⟨-, rfl⟩ := Prod.mk.inj hcounted
      rw [EvalM.runWith_ensuring] at hact
      refine .inr ⟨Nat.lt_of_not_le hlimit, _, Prod.ext (Prod.mk.inj hact).1 rfl, ?_⟩
      intro invocation s' hmakes
      exact EvalM.Makes.after_bind hcount (hmakes.followedBy _)

/-- How a call can fail: its arguments or its resolution do, or it is refused at the limit, or the
body of a definition that it resolves to fails and the failure goes through the call. -/
theorem origin_of_runCall {invocation : Invocation} {s t : State σ} {failure : Failure}
    (h : (Evaluation.runCall settings invocation).runWith runCall s = (.error failure, t)) :
    failure.Raised settings ∨
    ∃ args closures s₁ s₂,
      (EvalM.evaluateAll settings invocation.frame invocation.call.args).runWith runCall s =
        (.ok args, s₁) ∧
      (Resolution.targets settings invocation.call args invocation.frame).runWith runCall s₁ =
        (.ok closures, s₂) ∧
      (settings.limit ≤ s₂.callDepth ∧ failure = EvalM.limitFailure settings invocation.call ∨
        s₂.callDepth < settings.limit ∧ ∃ closure ∈ closures, ∃ inner : Failure,
          failure = inner.through
            { text := invocation.call.text, span := invocation.call.span } ∧
          (Evaluation.runCall settings invocation).Origin settings runCall
            (Node.Runs closure.definition.body) s inner) := by
  -- arguments and resolution make no calls, so they can only raise failures
  have hnone : ∀ {γ : Type} {act : EvalM σ γ} {s : State σ},
      act.Origin settings runCall (fun _ => False) s failure → failure.Raised settings := by
    intro γ act s horigin
    cases horigin with
    | raised hraised => exact hraised
    | call hfalse => exact hfalse.elim
  rcases EvalM.fails_of_runWith_bind h with hargs | ⟨args, s₁, hargs, h₁⟩
  · exact .inl (hnone (accounts_evaluateAll _ _ s failure t hargs))
  rcases EvalM.fails_of_runWith_bind h₁ with htargets | ⟨closures, s₂, htargets, h₂⟩
  · exact .inl (hnone (accounts_targets _ args _ s₁ failure t htargets))
  refine .inr ⟨args, closures, s₁, s₂, hargs, htargets, ?_⟩
  rcases fails_of_runWith_counted h₂ with hlimit | ⟨hlimit, t', hexpanded, hcounted⟩
  · exact .inl hlimit
  · obtain ⟨closure, hmem, inner, hthrough, horigin⟩ := origin_of_runDefinitions hexpanded
    refine .inr ⟨hlimit, closure, hmem, inner, hthrough, horigin.lift (fun _ hruns => hruns) ?_⟩
    intro other s' hmakes
    exact .after_bind hargs (.after_bind htargets (hcounted other s' hmakes))

/-- However deeply calls are nested, the fault of a failure is that of the place where it started,
or the limit of calls. -/
private theorem fault_of_callRunner {budget : Nat} {invocation : Invocation} {s t : State σ}
    {failure : Failure} (h : callRunner settings budget invocation s = (.error failure, t)) :
    failure.fault.Arises settings.options.strictUnits ∨
      ∃ call, failure.fault = (EvalM.limitFailure settings call).fault := by
  -- every nested call has one unit of the budget less
  induction budget generalizing invocation s t failure with
  | zero =>
    cases h
    exact .inr ⟨invocation.call, rfl⟩
  | succ budget ih =>
    rcases origin_of_runCall h with hraised | ⟨args, closures, s₁, s₂, -, -, hrest⟩
    · exact .inl hraised.fault
    -- the call itself is refused, or one of its definitions fails
    rcases hrest with ⟨-, rfl⟩ | ⟨-, closure, -, inner, rfl, horigin⟩
    · exact .inr ⟨invocation.call, rfl⟩
    · -- going through a call keeps the fault
      cases horigin with
      | raised hraised => exact .inl hraised.fault
      | call _ _ hfails =>
        have hinner := ih hfails
        exact hinner

end Parts

/-- The fault of a stylesheet has a reason in it, or calls are nested too deeply. -/
theorem Stylesheet.fault_of_rules {settings : Settings σ} {sheet : Stylesheet} {natives : σ}
    {failure : Failure} (h : sheet.rules settings natives = .error failure) :
    failure.fault.Arises settings.options.strictUnits ∨
      ∃ call, failure.fault = (EvalM.limitFailure settings call).fault := by
  have hfails : sheet.run settings natives = (.error failure, (sheet.run settings natives).2) :=
    Prod.ext h rfl
  cases accounts_runSheet sheet _ failure _ hfails with
  | raised hraised => exact .inl hraised.fault
  | call _ _ hcall => exact fault_of_callRunner hcall

end MixinSheet
