import MixinSheet.Proofs.Discipline

/-!
# Preservation

Every part of the evaluator keeps a discipline. The proofs follow the definitions: binding of
variables, resolution of calls, statements along the nesting of the tree, and the expansion of
calls, where the contract stands for the calls inside.

## Key results

- `Discipline.targets`, `Discipline.runRuleset`: resolving a call and running a ruleset change no
  existing frame
- `Discipline.runBody`, `Discipline.runCall`: a block changes its own frame, a call the definitions
  of the frame it stands in
- `Discipline.runDefinition`: a failed expansion changes nothing
- `Discipline.holds_momentAt`: the invariant holds at every moment of the run of a stylesheet
-/

namespace MixinSheet.Discipline

open Evaluation

variable {σ α : Type} {settings : Settings σ} {D : Discipline settings} {depth : Nat} {m : Moment σ}

/-! ## Expressions and variables -/

/-- An action that only reads the scopes changes nothing but the host. -/
theorem observe {act : Scopes → HostM σ α} (hm : D.holds m)
    (hquiet : m.state.host.Quiet (act m.state.scopes m.state.host).2) :
    D.Keeps depth (EvalM.observe act) Moment.Rehosts (fun _ _ => True) m :=
  ⟨hm, D.rehost hm hquiet, ⟨rfl, rfl, rfl⟩, fun _ _ => trivial⟩

/-- Evaluating an expression changes nothing but the host. -/
theorem evaluate (hm : D.holds m) (frame : FrameId) (expression : Expression) :
    D.Keeps depth (EvalM.evaluate settings frame expression) Moment.Rehosts (fun _ _ => True) m :=
  observe hm (Expression.evaluate_quiet settings _ frame expression _)

/-- Evaluating the arguments of a call changes nothing but the host. -/
theorem evaluateAll (hm : D.holds m) (frame : FrameId) (expressions : List Expression) :
    D.Keeps depth (EvalM.evaluateAll settings frame expressions) Moment.Rehosts
      (fun _ _ => True) m :=
  observe hm (Expression.evaluateAll_quiet settings _ frame expressions _)

/-- Binding a variable touches the frame it is bound in and no other. -/
theorem bindVariable (hm : D.holds m) (frame : FrameId) (name : String) (value : Value) :
    D.Keeps depth (EvalM.perform (.bind frame name value)) (Moment.Binds frame)
      (fun _ _ => True) m :=
  .perform hm (m.binds_bind frame name value) (D.bind frame name value hm)

/-- An assignment touches the frame it stands in and no other. -/
theorem assign (hm : D.holds m) (frame : FrameId) (assignment : Assignment) :
    D.Keeps depth (EvalM.assign settings frame assignment) (Moment.Binds frame)
      (fun _ _ => True) m := by
  refine .bind Moment.Binds.trans ((evaluate hm frame _).within fun _ h => h.binds) ?_
  exact fun value m' hm' _ _ => bindVariable hm' frame assignment.name value

/-- Binding the variables of a block, one assignment after the other, touches its frame only. -/
theorem bindAll (hm : D.holds m) (frame : FrameId) (nodes : List Node) :
    D.Keeps depth (Resolution.bindAll settings frame nodes) (Moment.Binds frame)
      (fun _ _ => True) m := by
  induction nodes generalizing m with
  | nil => exact .pure hm (.refl frame m) trivial
  | cons node rest ih =>
    cases node with
    | assignment assignment =>
      exact .bind Moment.Binds.trans (assign hm frame assignment) fun _ m' hm' _ _ => ih hm'
    | ruleset | mixin | call | declaration => exact ih hm

/-- Binding one parameter touches the frame of the call only. -/
theorem bindParameter (hm : D.holds m) (frame : FrameId) (param : Parameter) (value : Value) :
    D.Keeps depth (Evaluation.bindParameter frame param value) (Moment.Binds frame)
      (fun _ _ => True) m := by
  unfold Evaluation.bindParameter
  cases param.name with
  | none => exact .pure hm (.refl frame m) trivial
  | some name => exact bindVariable hm frame name value

/-- Binding all parameters, defaults among them, touches the frame of the call only. -/
theorem bindParameters (hm : D.holds m) (frame : FrameId) (params : List Parameter)
    (args : List Value) :
    D.Keeps depth (Evaluation.bindParameters settings frame params args) (Moment.Binds frame)
      (fun _ _ => True) m := by
  induction params generalizing args m with
  | nil => exact .pure hm (.refl frame m) trivial
  | cons param params ih =>
    -- an argument is bound as it is
    cases args with
    | cons arg args =>
      refine .bind Moment.Binds.trans (bindParameter hm frame param arg) fun _ m' hm' _ _ => ?_
      refine .bind Moment.Binds.trans (ih hm' args) fun values m'' hm'' _ _ => ?_
      exact .pure hm'' (.refl frame m'') trivial
    | nil =>
      rw [Evaluation.bindParameters]
      -- without an argument, the default is evaluated, which leaves the frames alone
      cases param.default with
      | none => exact ih hm []
      | some default =>
        refine .bind Moment.Binds.trans ((evaluate hm frame default).within fun _ h => h.binds)
          fun value m' hm' _ _ => ?_
        refine .bind Moment.Binds.trans (bindParameter hm' frame param value)
          fun _ m'' hm'' _ _ => ?_
        refine .bind Moment.Binds.trans (ih hm'' []) fun values m₃ hm₃ _ _ => ?_
        exact .pure hm₃ (.refl frame m₃) trivial

/-- So does binding the arguments of a call, whatever kind of definition is called. -/
theorem bindArguments (hm : D.holds m) (frame : FrameId) (args : List Value)
    (definition : Definition) :
    D.Keeps depth (Evaluation.bindArguments settings frame args definition) (Moment.Binds frame)
      (fun _ _ => True) m := by
  cases definition with
  | ruleset ruleset => exact .pure hm (.refl frame m) trivial
  | mixin mixin =>
    refine .bind Moment.Binds.trans (bindParameters hm frame mixin.params args)
      fun bound m' hm' _ _ => ?_
    exact bindVariable hm' frame "@arguments" (.list .space bound)

/-! ## Resolution -/

/-- A definition can be called as long as no frame that is there changes. -/
private theorem callable_of_confined {m' : Moment σ} {closure : Closure} (h : D.callable m closure)
    (hconf : m.Confined .nothing m') : D.callable m' closure :=
  D.callable_later h (hconf.scopes.mono (Extent.nothing_subset (.only Scopes.root)))

/-- Entering a namespace opens a frame of its own and leaves every other one as it was. -/
theorem openNamespace {space : Closure} (hm : D.holds m) (hspace : D.callable m space) :
    D.Keeps depth (Resolution.openNamespace settings space) (Moment.Confined .nothing)
      (fun _ _ => True) m := by
  obtain ⟨henter, hfresh⟩ := D.enter_closure hm hspace
  refine .inFrame hm (.step_bind Moment.Confined.trans henter (Moment.confined_hoist _ _ _) ?_)
  refine .bind Moment.Confined.trans ((bindAll (D.hoist henter hfresh) _ _).within
    fun _ h => h.confined) fun _ m' hm' _ _ => ?_
  exact .pure hm' (.refl _ _) trivial

/-- The members found in a list of namespaces are closures that may be called. -/
theorem membersNamed (hm : D.holds m) (name : String) (spaces : List Closure)
    (hspaces : ∀ space ∈ spaces, D.callable m space) :
    D.Keeps depth (Resolution.membersNamed settings name spaces) (Moment.Confined .nothing)
      (fun members m' => ∀ member ∈ members, D.callable m' member) m := by
  induction spaces generalizing m with
  | nil => exact .pure hm (.refl _ _) (by simp)
  | cons space rest ih =>
    refine .bind Moment.Confined.trans (openNamespace hm (hspaces space List.mem_cons_self))
      fun frame m' hm' hconf _ => .inspect_bind hm' ?_
    -- the frame that was made for one namespace leaves the others as they are
    refine .bind Moment.Confined.trans
      (ih hm' fun other hother => callable_of_confined (hspaces other (.tail _ hother)) hconf)
      fun later m'' hm'' hconf' hlater => .pure hm'' (.refl _ _) ?_
    intro member hmember
    rcases List.mem_append.1 hmember with hmem | hmem
    · exact callable_of_confined (D.callable_mem hm' (List.mem_filter.1 hmem).1) hconf'
    · exact hlater member hmem

/-- So are those found at the end of a path. -/
theorem descend (hm : D.holds m) (path : List Element) (candidates : List Closure)
    (hcandidates : ∀ candidate ∈ candidates, D.callable m candidate) :
    D.Keeps depth (Resolution.descend settings path candidates) (Moment.Confined .nothing)
      (fun found m' => ∀ closure ∈ found, D.callable m' closure) m := by
  induction path generalizing candidates m with
  | nil => exact .pure hm (.refl _ _) hcandidates
  | cons segment rest ih =>
    refine .bind Moment.Confined.trans (membersNamed hm segment.value _ fun space hspace =>
      hcandidates space (List.mem_filter.1 hspace).1) fun members m' hm' _ hmembers => ?_
    split
    · exact .pure hm' (.refl _ _) (by simp)
    · exact ih hm' members hmembers

/-- What a path resolves to may be called, and resolving it changes no frame that was there. -/
theorem lookup (hm : D.holds m) (frame : FrameId) (path : List Element) :
    D.Keeps depth (Resolution.lookup settings frame path) (Moment.Confined .nothing)
      (fun found m' => ∀ closure ∈ found, D.callable m' closure) m := by
  cases path with
  | nil => exact .pure hm (.refl _ _) (by simp)
  | cons first rest =>
    refine .inspect_bind hm (descend hm rest _ fun candidate hcandidate => ?_)
    obtain ⟨ancestor, -, hmem⟩ := Scopes.exists_mem_closuresIn_of_mem_visible hcandidate
    exact D.callable_mem hm hmem

/-- Trying the patterns of a mixin changes nothing but the host. -/
theorem fitsPatterns (hm : D.holds m) (frame : FrameId) (params : List Parameter)
    (args : List Value) :
    D.Keeps depth (Resolution.fitsPatterns settings frame params args) Moment.Rehosts
      (fun _ _ => True) m := by
  induction params generalizing args m with
  | nil => exact .pure hm (.refl m) trivial
  | cons param params ih =>
    -- arguments that are missing are not compared
    cases args with
    | nil => exact .pure hm (.refl m) trivial
    | cons arg args =>
      rw [Resolution.fitsPatterns]
      cases param.guard with
      | none => exact ih hm args
      | some guard =>
        refine .bind Moment.Rehosts.trans (evaluate hm frame guard) fun pattern m' hm' _ _ => ?_
        split
        · exact ih hm' args
        · exact .pure hm' (.refl m') trivial

/-- So does asking whether a definition takes the arguments of a call. -/
theorem takes (hm : D.holds m) (closure : Closure) (args : List Value) :
    D.Keeps depth (Resolution.takes settings closure args) Moment.Rehosts (fun _ _ => True) m := by
  unfold Resolution.takes
  cases closure.definition with
  | ruleset ruleset => exact .pure hm (.refl m) trivial
  | mixin mixin =>
    simp only
    split
    · exact .pure hm (.refl m) trivial
    · exact fitsPatterns hm closure.home mixin.params args

/-- The definitions kept for a call are among the candidates, so they may be called. -/
theorem taking (hm : D.holds m) (args : List Value) (candidates : List Closure)
    (hcandidates : ∀ candidate ∈ candidates, D.callable m candidate) :
    D.Keeps depth (Resolution.taking settings args candidates) (Moment.Confined .nothing)
      (fun accepted m' => ∀ closure ∈ accepted, D.callable m' closure) m := by
  induction candidates generalizing m with
  | nil => exact .pure hm (.refl _ _) (by simp)
  | cons candidate rest ih =>
    refine .bind Moment.Confined.trans ((takes hm candidate args).within fun _ h => h.confined)
      fun accepts m' hm' hconf _ => ?_
    -- asking one candidate leaves the others callable
    have hrest : ∀ other ∈ rest, D.callable m' other := fun other hother =>
      callable_of_confined (hcandidates other (.tail _ hother)) hconf
    split
    · refine .bind Moment.Confined.trans (ih hm' hrest) fun accepted m'' hm'' hconf' hacc =>
        .pure hm'' (.refl _ _) (List.forall_mem_cons.2 ⟨?_, hacc⟩)
      exact callable_of_confined (hcandidates candidate List.mem_cons_self) (hconf.trans hconf')
    · exact ih hm' hrest

/-- Resolving a call changes no frame that is there, and what it finds can be called. -/
theorem targets (hm : D.holds m) (call : Call) (args : List Value) (frame : FrameId) :
    D.Keeps depth (Resolution.targets settings call args frame) (Moment.Confined .nothing)
      (fun found m' => ∀ closure ∈ found, D.callable m' closure) m := by
  refine .bind Moment.Confined.trans (lookup hm frame call.path)
    fun candidates m' hm' _ hcandidates => ?_
  -- without candidates the call fails, before any of them is asked
  split
  · exact .fail hm' (.refl _ _)
  · refine .bind Moment.Confined.trans (taking hm' args candidates hcandidates)
      fun accepted m'' hm'' _ haccepted => ?_
    -- resolving a call is reported, which is no expansion
    have hevent : D.holds (m''.after (.emit fun _ =>
        .resolvedCall call.text candidates.length accepted.length)) :=
      D.rehost hm'' ⟨[_], rfl, by simp [Event.isQuiet]⟩
    refine .step_bind Moment.Confined.trans hm'' (m''.rehosts_emit _).confined ?_
    split
    · exact .fail hevent (.refl _ _)
    · exact .pure hevent (.refl _ _) fun closure hmem =>
        callable_of_confined (haccepted closure hmem) (m''.rehosts_emit _).confined

/-! ## Statements -/

/-- A declaration changes no frame. -/
theorem runDeclaration (hm : D.holds m) (context : List Selector) (frame : FrameId)
    (out : Collected) (declaration : Declaration) :
    D.Keeps depth (Evaluation.runDeclaration settings context frame out declaration)
      (Moment.Confined .nothing) (fun _ _ => True) m := by
  unfold Evaluation.runDeclaration
  split
  · exact .fail hm (.refl _ _)
  · refine .bind Moment.Confined.trans ((evaluate hm frame _).within fun _ h => h.confined)
      fun value m' hm' _ _ => ?_
    exact .pure hm' (.refl _ _) trivial

/-- A ruleset changes no frame that is there, if its statements change only their own. -/
theorem runRulesetWith {site : Site} {ruleset : Ruleset} {context : List Selector}
    {parent : FrameId} {runStatements : List Selector → FrameId → EvalM σ Collected}
    {rest : List (Site × Node)} (hm : D.holds m)
    (hready : D.ready m parent
      ((site, .ruleset ruleset.selectors ruleset.body ruleset.span) :: rest))
    (hstatements : ∀ selectors frame m', D.holds m' → m'.state.callDepth = m.state.callDepth →
      D.ready m' frame (Node.located site 0 ruleset.body) →
      D.Keeps depth (runStatements selectors frame) (Moment.Confined (.only frame))
        (fun _ _ => True) m') :
    D.Keeps depth (Evaluation.runRulesetWith site ruleset context parent runStatements)
      (Moment.Confined .nothing) (fun _ _ => True) m := by
  refine .step_bind Moment.Confined.trans hm (m.rehosts_emit _).confined ?_
  have hevent : D.holds (m.after (.emit fun state =>
      .evaluatingRuleset ((ruleset.selectors.head?.map Selector.text).getD "")
        state.scopes.depth)) := D.ruleset_event hm hready
  have hready' := D.ready_later hready (m.rehosts_emit fun state =>
    .evaluatingRuleset ((ruleset.selectors.head?.map Selector.text).getD "")
      state.scopes.depth).confined
  -- the new frame is entered from the moment after the event
  obtain ⟨henter, hfresh⟩ := D.enter_ruleset hevent hready'
  refine .bind Moment.Confined.trans (.inFrame (P := fun _ => True) hevent
    (.step_bind Moment.Confined.trans henter (Moment.confined_hoist _ _ _) ?_))
    fun out m' hm' _ _ => .pure hm' (.refl _ _) trivial
  exact hstatements _ _ _ (D.hoist henter hfresh) rfl (D.ready_ruleset hready')

mutual

/-- A statement changes only the frame of its block. -/
theorem runNode {m : Moment σ} (context : List Selector) (frame : FrameId) (site : Site)
    (out : Collected) (node : Node) (rest : List (Site × Node)) (hm : D.holds m)
    (hdepth : m.state.callDepth = depth) (hready : D.ready m frame ((site, node) :: rest)) :
    D.Keeps depth (Evaluation.runNode settings context frame site out node)
      (Moment.Confined (.only frame)) (fun _ _ => True) m := by
  cases node with
  | assignment assignment =>
    rw [Evaluation.runNode]
    refine .bind Moment.Confined.trans ((assign hm frame assignment).within fun _ h => h.confined)
      fun _ m' hm' _ _ => .pure hm' (.refl _ _) trivial
  | declaration declaration =>
    rw [Evaluation.runNode]
    exact (runDeclaration hm context frame out declaration).within fun _ h =>
      h.mono (Extent.nothing_subset _)
  | call call =>
    rw [Evaluation.runNode]
    -- the call itself is not run here: the contract says what it may do
    refine ⟨hm, ⟨⟨hm, site, rest, hready⟩, hdepth⟩, fun outcome m' hens => ?_⟩
    exact ⟨hens.1, hens.2.mono (Extent.closuresOf_subset_only frame), fun _ _ => trivial⟩
  | ruleset selectors body span =>
    rw [Evaluation.runNode]
    refine .bind Moment.Confined.trans ((runRulesetWith hm hready ?_).within fun _ h =>
      h.mono (Extent.nothing_subset _)) fun rules m' hm' _ _ => .pure hm' (.refl _ _) trivial
    intro selectors' frame' m' hm' hdepth' hready'
    exact runBody selectors' frame' site 0 {} body hm' (hdepth'.trans hdepth) hready'
  | mixin name params body span =>
    rw [Evaluation.runNode]
    exact .pure hm (.refl _ _) trivial

/-- The statements of a block change only the frame of the block. -/
theorem runBody {m : Moment σ} (context : List Selector) (frame : FrameId) (site : Site)
    (index : Nat) (out : Collected) (nodes : List Node) (hm : D.holds m)
    (hdepth : m.state.callDepth = depth)
    (hready : D.ready m frame (Node.located site index nodes)) :
    D.Keeps depth (Evaluation.runBody settings context frame site index out nodes)
      (Moment.Confined (.only frame)) (fun _ _ => True) m := by
  cases nodes with
  | nil =>
    rw [Evaluation.runBody]
    exact .pure hm (.refl _ _) trivial
  | cons node rest =>
    rw [Evaluation.runBody]
    refine .bind Moment.Confined.trans
      (runNode context frame (index :: site) out node _ hm hdepth hready)
      fun out' m' hm' hconf _ => ?_
    exact runBody context frame site (index + 1) out' rest hm' (hconf.callDepth.trans hdepth)
      (D.ready_later (D.ready_tail hready) hconf)

end

/-- A nested ruleset that is ready to run leaves the frames that were there as they were. -/
theorem runRuleset {site : Site} {ruleset : Ruleset} {context : List Selector} {parent : FrameId}
    (rest : List (Site × Node)) (hm : D.holds m) (hdepth : m.state.callDepth = depth)
    (hready : D.ready m parent
      ((site, .ruleset ruleset.selectors ruleset.body ruleset.span) :: rest)) :
    D.Keeps depth (Evaluation.runRuleset settings site ruleset context parent)
      (Moment.Confined .nothing) (fun _ _ => True) m :=
  runRulesetWith hm hready fun selectors frame _ hm' hdepth' hready' =>
    runBody selectors frame site 0 {} ruleset.body hm' (hdepth'.trans hdepth) hready'

/-! ## Calls -/

/-- The body of a definition changes only its own frame. -/
theorem runDefinitionBody {closure : Closure} {caller : FrameId} (hm : D.holds m)
    (hdepth : m.state.callDepth = depth) (hexpanding : D.expanding m caller)
    (hcallable : D.callable m closure) (args : List Value) (context : List Selector)
    (out : Collected) :
    D.Keeps depth
      (Evaluation.runDefinitionBody settings closure args context m.state.scopes.next out)
      (Moment.Confined (.only m.state.scopes.next)) (fun _ _ => True)
      (m.after (.enter closure.home closure.block)) := by
  obtain ⟨henter, hfresh⟩ := D.enter_closure hm hcallable
  -- only bindings change before the definitions are registered, so the frame is still fresh then
  refine EvalM.Meets.bind (bindArguments henter _ args closure.definition) ?_ ?_
  · rintro failure m' ⟨hm', hbinds, -⟩
    exact ⟨hm', hbinds.confined, by rintro _ ⟨⟩⟩
  · rintro _ m' ⟨hm', hbinds, -⟩
    have hhoist := D.hoist hm' (D.fresh_later hfresh hbinds)
    have hready := D.ready_closure hexpanding hcallable hbinds
    have hdepth' : (m'.after (.hoist m.state.scopes.next closure.block)).state.callDepth = depth :=
      hbinds.state.callDepth.trans hdepth
    refine EvalM.Meets.step_bind hm' (EvalM.Meets.mono
      (runBody context _ closure.site 0 out _ hhoist hdepth' hready) ?_)
    rintro outcome m'' ⟨hm'', hconf, htrue⟩
    exact ⟨hm'', hbinds.confined.trans ((Moment.confined_hoist _ _ _).trans hconf), htrue⟩

/-- The frame of a definition is made and left here; the answer tells its number. -/
theorem runDefinitionBody_inFrame {closure : Closure} {caller : FrameId} (hm : D.holds m)
    (hdepth : m.state.callDepth = depth) (hexpanding : D.expanding m caller)
    (hcallable : D.callable m closure) (args : List Value) (context : List Selector)
    (out : Collected) :
    D.Keeps depth (EvalM.inFrame closure.home closure.block fun frame => do
        return (frame, ← Evaluation.runDefinitionBody settings closure args context frame out))
      (Moment.Confined .nothing) (fun answer _ => answer.1 = m.state.scopes.next) m :=
  .inFrame hm (.bind Moment.Confined.trans
    (runDefinitionBody hm hdepth hexpanding hcallable args context out)
    fun _ _ hm' _ _ => .pure hm' (.refl _ _) rfl)

/-- Running a definition changes only the definitions of the caller, and nothing if it fails. -/
def Expands (D : Discipline settings) (caller : FrameId) (m : Moment σ) :
    Except Failure Collected → Moment σ → Prop
  | .ok _, m' => D.holds m' ∧ m.Confined (.closuresOf caller) m'
  | .error _, m' => D.holds m' ∧ m.Confined .nothing m'

/-- A definition that is run for a call adds closures to the frame of its caller at most. -/
theorem runDefinition {closure : Closure} {caller : FrameId} (hm : D.holds m)
    (hdepth : m.state.callDepth = depth) (hexpanding : D.expanding m caller)
    (hcallable : D.callable m closure) (call : Call) (args : List Value)
    (context : List Selector) (out : Collected) :
    (Evaluation.runDefinition settings call closure args context caller out).Meets
      (D.contract.atDepth depth) m (D.Expands caller m) := by
  refine EvalM.Meets.step_bind hm ?_
  -- the expansion is reported before the frame of the body is entered
  have hevent : D.holds (m.after (.emit fun state =>
      .expandingMixin call.text closure.definition.span state.callDepth)) :=
    D.expansion_event hm hexpanding hcallable
  have hrehosts := m.rehosts_emit fun state =>
    .expandingMixin call.text closure.definition.span state.callDepth
  generalize m.after (.emit fun state =>
    .expandingMixin call.text closure.definition.span state.callDepth) = m₁ at hevent hrehosts ⊢
  have hexpanding' := D.expanding_later hexpanding hrehosts.confined
  have hcallable' := callable_of_confined hcallable hrehosts.confined
  have hframe := runDefinitionBody_inFrame hevent (hrehosts.callDepth.trans hdepth) hexpanding'
    hcallable' args context out
  refine EvalM.Meets.bind (hframe.through { text := call.text, span := call.span }) ?_ ?_
  · -- a failure comes out of the body before anything is exported
    rintro failure m' ⟨hm', hconf, -⟩
    exact ⟨hm', hrehosts.confined.trans hconf⟩
  · -- the frame of the body is the next one, and it exports to the caller
    rintro ⟨frame, out'⟩ m' ⟨hm', hconf, hanswer⟩
    obtain rfl := hanswer _ rfl
    refine ⟨hm', D.publish hexpanding' hconf hm', ?_⟩
    exact hrehosts.confined.trans ((hconf.mono (Extent.nothing_subset _)).trans
      (Moment.confined_publish _ _ _))

/-- The definitions of a call are run one after the other, each from where the last one ended. -/
theorem runDefinitions {caller : FrameId} (hm : D.holds m) (hdepth : m.state.callDepth = depth)
    (hexpanding : D.expanding m caller) (call : Call) (args : List Value)
    (context : List Selector) (out : Collected) (closures : List Closure)
    (hcallable : ∀ closure ∈ closures, D.callable m closure) :
    D.Keeps depth (Evaluation.runDefinitions settings call args context caller out closures)
      (Moment.Confined (.closuresOf caller)) (fun _ _ => True) m := by
  induction closures generalizing m out with
  | nil => exact .pure hm (.refl _ _) trivial
  | cons closure rest ih =>
    refine EvalM.Meets.bind (runDefinition hm hdepth hexpanding
      (hcallable closure List.mem_cons_self) call args context out) ?_ ?_
    · -- the first definition that fails ends the call
      rintro failure m' ⟨hm', hconf⟩
      exact ⟨hm', hconf.mono (Extent.nothing_subset _), by rintro _ ⟨⟩⟩
    · rintro out' m' ⟨hm', hconf⟩
      refine EvalM.Meets.mono (ih hm' (hconf.callDepth.trans hdepth)
        (D.expanding_later hexpanding hconf) out' fun other hother => ?_) ?_
      · -- what one definition exports to the caller leaves the others callable
        exact D.callable_later (hcallable other (.tail _ hother))
          (hconf.scopes.mono (Extent.closuresOf_subset_only caller))
      · rintro outcome m'' ⟨hm'', hconf', htrue⟩
        exact ⟨hm'', hconf.trans hconf', htrue⟩

/-- A call changes only the definitions of the frame it stands in, and the calls it makes are one
level deeper. -/
theorem runCall (invocation : Invocation) (h : D.contract.requires invocation m) :
    D.Keeps (m.state.callDepth + 1) (Evaluation.runCall settings invocation)
      (Moment.Confined (.closuresOf invocation.frame)) (fun _ _ => True) m := by
  obtain ⟨hm, site, rest, hready⟩ := h
  refine .bind Moment.Confined.trans ((evaluateAll hm _ _).within fun _ h => h.confined)
    fun args m₁ hm₁ hconf₁ _ => ?_
  refine .bind Moment.Confined.trans ((targets hm₁ _ args _).within fun _ h =>
    h.mono (Extent.nothing_subset _)) fun found m₂ hm₂ hconf₂ hfound => .counted hm₂ ?_
  intro hlimit
  -- up to here no frame has changed, so the statement is as ready as it was
  have hconf := hconf₁.trans hconf₂
  have hready₂ := D.ready_later hready (hconf.mono (Extent.closuresOf_subset_only _))
  obtain ⟨hcount, hexpanding⟩ := D.count hm₂ hready₂ hlimit
  have hdepth : (m₂.after .count).state.callDepth = m.state.callDepth + 1 :=
    congrArg (· + 1) hconf.callDepth
  refine runDefinitions hcount hdepth hexpanding _ args _ _ found fun closure hmem => ?_
  exact D.callable_later (hfound closure hmem) (.refl (.only Scopes.root) _)

/-! ## Whole runs -/

/-- A whole run touches the frame of the sheet and those it opens itself. -/
theorem runSheet (sheet : Stylesheet) (hm : D.holds m)
    (hfresh : D.fresh m Scopes.root sheet.block)
    (hready : D.ready (m.after (.hoist Scopes.root sheet.block)) Scopes.root
      (Node.located Stylesheet.site 0 sheet.nodes)) :
    D.Keeps m.state.callDepth (Evaluation.runSheet settings sheet)
      (Moment.Confined (.only Scopes.root)) (fun _ _ => True) m := by
  refine .step_bind Moment.Confined.trans hm (m.confined_hoist _ _) ?_
  refine .bind Moment.Confined.trans
    (runBody [] Scopes.root Stylesheet.site 0 {} sheet.nodes (D.hoist hm hfresh) rfl hready)
    fun out m' hm' _ _ => ?_
  refine .step_bind Moment.Confined.trans hm' (m'.rehosts_emit _).confined ?_
  exact .pure (D.rehost hm' ⟨[_], rfl, by simp [Event.isQuiet]⟩) (.refl _ _) trivial

/-- What the program of a call keeps is what the contract promises of the call. -/
theorem calls_meet (D : Discipline settings) (invocation : Invocation) (m : Moment σ)
    (h : D.contract.requires invocation m) :
    (Evaluation.runCall settings invocation).Meets
      (D.contract.atDepth (m.state.callDepth + 1)) m (D.contract.ensures invocation m) :=
  EvalM.Meets.mono (runCall invocation h) fun _ _ hgives => ⟨hgives.1, hgives.2.1⟩

/-- Calls stand no deeper than the limit. -/
theorem calls_depth_le (D : Discipline settings) (invocation : Invocation) (m : Moment σ)
    (h : D.contract.requires invocation m) : m.state.callDepth ≤ settings.limit :=
  D.depth_le h.1

/-- A program that keeps a discipline comes to an end, with what `EvalM.run` gives. -/
theorem ends_run {act : EvalM σ α} {Q : Except Failure α → Moment σ → Prop}
    (hdepth : m.state.callDepth ≤ depth) (h : act.Meets (D.contract.atDepth depth) m Q) :
    EvalM.Ends settings act m (act.run settings m.state) Q :=
  EvalM.Meets.reaches_run D.calls_depth_le D.calls_meet hdepth h

/-- A program that keeps a discipline gives what `EvalM.run` gives, whatever budget reaches beyond
the limit. -/
theorem runWith_eq_run {act : EvalM σ α} {Q : Except Failure α → Moment σ → Prop} {budget : Nat}
    (hdepth : m.state.callDepth ≤ depth) (hbudget : settings.limit < depth + budget)
    (h : act.Meets (D.contract.atDepth depth) m Q) :
    act.runWith (Evaluation.callRunner settings budget) m.state = act.run settings m.state :=
  EvalM.Meets.runWith_eq_run D.calls_depth_le D.calls_meet hdepth hbudget h

/-- What a program that keeps a discipline gives, whatever budget reaches beyond the limit. -/
theorem meets_runWith {act : EvalM σ α} {Q : Except Failure α → Moment σ → Prop} {budget : Nat}
    (hbudget : settings.limit < depth + budget) (h : act.Meets (D.contract.atDepth depth) m Q)
    {outcome : Except Failure α} {t : State σ}
    (hrun : act.runWith (Evaluation.callRunner settings budget) m.state = (outcome, t)) :
    ∃ past, Q outcome ⟨t, past⟩ := by
  obtain ⟨past, -, hQ⟩ := EvalM.Meets.reaches_runWith D.calls_depth_le D.calls_meet hbudget h
  rw [hrun] at hQ
  exact ⟨past, hQ⟩

/-- If the invariant holds before the run of a stylesheet, it holds at every moment of the run. -/
theorem holds_momentAt (D : Discipline settings) (sheet : Stylesheet) (natives : σ)
    (hm : D.holds (sheet.start settings natives).moment)
    (hfresh : D.fresh (sheet.start settings natives).moment Scopes.root sheet.block)
    (hready : D.ready ((sheet.start settings natives).moment.after
        (.hoist Scopes.root sheet.block)) Scopes.root
      (Node.located Stylesheet.site 0 sheet.nodes)) (n : Nat) :
    D.holds (sheet.momentAt settings natives n) := by
  have hcalls : ∀ invocation m, D.contract.requires invocation m →
      (Evaluation.runCall settings invocation).Meets D.contract m
        (D.contract.ensures invocation m) :=
    fun invocation m hreq => (D.calls_meet invocation m hreq).weaken
  have hstart : (sheet.start settings natives).program.Meets D.contract
      (sheet.start settings natives).moment fun _ m => D.contract.holds m :=
    EvalM.Meets.mono (runSheet sheet hm hfresh hready).weaken fun _ _ hgives => hgives.1
  exact EvalM.Meets.holds_iterate hcalls hstart n

end MixinSheet.Discipline
