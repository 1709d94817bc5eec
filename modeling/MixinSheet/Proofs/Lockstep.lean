import Mathlib.Data.List.Forall2
import MixinSheet.Evaluation.Sheet
import MixinSheet.Proofs.Coupling

/-!
# Coupled runs of the evaluator

Each part of the evaluator, run side by side under a coupling. The two runs find the same
definitions, so they call the same ones; what they collect grows by the same declarations and by
rules that differ at most in the selectors around them.

## Key results

- `Coupling.alike_targets`: both runs resolve a call to the same definitions
- `Coupling.alike_runBody`: both runs of a block collect the same
- `Coupling.calls_callRunner`: both runs of a call collect the same, however deep it leads
- `Coupling.alike_runSheet`: both runs of a stylesheet give matching rules
-/

namespace MixinSheet.Coupling

open Evaluation

variable {σ : Type} {C : Coupling σ} {runCall runCall' : CallRunner σ} {id : FrameId}

/-! ## Variables -/

/-- An expression has the same value where the same is read. -/
theorem alike_evaluate (hid : C.reads id) (expression : Expression) :
    C.Alike runCall runCall' Eq (EvalM.evaluate C.left id expression)
      (EvalM.evaluate C.right id expression) :=
  fun _ _ hst => C.evaluate expression hst hid

/-- Expressions have the same values where the same is read. -/
theorem alike_evaluateAll (hid : C.reads id) (expressions : List Expression) :
    C.Alike runCall runCall' Eq (EvalM.evaluateAll C.left id expressions)
      (EvalM.evaluateAll C.right id expressions) :=
  fun _ _ hst => C.evaluateAll expressions hst hid

/-- A variable is bound to the same value in both. -/
private theorem alike_bindVariable (hid : C.writes id) (name : String) (value : Value) :
    C.Alike runCall runCall' (fun _ _ => True) (EvalM.perform (.bind id name value))
      (EvalM.perform (.bind id name value)) :=
  .perform fun hst => ⟨trivial, C.bind name value hst hid⟩

/-- The same block is hoisted in both. -/
private theorem alike_hoist {block : Block} (hid : C.writes id) (hblock : C.runnable block.body) :
    C.Alike runCall runCall' (fun _ _ => True) (EvalM.perform (.hoist id block))
      (EvalM.perform (.hoist id block)) :=
  .perform fun hst => ⟨trivial, C.hoist block.site hst hid hblock⟩

/-- An assignment binds the same value in both. -/
theorem alike_assign (hid : C.writes id) (assignment : Assignment) :
    C.Alike runCall runCall' (fun _ _ => True) (EvalM.assign C.left id assignment)
      (EvalM.assign C.right id assignment) := by
  refine .bind (alike_evaluate (C.reads_of_writes hid) assignment.value) ?_
  rintro value _ rfl
  exact alike_bindVariable hid assignment.name value

/-- The assignments of a block are carried out in both. -/
theorem alike_bindAll (hid : C.writes id) (nodes : List Node) :
    C.Alike runCall runCall' (fun _ _ => True) (Resolution.bindAll C.left id nodes)
      (Resolution.bindAll C.right id nodes) := by
  induction nodes with
  | nil => exact .pure trivial
  | cons node rest ih =>
    cases node with
    | assignment assignment => exact .bind (alike_assign hid assignment) fun _ _ _ => ih
    | ruleset | mixin | call | declaration => exact ih

/-- A parameter is bound to the same value in both. -/
private theorem alike_bindParameter (hid : C.writes id) (param : Parameter) (value : Value) :
    C.Alike runCall runCall' (fun _ _ => True) (bindParameter id param value)
      (bindParameter id param value) := by
  unfold bindParameter
  cases param.name with
  | none => exact .pure trivial
  | some name => exact alike_bindVariable hid name value

/-- Parameters take the same values in both. -/
theorem alike_bindParameters (hid : C.writes id) (params : List Parameter) (args : List Value) :
    C.Alike runCall runCall' Eq (bindParameters C.left id params args)
      (bindParameters C.right id params args) := by
  induction params generalizing args with
  | nil => exact .pure rfl
  | cons param params ih =>
    -- an argument is taken as it is
    cases args with
    | cons arg args =>
      refine .bind (alike_bindParameter hid param arg) fun _ _ _ => .bind (ih args) ?_
      rintro values _ rfl
      exact .pure rfl
    | nil =>
      rw [bindParameters, bindParameters]
      -- without an argument, the default is evaluated in the frame of the call
      cases param.default with
      | none => exact ih []
      | some default =>
        refine .bind (alike_evaluate (C.reads_of_writes hid) default) ?_
        rintro value _ rfl
        refine .bind (alike_bindParameter hid param value) fun _ _ _ => .bind (ih []) ?_
        rintro values _ rfl
        exact .pure rfl

/-- The arguments are bound alike in both. -/
theorem alike_bindArguments (hid : C.writes id) (args : List Value) (definition : Definition) :
    C.Alike runCall runCall' (fun _ _ => True) (bindArguments C.left id args definition)
      (bindArguments C.right id args definition) := by
  cases definition with
  | ruleset ruleset => exact .pure trivial
  | mixin mixin =>
    refine .bind (alike_bindParameters hid mixin.params args) ?_
    rintro bound _ rfl
    exact alike_bindVariable hid "@arguments" (.list .space bound)

/-! ## Resolution -/

/-- Both runs have found the same definitions, and they may be called. -/
def Found (C : Coupling σ) (closures closures' : List Closure) : Prop :=
  closures = closures' ∧ ∀ closure ∈ closures, C.callable closure

/-- Nothing was found in both. -/
private theorem found_nil : C.Found [] [] :=
  ⟨rfl, fun _ hmem => absurd hmem List.not_mem_nil⟩

/-- The same namespace is entered in both. -/
private theorem alike_openNamespace {space : Closure} (hspace : C.callable space) :
    C.Alike runCall runCall' (fun frame frame' => frame = frame' ∧ C.reads frame)
      (Resolution.openNamespace C.left space) (Resolution.openNamespace C.right space) := by
  refine .inFrame (C.reads_of_callable hspace) fun frame hframe => ?_
  refine .bind (alike_hoist hframe (C.runnable_of_callable hspace)) fun _ _ _ => ?_
  refine .bind (alike_bindAll hframe space.definition.body) fun _ _ _ => ?_
  exact .pure ⟨rfl, C.reads_of_writes hframe⟩

/-- The same members are found in both. -/
theorem alike_membersNamed (name : String) {spaces : List Closure}
    (hspaces : ∀ space ∈ spaces, C.callable space) :
    C.Alike runCall runCall' C.Found (Resolution.membersNamed C.left name spaces)
      (Resolution.membersNamed C.right name spaces) := by
  induction spaces with
  | nil => exact .pure found_nil
  | cons space rest ih =>
    refine .bind (alike_openNamespace (hspaces space List.mem_cons_self)) ?_
    rintro frame _ ⟨rfl, hframe⟩
    -- the frame is new in both runs, and both have registered the same in it
    have hmembers : C.Alike runCall runCall' C.Found
        (EvalM.perform (.inspect (·.scopes.closuresIn frame)))
        (EvalM.perform (.inspect (·.scopes.closuresIn frame))) :=
      .perform fun hst => ⟨⟨(C.closuresIn hst hframe).1, (C.closuresIn hst hframe).2⟩, hst⟩
    refine .bind hmembers ?_
    rintro members _ ⟨rfl, hcallable⟩
    refine .bind (ih fun other hother => hspaces other (.tail _ hother)) ?_
    rintro later _ ⟨rfl, hlater⟩
    refine .pure ⟨rfl, fun member hmember => ?_⟩
    rcases List.mem_append.1 hmember with hmem | hmem
    · exact hcallable member (List.mem_filter.1 hmem).1
    · exact hlater member hmem

/-- A path leads to the same definitions in both. -/
theorem alike_descend (path : List Element) {candidates : List Closure}
    (hcandidates : ∀ candidate ∈ candidates, C.callable candidate) :
    C.Alike runCall runCall' C.Found (Resolution.descend C.left path candidates)
      (Resolution.descend C.right path candidates) := by
  induction path generalizing candidates with
  | nil => exact .pure ⟨rfl, hcandidates⟩
  | cons segment rest ih =>
    refine .bind (alike_membersNamed segment.value fun space hspace =>
      hcandidates space (List.mem_filter.1 hspace).1) ?_
    rintro members _ ⟨rfl, hmembers⟩
    split
    · exact .pure found_nil
    · exact ih hmembers

/-- The same definitions are looked up in both. -/
theorem alike_lookup (hid : C.reads id) (path : List Element) :
    C.Alike runCall runCall' C.Found (Resolution.lookup C.left id path)
      (Resolution.lookup C.right id path) := by
  cases path with
  | nil => exact .pure found_nil
  | cons first rest =>
    have hvisible : C.Alike runCall runCall' C.Found
        (EvalM.perform (.inspect (·.scopes.visible id first.value)))
        (EvalM.perform (.inspect (·.scopes.visible id first.value))) :=
      .perform fun hst => ⟨C.visible first.value hst hid, hst⟩
    refine .bind hvisible ?_
    rintro candidates _ ⟨rfl, hcandidates⟩
    exact alike_descend rest hcandidates

/-- Arguments fit the same patterns in both. -/
theorem alike_fitsPatterns (hid : C.reads id) (params : List Parameter) (args : List Value) :
    C.Alike runCall runCall' Eq (Resolution.fitsPatterns C.left id params args)
      (Resolution.fitsPatterns C.right id params args) := by
  induction params generalizing args with
  | nil => exact .pure rfl
  | cons param params ih =>
    cases args with
    | nil => exact .pure rfl
    | cons arg args =>
      rw [Resolution.fitsPatterns, Resolution.fitsPatterns]
      -- parameters without a pattern fit every argument
      cases param.guard with
      | none => exact ih args
      | some guard =>
        refine .bind (alike_evaluate hid guard) ?_
        rintro pattern _ rfl
        split
        · exact ih args
        · exact .pure rfl

/-- A definition takes the same arguments in both. -/
theorem alike_takes {closure : Closure} (hclosure : C.callable closure) (args : List Value) :
    C.Alike runCall runCall' Eq (Resolution.takes C.left closure args)
      (Resolution.takes C.right closure args) := by
  unfold Resolution.takes
  cases closure.definition with
  | ruleset ruleset => exact .pure rfl
  | mixin mixin =>
    simp only
    split
    · exact .pure rfl
    · exact alike_fitsPatterns (C.reads_of_callable hclosure) mixin.params args

/-- The same candidates take the arguments in both. -/
theorem alike_taking (args : List Value) {candidates : List Closure}
    (hcandidates : ∀ candidate ∈ candidates, C.callable candidate) :
    C.Alike runCall runCall' C.Found (Resolution.taking C.left args candidates)
      (Resolution.taking C.right args candidates) := by
  induction candidates with
  | nil => exact .pure found_nil
  | cons candidate rest ih =>
    have hcandidate := hcandidates candidate List.mem_cons_self
    have hrest := ih fun other hother => hcandidates other (.tail _ hother)
    refine .bind (alike_takes hcandidate args) ?_
    rintro accepts _ rfl
    -- a candidate that takes the arguments is kept
    split
    · refine .bind hrest ?_
      rintro accepted _ ⟨rfl, haccepted⟩
      exact .pure ⟨rfl, List.forall_mem_cons.2 ⟨hcandidate, haccepted⟩⟩
    · exact hrest

/-- Both may emit an event. -/
private theorem alike_emit (event event' : State σ → Event) :
    C.Alike runCall runCall' (fun _ _ => True) (EvalM.perform (.emit event))
      (EvalM.perform (.emit event')) :=
  .perform fun {s t} hst => ⟨trivial, C.emit (event s) (event' t) hst⟩

/-- Both runs resolve a call to the same definitions, or neither finds one. -/
theorem alike_targets (hid : C.reads id) (call : Call) (args : List Value) :
    C.Alike runCall runCall' C.Found (Resolution.targets C.left call args id)
      (Resolution.targets C.right call args id) := by
  refine .bind (alike_lookup hid call.path) ?_
  rintro candidates _ ⟨rfl, hcandidates⟩
  split
  · exact .fail _
  · refine .bind (alike_taking args hcandidates) ?_
    rintro accepted _ ⟨rfl, haccepted⟩
    refine .bind (alike_emit _ _) fun _ _ _ => ?_
    split
    · exact .fail _
    · exact .pure ⟨rfl, haccepted⟩

/-! ## What is collected -/

/-- Rules of the two runs come of the same ruleset and differ at most in the selectors around. -/
inductive SameRule (C : Coupling σ) : FlatRule → FlatRule → Prop
  | intro {context context' selectors : List Selector} {body rest : List Node} {span : Span}
      (declarations : List FlatDeclaration) (hcontext : C.contexts context context')
      (hruleset : C.runnable (.ruleset selectors body span :: rest)) :
      C.SameRule
        { selectors := (Selector.nestAll context selectors).map Selector.text, declarations }
        { selectors := (Selector.nestAll context' selectors).map Selector.text, declarations }

/-- Under equal selectors, matching rules are equal. -/
theorem eq_of_sameRule
    (hcontexts : ∀ context context', C.contexts context context' → context = context')
    {rules rules' : List FlatRule} (h : List.Forall₂ C.SameRule rules rules') : rules = rules' := by
  induction h with
  | nil => rfl
  | cons hrule _ ih =>
    obtain ⟨declarations, hcontext, -⟩ := hrule
    rw [hcontexts _ _ hcontext, ih]

/-- Both runs have added the same declarations and matching rules to what they had before. -/
def Grows (C : Coupling σ) (before before' out out' : Collected) : Prop :=
  ∃ declarations rules rules', List.Forall₂ C.SameRule rules rules' ∧
    out = { declarations := before.declarations ++ declarations
            nested := before.nested ++ rules } ∧
    out' = { declarations := before'.declarations ++ declarations
             nested := before'.nested ++ rules' }

variable {before before' out out' last last' : Collected}

/-- Nothing has been added yet. -/
theorem Grows.refl (before before' : Collected) : C.Grows before before' before before' :=
  ⟨[], [], [], .nil, by rw [List.append_nil, List.append_nil],
    by rw [List.append_nil, List.append_nil]⟩

/-- What is added one after the other has been added. -/
theorem Grows.trans (h : C.Grows before before' out out') (h' : C.Grows out out' last last') :
    C.Grows before before' last last' := by
  obtain ⟨declarations, rules, rules', hrules, rfl, rfl⟩ := h
  obtain ⟨declarations', more, more', hmore, rfl, rfl⟩ := h'
  refine ⟨declarations ++ declarations', rules ++ more, rules' ++ more',
    List.rel_append hrules hmore, ?_, ?_⟩
  · simp only [List.append_assoc]
  · simp only [List.append_assoc]

/-- The same declaration is added in both. -/
theorem Grows.declare (before before' : Collected) (declaration : FlatDeclaration) :
    C.Grows before before' (before.declare declaration) (before'.declare declaration) :=
  ⟨[declaration], [], [], .nil, by rw [List.append_nil]; rfl, by rw [List.append_nil]; rfl⟩

/-- Rules that are alike are added in both. -/
theorem Grows.nest (before before' : Collected) {rules rules' : List FlatRule}
    (h : List.Forall₂ C.SameRule rules rules') :
    C.Grows before before' (before.nest rules) (before'.nest rules') :=
  ⟨[], rules, rules', h, by rw [List.append_nil]; rfl, by rw [List.append_nil]; rfl⟩

/-- The rules of a ruleset match if its blocks have collected the same from nothing. -/
theorem Grows.finish {context context' selectors : List Selector} {body rest : List Node}
    {span : Span} (h : C.Grows {} {} out out') (hcontext : C.contexts context context')
    (hruleset : C.runnable (.ruleset selectors body span :: rest)) :
    List.Forall₂ C.SameRule (out.finish (Selector.nestAll context selectors))
      (out'.finish (Selector.nestAll context' selectors)) := by
  obtain ⟨declarations, rules, rules', hrules, rfl, rfl⟩ := h
  simp only [Collected.finish, List.nil_append]
  split
  · exact hrules
  · exact .cons (.intro declarations hcontext hruleset) hrules

/-- Matching calls collect the same, given how calls are run. -/
def Calls (C : Coupling σ) (runCall runCall' : CallRunner σ) : Prop :=
  ∀ {call context context' frame out out'}, C.contexts context context' → C.writes frame →
    ∀ s t, C.states s t →
      Matches C.states C.excused (C.Grows out out') (runCall { call, context, frame, out } s)
        (runCall' { call, context := context', frame, out := out' } t)

/-! ## Blocks -/

variable {context context' : List Selector}

/-- A declaration adds the same in both. -/
theorem alike_runDeclaration (hcontext : C.contexts context context') (hid : C.reads id)
    (declaration : Declaration) :
    C.Alike runCall runCall' (C.Grows out out')
      (runDeclaration C.left context id out declaration)
      (runDeclaration C.right context' id out' declaration) := by
  unfold runDeclaration
  rw [C.contexts.isEmpty hcontext]
  split
  · exact .fail _
  · refine .bind (alike_evaluate hid declaration.value) ?_
    rintro value _ rfl
    exact .pure (.declare _ _ _)

/-- Both runs of a ruleset give matching rules if both runs of its statements collect the same. -/
private theorem alike_runRulesetWith {ruleset : Ruleset} {site : Site} {rest : List Node}
    {run run' : List Selector → FrameId → EvalM σ Collected}
    (hcontext : C.contexts context context') (hid : C.reads id)
    (hruleset : C.runnable (.ruleset ruleset.selectors ruleset.body ruleset.span :: rest))
    (h : ∀ selectors selectors' frame, C.contexts selectors selectors' → C.writes frame →
      C.Alike runCall runCall' (C.Grows {} {}) (run selectors frame) (run' selectors' frame)) :
    C.Alike runCall runCall' (List.Forall₂ C.SameRule)
      (runRulesetWith site ruleset context id run)
      (runRulesetWith site ruleset context' id run') := by
  have hselectors := C.contexts.nestAll hcontext hruleset
  have hbody := C.runnable_ruleset hruleset
  refine .bind (alike_emit _ _) fun _ _ _ => ?_
  refine .bind (.inFrame hid fun frame hframe => .bind (alike_hoist hframe hbody) fun _ _ _ =>
    h _ _ frame hselectors hframe) fun out out' hout => ?_
  exact .pure (hout.finish hcontext hruleset)

mutual

/-- Both runs of a statement collect the same. -/
theorem alike_runNode {context context' : List Selector} {out out' : Collected} {id : FrameId}
    (hcalls : C.Calls runCall runCall') (hcontext : C.contexts context context')
    (hid : C.writes id) (site : Site) (node : Node) (rest : List Node)
    (hnodes : C.runnable (node :: rest)) :
    C.Alike runCall runCall' (C.Grows out out') (runNode C.left context id site out node)
      (runNode C.right context' id site out' node) := by
  cases node with
  | assignment assignment =>
    rw [runNode, runNode]
    exact .bind (alike_assign hid assignment) fun _ _ _ => .pure (.refl _ _)
  | declaration declaration =>
    rw [runNode, runNode]
    exact alike_runDeclaration hcontext (C.reads_of_writes hid) declaration
  | call call =>
    rw [runNode, runNode]
    -- a call is not run here: how calls are run is given
    exact fun s t hst => hcalls hcontext hid s t hst
  | ruleset selectors body span =>
    rw [runNode, runNode]
    refine .bind (alike_runRulesetWith hcontext (C.reads_of_writes hid) hnodes ?_)
      fun rules rules' hrules => .pure (.nest _ _ hrules)
    intro selectors selectors' frame hselectors hframe
    exact alike_runBody hcalls hselectors hframe site 0 body (C.runnable_ruleset hnodes)
  | mixin name params body span =>
    rw [runNode, runNode]
    exact .pure (.refl _ _)

/-- Both runs of a block collect the same. -/
theorem alike_runBody {context context' : List Selector} {out out' : Collected} {id : FrameId}
    (hcalls : C.Calls runCall runCall') (hcontext : C.contexts context context')
    (hid : C.writes id) (site : Site) (index : Nat) (nodes : List Node)
    (hnodes : C.runnable nodes) :
    C.Alike runCall runCall' (C.Grows out out') (runBody C.left context id site index out nodes)
      (runBody C.right context' id site index out' nodes) := by
  cases nodes with
  | nil =>
    rw [runBody, runBody]
    exact .pure (.refl _ _)
  | cons node rest =>
    rw [runBody, runBody]
    refine .bind (alike_runNode hcalls hcontext hid (index :: site) node rest hnodes)
      fun mid mid' hmid => ?_
    exact .mono (alike_runBody hcalls hcontext hid site (index + 1) rest (C.runnable_tail hnodes))
      fun _ _ => hmid.trans

end

/-! ## Calls -/

/-- The body of a definition adds alike in both. -/
private theorem alike_runDefinitionBody {closure : Closure} (hcalls : C.Calls runCall runCall')
    (hcontext : C.contexts context context') (hid : C.writes id) (hclosure : C.callable closure)
    (args : List Value) :
    C.Alike runCall runCall' (C.Grows out out')
      (runDefinitionBody C.left closure args context id out)
      (runDefinitionBody C.right closure args context' id out') := by
  refine .bind (alike_bindArguments hid args closure.definition) fun _ _ _ => ?_
  have hbody := C.runnable_of_callable hclosure
  refine .bind (alike_hoist hid hbody) fun _ _ _ => ?_
  exact alike_runBody hcalls hcontext hid closure.site 0 closure.definition.body hbody

/-- Both runs of a definition make the same frame and collect the same there; who called it does not
matter. -/
theorem alike_runInHome {closure : Closure} (hcalls : C.Calls runCall runCall')
    (hcontext : C.contexts context context') (hclosure : C.callable closure) (args : List Value)
    (call : OpenCall) (out out' : Collected) :
    C.Alike runCall runCall'
      (fun result result' => (result.1 = result'.1 ∧ C.reads result.1) ∧
        C.Grows out out' result.2 result'.2)
      ((EvalM.inFrame closure.home closure.block fun frame => do
        return (frame, ← runDefinitionBody C.left closure args context frame out)).through call)
      ((EvalM.inFrame closure.home closure.block fun frame => do
        return (frame, ← runDefinitionBody C.right closure args context' frame out')).through
          call) := by
  refine .through (.inFrame (C.reads_of_callable hclosure) fun frame hframe => ?_) call
  refine .bind (alike_runDefinitionBody hcalls hcontext hframe hclosure args) fun _ _ hgrows => ?_
  exact .pure ⟨⟨rfl, C.reads_of_writes hframe⟩, hgrows⟩

/-- A definition adds alike in both. -/
theorem alike_runDefinition {closure : Closure} (hcalls : C.Calls runCall runCall')
    (hcontext : C.contexts context context') (hid : C.writes id) (hclosure : C.callable closure)
    (call : Call) (args : List Value) :
    C.Alike runCall runCall' (C.Grows out out')
      (runDefinition C.left call closure args context id out)
      (runDefinition C.right call closure args context' id out') := by
  refine .bind (alike_emit _ _) fun _ _ _ => ?_
  refine .bind (alike_runInHome hcalls hcontext hclosure args _ out out') ?_
  rintro ⟨frame, last⟩ ⟨frame', last'⟩ ⟨⟨hframe, hreads⟩, hgrows⟩
  obtain rfl : frame = frame' := hframe
  -- only here does the frame of the caller come in
  have hpublish : C.Alike runCall runCall' (fun _ _ => True)
      (EvalM.perform (.publish frame id)) (EvalM.perform (.publish frame id)) :=
    .perform fun hst => ⟨trivial, C.publish hst hreads hid⟩
  exact .bind hpublish fun _ _ _ => .pure hgrows

/-- Definitions in a row add alike in both. -/
theorem alike_runDefinitions {closures : List Closure} (hcalls : C.Calls runCall runCall')
    (hcontext : C.contexts context context') (hid : C.writes id)
    (hclosures : ∀ closure ∈ closures, C.callable closure) (call : Call) (args : List Value) :
    C.Alike runCall runCall' (C.Grows out out')
      (runDefinitions C.left call args context id out closures)
      (runDefinitions C.right call args context' id out' closures) := by
  induction closures generalizing out out' with
  | nil => exact .pure (.refl _ _)
  | cons closure rest ih =>
    have hclosure := hclosures closure List.mem_cons_self
    refine .bind (alike_runDefinition hcalls hcontext hid hclosure call args)
      fun mid mid' hmid => ?_
    exact .mono (ih fun other hother => hclosures other (.tail _ hother)) fun _ _ => hmid.trans

/-- A call adds alike in both, if the calls in it do. -/
private theorem alike_runCall (hcalls : C.Calls runCall runCall')
    (hcontext : C.contexts context context') (hid : C.writes id) (call : Call) :
    C.Alike runCall runCall' (C.Grows out out')
      (Evaluation.runCall C.left { call, context, frame := id, out })
      (Evaluation.runCall C.right { call, context := context', frame := id, out := out' }) := by
  refine .bind (alike_evaluateAll (C.reads_of_writes hid) call.args) ?_
  rintro args _ rfl
  refine .bind (alike_targets (C.reads_of_writes hid) call args) ?_
  rintro targets _ ⟨rfl, htargets⟩
  exact .counted (alike_runDefinitions hcalls hcontext hid htargets call args) call

/-- Matching calls collect the same, however deeply they are nested: the two budgets run out
together, or else running out of the first one is excused. -/
theorem calls_callRunner (C : Coupling σ) {budget budget' : Nat} (hbudget : budget ≤ budget')
    (hlimit : (∀ call, C.excused (EvalM.limitFailure C.left call)) ∨ budget = budget' ∧
      ∀ call, EvalM.limitFailure C.left call = EvalM.limitFailure C.right call) :
    C.Calls (callRunner C.left budget) (callRunner C.right budget') := by
  induction budget generalizing budget' with
  | zero =>
    intro call context context' frame out out' _ _ s t hst
    -- the first run is out of budget; the second one is too unless that is excused
    rcases hlimit with hexcused | ⟨rfl, hsame⟩
    · exact .excused (hexcused call)
    · rw [callRunner, callRunner, hsame call]
      exact .error hst
  | succ budget ih =>
    obtain _ | budget' := budget'
    · exact absurd hbudget (Nat.not_succ_le_zero budget)
    · have hcalls : C.Calls (callRunner C.left budget) (callRunner C.right budget') :=
        ih (Nat.le_of_succ_le_succ hbudget)
          (hlimit.imp_right fun ⟨heq, hsame⟩ => ⟨Nat.succ.inj heq, hsame⟩)
      intro call context context' frame out out' hcontext hframe s t hst
      exact alike_runCall hcalls hcontext hframe call s t hst

/-! ## Stylesheets -/

/-- Both runs of a stylesheet give matching rules. -/
theorem alike_runSheet {sheet : Stylesheet} (hcalls : C.Calls runCall runCall')
    (hcontext : C.contexts [] []) (hroot : C.writes Scopes.root) (hsheet : C.runnable sheet.nodes) :
    C.Alike runCall runCall' (List.Forall₂ C.SameRule) (runSheet C.left sheet)
      (runSheet C.right sheet) := by
  refine .bind (alike_hoist hroot hsheet) fun _ _ _ => ?_
  refine .bind (alike_runBody hcalls hcontext hroot Stylesheet.site 0 sheet.nodes hsheet) ?_
  rintro out out' ⟨declarations, rules, rules', hrules, rfl, rfl⟩
  exact .bind (alike_emit _ _) fun _ _ _ => .pure hrules

end MixinSheet.Coupling
