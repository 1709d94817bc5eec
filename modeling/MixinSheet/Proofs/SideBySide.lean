import MixinSheet.Proofs.Correspondence

/-!
# Runs of corresponding stylesheets

Two stylesheets that correspond to each other are run side by side, from states that belong
together. Each part of the evaluator comes to outcomes that belong together: the same rules and
declarations, or failures that tell the same. Counterparts are met in the same order wherever the
evaluator goes through statements or definitions, and what has no counterpart is never found.

## Key results

- `Correspondence.Alike`: two programs come to outcomes that belong together
- `Correspondence.alike_targets`: calls resolve to counterparts
- `Correspondence.alike_runBody`: counterparts of blocks are run alike
- `Correspondence.run_like`: corresponding stylesheets give the same rules or fail alike
- `Correspondence.rules_eq`: they come to the same if they have the same positions
-/

namespace MixinSheet

open Evaluation

variable {σ α α' β β' : Type}

namespace Correspondence

variable {settings : Settings σ}

/-- What the states of two runs have in common. -/
structure LikeStates (C : Correspondence settings) (s t : State σ) : Prop where
  scopes : C.LikeScopes s.scopes t.scopes
  callDepth : s.callDepth = t.callDepth
  host : s.host.SameNatives t.host

/-- Two programs come to outcomes that belong together, given how calls are run. -/
def Alike (C : Correspondence settings) (runCall runCall' : CallRunner σ) (Φ : α → α' → Prop)
    (act : EvalM σ α) (act' : EvalM σ α') : Prop :=
  ∀ s t, C.LikeStates s t → LikeOutcomes C.positions C.LikeStates Φ (act.runWith runCall s)
    (act'.runWith runCall' t)

variable {C : Correspondence settings} {runCall runCall' : CallRunner σ} {Φ : α → α' → Prop}
  {Ψ : β → β' → Prop} {act : EvalM σ α} {act' : EvalM σ α'}

/-! ## Rules -/

/-- Two returned values that are related. -/
theorem Alike.pure {a : α} {a' : α'} (h : Φ a a') :
    C.Alike runCall runCall' Φ (Pure.pure a) (Pure.pure a') :=
  fun _ _ hst => .ok h hst

/-- Two failures that are alike. -/
theorem Alike.fail {failure failure' : Failure} (h : failure.Like C.positions failure') :
    C.Alike runCall runCall' Φ (EvalM.fail failure) (EvalM.fail failure') :=
  fun _ _ _ => .error h

/-- Sequencing. -/
theorem Alike.bind {next : α → EvalM σ β} {next' : α' → EvalM σ β'}
    (h : C.Alike runCall runCall' Φ act act')
    (hnext : ∀ a a', Φ a a' → C.Alike runCall runCall' Ψ (next a) (next' a')) :
    C.Alike runCall runCall' Ψ (act >>= next) (act' >>= next') := by
  intro s t hst
  rw [EvalM.runWith_bind, EvalM.runWith_bind]
  have hact := h s t hst
  generalize act.runWith runCall s = result at hact ⊢
  generalize act'.runWith runCall' t = result' at hact ⊢
  cases hact with
  | ok ha hst' => exact hnext _ _ ha _ _ hst'
  | error hfailure => exact .error hfailure

/-- A single step on each side. -/
theorem Alike.perform {first : Step σ α} {first' : Step σ α'}
    (h : ∀ {s t}, C.LikeStates s t → Φ (first.apply s).1 (first'.apply t).1 ∧
      C.LikeStates (first.apply s).2 (first'.apply t).2) :
    C.Alike runCall runCall' Φ (EvalM.perform first) (EvalM.perform first') :=
  fun _ _ hst => .ok (h hst).1 (h hst).2

/-- Events need not be the same. -/
theorem Alike.emit (event event' : State σ → Event) :
    C.Alike runCall runCall' (fun _ _ => True) (EvalM.perform (.emit event))
      (EvalM.perform (.emit event')) :=
  .perform fun hst => ⟨trivial, hst.scopes, hst.callDepth, hst.host⟩

/-- The same frame takes the definitions of two related blocks. -/
theorem Alike.hoist (id : FrameId) {block block' : Block} (h : C.blocks block block') :
    C.Alike runCall runCall' (fun _ _ => True) (EvalM.perform (.hoist id block))
      (EvalM.perform (.hoist id block')) :=
  .perform fun hst => ⟨trivial, hst.scopes.hoist id h, hst.callDepth, hst.host⟩

/-- The same variable is bound on both sides. -/
theorem Alike.bindVariable (id : FrameId) (name : String) (value : Value) :
    C.Alike runCall runCall' (fun _ _ => True) (EvalM.perform (.bind id name value))
      (EvalM.perform (.bind id name value)) :=
  .perform fun hst => ⟨trivial, hst.scopes.bind id name value, hst.callDepth, hst.host⟩

/-- The same frames take part in a publication on both sides. -/
theorem Alike.publish (source target : FrameId) :
    C.Alike runCall runCall' (fun _ _ => True) (EvalM.perform (.publish source target))
      (EvalM.perform (.publish source target)) :=
  .perform fun hst => ⟨trivial, hst.scopes.publish source target, hst.callDepth, hst.host⟩

/-- Cleaning up keeps the outcome. -/
theorem Alike.ensuring {cleanup : Step σ Unit} (h : C.Alike runCall runCall' Φ act act')
    (hcleanup : ∀ {s t}, C.LikeStates s t →
      C.LikeStates (cleanup.apply s).2 (cleanup.apply t).2) :
    C.Alike runCall runCall' Φ (act.ensuring cleanup) (act'.ensuring cleanup) := by
  intro s t hst
  rw [EvalM.runWith_ensuring, EvalM.runWith_ensuring]
  have hact := h s t hst
  generalize act.runWith runCall s = result at hact ⊢
  generalize act'.runWith runCall' t = result' at hact ⊢
  cases hact with
  | ok ha hst' => exact .ok ha (hcleanup hst')
  | error hfailure => exact .error hfailure

/-- Both runs make a frame, and it has the same number. -/
theorem Alike.inFrame {block block' : Block} {run : FrameId → EvalM σ α}
    {run' : FrameId → EvalM σ α'} (parent : FrameId)
    (h : ∀ id, C.Alike runCall runCall' Φ (run id) (run' id)) :
    C.Alike runCall runCall' Φ (EvalM.inFrame parent block run)
      (EvalM.inFrame parent block' run') := by
  have henter : C.Alike runCall runCall' Eq (EvalM.perform (.enter parent block))
      (EvalM.perform (.enter parent block')) :=
    .perform fun hst => ⟨hst.scopes.next, hst.scopes.push parent, hst.callDepth, hst.host⟩
  refine .bind henter fun id id' heq => ?_
  rw [← heq]
  exact .ensuring (h id) fun hst => ⟨hst.scopes.pop, hst.callDepth, hst.host⟩

/-- The failures of both runs go through calls that belong together. -/
theorem Alike.through {call call' : Call} (h : C.Alike runCall runCall' Φ act act')
    (hcall : C.LikeCalls call call') :
    C.Alike runCall runCall' Φ (act.through { text := call.text, span := call.span })
      (act'.through { text := call'.text, span := call'.span }) := by
  intro s t hst
  rw [EvalM.through, EvalM.through, EvalM.runWith_followedBy, EvalM.runWith_followedBy]
  have hact := h s t hst
  generalize act.runWith runCall s = result at hact ⊢
  generalize act'.runWith runCall' t = result' at hact ⊢
  cases hact with
  | ok ha hst' => exact .ok ha hst'
  | error hfailure =>
    refine .error ⟨hfailure.fault, hfailure.text, hfailure.span, ?_⟩
    exact List.rel_append hfailure.openCalls (.cons ⟨hcall.text_eq, hcall.span⟩ .nil)

/-- Both runs refuse the call, or both run what it leads to. -/
theorem Alike.counted {call call' : Call} (h : C.Alike runCall runCall' Φ act act')
    (hcall : C.LikeCalls call call') :
    C.Alike runCall runCall' Φ (EvalM.counted settings call act)
      (EvalM.counted settings call' act') := by
  have hcount : C.Alike runCall runCall' (fun _ _ => True) (EvalM.countCall settings call)
      (EvalM.countCall settings call') := by
    -- both runs have made the same number of calls, so they reach the limit together
    have hdepth : C.Alike runCall runCall' Eq (EvalM.perform (.inspect State.callDepth))
        (EvalM.perform (.inspect State.callDepth)) :=
      .perform fun hst => ⟨hst.callDepth, hst⟩
    refine .bind hdepth fun depth depth' heq => ?_
    rw [← heq]
    split
    · exact .fail hcall.limitFailure
    · exact .perform fun hst =>
        ⟨trivial, hst.scopes, congrArg (· + 1) hst.callDepth, hst.host⟩
  exact .bind hcount fun _ _ _ => .ensuring h fun hst =>
    ⟨hst.scopes, congrArg (· - 1) hst.callDepth, hst.host⟩

/-! ## Expressions -/

/-- Two actions on the scopes are alike when they have like outcomes on like scopes. -/
theorem Alike.observe {act act' : Scopes → HostM σ α}
    (h : ∀ {scopes scopes' host host'}, C.LikeScopes scopes scopes' → host.SameNatives host' →
      LikeOutcomes C.positions Host.SameNatives Eq (act scopes host) (act' scopes' host')) :
    C.Alike runCall runCall' Eq (EvalM.observe act) (EvalM.observe act') := by
  intro s t hst
  have hresult := h hst.scopes hst.host
  simp only [EvalM.observe, EvalM.runWith, Step.apply]
  generalize act s.scopes s.host = result at hresult ⊢
  generalize act' t.scopes t.host = result' at hresult ⊢
  cases hresult with
  | ok heq hhost => exact .ok heq ⟨hst.scopes, hst.callDepth, hhost⟩
  | error hfailure => exact .error hfailure

/-- Related expressions evaluate to one value. -/
theorem alike_evaluate {expression expression' : Expression} (id : FrameId)
    (h : C.expressions expression expression') :
    C.Alike runCall runCall' Eq (EvalM.evaluate settings id expression)
      (EvalM.evaluate settings id expression') :=
  .observe fun hscopes hhost => C.evaluate h (hscopes.value?_eq id) hhost

/-- Expressions in a row have the same values if each one has. -/
private theorem evaluateAll_like {scopes scopes' : Scopes} {id : FrameId}
    (hvalues : ∀ name, scopes.value? id name = scopes'.value? id name)
    {expressions expressions' : List Expression}
    (h : List.Forall₂ C.expressions expressions expressions') {host host' : Host σ}
    (hhost : host.SameNatives host') :
    LikeOutcomes C.positions Host.SameNatives Eq
      (Expression.evaluateAll settings scopes id expressions host)
      (Expression.evaluateAll settings scopes' id expressions' host') := by
  induction h generalizing host host' with
  | nil => exact .ok rfl hhost
  | @cons expression expression' rest rest' hexpression _ ih =>
    simp only [Expression.evaluateAll, HostM.bind_apply]
    -- the first expression has one value on both sides, or fails alike on both
    have hfirst := C.evaluate hexpression hvalues hhost
    generalize expression.evaluate settings scopes id host = result at hfirst ⊢
    generalize expression'.evaluate settings scopes' id host' = result' at hfirst ⊢
    cases hfirst with
    | error hfailure => exact .error hfailure
    | @ok value value' after after' heq hafter =>
      subst heq
      -- then the rest is evaluated with hosts that still have the same natives
      have hlater := ih hafter
      simp only
      generalize Expression.evaluateAll settings scopes id rest after = later at hlater ⊢
      generalize Expression.evaluateAll settings scopes' id rest' after' = later' at hlater ⊢
      cases hlater with
      | error hfailure => exact .error hfailure
      | ok hvalues hlast => exact .ok (congrArg (value :: ·) hvalues) hlast

/-- Related argument lists evaluate to the same values. -/
theorem alike_evaluateAll {expressions expressions' : List Expression} (id : FrameId)
    (h : List.Forall₂ C.expressions expressions expressions') :
    C.Alike runCall runCall' Eq (EvalM.evaluateAll settings id expressions)
      (EvalM.evaluateAll settings id expressions') :=
  .observe fun hscopes hhost => evaluateAll_like (hscopes.value?_eq id) h hhost

/-- Related assignments bind one value to one name. -/
theorem alike_assign {assignment assignment' : Assignment} (id : FrameId)
    (h : C.LikeAssignments assignment assignment') :
    C.Alike runCall runCall' (fun _ _ => True) (EvalM.assign settings id assignment)
      (EvalM.assign settings id assignment') := by
  refine .bind (alike_evaluate id h.value) fun value value' heq => ?_
  rw [← heq, ← h.name]
  exact .bindVariable id assignment.name value

/-! ## Resolution -/

/-- The variables of a block are bound by its statements alone. -/
private theorem bindAll_eq (id : FrameId) (site : Site) (index : Nat) (nodes : List Node) :
    Resolution.bindAll settings id nodes =
      Resolution.bindAll settings id ((Node.statements site index nodes).map Prod.snd) := by
  induction nodes generalizing index with
  | nil => rfl
  | cons node rest ih =>
    cases node with
    | assignment assignment =>
      have hrest := ih (index + 1)
      simp only [Resolution.bindAll, hrest]
      rfl
    | ruleset | mixin | call | declaration => exact ih (index + 1)

/-- The variables of related blocks are bound alike. -/
theorem alike_bindAll (id : FrameId) {block block' : Block} (h : C.blocks block block') :
    C.Alike runCall runCall' (fun _ _ => True) (Resolution.bindAll settings id block.body)
      (Resolution.bindAll settings id block'.body) := by
  rw [bindAll_eq id block.site 0 block.body, bindAll_eq id block'.site 0 block'.body]
  have hstatements := C.statements h
  generalize Node.statements block.site 0 block.body = nodes at hstatements ⊢
  generalize Node.statements block'.site 0 block'.body = nodes' at hstatements ⊢
  induction hstatements with
  | nil => exact .pure trivial
  | cons hstatement _ ih =>
    cases hstatement with
    | assignment hassignment => exact .bind (alike_assign id hassignment) fun _ _ _ => ih
    | call | declaration | ruleset => exact ih

/-- Members of one name are related when the name is one that may be asked for. -/
theorem alike_membersNamed {spaces spaces' : List Closure} {name : String} (hname : C.asked name)
    (h : List.Forall₂ C.LikeClosures spaces spaces') :
    C.Alike runCall runCall' (List.Forall₂ C.LikeClosures)
      (Resolution.membersNamed settings name spaces)
      (Resolution.membersNamed settings name spaces') := by
  induction h with
  | nil => exact .pure .nil
  | @cons space space' rest rest' hspace _ ih =>
    have hopen : C.Alike runCall runCall' Eq (Resolution.openNamespace settings space)
        (Resolution.openNamespace settings space') := by
      unfold Resolution.openNamespace
      rw [hspace.home]
      exact .inFrame _ fun id => .bind (.hoist id hspace.block) fun _ _ _ =>
        .bind (alike_bindAll id hspace.block) fun _ _ _ => .pure rfl
    -- both namespaces are opened in a frame of the same number
    refine .bind hopen fun id id' heq => ?_
    rw [← heq]
    have hmembers : C.Alike runCall runCall' (Thinned C.LikeClosures C.Dropped)
        (EvalM.perform (.inspect (·.scopes.closuresIn id)))
        (EvalM.perform (.inspect (·.scopes.closuresIn id))) :=
      .perform fun hst => ⟨hst.scopes.closuresIn id, hst⟩
    refine .bind hmembers fun members members' hmembers => ?_
    refine .bind ih fun later later' hlater => .pure (List.rel_append ?_ hlater)
    exact hmembers.filter (fun _ _ hclosure => hclosure.isNamed_eq name)
      fun _ hdropped => C.dropped_unasked hdropped hname

/-- A path is followed alike from related candidates, element by element. -/
theorem alike_descend {candidates candidates' : List Closure} (path : List Element)
    (hpath : ∀ element ∈ path, C.asked element.value)
    (h : List.Forall₂ C.LikeClosures candidates candidates') :
    C.Alike runCall runCall' (List.Forall₂ C.LikeClosures)
      (Resolution.descend settings path candidates)
      (Resolution.descend settings path candidates') := by
  induction path generalizing candidates candidates' with
  | nil => exact .pure h
  | cons segment rest ih =>
    -- counterparts are namespaces together
    have hspaces : List.Forall₂ C.LikeClosures (candidates.filter (·.definition.isNamespace))
        (candidates'.filter (·.definition.isNamespace)) :=
      List.rel_filter (fun _ _ hclosure => by simp only [hclosure.isNamespace_eq]) h
    refine .bind (alike_membersNamed (hpath segment List.mem_cons_self) hspaces)
      fun members members' hmembers => ?_
    -- members are missing on both sides or on neither
    rw [hmembers.isEmpty_eq]
    split
    · exact .pure .nil
    · exact ih (fun element hmem => hpath element (.tail segment hmem)) hmembers

/-- A path is looked up alike from the same frame. -/
theorem alike_lookup (id : FrameId) (path : List Element)
    (hpath : ∀ element ∈ path, C.asked element.value) :
    C.Alike runCall runCall' (List.Forall₂ C.LikeClosures) (Resolution.lookup settings id path)
      (Resolution.lookup settings id path) := by
  cases path with
  | nil => exact .pure .nil
  | cons first rest =>
    have hvisible : C.Alike runCall runCall' (List.Forall₂ C.LikeClosures)
        (EvalM.perform (.inspect (·.scopes.visible id first.value)))
        (EvalM.perform (.inspect (·.scopes.visible id first.value))) :=
      .perform fun hst => ⟨hst.scopes.visible id (hpath first List.mem_cons_self), hst⟩
    exact .bind hvisible fun candidates candidates' hcandidates =>
      alike_descend rest (fun element hmem => hpath element (.tail first hmem)) hcandidates

/-- Related parameters have patterns that fit the same arguments. -/
theorem alike_fitsPatterns (id : FrameId) {params params' : List Parameter}
    (h : List.Forall₂ C.LikeParameters params params') (args : List Value) :
    C.Alike runCall runCall' Eq (Resolution.fitsPatterns settings id params args)
      (Resolution.fitsPatterns settings id params' args) := by
  induction h generalizing args with
  | nil => exact .pure rfl
  | @cons param param' params params' hparam _ ih =>
    cases args with
    | nil => exact .pure rfl
    | cons arg args =>
      simp only [Resolution.fitsPatterns]
      have hguard := hparam.guard
      generalize param.guard = guard at hguard ⊢
      generalize param'.guard = guard' at hguard ⊢
      -- a parameter has a pattern on both sides or on neither
      cases hguard with
      | none => exact ih args
      | some hguard =>
        refine .bind (alike_evaluate id hguard) fun pattern pattern' heq => ?_
        rw [← heq]
        split
        · exact ih args
        · exact .pure rfl

/-- Related parameter lists need the same number of arguments. -/
private theorem leastArity_eq {params params' : List Parameter}
    (h : List.Forall₂ C.LikeParameters params params') :
    params.countP (·.needsArgument) = params'.countP (·.needsArgument) := by
  induction h with
  | nil => rfl
  | @cons param param' params params' hparam _ ih =>
    -- defaults are there on both sides or on neither
    have hneeds : param.needsArgument = param'.needsArgument := by
      have hdefault := hparam.default
      unfold Parameter.needsArgument
      generalize param.default = default at hdefault ⊢
      generalize param'.default = default' at hdefault ⊢
      cases hdefault with
      | none => rfl
      | some => rfl
    rw [List.countP_cons, List.countP_cons, ih, hneeds]

/-- Related closures take the same arguments. -/
theorem alike_takes {closure closure' : Closure} (h : C.LikeClosures closure closure')
    (args : List Value) :
    C.Alike runCall runCall' Eq (Resolution.takes settings closure args)
      (Resolution.takes settings closure' args) := by
  unfold Resolution.takes
  -- what a closure takes depends on its head and its home only
  have hhead : C.LikeHeads closure.definition closure'.definition := h.definition.head
  rw [h.home]
  generalize closure.definition = definition at hhead ⊢
  generalize closure'.definition = definition' at hhead ⊢
  cases hhead with
  | ruleset => exact .pure rfl
  | @mixin mixin mixin' _ hparams =>
    -- related mixins have the same least and greatest number of arguments
    have hleast : mixin.leastArity = mixin'.leastArity := leastArity_eq hparams
    dsimp only
    rw [hleast, hparams.length_eq]
    split
    · exact .pure rfl
    · exact alike_fitsPatterns _ hparams args

/-- The candidates that take the arguments of a call are related. -/
theorem alike_taking (args : List Value) {candidates candidates' : List Closure}
    (h : List.Forall₂ C.LikeClosures candidates candidates') :
    C.Alike runCall runCall' (List.Forall₂ C.LikeClosures)
      (Resolution.taking settings args candidates)
      (Resolution.taking settings args candidates') := by
  induction h with
  | nil => exact .pure .nil
  | cons hcandidate _ ih =>
    refine .bind (alike_takes hcandidate args) fun accepts accepts' heq => ?_
    rw [← heq]
    split
    · exact .bind ih fun accepted accepted' haccepted => .pure (.cons hcandidate haccepted)
    · exact ih

/-- Calls that belong together resolve to counterparts, in the same order. -/
theorem alike_targets {call call' : Call} (h : C.LikeCalls call call') (args : List Value)
    (id : FrameId) :
    C.Alike runCall runCall' (List.Forall₂ C.LikeClosures)
      (Resolution.targets settings call args id) (Resolution.targets settings call' args id) := by
  unfold Resolution.targets
  -- failures quote the path, which is the same one
  rw [Call.pathText, Call.pathText, ← h.path]
  refine .bind (alike_lookup id call.path h.asked) fun candidates candidates' hcandidates => ?_
  rw [hcandidates.isEmpty_eq]
  split
  · exact .fail (h.failure _)
  · refine .bind (alike_taking args hcandidates) fun accepted accepted' haccepted => ?_
    refine .bind (.emit _ _) fun _ _ _ => ?_
    -- no definition takes the arguments, on both sides
    rw [haccepted.isEmpty_eq]
    split
    · rw [← h.text_eq]
      exact .fail ⟨rfl, rfl, h.span, .nil⟩
    · exact .pure haccepted

/-! ## Blocks -/

/-- Two calls that stand in the same frame, after the same was collected. -/
structure LikeInvocations (C : Correspondence settings) (invocation invocation' : Invocation) :
    Prop where
  call : C.LikeCalls invocation.call invocation'.call
  context : Selector.LikeLists invocation.context invocation'.context
  frame : invocation.frame = invocation'.frame
  out : invocation.out = invocation'.out

/-- Calls that belong together collect the same. -/
def Calls (C : Correspondence settings) (runCall runCall' : CallRunner σ) : Prop :=
  ∀ invocation invocation', C.LikeInvocations invocation invocation' → ∀ s t, C.LikeStates s t →
    LikeOutcomes C.positions C.LikeStates Eq (runCall invocation s) (runCall' invocation' t)

/-- Related declarations collect the same. -/
theorem alike_runDeclaration {context context' : List Selector}
    (hcontext : Selector.LikeLists context context') (id : FrameId) (out : Collected)
    {declaration declaration' : Declaration} (h : C.LikeDeclarations declaration declaration') :
    C.Alike runCall runCall' Eq (runDeclaration settings context id out declaration)
      (runDeclaration settings context' id out declaration') := by
  unfold runDeclaration
  rw [hcontext.isEmpty, ← h.property]
  split
  · exact .fail ⟨rfl, rfl, h.span, .nil⟩
  · refine .bind (alike_evaluate id h.value) fun value value' heq => .pure ?_
    rw [heq, h.property, h.important]

/-- Runs statements that have their sites with them. -/
def runStatements (settings : Settings σ) (context : List Selector) (id : FrameId) :
    Collected → List (Site × Node) → EvalM σ Collected
  | out, [] => return out
  | out, (site, node) :: rest => do
    let out ← runNode settings context id site out node
    runStatements settings context id out rest

/-- A block is run by its statements alone: mixins do nothing where they stand. -/
private theorem runBody_eq (context : List Selector) (id : FrameId) (site : Site) (index : Nat)
    (out : Collected) (nodes : List Node) :
    runBody settings context id site index out nodes =
      runStatements settings context id out (Node.statements site index nodes) := by
  induction nodes generalizing index out with
  | nil => rw [runBody]; rfl
  | cons node rest ih =>
    rw [runBody]
    simp only [ih]
    cases node with
    | mixin name params body span => rw [runNode]; rfl
    | ruleset | call | declaration | assignment => rfl

mutual

/-- Related statements run alike, by the kind of the statement. -/
theorem alike_runNode (hcalls : C.Calls runCall runCall') {context context' : List Selector}
    (hcontext : Selector.LikeLists context context') (id : FrameId) (out : Collected)
    (site : Site) (node : Node) {placed' : Site × Node}
    (h : C.LikeStatements C.blocks (site, node) placed') :
    C.Alike runCall runCall' Eq (runNode settings context id site out node)
      (runNode settings context' id placed'.1 out placed'.2) := by
  cases node with
  | assignment assignment =>
    cases h with
    | assignment hassignment =>
      rw [runNode, runNode]
      exact .bind (alike_assign id hassignment) fun _ _ _ => .pure rfl
  | declaration declaration =>
    cases h with
    | declaration hdeclaration =>
      rw [runNode, runNode]
      exact alike_runDeclaration hcontext id out hdeclaration
  | call call =>
    cases h with
    | call hcall =>
      rw [runNode, runNode]
      exact hcalls _ _ ⟨hcall, hcontext, rfl, rfl⟩
  | mixin => cases h
  | ruleset selectors body span =>
    cases h with
    | @ruleset _ site' _ selectors' _ body' _ span' hselectors hblock =>
      rw [runNode, runNode]
      -- the contexts differ in spans at most, and so do the nested ones
      have hcontext' : Selector.LikeLists (Selector.nestAll context selectors)
          (Selector.nestAll context' selectors') := hcontext.nestAll hselectors
      have hbody : ∀ frame, C.Alike runCall runCall' Eq
          (runBody settings (Selector.nestAll context selectors) frame site 0 {} body)
          (runBody settings (Selector.nestAll context' selectors') frame site' 0 {} body') := by
        intro frame
        -- the second body is written as a run of its statements, which `alike_runBody` compares
        -- with
        rw [runBody_eq _ _ site']
        exact alike_runBody hcalls hcontext' frame {} site 0 body (C.statements hblock)
      have hrules : C.Alike runCall runCall' Eq
          (runRulesetWith site { selectors, body, span } context id
            fun context frame => runBody settings context frame site 0 {} body)
          (runRulesetWith site' { selectors := selectors', body := body', span := span' } context'
            id fun context frame => runBody settings context frame site' 0 {} body') := by
        refine .bind (.emit _ _) fun _ _ _ => .bind (.inFrame id fun frame =>
          .bind (.hoist frame hblock) fun _ _ _ => hbody frame) fun inner inner' heq => .pure ?_
        rw [← heq]
        -- the rules have the same selectors, since those are texts
        simp only [Collected.finish, hcontext'.texts]
      refine .bind hrules fun rules rules' heq => .pure ?_
      rw [heq]

/-- Counterparts of blocks are run alike. The statements of the second block are given with their
sites, since they may have other indices. -/
theorem alike_runBody (hcalls : C.Calls runCall runCall') {context context' : List Selector}
    (hcontext : Selector.LikeLists context context') (id : FrameId) (out : Collected) (site : Site)
    (index : Nat) (nodes : List Node) {statements' : List (Site × Node)}
    (h : List.Forall₂ (C.LikeStatements C.blocks) (Node.statements site index nodes)
      statements') :
    C.Alike runCall runCall' Eq (runBody settings context id site index out nodes)
      (runStatements settings context' id out statements') := by
  cases nodes with
  | nil =>
    rw [runBody]
    cases h with
    | nil => exact .pure rfl
  | cons node rest =>
    rw [runBody]
    by_cases hmixin : node.isMixin
    · -- the first run passes over the mixin, the second one does not see it
      have hskip : Node.statements site index (node :: rest) =
          Node.statements site (index + 1) rest := by
        simp [Node.statements, Node.located, hmixin]
      rw [hskip] at h
      have hnode : runNode settings context id (index :: site) out node = Pure.pure out := by
        cases node with
        | mixin => rw [runNode]
        | ruleset | call | declaration | assignment => cases hmixin
      rw [hnode]
      exact alike_runBody hcalls hcontext id out site (index + 1) rest h
    · -- any other node is the first statement of both
      have hkeep : Node.statements site index (node :: rest) =
          (index :: site, node) :: Node.statements site (index + 1) rest := by
        simp [Node.statements, Node.located, hmixin]
      rw [hkeep] at h
      cases h with
      | cons hstatement hrest =>
        refine .bind (alike_runNode hcalls hcontext id out (index :: site) node hstatement)
          fun out out' heq => ?_
        rw [← heq]
        exact alike_runBody hcalls hcontext id out site (index + 1) rest hrest

end

/-! ## Calls -/

/-- Related parameters are filled alike. -/
theorem alike_bindParameters (id : FrameId) {params params' : List Parameter}
    (h : List.Forall₂ C.LikeParameters params params') (args : List Value) :
    C.Alike runCall runCall' Eq (bindParameters settings id params args)
      (bindParameters settings id params' args) := by
  -- the names of the parameters are the same, or both have none
  have hbind : ∀ {param param' : Parameter}, C.LikeParameters param param' → ∀ value,
      C.Alike runCall runCall' (fun _ _ => True) (bindParameter id param value)
        (bindParameter id param' value) := by
    intro param param' hparam value
    unfold bindParameter
    rw [hparam.name]
    cases param'.name with
    | none => exact .pure trivial
    | some name => exact .bindVariable id name value
  induction h generalizing args with
  | nil => exact .pure rfl
  | @cons param param' params params' hparam _ ih =>
    cases args with
    | cons arg args =>
      refine .bind (hbind hparam arg) fun _ _ _ => .bind (ih args) fun values values' heq => ?_
      rw [heq]
      exact .pure rfl
    | nil =>
      -- without arguments left, defaults are taken on both sides
      simp only [bindParameters]
      have hdefault := hparam.default
      generalize param.default = default at hdefault ⊢
      generalize param'.default = default' at hdefault ⊢
      cases hdefault with
      | none => exact ih []
      | some hdefault =>
        refine .bind (alike_evaluate id hdefault) fun value value' heq => ?_
        rw [← heq]
        refine .bind (hbind hparam value) fun _ _ _ => .bind (ih []) fun values values' heq => ?_
        rw [heq]
        exact .pure rfl

/-- Definitions with related heads take their arguments alike. -/
theorem alike_bindArguments (id : FrameId) (args : List Value) {definition definition' : Definition}
    (h : C.LikeHeads definition definition') :
    C.Alike runCall runCall' (fun _ _ => True) (bindArguments settings id args definition)
      (bindArguments settings id args definition') := by
  cases h with
  | ruleset => exact .pure trivial
  | mixin _ hparams =>
    refine .bind (alike_bindParameters id hparams args) fun bound bound' heq => ?_
    rw [heq]
    exact .bindVariable id "@arguments" _

/-- Related closures, called with the same arguments, run alike. -/
theorem alike_runDefinition (hcalls : C.Calls runCall runCall') {call call' : Call}
    (hcall : C.LikeCalls call call') {closure closure' : Closure}
    (h : C.LikeClosures closure closure') (args : List Value) {context context' : List Selector}
    (hcontext : Selector.LikeLists context context') (caller : FrameId) (out : Collected) :
    C.Alike runCall runCall' Eq (runDefinition settings call closure args context caller out)
      (runDefinition settings call' closure' args context' caller out) := by
  -- arguments are bound, definitions taken over and the body run, in frames of one number
  have hbody : ∀ frame, C.Alike runCall runCall' Eq
      (runDefinitionBody settings closure args context frame out)
      (runDefinitionBody settings closure' args context' frame out) := by
    intro frame
    refine .bind (alike_bindArguments frame args h.definition.head) fun _ _ _ =>
      .bind (.hoist frame h.block) fun _ _ _ => ?_
    rw [runBody_eq context']
    exact alike_runBody hcalls hcontext frame out closure.site 0 closure.definition.body
      (C.statements h.block)
  unfold runDefinition
  rw [h.home]
  refine .bind (.emit _ _) fun _ _ _ => .bind (.through (.inFrame _ fun frame =>
    .bind (hbody frame) fun out out' heq => .pure (congrArg (frame, ·) heq)) hcall)
    fun answer answer' heq => ?_
  rw [← heq]
  exact .bind (.publish answer.1 caller) fun _ _ _ => .pure rfl

/-- Related lists of closures run alike, one after the other. -/
theorem alike_runDefinitions (hcalls : C.Calls runCall runCall') {call call' : Call}
    (hcall : C.LikeCalls call call') (args : List Value) {context context' : List Selector}
    (hcontext : Selector.LikeLists context context') (caller : FrameId) (out : Collected)
    {closures closures' : List Closure} (h : List.Forall₂ C.LikeClosures closures closures') :
    C.Alike runCall runCall' Eq (runDefinitions settings call args context caller out closures)
      (runDefinitions settings call' args context' caller out closures') := by
  induction h generalizing out with
  | nil => exact .pure rfl
  | cons hclosure _ ih =>
    refine .bind (alike_runDefinition hcalls hcall hclosure args hcontext caller out)
      fun out out' heq => ?_
    rw [← heq]
    exact ih out

/-- However deeply calls are nested, those that belong together collect the same. -/
theorem calls_callRunner (C : Correspondence settings) (budget : Nat) :
    C.Calls (callRunner settings budget) (callRunner settings budget) := by
  -- on the budget: the calls inside of a call have one unit less
  induction budget with
  | zero =>
    intro invocation invocation' h s t hst
    exact .error h.call.limitFailure
  | succ budget ih =>
    intro ⟨call, context, frame, out⟩ ⟨call', context', frame', out'⟩ ⟨hcall, hcontext, hframe, hout⟩
    obtain rfl : frame = frame' := hframe
    obtain rfl : out = out' := hout
    have hrun : C.Alike (callRunner settings budget) (callRunner settings budget) Eq
        (runCall settings { call, context, frame, out })
        (runCall settings { call := call', context := context', frame, out }) := by
      refine .bind (alike_evaluateAll frame hcall.args) fun args args' heq => ?_
      rw [← heq]
      exact .bind (alike_targets hcall args frame) fun closures closures' hclosures =>
        .counted (alike_runDefinitions ih hcall args hcontext frame out hclosures) hcall
    exact hrun

/-- Corresponding stylesheets give the same rules, or fail with failures that tell the same. -/
theorem run_like (C : Correspondence settings) {sheet sheet' : Stylesheet}
    (h : C.blocks sheet.block sheet'.block) (natives : σ) :
    LikeOutcomes C.positions C.LikeStates Eq (sheet.run settings natives)
      (sheet'.run settings natives) := by
  have hsheet : ∀ budget, C.Alike (callRunner settings budget) (callRunner settings budget) Eq
      (runSheet settings sheet) (runSheet settings sheet') := by
    intro budget
    refine .bind (.hoist Scopes.root h) fun _ _ _ => ?_
    rw [runBody_eq _ _ _ _ _ sheet'.nodes]
    refine .bind (alike_runBody (C.calls_callRunner budget) rfl Scopes.root {} _ 0 sheet.nodes
      (C.statements h)) fun out out' heq => ?_
    rw [← heq]
    exact .bind (.emit _ _) fun _ _ _ => .pure rfl
  exact hsheet _ _ _ ⟨.initial, rfl, rfl⟩

/-- If they also have the same positions, they give the same rules or the same failure. -/
theorem rules_eq (C : Correspondence settings) (hpositions : C.positions = Eq)
    {sheet sheet' : Stylesheet} (h : C.blocks sheet.block sheet'.block) (natives : σ) :
    sheet'.rules settings natives = sheet.rules settings natives := by
  have hlike := C.run_like h natives
  rw [hpositions] at hlike
  unfold Stylesheet.rules
  generalize sheet.run settings natives = result at hlike ⊢
  generalize sheet'.run settings natives = result' at hlike ⊢
  cases hlike with
  | ok heq _ => rw [heq]
  | error hfailure => rw [hfailure.eq]

end Correspondence

end MixinSheet
