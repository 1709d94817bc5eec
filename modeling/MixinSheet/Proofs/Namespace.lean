import MixinSheet.Proofs.Chains
import MixinSheet.Proofs.Flattening
import MixinSheet.Proofs.Homes
import MixinSheet.Proofs.Sketch

/-!
# Entering a ruleset and running it

A ruleset makes a frame in two ways. When it is run, its variables are bound in between
declarations, nested rulesets and calls, and what calls export is registered in its frame. When a
path goes through it, its variables are bound alone. Both ways give the same bindings, as no other
statement binds a variable that the block can see: nested rulesets and calls bind in frames of their
own, which are younger, and expressions bind nothing. They give the same definitions but for the
exports.

## Key results

- `Discipline.runNode_of_ne_assignment`: only assignments bind in the frame of their block
- `Scopes.Agree`: two frames show the same variables and have the same bindings
- `exists_bindAll_of_runBody`: if the statements of a block succeed, so do its assignments alone
- `namespace_agrees_with_ruleset`: entering a ruleset makes the frame that running it makes, without
  the exports
-/

namespace MixinSheet

open Evaluation Resolution

variable {σ : Type} {settings : Settings σ}

/-! ## Statements that bind nothing -/

/-- A statement that is no assignment changes only the definitions of the frame of its block. -/
theorem Discipline.runNode_of_ne_assignment {D : Discipline settings} {depth : Nat} {m : Moment σ}
    (context : List Selector) (frame : FrameId) (site : Site) (out : Collected) {node : Node}
    (hnode : ∀ assignment, node ≠ .assignment assignment) (rest : List (Site × Node))
    (hm : D.holds m) (hdepth : m.state.callDepth = depth)
    (hready : D.ready m frame ((site, node) :: rest)) :
    D.Keeps depth (Evaluation.runNode settings context frame site out node)
      (Moment.Confined (.closuresOf frame)) (fun _ _ => True) m := by
  cases node with
  | assignment assignment => exact absurd rfl (hnode assignment)
  | declaration declaration =>
    rw [Evaluation.runNode]
    exact (runDeclaration hm context frame out declaration).within fun _ h =>
      h.mono (Extent.nothing_subset _)
  | call call =>
    rw [Evaluation.runNode]
    refine ⟨hm, ⟨⟨hm, site, rest, hready⟩, hdepth⟩, fun outcome m' hens => ?_⟩
    exact ⟨hens.1, hens.2, fun _ _ => trivial⟩
  | ruleset selectors body span =>
    -- the inner ruleset is run in a frame of its own
    rw [Evaluation.runNode]
    refine .bind Moment.Confined.trans ((runRulesetWith hm hready ?_).within fun _ h =>
      h.mono (Extent.nothing_subset _)) fun rules m' hm' _ _ => .pure hm' (.refl _ _) trivial
    intro selectors' frame' m' hm' hdepth' hready'
    exact runBody selectors' frame' site 0 {} body hm' (hdepth'.trans hdepth) hready'
  | mixin name params body span =>
    rw [Evaluation.runNode]
    exact .pure hm (.refl _ _) trivial

/-! ## Frames that agree -/

namespace Scopes

variable {scopes scopes' other : Scopes} {frame : FrameId}

/-- Every frame shows the variables of some environment. -/
private theorem Rooted.exists_shows (h : scopes.Rooted) (hframe : frame < scopes.next) :
    ∃ bindings, scopes.Shows frame bindings := by
  refine ⟨(scopes.ancestors frame).flatMap fun ancestor =>
    ((scopes.frame? ancestor).map (·.bindings)).getD [], h, hframe, fun name => ?_⟩
  rw [List.lookup_flatMap, value?]
  congr 1
  funext ancestor
  cases scopes.frame? ancestor <;> rfl

/-- A frame shows the same variables in two scopes and has the same bindings there. -/
structure Agree (frame : FrameId) (scopes other : Scopes) : Prop where
  environment : ∃ bindings, scopes.Shows frame bindings ∧ other.Shows frame bindings
  own : (scopes.frame? frame).map (·.bindings) = (other.frame? frame).map (·.bindings)

namespace Agree

/-- A frame agrees with itself. -/
theorem refl (h : scopes.Rooted) (hframe : frame < scopes.next) : Agree frame scopes scopes := by
  obtain ⟨bindings, hshows⟩ := h.exists_shows hframe
  exact ⟨⟨bindings, hshows, hshows⟩, rfl⟩

/-- Frames that agree have the same variables. -/
theorem value?_eq (h : Agree frame scopes other) (name : String) :
    scopes.value? frame name = other.value? frame name := by
  obtain ⟨bindings, hshows, hshows'⟩ := h.environment
  rw [hshows.value, hshows'.value]

/-- Binding the same value keeps frames in agreement. -/
theorem bind (h : Agree frame scopes other) (name : String) (value : Value) :
    Agree frame (scopes.bind frame name value) (other.bind frame name value) := by
  obtain ⟨bindings, hshows, hshows'⟩ := h.environment
  refine ⟨⟨_, hshows.bind name value, hshows'.bind name value⟩, ?_⟩
  have hbind : ∀ scopes : Scopes, ((scopes.bind frame name value).frame? frame).map (·.bindings) =
      ((scopes.frame? frame).map (·.bindings)).map ((name, value) :: ·) := by
    intro scopes
    simp only [Scopes.bind, frame?_modify, if_true, Option.map_map]
    rfl
  rw [hbind, hbind, h.own]

/-- Where no bindings change, frames go on to agree. -/
theorem later (h : Agree frame scopes other) (hrooted : scopes'.Rooted)
    (hconf : scopes.Confined (.closuresOf frame) scopes') : Agree frame scopes' other := by
  obtain ⟨bindings, hshows, hshows'⟩ := h.environment
  refine ⟨⟨bindings, hshows.keep rfl hrooted hconf.frames, hshows'⟩, ?_⟩
  obtain ⟨held, hheld⟩ := (exists_frame?_iff scopes frame).2 hshows.lt_next
  obtain ⟨held', hheld', hallows⟩ := hconf.frames frame held hheld
  rw [← h.own, hheld, hheld', Option.map_some, Option.map_some,
    hallows.bindings (Set.notMem_empty frame)]

/-- Leaving a frame keeps frames in agreement. -/
theorem pop (h : Agree frame scopes other) : Agree frame scopes.pop other.pop := by
  obtain ⟨bindings, hshows, hshows'⟩ := h.environment
  refine ⟨⟨bindings, hshows.pop, hshows'.pop⟩, ?_⟩
  rw [frame?_pop, frame?_pop, h.own]

end Agree

end Scopes

/-! ## Assignments alone -/

/-- An assignment whose value is known binds it. -/
private theorem exists_runWith_assign (runCall : CallRunner σ) {frame : FrameId}
    {assignment : Assignment} {u : State σ} {value : Value}
    (h : (assignment.value.evaluate settings u.scopes frame u.host).1 = .ok value) :
    ∃ u', (EvalM.assign settings frame assignment).runWith runCall u = (.ok (), u') ∧
      u'.scopes = u.scopes.bind frame assignment.name value := by
  rw [EvalM.assign, EvalM.runWith_bind]
  simp only [EvalM.evaluate, EvalM.observe, EvalM.runWith, Step.apply]
  rcases hvalue : assignment.value.evaluate settings u.scopes frame u.host with ⟨result, host⟩
  rw [hvalue] at h
  cases h
  exact ⟨_, rfl, rfl⟩

/-- If the statements of a block succeed, its assignments succeed alone, and bind the same. -/
theorem exists_bindAll_of_runBody (hpure : settings.functions.IsPure) (runCall : CallRunner σ)
    {start : Scopes} {budget : Nat} {context : List Selector} {frame : FrameId} {site : Site}
    {index : Nat} {out out' : Collected} {nodes : List Node} {m : Moment σ} {t u : State σ}
    (hm : (Discipline.homed settings start).holds m) (hframe : frame < m.state.scopes.next)
    (hbudget : settings.limit < m.state.callDepth + budget)
    (hagree : Scopes.Agree frame m.state.scopes u.scopes)
    (h : (runBody settings context frame site index out nodes).runWith
      (callRunner settings budget) m.state = (.ok out', t)) :
    ∃ u', (bindAll settings frame nodes).runWith runCall u = (.ok (), u') ∧
      Scopes.Agree frame t.scopes u'.scopes := by
  induction nodes generalizing m u index out with
  | nil =>
    rw [runBody] at h
    cases h
    exact ⟨u, rfl, hagree⟩
  | cons node rest ih =>
    rw [runBody] at h
    obtain ⟨out₁, s₁, hnode, hrest⟩ := EvalM.exists_of_runWith_bind h
    -- whatever the statement is, the block can go on after it
    have hkeeps := Discipline.runNode context frame (index :: site) out node [] hm rfl hframe
    obtain ⟨past, hm₁, hconf, -⟩ := Discipline.meets_runWith hbudget hkeeps hnode
    have hframe₁ : frame < s₁.scopes.next := Nat.lt_of_lt_of_le hframe hconf.scopes.next_le
    have hbudget₁ : settings.limit < s₁.callDepth + budget := by
      rw [show s₁.callDepth = m.state.callDepth from hconf.callDepth]
      exact hbudget
    -- only an assignment changes the variables, so after any other statement the frames still agree
    have hother : (∀ assignment, node ≠ .assignment assignment) →
        Scopes.Agree frame s₁.scopes u.scopes := by
      intro hnot
      have hkeeps' := Discipline.runNode_of_ne_assignment context frame (index :: site) out hnot []
        hm rfl hframe
      obtain ⟨_, -, hconf', -⟩ := Discipline.meets_runWith hbudget hkeeps' hnode
      exact hagree.later hm₁.2.2.rooted hconf'.scopes
    cases node with
    | assignment assignment =>
      -- the value is the same on both sides, since the frames agree on all variables
      simp only [runNode] at hnode
      obtain ⟨_, s₁', hassign, hreturn⟩ := EvalM.exists_of_runWith_bind hnode
      cases hreturn
      obtain ⟨value, hvalue, hscopes⟩ := exists_of_runWith_assign hassign
      rw [Expression.evaluate_pure hpure hagree.value?_eq _ _ u.host] at hvalue
      obtain ⟨u₁, hassign₁, hscopes₁⟩ := exists_runWith_assign runCall hvalue
      have hagree₁ : Scopes.Agree frame s₁.scopes u₁.scopes := by
        rw [hscopes, hscopes₁]
        exact hagree.bind assignment.name value
      obtain ⟨u', hrun, hagree'⟩ := ih (m := ⟨s₁, past⟩) hm₁ hframe₁ hbudget₁ hagree₁ hrest
      refine ⟨u', ?_, hagree'⟩
      rw [bindAll, EvalM.runWith_bind, hassign₁]
      exact hrun
    | ruleset | mixin | call | declaration =>
      -- other statements bind nothing
      exact ih (m := ⟨s₁, past⟩) hm₁ hframe₁ hbudget₁ (hother (by simp)) hrest

/-! ## Whole rulesets -/

/-- A ruleset as it is called. -/
def Ruleset.closure (ruleset : Ruleset) (site : Site) (home : FrameId) : Closure where
  site := site
  definition := .ruleset ruleset
  home := home

/-- Whatever is entered from a state in which homes are in order, they are in order there. -/
private theorem State.homed_opening {s : State σ} (h : s.scopes.Homed s.scopes) (space : Closure)
    (hhome : space.home < s.scopes.next) :
    (s.opening space).scopes.Homed (s.opening space).scopes := by
  have hnext : s.scopes.next < (s.scopes.push space.home).next := by simp
  exact ((h.push hhome).hoist (Nat.le_refl _) hnext space.site space.definition.body).rebase

namespace Scopes.Opened

variable {scopes : Scopes} {space : Closure} {frame : FrameId}

/-- A frame that was opened for a namespace has its home as a parent and its definitions. -/
private theorem exists_frame (h : scopes.Opened space frame) :
    ∃ held, scopes.frame? frame = some held ∧ held.parent = some space.home ∧
      held.closures = closuresOf frame space.site space.definition.body := by
  obtain ⟨held, hheld⟩ := (exists_frame?_iff scopes frame).2 h.lt_next
  refine ⟨held, hheld, ?_, ?_⟩
  · have hparent := h.parent
    rw [parent?, hheld] at hparent
    exact hparent
  · rw [← h.closures, closuresIn_of_frame? hheld]

/-- The frame has made itself all that it holds. -/
private theorem ownClosures_eq (h : scopes.Opened space frame) :
    scopes.ownClosures frame = closuresOf frame space.site space.definition.body := by
  rw [ownClosures, h.closures, List.filter_eq_self]
  intro closure hmem
  rw [home_of_mem_closuresOf hmem, beq_self_eq_true]

end Scopes.Opened

/-- What running a ruleset leaves of its frame, and what entering it leaves. -/
private theorem agree_of_run_runRuleset (hpure : settings.functions.IsPure) {site : Site}
    {ruleset : Ruleset} {context : List Selector} {parent : FrameId} {rules : List FlatRule}
    {s t : State σ} (hdepth : s.callDepth ≤ settings.limit) (hhomed : s.scopes.Homed s.scopes)
    (hparent : parent < s.scopes.next)
    (h : (runRuleset settings site ruleset context parent).run settings s = (.ok rules, t)) :
    ∃ u, (openNamespace settings (ruleset.closure site parent)).run settings s =
        (.ok s.scopes.next, u) ∧
      Scopes.Agree s.scopes.next t.scopes u.scopes ∧
      t.scopes.parent? s.scopes.next = some parent ∧
      t.scopes.ownClosures s.scopes.next =
        Scopes.closuresOf s.scopes.next site ruleset.body := by
  rw [EvalM.run, runRuleset] at h
  obtain ⟨out, s₁, t', hbody, hscopes₁, hdepth₁, hscopes, -⟩ := exists_of_runWith_runRulesetWith h
  -- the statements run in the frame in which the variables would be bound
  have hopening : s₁.scopes = (s.opening (ruleset.closure site parent)).scopes := hscopes₁
  have hopened : s₁.scopes.Opened (ruleset.closure site parent) s.scopes.next := by
    rw [hopening]
    exact s.opened_opening _
  have hhomed₁ : s₁.scopes.Homed s₁.scopes := by
    rw [hopening]
    exact State.homed_opening hhomed _ hparent
  have hactive₁ : s₁.scopes.active ≠ [] := by
    rw [hopening]
    exact List.cons_ne_nil _ _
  have hm₁ : (Discipline.homed settings s₁.scopes).holds ⟨s₁, []⟩ :=
    ⟨hdepth₁.trans_le hdepth, hactive₁, hhomed₁⟩
  have hbudget := limit_lt_budget settings (Nat.le_of_eq hdepth₁.symm)
  -- the assignments alone bind the same, starting from the same frames
  have hagree₁ : Scopes.Agree s.scopes.next s₁.scopes
      (s.opening (ruleset.closure site parent)).scopes := by
    rw [← hopening]
    exact .refl hhomed₁.rooted hopened.lt_next
  obtain ⟨u', hbind, hagree⟩ := exists_bindAll_of_runBody hpure
    (callRunner settings (budget settings s)) (m := ⟨s₁, []⟩) hm₁ hopened.lt_next hbudget hagree₁
    hbody
  have hrun : (openNamespace settings (ruleset.closure site parent)).run settings s =
      (.ok s.scopes.next, u'.mapScopes Scopes.pop) := by
    have hbind' : (bindAll settings s.scopes.next
        (ruleset.closure site parent).definition.body).runWith _ _ = _ := hbind
    rw [EvalM.run, runWith_openNamespace, hbind']
    rfl
  -- the statements keep the parent of the frame and the definitions that it made itself
  have hkeeps := Discipline.runBody (m := ⟨s₁, []⟩) (Selector.nestAll context ruleset.selectors)
    s.scopes.next site 0 {} ruleset.body hm₁ rfl hopened.lt_next
  obtain ⟨past, hm₂, hconf, -⟩ := Discipline.meets_runWith hbudget hkeeps hbody
  refine ⟨_, hrun, ?_, ?_, ?_⟩
  · rw [hscopes]
    exact hagree.pop
  · rw [hscopes, Scopes.parent?, Scopes.frame?_pop]
    exact (hconf.scopes.parent?_eq hopened.lt_next).trans hopened.parent
  · rw [hscopes, Scopes.ownClosures, Scopes.closuresIn_pop]
    exact (hm₂.2.2.own _ hopened.lt_next).trans hopened.ownClosures_eq

/-- If running a ruleset succeeds in a state that a run comes to, so does entering it as a namespace
from the same state. Both make the same frame, in the same parent and with the same bindings.
Entered as a namespace, the ruleset has those of the definitions that have their home in the frame;
what calls have exported to it is missing. -/
theorem namespace_agrees_with_ruleset (settings : Settings σ) (sheet : Stylesheet) (natives : σ)
    (n : Nat) (site : Site) (ruleset : Ruleset) (context : List Selector) (parent : FrameId)
    (rules : List FlatRule) (t : State σ) (hpure : settings.functions.IsPure)
    (hparent : parent < (sheet.stateAt settings natives n).scopes.next)
    (h : (runRuleset settings site ruleset context parent).run settings
      (sheet.stateAt settings natives n) = (.ok rules, t)) :
    let s := sheet.stateAt settings natives n
    ∃ u ran entered,
      (openNamespace settings (ruleset.closure site parent)).run settings s =
        (.ok s.scopes.next, u) ∧
      t.scopes.frame? s.scopes.next = some ran ∧
      u.scopes.frame? s.scopes.next = some entered ∧
      ran.parent = some parent ∧ entered.parent = some parent ∧
      entered.bindings = ran.bindings ∧
      entered.closures = ran.closures.filter (·.home == s.scopes.next) := by
  have harena := arena_momentAt settings sheet natives n
  have hdepth := (balanced_momentAt settings sheet natives n).1
  obtain ⟨u, hrun, hagree, hparent', hown⟩ :=
    agree_of_run_runRuleset hpure hdepth harena.homed hparent h
  obtain ⟨-, hopened⟩ := opened_of_runWith_openNamespace hrun
  obtain ⟨entered, hentered, hparent'', hclosures⟩ := hopened.exists_frame
  obtain ⟨ran, hran, hran'⟩ := Option.bind_eq_some_iff.1 hparent'
  refine ⟨u, ran, entered, hrun, hran, hentered, hran', hparent'', ?_, ?_⟩
  · -- the variables are the same
    have hown := hagree.own
    rw [hran, hentered] at hown
    exact (Option.some.inj hown).symm
  · -- and the definitions are those that are at home in the namespace
    rw [Scopes.ownClosures, Scopes.closuresIn_of_frame? hran] at hown
    exact hclosures.trans hown.symm

namespace Shades

/-- A mixin with a ruleset inside. -/
def exporting : Stylesheet where
  nodes := [Sketch.mixin ".m" [] [Sketch.ruleset [".inner"] []]]

/-- A ruleset that calls the mixin between its assignments, one of which calls the function. -/
def caller : Ruleset where
  selectors := []
  body := [
    Sketch.assign "@dark" (.call "same" [Sketch.keyword "black"] default),
    .call (Sketch.call ".m" []),
    Sketch.ruleset [".own"] [],
    Sketch.assign "@copy" (Sketch.reference "@dark")]
  span := default

end Shades

/-- The mixin exports a ruleset to the namespace, which has no part in it. -/
theorem namespace_agrees_with_ruleset_exporting :
    Shades.settings.functions.IsPure ∧
    let s := Shades.exporting.stateAt Shades.settings 0 1
    Scopes.root < s.scopes.next ∧
    ∃ rules t, (runRuleset Shades.settings [1, 0] Shades.caller [] Scopes.root).run
        Shades.settings s = (.ok rules, t) ∧
      (t.scopes.closuresIn 1).map (·.site) = [[2, 1, 0], [0, 0, 0]] ∧
      ∃ u ran entered,
        (openNamespace Shades.settings (Shades.caller.closure [1, 0] Scopes.root)).run
          Shades.settings s = (.ok s.scopes.next, u) ∧
        t.scopes.frame? s.scopes.next = some ran ∧
        u.scopes.frame? s.scopes.next = some entered ∧
        ran.parent = some Scopes.root ∧ entered.parent = some Scopes.root ∧
        entered.bindings = ran.bindings ∧
        entered.closures = ran.closures.filter (·.home == s.scopes.next) :=
  ⟨Shades.isPure_functions, Nat.zero_lt_one, _, _, rfl, rfl,
    namespace_agrees_with_ruleset Shades.settings Shades.exporting 0 1 [1, 0] Shades.caller []
      Scopes.root _ _ Shades.isPure_functions Nat.zero_lt_one rfl⟩

end MixinSheet
