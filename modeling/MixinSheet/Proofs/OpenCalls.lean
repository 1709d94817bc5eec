import MixinSheet.Proofs.Arena
import MixinSheet.Proofs.Origin
import MixinSheet.Proofs.Sketch

/-!
# The open calls of a failure

The calls that a failure lists are the expansions that were in progress when it arose, the innermost
first. The failure of a call is followed inwards: from the body of a definition that the call
resolves to, to the call in there that failed, and so on until the place where the failure started.
Each step inwards is one level deeper, so the list is no longer than calls may be nested, and it is
exactly that long if the limit was the reason.

## Key results

- `Discipline.reaches_of_makes`: the machine comes to every call that a run makes
- `traced_of_callRunner`: the expansions in progress when a call fails
- `open_calls_are_expansions`: the open calls of a failed stylesheet
-/

namespace MixinSheet

open Evaluation

variable {σ α : Type}

/-! ## Reaching a call -/

/-- The machine comes to a call that a run makes if it comes to the end of the calls before it. -/
theorem EvalM.Meets.reaches_of_makes {settings : Settings σ} {contract : Contract σ}
    {budget depth : Nat}
    (hcalls : ∀ invocation m, contract.requires invocation m → m.state.callDepth = depth →
      Ends settings (runCall settings invocation) m
        (callRunner settings budget invocation m.state) (contract.ensures invocation m))
    {act : EvalM σ α} {m : Moment σ} {Q : Except Failure α → Moment σ → Prop}
    (h : act.Meets (contract.atDepth depth) m Q) {invocation : Invocation} {t : State σ}
    (hmakes : act.Makes (callRunner settings budget) m.state invocation t) :
    ∃ past next, Config.Reaches settings ⟨act, m⟩ ⟨.call invocation next, ⟨t, past⟩⟩ ∧
      contract.requires invocation ⟨t, past⟩ ∧ t.callDepth = depth := by
  -- the invocation is reached step by step; calls before it run to their end on the way
  induction act generalizing m with
  | done outcome => cases hmakes
  | step first next ih =>
    cases hmakes with
    | step hlater =>
      obtain ⟨past, rest, hreach, hreq⟩ := ih _ h.2 hlater
      exact ⟨past, rest, .trans (.next _) hreach, hreq⟩
  | call earlier next ih =>
    -- the call is the one asked for, or it ends before that one is made
    cases hmakes with
    | here => exact ⟨m.past, next, .refl _, h.2.1⟩
    | later hlater =>
      obtain ⟨past, hreach, hens⟩ := hcalls earlier m h.2.1.1 h.2.1.2
      obtain ⟨past', rest, hreach', hreq⟩ := ih _ (h.2.2 _ _ hens) hlater
      exact ⟨past', rest, .trans (.next _) (.trans (hreach.followedBy next) hreach'), hreq⟩

/-- The machine comes to every call that a run makes, if the budget reaches beyond the limit. -/
theorem Discipline.reaches_of_makes {settings : Settings σ} (D : Discipline settings)
    {budget depth : Nat} (hbudget : settings.limit < depth + budget) {act : EvalM σ α}
    {m : Moment σ} {Q : Except Failure α → Moment σ → Prop}
    (h : act.Meets (D.contract.atDepth depth) m Q) {invocation : Invocation} {t : State σ}
    (hmakes : act.Makes (callRunner settings budget) m.state invocation t) :
    ∃ past next, Config.Reaches settings ⟨act, m⟩ ⟨.call invocation next, ⟨t, past⟩⟩ ∧
      D.contract.requires invocation ⟨t, past⟩ ∧ t.callDepth = depth :=
  EvalM.Meets.reaches_of_makes (EvalM.ends_runCall D.calls_depth_le D.calls_meet hbudget) h hmakes

/-! ## Expansions in progress -/

/-- A definition that is being expanded: the call, the moment at which it was made, and one of the
definitions that it resolves to. -/
structure OpenExpansion (σ : Type) where
  invocation : Invocation
  moment : Moment σ
  closure : Closure

namespace OpenExpansion

/-- How a failure lists the call. -/
def openCall (expansion : OpenExpansion σ) : OpenCall where
  text := expansion.invocation.call.text
  span := expansion.invocation.call.span

/-- Evaluated and resolved when it was made, the call finds the definition. -/
def Resolved (settings : Settings σ) (expansion : OpenExpansion σ) : Prop :=
  ∃ args closures s₁ s₂,
    (EvalM.evaluateAll settings expansion.invocation.frame expansion.invocation.call.args).run
      settings expansion.moment.state = (.ok args, s₁) ∧
    (Resolution.targets settings expansion.invocation.call args expansion.invocation.frame).run
      settings s₁ = (.ok closures, s₂) ∧
    expansion.closure ∈ closures

/-- The run that starts in `c` comes to the call, with so many calls open around it. -/
def MadeBy (settings : Settings σ) (c : Config σ α) (depth : Nat) (expansion : OpenExpansion σ) :
    Prop :=
  (∃ next, c.Reaches settings ⟨.call expansion.invocation next, expansion.moment⟩) ∧
    expansion.moment.state.callDepth = depth

/-- The outer call, run by itself, comes to the inner one, which stands in the body of the definition
that the outer one expands, at most inside rulesets. -/
structure Within (settings : Settings σ) (inner outer : OpenExpansion σ) : Prop where
  made : inner.MadeBy settings ⟨runCall settings outer.invocation, outer.moment⟩
    (outer.moment.state.callDepth + 1)
  runs : Node.Runs outer.closure.definition.body inner.invocation.call

end OpenExpansion

/-- The call is a statement of some block of the stylesheet. -/
def Stylesheet.HasCall (sheet : Stylesheet) (call : Call) : Prop :=
  ∃ block, sheet.HasBlock block ∧ .call call ∈ block.body

/-- Every node of a list has a site in it. -/
private theorem Node.exists_mem_located {node : Node} {nodes : List Node} (h : node ∈ nodes)
    (site : Site) (index : Nat) : ∃ site', (site', node) ∈ located site index nodes := by
  induction nodes generalizing index with
  | nil => exact absurd h List.not_mem_nil
  | cons first rest ih =>
    rcases List.mem_cons.1 h with rfl | hrest
    · exact ⟨index :: site, List.mem_cons_self⟩
    · obtain ⟨site', hsite'⟩ := ih hrest (index + 1)
      exact ⟨site', .tail _ hsite'⟩

/-- The calls that a block runs are calls of the stylesheet. -/
private theorem Stylesheet.HasBlock.hasCall {sheet : Stylesheet} {site : Site} {nodes : List Node}
    {call : Call} (h : sheet.HasBlock { site, body := nodes }) (hruns : Node.Runs nodes call) :
    sheet.HasCall call := by
  induction hruns generalizing site with
  | call hmem => exact ⟨_, h, hmem⟩
  | ruleset hmem _ ih =>
    obtain ⟨site', hsite'⟩ := Node.exists_mem_located hmem site 0
    exact ih (h.inner (Node.mem_definitionsFrom_iff.2 ⟨_, hsite', rfl⟩))

/-! ## Following a failure inwards -/

/-- The expansions that were in progress, from the calls in a failure: they lie `depth` levels
deep. -/
structure Traced (settings : Settings σ) (sheet : Stylesheet) (depth : Nat) (failure : Failure)
    (chain : List (OpenExpansion σ)) : Prop where
  openCalls : failure.openCalls = chain.map OpenExpansion.openCall
  entries : ∀ expansion ∈ chain,
    sheet.HasCall expansion.invocation.call ∧ expansion.Resolved settings
  nested : chain.IsChain (OpenExpansion.Within settings)
  length_le : chain.length + depth ≤ settings.limit
  limit : ∀ path limit, failure.fault = .recursionLimit path limit →
    limit = settings.options.maxCallDepth ∧ chain.length + depth = settings.limit

namespace Traced

variable {settings : Settings σ} {sheet : Stylesheet} {depth : Nat} {failure : Failure}

/-- A failure that starts here has no open calls, and its reason is not the limit. -/
private theorem of_raised (h : failure.Raised settings) (hdepth : depth ≤ settings.limit) :
    Traced settings sheet depth failure [] where
  openCalls := h.openCalls
  entries := by simp
  nested := .nil
  length_le := by simpa using hdepth
  limit path limit hfault := by
    have harises := h.fault
    rw [hfault] at harises
    exact harises.elim

/-- A call is refused where calls are nested as deeply as they may be. -/
private theorem of_limit (call : Call) (hdepth : depth = settings.limit) :
    Traced settings sheet depth (EvalM.limitFailure settings call) [] where
  openCalls := rfl
  entries := by simp
  nested := .nil
  length_le := by simp [hdepth]
  limit path limit hfault := by
    cases hfault
    exact ⟨rfl, by simp [hdepth]⟩

/-- One step outwards. -/
theorem through {chain : List (OpenExpansion σ)} {outer : OpenExpansion σ}
    (h : Traced settings sheet (depth + 1) failure chain)
    (hcall : sheet.HasCall outer.invocation.call) (hresolved : outer.Resolved settings)
    (hwithin : ∀ inner ∈ chain.getLast?, inner.Within settings outer) :
    Traced settings sheet depth (failure.through outer.openCall) (chain ++ [outer]) where
  openCalls := by simp [Failure.through, h.openCalls]
  -- the inner calls were traced before, and the outer one is new
  entries expansion hmem := by
    rcases List.mem_append.1 hmem with hinner | houter
    · exact h.entries expansion hinner
    · rw [List.mem_singleton.1 houter]
      exact ⟨hcall, hresolved⟩
  -- the outermost of the inner calls was made while the outer one was expanded
  nested := by
    refine List.isChain_append.2 ⟨h.nested, .singleton outer, ?_⟩
    intro inner hinner other hother
    obtain rfl : outer = other := by simpa using hother
    exact hwithin inner hinner
  -- each call that is open takes one level
  length_le := by
    have hle := h.length_le
    simp only [List.length_append, List.length_singleton]
    omega
  limit path limit hfault := by
    obtain ⟨hlimit, hlength⟩ := h.limit path limit hfault
    refine ⟨hlimit, ?_⟩
    simp only [List.length_append, List.length_singleton]
    omega

end Traced

section Calls

variable {settings : Settings σ} {sheet : Stylesheet} {m : Moment σ} {budget : Nat}

/-- Arguments and targets do not depend on the budget that is left for calls, and finding them does
not change how deep the run is. The definitions that are found stand in the stylesheet. -/
private theorem resolved_of_runWith {invocation : Invocation} {args : List Value}
    {closures : List Closure} {s₁ s₂ : State σ} (hm : (Discipline.arena settings sheet).holds m)
    (hbudget : settings.limit < m.state.callDepth + 1 + budget)
    (hargs : (EvalM.evaluateAll settings invocation.frame invocation.call.args).runWith
      (callRunner settings budget) m.state = (.ok args, s₁))
    (htargets : (Resolution.targets settings invocation.call args invocation.frame).runWith
      (callRunner settings budget) s₁ = (.ok closures, s₂)) :
    s₂.callDepth = m.state.callDepth ∧ ∀ closure ∈ closures,
      sheet.Defines closure.site closure.definition ∧
      OpenExpansion.Resolved settings { invocation, moment := m, closure } := by
  -- evaluating arguments makes no calls
  have hargs' : (EvalM.evaluateAll settings invocation.frame invocation.call.args).run settings
      m.state = (.ok args, s₁) := hargs
  obtain ⟨past₁, -, hm₁, hrehosts, -⟩ := Discipline.ends_run (Nat.le_refl _)
    (Discipline.evaluateAll hm invocation.frame invocation.call.args)
  rw [hargs'] at hm₁ hrehosts
  have hdepth₁ : s₁.callDepth = m.state.callDepth := hrehosts.callDepth
  have hmeets : (Resolution.targets settings invocation.call args invocation.frame).Meets
      ((Discipline.arena settings sheet).contract.atDepth (m.state.callDepth + 1)) ⟨s₁, past₁⟩ _ :=
    Discipline.targets hm₁ invocation.call args invocation.frame
  have hle : s₁.callDepth ≤ m.state.callDepth + 1 := by omega
  have htargets' := htargets
  rw [Discipline.runWith_eq_run (m := ⟨s₁, past₁⟩) hle hbudget hmeets] at htargets'
  obtain ⟨past₂, -, hm₂, hconf, hfound⟩ := Discipline.ends_run (m := ⟨s₁, past₁⟩) hle hmeets
  rw [htargets'] at hconf hfound
  have hdepth₂ : s₂.callDepth = s₁.callDepth := hconf.callDepth
  refine ⟨hdepth₂.trans hdepth₁, fun closure hmem => ⟨(hfound closures rfl closure hmem).2, ?_⟩⟩
  exact ⟨args, closures, s₁, s₂, hargs', htargets', hmem⟩

/-- When a call fails, a chain of expansions leads from it to where the failure started. By
induction on the budget, which the depth of the call keeps from being used up. -/
theorem traced_of_callRunner {invocation : Invocation} {failure : Failure} {t : State σ}
    (hreq : (Discipline.arena settings sheet).contract.requires invocation m)
    (hcall : sheet.HasCall invocation.call)
    (hbudget : settings.limit < m.state.callDepth + budget)
    (h : callRunner settings budget invocation m.state = (.error failure, t)) :
    ∃ chain, Traced settings sheet m.state.callDepth failure chain ∧
      ∀ expansion ∈ chain.getLast?, expansion.invocation = invocation ∧ expansion.moment = m := by
  have hdepth : m.state.callDepth ≤ settings.limit := Discipline.calls_depth_le _ invocation m hreq
  induction budget generalizing invocation m failure t with
  | zero =>
    -- no call stands deeper than the limit, and the budget reaches beyond it
    omega
  | succ budget ih =>
    have hbudget' : settings.limit < m.state.callDepth + 1 + budget := by omega
    rcases origin_of_runCall h with hraised | ⟨args, closures, s₁, s₂, hargs, htargets, hrest⟩
    · exact ⟨[], .of_raised hraised hdepth, by simp⟩
    obtain ⟨hdepth₂, hresolved⟩ := resolved_of_runWith hreq.1 hbudget' hargs htargets
    rcases hrest with ⟨hlimit, rfl⟩ | ⟨hlimit, closure, hmem, inner, rfl, horigin⟩
    · -- the call is refused: as many calls are open as may be
      have hequal : m.state.callDepth = settings.limit := by omega
      exact ⟨[], .of_limit invocation.call hequal, by simp⟩
    obtain ⟨hdefines, hresolved⟩ := hresolved closure hmem
    have hlevel : m.state.callDepth + 1 ≤ settings.limit := by omega
    let outer : OpenExpansion σ := { invocation, moment := m, closure }
    cases horigin with
    | raised hraised =>
      -- the failure starts in the body itself
      have htraced : Traced settings sheet (m.state.callDepth + 1) inner [] :=
        .of_raised hraised hlevel
      exact ⟨[] ++ [outer], htraced.through hcall hresolved (by simp), by simp [outer]⟩
    | @call invocation' s' t' hruns hmakes hfails =>
      -- a call in the body has failed, one level deeper
      obtain ⟨past, next, hreach, hreq', hdepth'⟩ := Discipline.reaches_of_makes _ hbudget'
        (Discipline.calls_meet _ invocation m hreq) hmakes
      have hbudget'' : settings.limit < s'.callDepth + budget := by omega
      have hdepth'' : s'.callDepth ≤ settings.limit := by omega
      obtain ⟨chain, htraced, hlast⟩ := ih (m := ⟨s', past⟩) hreq' (hdefines.hasBlock.hasCall hruns)
        hbudget'' hfails hdepth''
      have htraced' : Traced settings sheet (m.state.callDepth + 1) inner chain := by
        rw [← hdepth']
        exact htraced
      refine ⟨chain ++ [outer], htraced'.through hcall hresolved ?_, by simp [outer]⟩
      intro expansion hexpansion
      obtain ⟨hinvocation, hmoment⟩ := hlast expansion hexpansion
      refine ⟨⟨⟨next, ?_⟩, ?_⟩, ?_⟩
      · rw [hinvocation, hmoment]
        exact hreach
      · rw [hmoment]
        exact hdepth'
      · rw [hinvocation]
        exact hruns

end Calls

/-- The run of a stylesheet keeps the discipline of frames and their definitions. -/
private theorem Stylesheet.arena_runSheet (sheet : Stylesheet) (settings : Settings σ)
    (natives : σ) :
    (Discipline.arena settings sheet).Keeps 0 (runSheet settings sheet)
      (Moment.Confined (.only Scopes.root)) (fun _ _ => True)
      (sheet.start settings natives).moment := by
  obtain ⟨harena, hfresh⟩ := sheet.arena_start settings natives
  refine Discipline.runSheet sheet ⟨Nat.zero_le _, harena⟩ hfresh ?_
  exact ⟨(harena.hoist hfresh).rooted.root_lt, Stylesheet.HasBlock.outermost.places⟩

/-- If a stylesheet fails, no more calls are open than may be nested, and exactly so many if there
were too many. The open calls are calls of the stylesheet, and there is a definition for each of
them, one of those that the call was resolved to, such that every call but the last was made during
the call after it and stands in the body of that call's definition, at most inside rulesets. The last
one was made outside of all calls and stands at the top of the stylesheet, at most inside
rulesets. -/
theorem open_calls_are_expansions {settings : Settings σ} {sheet : Stylesheet} {natives : σ}
    {failure : Failure} (h : sheet.rules settings natives = .error failure) :
    failure.openCalls.length ≤ settings.limit ∧
    (∀ path limit, failure.fault = .recursionLimit path limit →
      limit = settings.options.maxCallDepth ∧ failure.openCalls.length = settings.limit) ∧
    ∃ chain : List (OpenExpansion σ),
      failure.openCalls = chain.map OpenExpansion.openCall ∧
      (∀ expansion ∈ chain,
        sheet.HasCall expansion.invocation.call ∧ expansion.Resolved settings) ∧
      chain.IsChain (OpenExpansion.Within settings) ∧
      ∀ expansion ∈ chain.getLast?,
        expansion.MadeBy settings (sheet.start settings natives) 0 ∧
        Node.Runs sheet.nodes expansion.invocation.call := by
  -- the trace of the failure has everything that is asked for
  suffices htrace : ∃ chain, Traced settings sheet 0 failure chain ∧
      ∀ expansion ∈ chain.getLast?,
        expansion.MadeBy settings (sheet.start settings natives) 0 ∧
        Node.Runs sheet.nodes expansion.invocation.call by
    obtain ⟨chain, htraced, hlast⟩ := htrace
    have hlength : failure.openCalls.length = chain.length := by simp [htraced.openCalls]
    refine ⟨hlength ▸ htraced.length_le, fun path limit hfault => ?_,
      chain, htraced.openCalls, htraced.entries, htraced.nested, hlast⟩
    rw [hlength]
    exact htraced.limit path limit hfault
  have hfails : (runSheet settings sheet).run settings (.initial natives) =
      (.error failure, (sheet.run settings natives).2) := Prod.ext h rfl
  -- the failure was raised outside of all calls, or by a call of the sheet
  cases accounts_runSheet sheet _ failure _ hfails with
  | raised hraised => exact ⟨[], .of_raised hraised (Nat.zero_le _), by simp⟩
  | @call invocation s' t hruns hmakes hcall =>
    have hbudget : settings.limit < 0 + budget settings (State.initial natives) := by
      simp only [budget, State.initial]
      omega
    -- that call is reached by a run of the sheet, at the level of no open calls
    obtain ⟨past, next, hreach, hreq, hdepth⟩ := Discipline.reaches_of_makes _ hbudget
      (sheet.arena_runSheet settings natives) hmakes
    obtain ⟨chain, htraced, hlast⟩ := traced_of_callRunner (m := ⟨s', past⟩) hreq
      (Stylesheet.HasBlock.outermost.hasCall hruns) (by omega) hcall
    refine ⟨chain, hdepth ▸ htraced, fun expansion hexpansion => ?_⟩
    obtain ⟨hinvocation, hmoment⟩ := hlast expansion hexpansion
    rw [OpenExpansion.MadeBy, hinvocation, hmoment]
    exact ⟨⟨⟨next, hreach⟩, hdepth⟩, hruns⟩

namespace Descent

/-- Two mixins that call each other, one of them inside a ruleset. -/
def sheet : Stylesheet where
  nodes := [
    Sketch.mixin ".down" [] [Sketch.ruleset ["a"] [.call (Sketch.call ".up" [])]],
    Sketch.mixin ".up" [] [.call (Sketch.call ".down" [])],
    Sketch.ruleset [".menu"] [.call (Sketch.call ".down" [])]]

/-- If two calls may be nested, the third one is one too many. -/
def failure : Failure where
  fault := .recursionLimit ".down" 2
  text := ".down()"
  span := default
  openCalls := [{ text := ".up()", span := default }, { text := ".down()", span := default }]

end Descent

/-- The limit of two calls is reached in the third one, inside the two mixins that call each other.
-/
theorem open_calls_are_expansions_descent :
    Descent.sheet.rules (Sketch.settings 2) () = .error Descent.failure ∧
    Descent.failure.openCalls.length = (Sketch.settings 2).limit ∧
    ∃ chain : List (OpenExpansion Unit),
      Descent.failure.openCalls = chain.map OpenExpansion.openCall ∧
      chain.IsChain (OpenExpansion.Within (Sketch.settings 2)) := by
  have hfails : Descent.sheet.rules (Sketch.settings 2) () = .error Descent.failure := rfl
  obtain ⟨-, hlimit, chain, hopen, -, hnested, -⟩ := open_calls_are_expansions hfails
  exact ⟨hfails, (hlimit _ 2 rfl).2, chain, hopen, hnested⟩

end MixinSheet
