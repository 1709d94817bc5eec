import MixinSheet.Proofs.Confinement
import MixinSheet.Proofs.Homes
import MixinSheet.Proofs.Lists
import MixinSheet.Proofs.Sketch

/-!
# What calls export

When the body of a definition has been run, the definitions that its frame holds are put among those
of the caller, one after the other: in place of an export of the same node, or else at the end. The
body may hold a node twice, as a definition that it made itself and as an export of a call inside
it. The effect of the whole chain can be told without following it: an export of the caller is
replaced by the last definition of its node in the body, if there is one, and the nodes that are new
are added with the last definition of each, in the order in which they first come.

## Key results

- `Scopes.place_eq`: where no node is twice, one export replaces all of its node or goes to the end
- `Scopes.Foreign.foldl_place_eq`: what a chain of exports gives
- `Scopes.Foreign.foldl_place_idem`: the same chain once more gives the same
- `exports_of_expansion`: what a successful expansion has exported to its caller
-/

namespace MixinSheet

open Evaluation

variable {σ : Type}

namespace Scopes

/-! ## The last definition of a node -/

/-- The last definition of a node in a list. -/
def lastAt (closures : List Closure) (site : Site) : Option Closure :=
  (closures.filter (·.site == site)).getLast?

/-- One more definition at the end is the last one of its node. -/
private theorem lastAt_concat (closures : List Closure) (closure : Closure) (site : Site) :
    lastAt (closures ++ [closure]) site =
      if closure.site = site then some closure else lastAt closures site := by
  by_cases h : closure.site = site <;> simp [lastAt, h]

/-- Only nodes without a definition have no last one. -/
private theorem lastAt_eq_none_iff {closures : List Closure} {site : Site} :
    lastAt closures site = none ↔ site ∉ closures.map (·.site) := by
  simp [lastAt]

/-- The last definition of a node is one of this node. -/
private theorem site_of_lastAt {closures : List Closure} {site : Site} {last : Closure}
    (h : lastAt closures site = some last) : last.site = site := by
  have hmem := List.mem_of_getLast? h
  simpa using (List.mem_filter.1 hmem).2

/-- Exactly the nodes with a definition have a last one. -/
private theorem exists_lastAt_iff {closures : List Closure} {site : Site} :
    (∃ last, lastAt closures site = some last) ↔ site ∈ closures.map (·.site) := by
  rw [← Option.isSome_iff_exists, Option.isSome_iff_ne_none, ne_eq, lastAt_eq_none_iff, not_not]

/-- The definition that takes the place of an export: the last one of its node, if there is any. -/
def renewed (exported : List Closure) (existing : Closure) : Closure :=
  (lastAt exported existing.site).getD existing

/-- A definition is renewed by one of the same node. -/
@[simp] theorem site_renewed (exported : List Closure) (existing : Closure) :
    (renewed exported existing).site = existing.site := by
  rw [renewed]
  cases h : lastAt exported existing.site with
  | none => rfl
  | some last => exact site_of_lastAt h

/-! ## Nodes that are new to a frame -/

/-- The nodes that are not among earlier exports, in the order in which they are first exported. -/
def newSites (exported foreign : List Closure) : List Site :=
  (exported.map (·.site)).eraseDups.filter (· ∉ foreign.map (·.site))

/-- New are the nodes that are exported and were not known. -/
private theorem mem_newSites {exported foreign : List Closure} {site : Site} :
    site ∈ newSites exported foreign ↔
      site ∈ exported.map (·.site) ∧ site ∉ foreign.map (·.site) := by
  simp [newSites]

/-- A list with one more element at the end has that element last, if it is new. -/
private theorem eraseDups_concat (sites : List Site) (site : Site) :
    (sites ++ [site]).eraseDups =
      if site ∈ sites then sites.eraseDups else sites.eraseDups ++ [site] := by
  rw [List.eraseDups_append]
  by_cases h : site ∈ sites
  · have hnone : [site].removeAll sites = [] := by simp [List.removeAll, h]
    rw [hnone, if_pos h, List.eraseDups_nil, List.append_nil]
  · have hall : [site].removeAll sites = [site] := by simp [List.removeAll, h]
    rw [hall, if_neg h, List.eraseDups_cons, List.filter_nil, List.eraseDups_nil]

/-- One more export is of a node that is known, or its node is new. -/
private theorem newSites_concat (exported foreign : List Closure) (closure : Closure) :
    newSites (exported ++ [closure]) foreign =
      if closure.site ∈ foreign.map (·.site) ++ newSites exported foreign then
        newSites exported foreign
      else newSites exported foreign ++ [closure.site] := by
  simp only [List.mem_append, mem_newSites]
  rw [newSites, List.map_append, List.map_singleton, eraseDups_concat, newSites]
  by_cases hexported : closure.site ∈ exported.map (·.site)
  · rw [if_pos hexported, if_pos (by tauto)]
  · by_cases hforeign : closure.site ∈ foreign.map (·.site)
    · rw [if_neg hexported, if_pos (.inl hforeign), List.filter_append,
        List.filter_singleton, decide_eq_false (not_not_intro hforeign)]
      simp
    · rw [if_neg hexported, if_neg (by tauto), List.filter_append, List.filter_singleton,
        decide_eq_true hforeign]
      simp

/-- The exports that are added at the end: the last definition of each new node. -/
def newcomers (exported foreign : List Closure) : List Closure :=
  (newSites exported foreign).filterMap (lastAt exported)

/-- The newcomers are one for each new node. -/
private theorem map_site_newcomers (exported foreign : List Closure) :
    (newcomers exported foreign).map (·.site) = newSites exported foreign := by
  rw [newcomers, List.map_filterMap, List.filterMap_congr (g := some), List.filterMap_some]
  intro site hsite
  cases h : lastAt exported site with
  | none => exact absurd (mem_newSites.1 hsite).1 (lastAt_eq_none_iff.1 h)
  | some last => exact congrArg some (site_of_lastAt h)

/-! ## Chains of exports -/

/-- Where no node is twice, a definition takes the place of the one with its site or goes to the
end. -/
theorem place_eq {id : FrameId} {foreign : List Closure}
    (hforeign : ∀ closure ∈ foreign, closure.home ≠ id) (hsites : (foreign.map (·.site)).Nodup)
    (closure : Closure) :
    place id closure foreign =
      if closure.site ∈ foreign.map (·.site) then
        foreign.map fun existing => if closure.site = existing.site then closure else existing
      else foreign ++ [closure] := by
  induction foreign with
  | nil => rfl
  | cons first rest ih =>
    obtain ⟨hfirst, hrest⟩ := List.forall_mem_cons.1 hforeign
    obtain ⟨hnew, hsites⟩ := List.nodup_cons.1 hsites
    by_cases hsite : closure.site = first.site
    · -- the nodes of the others differ, so nothing else is replaced
      have hkeep : rest.map (fun existing =>
          if closure.site = existing.site then closure else existing) = rest := by
        apply List.map_eq_self
        intro existing hmem
        have hne : closure.site ≠ existing.site := by
          intro heq
          exact hnew (List.mem_map.2 ⟨existing, hmem, heq.symm.trans hsite⟩)
        exact if_neg hne
      have hreplaced : place id closure (first :: rest) = closure :: rest := by
        simp [place, hfirst, hsite]
      rw [hreplaced, if_pos (by simp [hsite]), List.map_cons, if_pos hsite, hkeep]
    · -- the first closure is one of another node, so the export goes on to the rest
      have hsite' : first.site ≠ closure.site := fun h => hsite h.symm
      simp only [place, beq_eq_false_iff_ne.2 hsite', Bool.and_false, Bool.false_eq_true, if_false,
        ih hrest hsites, List.map_cons, List.mem_cons, hsite, false_or]
      split <;> rfl

/-- A later export renews once more. -/
private theorem renewed_concat (exported : List Closure) (closure existing : Closure) :
    renewed (exported ++ [closure]) existing =
      if closure.site = existing.site then closure else renewed exported existing := by
  rw [renewed, lastAt_concat]
  split <;> rfl

/-- A later export takes the place of an earlier one of the same node, or is a newcomer. -/
private theorem newcomers_concat (exported foreign : List Closure) (closure : Closure) :
    newcomers (exported ++ [closure]) foreign =
      if closure.site ∈ foreign.map (·.site) ++ newSites exported foreign then
        (newcomers exported foreign).map fun existing =>
          if closure.site = existing.site then closure else existing
      else newcomers exported foreign ++ [closure] := by
  -- the last export of a node that is new so far
  have hlast : ∀ site ∈ newSites exported foreign, lastAt (exported ++ [closure]) site =
      (lastAt exported site).map fun existing =>
        if closure.site = existing.site then closure else existing := by
    intro site hsite
    rw [lastAt_concat]
    cases h : lastAt exported site with
    | none => exact absurd (mem_newSites.1 hsite).1 (lastAt_eq_none_iff.1 h)
    | some last =>
      rw [Option.map_some, site_of_lastAt h]
      split <;> rfl
  rw [newcomers, newSites_concat]
  by_cases hknown : closure.site ∈ foreign.map (·.site) ++ newSites exported foreign
  · rw [if_pos hknown, if_pos hknown, newcomers, List.map_filterMap]
    exact List.filterMap_congr hlast
  · have hsame : ∀ site ∈ newSites exported foreign,
        lastAt (exported ++ [closure]) site = lastAt exported site := by
      intro site hsite
      have hne : closure.site ≠ site := by
        rintro rfl
        exact hknown (List.mem_append_right _ hsite)
      rw [lastAt_concat, if_neg hne]
    rw [if_neg hknown, if_neg hknown, List.filterMap_append, List.filterMap_congr hsame, newcomers]
    simp [lastAt_concat]

/-- Where no node is twice, a node has no definition but this one. -/
private theorem filter_site_eq_singleton {closures : List Closure}
    (hsites : (closures.map (·.site)).Nodup) {closure : Closure} (hmem : closure ∈ closures) :
    closures.filter (·.site == closure.site) = [closure] := by
  induction closures with
  | nil => exact absurd hmem List.not_mem_nil
  | cons first rest ih =>
    obtain ⟨hnew, hsites⟩ := List.nodup_cons.1 hsites
    -- the closure is the first one, and no later one has its site
    rcases List.mem_cons.1 hmem with rfl | hmem
    · have hnone : rest.filter (·.site == closure.site) = [] := by
        simpa using hnew
      rw [List.filter_cons_of_pos (by simp), hnone]
    · have hne : first.site ≠ closure.site := by
        intro heq
        exact hnew (List.mem_map.2 ⟨closure, hmem, heq.symm⟩)
      rw [List.filter_cons_of_neg (by simpa using hne), ih hsites hmem]

namespace Foreign

variable {id next : FrameId} {foreign exported : List Closure}

/-- What a chain of exports makes of earlier ones. The induction takes the last export off, as it
decides which definition of its node stays. -/
theorem foldl_place_eq (h : Foreign id next foreign)
    (hexported : ∀ closure ∈ exported, id < closure.home ∧ closure.home < next) :
    exported.foldl (fun known closure => Scopes.place id closure known) foreign =
      foreign.map (renewed exported) ++ newcomers exported foreign := by
  induction exported using List.reverseRecOn with
  | nil =>
    have hkeep : renewed [] = fun existing => existing := rfl
    simp [hkeep, newcomers, newSites]
  | append_singleton rest closure ih =>
    -- exports are placed in turn, so the last one is placed into what the others have made
    have hrest : ∀ other ∈ rest, id < other.home ∧ other.home < next := by
      intro other hmem
      exact hexported other (List.mem_append_left _ hmem)
    have hbefore := h.foldl_place hrest
    -- what stands there is known from the induction: only foreign closures, with sites of their own
    have hhomes : ∀ other ∈ foreign.map (renewed rest) ++ newcomers rest foreign,
        other.home ≠ id := by
      intro other hmem
      rw [← ih hrest] at hmem
      exact Nat.ne_of_gt (hbefore.homes other hmem).1
    have hsites : (foreign.map (renewed rest) ++ newcomers rest foreign).map (·.site) =
        foreign.map (·.site) ++ newSites rest foreign := by
      rw [List.map_append, List.map_map, map_site_newcomers]
      simp only [Function.comp_def, site_renewed]
    rw [ih hrest] at hbefore
    rw [List.foldl_concat, ih hrest, place_eq hhomes hbefore.sites, hsites, newcomers_concat]
    -- a site that is known is renewed in its place, and a new one comes last
    by_cases hknown : closure.site ∈ foreign.map (·.site) ++ newSites rest foreign
    · have hrenewed : renewed (rest ++ [closure]) =
          (fun existing => if closure.site = existing.site then closure else existing) ∘
            renewed rest := by
        funext existing
        rw [renewed_concat, Function.comp_apply, site_renewed]
      rw [if_pos hknown, if_pos hknown, List.map_append, List.map_map, hrenewed]
    · -- a new site leaves what was there as it was
      have hsame : foreign.map (renewed (rest ++ [closure])) = foreign.map (renewed rest) := by
        apply List.map_congr_left
        intro existing hmem
        have hne : closure.site ≠ existing.site := by
          intro heq
          exact hknown (List.mem_append_left _ (heq ▸ List.mem_map_of_mem hmem))
        rw [renewed_concat, if_neg hne]
      rw [if_neg hknown, if_neg hknown, hsame, List.append_assoc]

/-- The last export of each node is known then, and no other one of the node. -/
private theorem filter_foldl_place_eq (h : Foreign id next foreign)
    (hexported : ∀ closure ∈ exported, id < closure.home ∧ closure.home < next)
    {site : Site} {last : Closure} (hlast : lastAt exported site = some last) :
    (exported.foldl (fun known closure => Scopes.place id closure known) foreign).filter
      (·.site == site) = [last] := by
  -- the last closure of its site is there: in the place of an older one or as a newcomer
  have hmem : last ∈
      exported.foldl (fun known closure => Scopes.place id closure known) foreign := by
    rw [h.foldl_place_eq hexported]
    by_cases hknown : site ∈ foreign.map (·.site)
    · obtain ⟨existing, hexisting, rfl⟩ := List.mem_map.1 hknown
      have hrenewed : renewed exported existing = last := by
        rw [renewed, hlast, Option.getD_some]
      exact List.mem_append_left _ (List.mem_map.2 ⟨existing, hexisting, hrenewed⟩)
    · have hnew : site ∈ newSites exported foreign :=
        mem_newSites.2 ⟨exists_lastAt_iff.1 ⟨last, hlast⟩, hknown⟩
      exact List.mem_append_right _ (List.mem_filterMap.2 ⟨site, hnew, hlast⟩)
  rw [← site_of_lastAt hlast]
  exact filter_site_eq_singleton (h.foldl_place hexported).sites hmem

/-- The same exports once more change nothing. -/
theorem foldl_place_idem (h : Foreign id next foreign)
    (hexported : ∀ closure ∈ exported, id < closure.home ∧ closure.home < next) :
    let known := exported.foldl (fun known closure => Scopes.place id closure known) foreign
    exported.foldl (fun known closure => Scopes.place id closure known) known = known := by
  intro known
  have hknown : ∀ site last, lastAt exported site = some last →
      known.filter (·.site == site) = [last] := fun _ _ => h.filter_foldl_place_eq hexported
  have hsame : known.map (renewed exported) = known := by
    apply List.map_eq_self
    intro existing hmem
    rw [renewed]
    cases hlast : lastAt exported existing.site with
    | none => rfl
    | some last =>
      -- the only definition of its node that is known is the last one exported
      have hfilter := hknown _ last hlast
      have hexisting : existing ∈ known.filter (·.site == existing.site) :=
        List.mem_filter.2 ⟨hmem, beq_self_eq_true _⟩
      rw [hfilter] at hexisting
      exact (List.mem_singleton.1 hexisting).symm
  have hnone : newcomers exported known = [] := by
    have hsites : newSites exported known = [] := by
      apply List.eq_nil_iff_forall_not_mem.2
      intro site hsite
      obtain ⟨hexported', hnew⟩ := mem_newSites.1 hsite
      obtain ⟨last, hlast⟩ := exists_lastAt_iff.2 hexported'
      have hmem : last ∈ known.filter (·.site == site) := by
        rw [hknown site last hlast]
        exact List.mem_singleton_self last
      exact hnew (List.mem_map.2 ⟨last, (List.mem_filter.1 hmem).1, site_of_lastAt hlast⟩)
    rw [newcomers, hsites, List.filterMap_nil]
  rw [(h.foldl_place hexported).foldl_place_eq hexported, hsame, hnone, List.append_nil]

end Foreign

/-- Exports that are known already change nothing. -/
private theorem publish_eq_self {scopes : Scopes} {source target : FrameId}
    (h : (scopes.closuresIn source).foldl (fun known closure => place target closure known)
      (scopes.closuresIn target) = scopes.closuresIn target) :
    scopes.publish source target = scopes := by
  -- no frame changes: the target by the hypothesis, any other one because it is not touched
  have hframes : (scopes.publish source target).frames = scopes.frames := by
    apply Array.ext_getElem?
    intro id
    show (scopes.modify target _).frame? id = scopes.frame? id
    rw [frame?_modify]
    split
    · next hid =>
      subst hid
      cases hframe : scopes.frame? target with
      | none => rfl
      | some frame =>
        rw [closuresIn_of_frame? hframe] at h
        rw [Option.map_some, h]
    · rfl
  have hactive : (scopes.publish source target).active = scopes.active := rfl
  cases scopes with
  | mk frames active => exact congr (congrArg Scopes.mk hframes) hactive

/-- Frame `target` is about to get the definitions of the younger frame `source`. It holds the
definitions `own` that it made itself and the exports `foreign`. -/
structure Exporting (scopes : Scopes) (source target : FrameId) (own foreign : List Closure) :
    Prop where
  younger : target < source
  lt_next : target < scopes.next
  closures : scopes.closuresIn target = own ++ foreign
  home_own : ∀ closure ∈ own, closure.home = target
  foreign : Foreign target scopes.next foreign
  exported : ∀ closure ∈ scopes.closuresIn source,
    target < closure.home ∧ closure.home < scopes.next

namespace Exporting

variable {scopes : Scopes} {source target : FrameId} {own foreign : List Closure}

/-- What the frame made itself is passed over, so exports are put among exports only. -/
private theorem closuresIn_publish (h : scopes.Exporting source target own foreign) :
    (scopes.publish source target).closuresIn target = own ++
      (scopes.closuresIn source).foldl (fun known closure => place target closure known)
        foreign := by
  rw [closuresIn_publish_self h.lt_next, h.closures, foldl_place_append h.home_own]

/-- What the frame did not make itself are its exports. -/
private theorem filter_closures (h : scopes.Exporting source target own foreign) :
    (scopes.closuresIn target).filter (·.home != target) = foreign := by
  have hown : own.filter (·.home != target) = [] := by
    simpa using h.home_own
  have hforeign : foreign.filter (·.home != target) = foreign := by
    apply List.filter_eq_self.2
    intro closure hmem
    exact bne_iff_ne.2 (Nat.ne_of_gt (h.foreign.homes closure hmem).1)
  rw [h.closures, List.filter_append, hown, hforeign, List.nil_append]

/-- Of every exported node, the frame gets one definition that it did not make itself: the last one
exported. -/
private theorem filter_publish (h : scopes.Exporting source target own foreign) {site : Site}
    {last : Closure} (hlast : lastAt (scopes.closuresIn source) site = some last) :
    ((scopes.publish source target).closuresIn target).filter
      (fun closure => closure.home != target && closure.site == site) = [last] := by
  have hfilter := h.foreign.filter_foldl_place_eq h.exported hlast
  have hafter := h.foreign.foldl_place h.exported
  -- own definitions are not exported into the frame that has them
  have hown : own.filter (fun closure => closure.home != target && closure.site == site) = [] := by
    apply List.filter_eq_nil_iff.2
    intro closure hmem
    simp [h.home_own closure hmem]
  rw [h.closuresIn_publish, List.filter_append, hown, List.nil_append, ← hfilter]
  -- all others are foreign, so the filter asks for the site only
  apply List.filter_congr
  intro closure hmem
  have hne : (closure.home != target) = true :=
    bne_iff_ne.2 (Nat.ne_of_gt (hafter.homes closure hmem).1)
  rw [hne, Bool.true_and]

/-- The definitions of the frame afterwards. -/
private theorem closuresIn_publish_eq (h : scopes.Exporting source target own foreign) :
    let exported := scopes.closuresIn source
    let before := scopes.closuresIn target
    (scopes.publish source target).closuresIn target =
      before.map (fun existing =>
        if existing.home = target then existing else renewed exported existing) ++
      newcomers exported (before.filter (·.home != target)) := by
  intro exported before
  -- own definitions stay as they are
  have hown : own.map (fun existing =>
      if existing.home = target then existing else renewed exported existing) = own := by
    apply List.map_eq_self
    intro existing hmem
    exact if_pos (h.home_own existing hmem)
  -- and foreign ones are renewed
  have hforeign : foreign.map (fun existing =>
      if existing.home = target then existing else renewed exported existing) =
      foreign.map (renewed exported) := by
    apply List.map_congr_left
    intro existing hmem
    rw [if_neg (Nat.ne_of_gt (h.foreign.homes existing hmem).1)]
  rw [h.closuresIn_publish, h.foreign.foldl_place_eq h.exported, h.filter_closures,
    show before = own ++ foreign from h.closures, List.map_append, hown, hforeign,
    List.append_assoc]

/-- Exporting the same once more changes nothing. -/
private theorem publish_publish (h : scopes.Exporting source target own foreign) :
    (scopes.publish source target).publish source target = scopes.publish source target := by
  apply publish_eq_self
  rw [closuresIn_publish_of_ne (Nat.ne_of_lt h.younger), h.closuresIn_publish,
    foldl_place_append h.home_own, h.foreign.foldl_place_idem h.exported]

end Exporting

end Scopes

/-! ## Expansions -/

/-- Runs the body of a definition in a frame of its own and tells the number of the frame; of an
expansion, only the exports are missing. -/
def Evaluation.runApart (settings : Settings σ) (closure : Closure) (args : List Value)
    (context : List Selector) (out : Collected) : EvalM σ (FrameId × Collected) :=
  EvalM.inFrame closure.home closure.block fun frame => do
    return (frame, ← runDefinitionBody settings closure args context frame out)

/-- An expansion that succeeds runs the body of the definition, which changes no older frame, and
then exports. -/
private theorem exists_of_run_runDefinition {settings : Settings σ} {s t : State σ} {call : Call}
    {closure : Closure} {args : List Value} {context : List Selector} {caller : FrameId}
    {out out' : Collected} (hdepth : s.callDepth ≤ settings.limit)
    (hactive : s.scopes.active ≠ []) (hhomed : s.scopes.Homed s.scopes)
    (hhome : closure.home < s.scopes.next) (hcaller : caller < s.scopes.next)
    (h : (runDefinition settings call closure args context caller out).run settings s =
      (.ok out', t)) :
    ∃ event u, (runApart settings closure args context out).run settings (s.emit event) =
        (.ok (s.scopes.next, out'), u) ∧
      s.Confined .nothing u ∧ s.scopes.Homed u.scopes ∧
      t.scopes = u.scopes.publish s.scopes.next caller := by
  rw [EvalM.run, runDefinition, EvalM.runWith_perform_bind] at h
  obtain ⟨⟨frame, out₁⟩, u, hthrough, hpublish⟩ := EvalM.exists_of_runWith_bind h
  have hapart := EvalM.runWith_of_through hthrough
  -- the body runs after the event, which changes no frame
  let m : Moment σ :=
    ⟨s.emit (.expandingMixin call.text closure.definition.span s.callDepth), []⟩
  have hm : (Discipline.homed settings s.scopes).holds m := ⟨hdepth, hactive, hhomed⟩
  have hkeeps := Discipline.runDefinitionBody_inFrame hm rfl hcaller hhome args context out
  have hbudget := limit_lt_budget settings (Nat.le_refl s.callDepth)
  obtain ⟨past, hu, hconf, hanswer⟩ := Discipline.meets_runWith (m := m) hbudget hkeeps hapart
  obtain rfl : frame = s.scopes.next := hanswer _ rfl
  cases hpublish
  exact ⟨_, u, hapart, ⟨hconf.scopes, hconf.callDepth⟩, hu.2.2, rfl⟩

/-- An expansion that succeeds in a state that a run comes to runs the body of the definition, which
leaves the older frames as they are, and then exports from the frame of the body to the caller. Of
every node that the body holds, the caller then holds one definition that it did not make itself,
and this is the last one of the node in the body. The definitions that the caller made itself and
the exports of other nodes stay as they are and where they are; the nodes that are new come at the
end, in the order in which the body first has them. Exporting the same once more changes nothing. -/
theorem exports_of_expansion (settings : Settings σ) (sheet : Stylesheet) (natives : σ) (n : Nat)
    (call : Call) (closure : Closure) (args : List Value) (context : List Selector)
    (caller : FrameId) (out out' : Collected) (t : State σ)
    (hhome : closure.home < (sheet.stateAt settings natives n).scopes.next)
    (hcaller : caller < (sheet.stateAt settings natives n).scopes.next)
    (h : (runDefinition settings call closure args context caller out).run settings
      (sheet.stateAt settings natives n) = (.ok out', t)) :
    let s := sheet.stateAt settings natives n
    let body := s.scopes.next
    ∃ event u, (runApart settings closure args context out).run settings (s.emit event) =
        (.ok (body, out'), u) ∧
      s.Confined .nothing u ∧ t.scopes = u.scopes.publish body caller ∧
      let exported := u.scopes.closuresIn body
      let before := u.scopes.closuresIn caller
      let after := t.scopes.closuresIn caller
      (∀ closure ∈ exported, ∃ last, Scopes.lastAt exported closure.site = some last ∧
        after.filter (fun other => other.home != caller && other.site == closure.site) = [last]) ∧
      after = before.map (fun existing =>
          if existing.home = caller then existing else Scopes.renewed exported existing) ++
        Scopes.newcomers exported (before.filter (·.home != caller)) ∧
      t.scopes.publish body caller = t.scopes := by
  intro s body
  have harena := arena_momentAt settings sheet natives n
  obtain ⟨hdepth, hactive⟩ := balanced_momentAt settings sheet natives n
  -- the body is run in a frame of its own, younger than all there are, and exported in the end
  obtain ⟨event, u, hapart, hconf, hhomed, hscopes⟩ :=
    exists_of_run_runDefinition hdepth hactive harena.homed hhome hcaller h
  obtain ⟨_, own, foreign, -, hcontents⟩ := harena.contents caller hcaller
  -- so what it exports is foreign to its caller
  have hexporting : u.scopes.Exporting body caller own foreign := {
    younger := hcaller
    lt_next := Nat.lt_of_lt_of_le hcaller hhomed.next_le
    closures := (hconf.scopes.closuresIn_eq hcaller (Set.notMem_empty caller)).trans
      hcontents.closures
    home_own := hcontents.home_own
    foreign := hcontents.foreign.mono hhomed.next_le
    exported := by
      intro closure hmem
      obtain ⟨hle, hlt⟩ := hhomed.homes body closure hmem
      exact ⟨Nat.lt_of_lt_of_le hcaller hle, hlt⟩ }
  refine ⟨event, u, hapart, hconf, hscopes, ?_, ?_, ?_⟩
  · -- each exported site has one closure afterwards, the last one of the body
    intro closure hmem
    obtain ⟨last, hlast⟩ := Scopes.exists_lastAt_iff.2 (List.mem_map_of_mem hmem)
    rw [hscopes]
    exact ⟨last, hlast, hexporting.filter_publish hlast⟩
  · rw [hscopes]
    exact hexporting.closuresIn_publish_eq
  · -- exporting the same again changes nothing
    rw [hscopes]
    exact hexporting.publish_publish

namespace Sketch

/-- A mixin with a ruleset inside that hands its argument on. -/
def handing : Mixin where
  name := ".m"
  params := [parameter "@x"]
  body := [ruleset [".inner"] [], .call (call ".next" [reference "@x"])]
  span := default

/-- Called with `twice`, the mixin is run once more inside itself, and exports its ruleset to the
frame that has made the same ruleset already. -/
def nesting : Stylesheet where
  nodes := [
    .mixin handing.name handing.params handing.body default,
    mixin ".next" [pattern "twice"] [.call (call ".m" [keyword "once"])],
    mixin ".next" [pattern "once"] [],
    .call (call ".m" [keyword "twice"])]

/-- The mixin is run again from the state after the call. -/
def repeated : Except Failure Collected × State Unit :=
  (runDefinition (settings 9) (call ".m" [keyword "twice"])
    { site := [0, 0], definition := .mixin handing, home := Scopes.root } [.keyword "twice"] []
    Scopes.root {}).run (settings 9) (nesting.stateAt (settings 9) () 67)

end Sketch

/-- The call has exported the ruleset that was made in frame 4. When the mixin is run again, its
body holds the ruleset twice, and the last one takes the place of the earlier export. -/
theorem exports_of_expansion_nesting :
    let s := Sketch.nesting.stateAt (Sketch.settings 9) () 67
    let t := Sketch.repeated.2
    Sketch.repeated.1.isOk ∧ Scopes.root < s.scopes.next ∧
    (s.scopes.closuresIn Scopes.root).map (fun closure => (closure.site, closure.home)) =
      [([0, 0], 0), ([1, 0], 0), ([2, 0], 0), ([0, 0, 0], 4)] ∧
    (t.scopes.closuresIn s.scopes.next).map (fun closure => (closure.site, closure.home)) =
      [([0, 0, 0], 7), ([0, 0, 0], 10)] ∧
    (t.scopes.closuresIn Scopes.root).map (fun closure => (closure.site, closure.home)) =
      [([0, 0], 0), ([1, 0], 0), ([2, 0], 0), ([0, 0, 0], 10)] ∧
    t.scopes.publish s.scopes.next Scopes.root = t.scopes := by
  intro s t
  have hok : Sketch.repeated.1.isOk := by decide +kernel
  have hroot : Scopes.root < s.scopes.next := by decide +kernel
  refine ⟨hok, hroot, by decide +kernel, by decide +kernel, by decide +kernel, ?_⟩
  rcases hrun : Sketch.repeated with ⟨_ | out, _⟩
  · rw [hrun] at hok
    cases hok
  · obtain ⟨_, _, -, -, -, -, -, hsame⟩ := exports_of_expansion (Sketch.settings 9)
      Sketch.nesting () 67 _ _ _ _ Scopes.root {} out _ hroot hroot hrun
    rw [show t = _ from congrArg Prod.snd hrun]
    exact hsame

end MixinSheet
