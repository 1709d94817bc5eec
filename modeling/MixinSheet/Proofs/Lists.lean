import Mathlib.Data.List.Forall2
import Mathlib.Data.List.Nodup

/-!
# Lists

Facts about lists in general: association lists, lists without repetitions, and lists that belong
together element by element.

## Key results

- `List.lookup_flatMap`: the first of several association lists that has a key decides
- `List.fst_eq_iff_of_mem_zip`: keys of two association lists that are gone through together
- `List.Forall₂.comp`: relations between lists can be composed
-/

namespace List

variable {α β γ δ : Type}

/-! ## Association lists -/

/-- What is found under a key is an entry with this key. -/
theorem mem_of_lookup_eq_some [BEq α] [LawfulBEq α] {entries : List (α × β)} {key : α} {value : β}
    (h : entries.lookup key = some value) : (key, value) ∈ entries := by
  obtain ⟨before, after, rfl, -⟩ := List.lookup_eq_some_iff.1 h
  simp

/-- In several association lists, the first one that has the key decides. -/
theorem lookup_flatMap [BEq β] (f : α → List (β × γ)) (key : β) (as : List α) :
    (as.flatMap f).lookup key = as.findSome? fun a => (f a).lookup key := by
  induction as with
  | nil => rfl
  | cons a rest ih =>
    rw [List.flatMap_cons, List.lookup_append, ih, List.findSome?_cons]
    cases (f a).lookup key <;> rfl

/-- Entries are the same if their keys are, given that no key occurs twice. -/
private theorem fst_getElem_eq_iff {as : List (α × β)} (h : (as.map Prod.fst).Nodup) {i j : Nat}
    (hi : i < as.length) (hj : j < as.length) : as[i].1 = as[j].1 ↔ i = j := by
  have hi' : i < (as.map Prod.fst).length := by rwa [List.length_map]
  have hj' : j < (as.map Prod.fst).length := by rwa [List.length_map]
  have hkeys : (as.map Prod.fst)[i] = (as.map Prod.fst)[j] ↔ i = j := h.getElem_inj_iff
  rwa [List.getElem_map, List.getElem_map] at hkeys

/-- In two lists that are gone through together, keys are the same in one list if they are the same
in the other. -/
theorem fst_eq_iff_of_mem_zip {as : List (α × γ)} {bs : List (β × δ)}
    (has : (as.map Prod.fst).Nodup) (hbs : (bs.map Prod.fst).Nodup) {a c : α × γ} {b d : β × δ}
    (h : (a, b) ∈ as.zip bs) (h' : (c, d) ∈ as.zip bs) : a.1 = c.1 ↔ b.1 = d.1 := by
  obtain ⟨i, hi, heq⟩ := List.mem_iff_getElem.1 h
  obtain ⟨j, hj, heq'⟩ := List.mem_iff_getElem.1 h'
  rw [List.length_zip] at hi hj
  rw [List.getElem_zip] at heq heq'
  obtain ⟨rfl, rfl⟩ := Prod.mk.inj heq
  obtain ⟨rfl, rfl⟩ := Prod.mk.inj heq'
  -- both sides say that the two places are the same
  rw [fst_getElem_eq_iff has (by omega) (by omega), fst_getElem_eq_iff hbs (by omega) (by omega)]

/-! ## Elements -/

/-- A function that keeps each element keeps the list. -/
theorem map_eq_self {f : α → α} {as : List α} (h : ∀ a ∈ as, f a = a) : as.map f = as := by
  conv_rhs => rw [← List.map_id as]
  exact List.map_congr_left h

/-! ## Lists that belong together -/

/-- Two lists have the same image if they have it element by element. -/
theorem forall₂_eq_iff_map_eq {f : α → β} {as bs : List α} :
    Forall₂ (fun a b => f a = f b) as bs ↔ as.map f = bs.map f := by
  rw [← List.forall₂_eq_eq_eq, List.forall₂_map_left_iff, List.forall₂_map_right_iff]

namespace Forall₂

variable {R : α → β → Prop} {as : List α} {bs : List β}

/-- Relations between the elements of lists can be composed. -/
theorem comp {R' : β → γ → Prop} {R'' : α → γ → Prop} {cs : List γ}
    (hcomp : ∀ a b c, R a b → R' b c → R'' a c) (h : Forall₂ R as bs) (h' : Forall₂ R' bs cs) :
    Forall₂ R'' as cs := by
  induction h generalizing cs with
  | nil =>
    cases h'
    exact .nil
  | cons hhead _ ih =>
    cases h' with
    | cons hhead' htail' => exact .cons (hcomp _ _ _ hhead hhead') (ih htail')

/-- Each element of the second list has a partner in the first one. -/
theorem exists_of_mem_right {b : β} (h : Forall₂ R as bs) (hb : b ∈ bs) : ∃ a ∈ as, R a b := by
  induction h with
  | nil => cases hb
  | cons hhead _ ih =>
    rcases List.mem_cons.1 hb with rfl | hmem
    · exact ⟨_, List.mem_cons_self, hhead⟩
    · obtain ⟨a, ha, hR⟩ := ih hmem
      exact ⟨a, .tail _ ha, hR⟩

/-- Both lists are empty or none is. -/
theorem isEmpty_eq (h : Forall₂ R as bs) : as.isEmpty = bs.isEmpty := by
  cases h with
  | nil => rfl
  | cons => rfl

end Forall₂

end List
