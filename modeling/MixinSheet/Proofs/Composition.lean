import Mathlib.Data.List.Perm.Basic
import MixinSheet.Sheet.Selector

/-!
# Composition of selectors

Nesting one list of selectors in another pairs every selector outside with every selector inside.
Nesting is associative unless the list in the middle is empty: then what is inside stands alone, as
if there were nothing around it.

The text of a nested selector is the text outside followed by the text inside. The first element of
a selector is written without the gap that its combinator leaves after another element, so the gap
comes back when the selector is nested.

## Key results

- `Selector.nestAll_eq_nil_iff`: nothing comes of nesting only if nothing is nested
- `Selector.nestAll_assoc`: nesting is associative around a list that is not empty
- `Selector.nestAll_perm_flatMap_nest`: going through the children first gives the same selectors
- `Selector.text_under`: the text of a nested selector
- `nesting_pairs_and_associates`: the entries of a nested list, associativity, and texts
-/

namespace MixinSheet

namespace Selector

/-! ## Nested lists -/

/-- Nesting under a nested selector is nesting twice. -/
private theorem under_under (outer inner : Selector) :
    (outer.under inner).under = outer.under ∘ inner.under := by
  funext last
  simp only [under, Function.comp_apply, List.append_assoc]

/-- At the top nothing is put in front of selectors. -/
private theorem nestAll_nil_left (children : List Selector) : nestAll [] children = children := rfl

/-- Every selector is put under every parent, the parents one after the other. -/
private theorem nestAll_of_ne_nil {parents : List Selector} (h : parents ≠ [])
    (children : List Selector) :
    nestAll parents children = parents.flatMap fun parent => children.map parent.under := by
  have hempty : ¬ parents.isEmpty = true := by simpa only [List.isEmpty_iff] using h
  rw [nestAll, if_neg hempty]

/-- Inside some selectors, nothing comes only of nothing. -/
theorem nestAll_eq_nil_iff {parents children : List Selector} (h : parents ≠ []) :
    nestAll parents children = [] ↔ children = [] := by
  obtain ⟨first, rest, rfl⟩ := List.exists_cons_of_ne_nil h
  rw [nestAll_of_ne_nil h, List.flatMap_cons, List.append_eq_nil_iff, List.map_eq_nil_iff]
  constructor
  · intro hnil
    exact hnil.1
  · intro hnil
    simp [hnil]

/-- Whether nesting gives nothing does not depend on what is around, if there is something around in
both cases. -/
theorem isEmpty_nestAll {parents parents' : List Selector}
    (h : parents.isEmpty = parents'.isEmpty) (children : List Selector) :
    (nestAll parents children).isEmpty = (nestAll parents' children).isEmpty := by
  by_cases hnil : parents = []
  · have hnil' : parents' = [] := by simpa [hnil] using h
    rw [hnil, hnil']
  · have hnil' : parents' ≠ [] := by
      rintro rfl
      exact hnil (List.isEmpty_iff.1 h)
    rw [Bool.eq_iff_iff, List.isEmpty_iff, List.isEmpty_iff, nestAll_eq_nil_iff hnil,
      nestAll_eq_nil_iff hnil']

/-- Nesting is associative around a list that is not empty. -/
theorem nestAll_assoc {inner : List Selector} (h : inner ≠ []) (outer last : List Selector) :
    nestAll (nestAll outer inner) last = nestAll outer (nestAll inner last) := by
  by_cases houter : outer = []
  · rw [houter, nestAll_nil_left, nestAll_nil_left]
  · have hmiddle : nestAll outer inner ≠ [] := fun hnil => h ((nestAll_eq_nil_iff houter).1 hnil)
    rw [nestAll_of_ne_nil hmiddle, nestAll_of_ne_nil houter, nestAll_of_ne_nil houter,
      nestAll_of_ne_nil h]
    -- both sides go through `outer`, then through `inner` and last through `last`
    simp only [List.flatMap_assoc, List.flatMap_map, List.map_flatMap, List.map_map,
      under_under]

/-! ## Entries -/

/-- There are as many nested selectors as pairs. -/
private theorem length_nestAll {parents : List Selector} (h : parents ≠ [])
    (children : List Selector) :
    (nestAll parents children).length = parents.length * children.length := by
  rw [nestAll_of_ne_nil h, List.length_flatMap]
  simp only [List.length_map, List.map_const', List.sum_replicate_nat]

/-- The entries of a nested list stand parent by parent. -/
private theorem getElem?_nestAll {parents children : List Selector} {i j : Nat}
    {parent child : Selector} (hi : parents[i]? = some parent) (hj : children[j]? = some child) :
    (nestAll parents children)[i * children.length + j]? = some (parent.under child) := by
  have hne : parents ≠ [] := List.ne_nil_of_mem (List.mem_of_getElem? hi)
  obtain ⟨hlt, -⟩ := List.getElem?_eq_some_iff.1 hj
  rw [nestAll_of_ne_nil hne]
  clear hne
  induction parents generalizing i with
  | nil => simp at hi
  | cons first rest ih =>
    rw [List.flatMap_cons]
    cases i with
    | zero =>
      obtain rfl := Option.some.inj hi
      rw [List.getElem?_append_left (by simpa using hlt), Nat.zero_mul, Nat.zero_add,
        List.getElem?_map, hj, Option.map_some]
    | succ i =>
      -- the entries of the first parent take up as many places as there are children
      have hplace : (i + 1) * children.length + j - children.length = i * children.length + j := by
        rw [Nat.succ_mul]
        omega
      rw [List.getElem?_append_right (by rw [List.length_map, Nat.succ_mul]; omega),
        List.length_map, hplace]
      exact ih hi

/-- Going through the children first gives the same selectors, as often. -/
theorem nestAll_perm_flatMap_nest (parents children : List Selector) :
    (nestAll parents children).Perm (children.flatMap (nest parents)) := by
  -- without parents, selectors stay as they are, in the same order
  by_cases h : parents = []
  · subst h
    have hnest : nest [] = fun child => [child] := rfl
    rw [nestAll_nil_left, hnest, List.flatMap_singleton']
  · have hnest : nest parents = fun child => parents.map (·.under child) := by
      funext child
      rw [nest, if_neg (by simpa using h)]
    rw [nestAll_of_ne_nil h, hnest]
    -- parent by parent, each one contributes one selector for each child
    clear h hnest
    induction parents with
    | nil => simp
    | cons first rest ih =>
      simp only [List.flatMap_cons, List.map_cons]
      exact (ih.append_left _).trans
        (List.map_append_flatMap_perm children first.under fun child => rest.map (·.under child))

end Selector

/-! ## Texts -/

/-- Between two elements a combinator leaves a gap that it does not leave in front. -/
private theorem Combinator.text_eq_gap_append (combinator : Combinator) :
    combinator.text = (if combinator = .attached then "" else " ") ++ combinator.leadingText := by
  cases combinator <;> rfl

namespace Element

/-- Elements in a row have their texts in a row. -/
private theorem followingText_append (elements more : List Element) :
    followingText (elements ++ more) = followingText elements ++ followingText more := by
  induction elements with
  | nil => simp [followingText]
  | cons element rest ih =>
    simp only [List.cons_append, followingText, ih, String.append_assoc]

/-- What follows the first elements is written with its combinators. -/
private theorem listText_append {elements : List Element} (h : elements ≠ [])
    (more : List Element) :
    listText (elements ++ more) = listText elements ++ followingText more := by
  obtain ⟨first, rest, rfl⟩ := List.exists_cons_of_ne_nil h
  simp only [List.cons_append, listText, followingText_append, String.append_assoc]

/-- A combinator is written in front of an element unless it is attached. -/
private theorem followingText_cons (first : Element) (rest : List Element) :
    followingText (first :: rest) =
      (if first.combinator = .attached then "" else " ") ++ listText (first :: rest) := by
  rw [followingText, listText, Combinator.text_eq_gap_append]
  simp only [String.append_assoc]

end Element

/-- The text of a nested selector is the text outside, a gap unless the first element inside is
attached, and the text inside. -/
theorem Selector.text_under {parent child : Selector} {first : Element} {rest : List Element}
    (hparent : parent.elements ≠ []) (hchild : child.elements = first :: rest) :
    (parent.under child).text =
      parent.text ++ (if first.combinator = .attached then "" else " ") ++ child.text := by
  rw [text, under, Element.listText_append hparent, hchild, Element.followingText_cons,
    ← String.append_assoc, text, text, hchild]

open Selector in
/-- A list nested in parents has one entry for each pair of a parent and a child, parent by parent:
the elements of both, at the place of the child. Nesting child by child gives the same entries in
another order. Nesting is associative, except around an empty list inside of some parents. The text
of an entry is the text of the parent, a gap unless the child is attached, and the text of the
child. -/
theorem nesting_pairs_and_associates :
    (∀ parents children : List Selector, parents ≠ [] →
      (nestAll parents children).length = parents.length * children.length ∧
      (∀ i j parent child, parents[i]? = some parent → children[j]? = some child →
        ∃ nested, (nestAll parents children)[i * children.length + j]? = some nested ∧
          nested.elements = parent.elements ++ child.elements ∧ nested.span = child.span) ∧
      (nestAll parents children).Perm (children.flatMap (nest parents))) ∧
    (∀ outer inner last : List Selector, inner ≠ [] ∨ outer = [] →
      nestAll (nestAll outer inner) last = nestAll outer (nestAll inner last)) ∧
    (∀ (parent child : Selector) (first : Element) (rest : List Element),
      parent.elements ≠ [] → child.elements = first :: rest →
      (nest [parent] child).map text =
        [parent.text ++ (if first.combinator = .attached then "" else " ") ++ child.text]) := by
  refine ⟨fun parents children h => ⟨length_nestAll h children, ?_,
    nestAll_perm_flatMap_nest parents children⟩, ?_, ?_⟩
  · intro i j parent child hi hj
    exact ⟨parent.under child, getElem?_nestAll hi hj, rfl, rfl⟩
  · rintro outer inner last (hinner | rfl)
    · exact nestAll_assoc hinner outer last
    · rw [nestAll_nil_left, nestAll_nil_left]
  · intro parent child first rest hparent hchild
    exact congrArg (fun text => [text]) (text_under hparent hchild)

namespace Hovering

/-- A selector of one element. -/
def single (combinator : Combinator) (value : String) : Selector where
  elements := [{ combinator, value }]
  span := default

/-- The selectors `.menu` and `> .bar`. -/
def parents : List Selector := [single .descendant ".menu", single .child ".bar"]

/-- The selectors `a` and `&:hover`. -/
def children : List Selector := [single .descendant "a", single .attached ":hover"]

end Hovering

open Hovering in
/-- Two parents with two selectors each, one of which is a child and one of which is attached. -/
theorem nesting_pairs_and_associates_hovering :
    parents ≠ [] ∧ (Selector.nestAll parents children).length = 2 * 2 ∧
    (∃ nested, (Selector.nestAll parents children)[1 * 2 + 1]? = some nested ∧
      nested.elements = [⟨.child, ".bar"⟩, ⟨.attached, ":hover"⟩]) ∧
    Selector.nestAll (Selector.nestAll children parents) children =
      Selector.nestAll children (Selector.nestAll parents children) ∧
    (Selector.nest [single .child ".bar"] (single .attached ":hover")).map Selector.text =
      ["> .bar" ++ "" ++ ":hover"] := by
  obtain ⟨hentries, hassoc, htext⟩ := nesting_pairs_and_associates
  have hne : parents ≠ [] := List.cons_ne_nil _ _
  obtain ⟨hlength, hentry, -⟩ := hentries parents children hne
  obtain ⟨nested, hnested, helements, -⟩ :=
    hentry 1 1 (single .child ".bar") (single .attached ":hover") rfl rfl
  exact ⟨hne, hlength, ⟨nested, hnested, helements⟩,
    hassoc children parents children (.inl hne),
    htext (single .child ".bar") (single .attached ":hover") ⟨.attached, ":hover"⟩ []
      (List.cons_ne_nil _ _) rfl⟩

end MixinSheet
