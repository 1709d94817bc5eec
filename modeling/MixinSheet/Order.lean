/-!
# Stable sorting

`Order.sort` puts a list into the order that a comparison gives; elements that compare equal keep
the order they had. It is the merge sort of the standard library, written as an insertion sort so
that it can be evaluated step by step.

## Key results

- `Order.sort_eq_mergeSort`: insertion and merge sort give the same list
- `Order.stablySorts_sort`: what is sorted is in order, and equal elements are as they were
-/

namespace MixinSheet.Order

variable {α β : Type}

/-- Puts `a` in front of the first element that is not smaller. -/
def insert (compare : α → α → Ordering) (a : α) : List α → List α
  | [] => [a]
  | b :: rest => if compare b a = .lt then b :: insert compare a rest else a :: b :: rest

/-- The list in order. -/
def sort (compare : α → α → Ordering) : List α → List α
  | [] => []
  | a :: rest => insert compare a (sort compare rest)

/-- Elements are compared through something that they have. -/
theorem transCmp_comap (compare : β → β → Ordering) [Std.TransCmp compare] (f : α → β) :
    Std.TransCmp fun a b => compare (f a) (f b) where
  eq_swap {a b} := Std.OrientedCmp.eq_swap (a := f a) (b := f b)
  isLE_trans {a b c} := Std.TransCmp.isLE_trans (a := f a) (b := f b) (c := f c)

/-- `sorted` holds the elements of `as` in the order of the comparison, and elements that compare
equal in the order that they have in `as`. -/
structure StablySorts (compare : α → α → Ordering) (as sorted : List α) : Prop where
  perm : sorted.Perm as
  ordered : sorted.Pairwise fun a b => compare a b ≠ .gt
  stable : ∀ a, sorted.filter (compare · a = .eq) = as.filter (compare · a = .eq)

/-- An element goes between those that are smaller and those that are not. -/
private theorem insert_append {compare : α → α → Ordering} {a : α} {smaller others : List α}
    (hsmaller : ∀ b ∈ smaller, compare b a = .lt) (hothers : ∀ b ∈ others, compare b a ≠ .lt) :
    insert compare a (smaller ++ others) = smaller ++ a :: others := by
  induction smaller with
  | nil =>
    cases others with
    | nil => rfl
    | cons b rest =>
      rw [List.nil_append, insert, if_neg (hothers b List.mem_cons_self), List.nil_append]
  | cons b rest ih =>
    obtain ⟨hb, hrest⟩ := List.forall_mem_cons.1 hsmaller
    rw [List.cons_append, insert, if_pos hb, ih hrest, List.cons_append]

section Sorted

variable (compare : α → α → Ordering) [Std.TransCmp compare]

/-- Not being greater is transitive. -/
private theorem isLE_trans (a b c : α) (hab : (compare a b).isLE = true)
    (hbc : (compare b c).isLE = true) : (compare a c).isLE = true :=
  Std.TransCmp.isLE_trans hab hbc

/-- Of two elements, one is not greater than the other. -/
private theorem isLE_total (a b : α) : ((compare a b).isLE || (compare b a).isLE) = true := by
  have hswap : compare b a = (compare a b).swap := Std.OrientedCmp.eq_swap
  rw [hswap]
  cases compare a b <;> rfl

/-- Inserting one element after the other is merge sort. -/
theorem sort_eq_mergeSort (as : List α) :
    sort compare as = as.mergeSort fun a b => (compare a b).isLE := by
  induction as with
  | nil => rw [sort, List.mergeSort_nil]
  | cons a rest ih =>
    -- merge sort also puts the first element between smaller ones and others
    obtain ⟨smaller, others, hsort, hrest, hsmaller⟩ :=
      List.mergeSort_cons (isLE_trans compare) (isLE_total compare) a rest
    have hordered := List.pairwise_mergeSort (isLE_trans compare) (isLE_total compare) (a :: rest)
    rw [hsort] at hordered
    have hothers := (List.pairwise_cons.1 (List.pairwise_append.1 hordered).2.1).1
    rw [sort, ih, hrest, hsort]
    refine insert_append (fun b hb => ?_) fun b hb hlt => ?_
    · have hgt : (compare a b).isLE = false := by simpa using hsmaller b hb
      exact Std.OrientedCmp.lt_of_gt (Ordering.isLE_eq_false.1 hgt)
    · have hle := hothers b hb
      rw [Std.OrientedCmp.gt_of_lt hlt] at hle
      cases hle

/-- Elements that compare equal to the same one are in order as they stand. -/
private theorem pairwise_filter_eq (a : α) (as : List α) :
    (as.filter (compare · a = .eq)).Pairwise fun b c => (compare b c).isLE = true := by
  refine List.pairwise_of_forall_mem_list fun b hb c hc => ?_
  have hb : compare b a = .eq := by simpa using (List.mem_filter.1 hb).2
  have hc : compare c a = .eq := by simpa using (List.mem_filter.1 hc).2
  rw [Std.TransCmp.eq_trans hb (Std.OrientedCmp.eq_symm hc)]
  rfl

/-- Sorting puts a list in order and is stable. -/
theorem stablySorts_sort (as : List α) : StablySorts compare as (sort compare as) := by
  rw [sort_eq_mergeSort]
  have hperm := List.mergeSort_perm as fun a b => (compare a b).isLE
  refine ⟨hperm, ?_, fun a => ?_⟩
  · refine (List.pairwise_mergeSort (isLE_trans compare) (isLE_total compare) as).imp fun h => ?_
    exact Ordering.ne_gt_iff_isLE.2 h
  · -- elements that are in order already stay in their order, and no others compare equal
    have hsublist := (List.sublist_mergeSort (isLE_trans compare) (isLE_total compare)
      (pairwise_filter_eq compare a as) List.filter_sublist).filter (compare · a = .eq)
    simp only [List.filter_filter, Bool.and_self] at hsublist
    exact (hsublist.eq_of_length (hperm.filter _).length_eq.symm).symm

end Sorted

end MixinSheet.Order
