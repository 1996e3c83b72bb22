import ClassCensus.Sorting
import Mathlib.Data.List.Sort

/-!
# Sorted lists

Sorting is `List.insertionSort` (`sort_eq_insertionSort`), whose lemmas speak of the order of the
result. On top of them, a sorted list keeps among equivalent elements the first one first
(`find?_sort`), and does not depend on the order in which different elements were given
(`sort_eq_of_perm`).
-/

namespace ClassCensus.Sorting

variable {α : Type} {le : α → α → Bool}

/-! ### Searches -/

/-- The only element that is looked for is found. -/
theorem find?_eq_some_of_unique {p : α → Bool} {x : α} {xs : List α} (hx : x ∈ xs)
    (hp : p x = true) (hunique : ∀ y ∈ xs, p y = true → y = x) : xs.find? p = some x := by
  cases hfind : xs.find? p with
  | none => exact absurd hp (List.find?_eq_none.mp hfind x hx)
  | some y => rw [hunique y (List.mem_of_find?_eq_some hfind) (List.find?_some hfind)]

/-- Where a list is in order, the first element that is looked for stands before all others. -/
theorem eq_or_of_find? {R : α → α → Prop} {p : α → Bool} {x y : α} {xs : List α}
    (hsorted : xs.Pairwise R) (hfind : xs.find? p = some x) (hy : y ∈ xs) (hp : p y = true) :
    y = x ∨ R x y := by
  induction xs with
  | nil => cases hy
  | cons a xs ih =>
    obtain ⟨ha, hrest⟩ := List.pairwise_cons.mp hsorted
    by_cases hpa : p a = true
    · rw [List.find?_cons_of_pos hpa] at hfind
      obtain rfl := Option.some.inj hfind
      exact (List.mem_cons.mp hy).imp id (ha y)
    · rw [List.find?_cons_of_neg hpa] at hfind
      have hne : y ≠ a := by
        rintro rfl
        exact hpa hp
      exact ih hrest hfind ((List.mem_cons.mp hy).resolve_left hne)

/-! ### Insertion and sorting -/

theorem insert_eq_orderedInsert (x : α) (ys : List α) :
    insert le x ys = ys.orderedInsert (fun a b => le a b = true) x := by
  induction ys with
  | nil => rfl
  | cons y ys ih => rw [insert, ih, List.orderedInsert_cons]

theorem sort_eq_insertionSort (xs : List α) :
    sort le xs = xs.insertionSort fun a b => le a b = true := by
  induction xs with
  | nil => rfl
  | cons x xs ih => rw [sort, ih, insert_eq_orderedInsert, List.insertionSort_cons]

theorem sort_eq_of_perm [Std.Total fun a b => le a b = true] [IsTrans α fun a b => le a b = true]
    {xs ys : List α} (h : xs.Perm ys)
    (antisymm : ∀ a ∈ xs, ∀ b ∈ xs, le a b = true → le b a = true → a = b) :
    sort le xs = sort le ys := by
  rw [sort_eq_insertionSort, sort_eq_insertionSort]
  refine List.Perm.eq_of_pairwise ?_ (List.pairwise_insertionSort _ xs)
    (List.pairwise_insertionSort _ ys)
    ((List.perm_insertionSort _ xs).trans (h.trans (List.perm_insertionSort _ ys).symm))
  intro a b ha hb
  exact antisymm a ((List.mem_insertionSort _).mp ha) b
    (h.mem_iff.mpr ((List.mem_insertionSort _).mp hb))

/-- Of equivalent elements the first one is still the first in the sorted list. -/
theorem find?_sort {p : α → Bool} (h : ∀ x y, p x = true → p y = true → le x y = true)
    (xs : List α) : (sort le xs).find? p = xs.find? p := by
  have hequivalent : (xs.filter p).Pairwise fun a b => le a b = true :=
    List.pairwise_iff_getElem.mpr fun _ _ _ _ _ =>
      h _ _ (List.mem_filter.mp (List.getElem_mem _)).2 (List.mem_filter.mp (List.getElem_mem _)).2
  -- the elements that are looked for keep their order, and no others join them
  have hsub : (xs.filter p).Sublist ((sort le xs).filter p) := by
    rw [sort_eq_insertionSort]
    simpa using (List.sublist_insertionSort hequivalent List.filter_sublist).filter p
  have hlength : (xs.filter p).length = ((sort le xs).filter p).length := by
    rw [sort_eq_insertionSort]
    exact ((List.perm_insertionSort _ xs).filter p).length_eq.symm
  rw [← List.head?_filter, ← List.head?_filter, hsub.eq_of_length hlength]

end ClassCensus.Sorting
