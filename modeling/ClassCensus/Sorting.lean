/-!
# Sorting

A stable sort by insertion: elements that are equivalent in the order keep the order of the
list. It recurses on the list, so that the order of a given list computes.
-/

namespace ClassCensus.Sorting

variable {α : Type}

/-- A sorted list with one more element, before the first one that it does not follow. -/
def insert (le : α → α → Bool) (x : α) : List α → List α
  | [] => [x]
  | y :: ys => if le x y then x :: y :: ys else y :: insert le x ys

/-- The elements of a list in order. -/
def sort (le : α → α → Bool) : List α → List α
  | [] => []
  | x :: xs => insert le x (sort le xs)

end ClassCensus.Sorting
