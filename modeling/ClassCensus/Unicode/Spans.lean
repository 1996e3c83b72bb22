import ClassCensus.Sorting
import ClassCensus.Unicode.CaseFold

/-!
# Spans

Sets of characters as spans: ranges in order that neither overlap nor touch. A set has one list of
spans only, so that its spans can be counted.
-/

namespace ClassCensus.Unicode

/-- The number of the last character. -/
def lastNumber : Nat := 0x10FFFF

namespace Ranges

/-- A range and the ranges after it, where those that overlap or touch are joined. -/
def joinFrom (first last : Nat) : Ranges → Ranges
  | [] => [(first, last)]
  | (a, b) :: rest =>
    if a ≤ last + 1 then joinFrom first (Nat.max last b) rest
    else (first, last) :: joinFrom a b rest

/-- The spans of the characters in ranges. -/
def spans (rs : Ranges) : Ranges :=
  match Sorting.sort (fun r s => decide (r.1 ≤ s.1)) rs with
  | [] => []
  | (first, last) :: rest => joinFrom first last rest

/-- The spans between spans, from a number on. -/
def gapsFrom (start : Nat) : Ranges → Ranges
  | [] => if start ≤ lastNumber then [(start, lastNumber)] else []
  | (first, last) :: rest =>
    (if start < first then [(start, first - 1)] else []) ++ gapsFrom (last + 1) rest

/-- The spans of the characters that are in none of the spans. -/
def gaps (rs : Ranges) : Ranges := gapsFrom 0 rs

/-- The spans of the characters that two lists of spans have in common. -/
def common (rs ss : Ranges) : Ranges :=
  rs.flatMap fun (a, b) => ss.filterMap fun (c, d) =>
    let first := Nat.max a c
    let last := Nat.min b d
    if first ≤ last then some (first, last) else none

/-- The number of characters in spans. -/
def count (rs : Ranges) : Nat := rs.foldr (fun (first, last) n => last + 1 - first + n) 0

/-- The numbers of the characters in spans. -/
def numbers (rs : Ranges) : List Nat :=
  rs.flatMap fun (first, last) => List.range' first (last + 1 - first)

end Ranges

/-- The numbers of the characters that are not folded to themselves. -/
def foldedNumbers : List Nat :=
  foldRuns.flatMap fun run => (List.range run.count).map fun i => run.first + i * run.stride

/-- The number of characters up to which the variants of a set are found from its members; those
of larger sets are found among all letters. -/
def fewCharacters : Nat := 256

/-- The spans of the characters that differ in case only from one in the spans. -/
def Ranges.withVariants (rs : Ranges) : Ranges :=
  let variants (n : Nat) : List Nat := (caseVariants (Char.ofNat n)).map Char.toNat
  let more :=
    if rs.count ≤ fewCharacters then rs.numbers.flatMap variants
    else
      foldedNumbers.flatMap fun n =>
        let all := variants n
        if all.any fun m => rs.any fun (first, last) => first ≤ m && m ≤ last then all else []
  Ranges.spans (rs ++ more.map fun n => (n, n))

end ClassCensus.Unicode
