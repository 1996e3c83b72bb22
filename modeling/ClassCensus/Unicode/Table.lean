import ClassCensus.Text.Pieces

/-!
# Tables of characters

Sets of characters are kept as texts, in one of two forms: the gaps and lengths of the ranges in
the set, or the runs of characters that share a code.
-/

namespace ClassCensus.Unicode

/-- A set of characters: the numbers of the first and last character of each range. -/
abbrev Ranges := List (Nat × Nat)

/-- Whether a character is in one of the ranges. -/
def Ranges.contains (rs : Ranges) (c : Char) : Bool :=
  rs.any fun (first, last) => first ≤ c.toNat && c.toNat ≤ last

/-- The words of a text that are separated by single spaces. -/
def wordsOf (lines : List String) : List (List Char) :=
  lines.flatMap fun line => Text.split ' ' line.toList

/-- The number that a run of decimal digits writes. -/
def numberOf (digits : List Char) : Nat :=
  digits.foldl (fun n c => n * 10 + (c.toNat - 48)) 0

/-- The ranges that gaps and lengths describe, from a start on. -/
def rangesFrom (start : Nat) : List Nat → Ranges
  | gap :: length :: rest =>
    let first := start + gap
    (first, first + length - 1) :: rangesFrom (first + length) rest
  | _ => []

/-- The ranges that a text of gaps and lengths describes. -/
def decodeRanges (lines : List String) : Ranges :=
  rangesFrom 0 ((wordsOf lines).map numberOf)

/-- The runs that codes and lengths describe, from a start on. -/
def runsFrom (start : Nat) : List (String × Nat) → List (String × Nat × Nat)
  | [] => []
  | (code, length) :: rest => (code, start, start + length - 1) :: runsFrom (start + length) rest

/-- The runs that a text of codes and lengths describes; all codes have the same width. -/
def decodeRuns (width : Nat) (lines : List String) : List (String × Nat × Nat) :=
  runsFrom 0 <| (wordsOf lines).map fun word =>
    let digits := word.drop width
    (String.ofList (word.take width), if digits = [] then 1 else numberOf digits)

end ClassCensus.Unicode
