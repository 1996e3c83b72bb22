import ClassCensus.Unicode.Table

/-!
# Ranges of bytes

How the characters of a range are written in UTF-8: the range is parted into pieces in which each
byte takes its values independently of the others, so that a piece is a list of ranges of bytes.
-/

namespace ClassCensus.Unicode

/-- The characters that are written with the same number of bytes; the surrogates are no
characters. -/
def sameLength : Ranges :=
  [(0, 0x7F), (0x80, 0x7FF), (0x800, 0xD7FF), (0xE000, 0xFFFF), (0x10000, 0x10FFFF)]

/-- The pieces of a range that contain all or one of the blocks of `size` numbers. -/
def alignedPieces (size first last : Nat) : Ranges :=
  if first / size = last / size then [(first, last)]
  else
    let start := if first % size = 0 then first else (first / size + 1) * size
    let front := if first < start then [(first, start - 1)] else []
    let back :=
      if start / size = last / size ∨ last % size = size - 1 then [(start, last)]
      else [(start, last / size * size - 1), (last / size * size, last)]
    front ++ back

/-- The pieces of a range in which each byte takes its values independently. -/
def bytePieces (first last : Nat) : Ranges :=
  let pieces := sameLength.filterMap fun (a, b) =>
    if Nat.max first a ≤ Nat.min last b then some (Nat.max first a, Nat.min last b) else none
  pieces.flatMap fun (first, last) =>
    if last < 0x80 then [(first, last)]
    else
      [0x40, 0x1000, 0x40000].foldl
        (fun pieces size => pieces.flatMap fun (a, b) => alignedPieces size a b) [(first, last)]

/-- The bytes of a character, given by its number. -/
def bytesOf (n : Nat) : List Nat := (String.utf8EncodeChar (Char.ofNat n)).map UInt8.toNat

/-- The characters of ranges as lists of ranges of bytes, in order. -/
def byteRanges (rs : Ranges) : List Ranges :=
  rs.flatMap fun (first, last) =>
    (bytePieces first last).map fun (a, b) => (bytesOf a).zip (bytesOf b)

/-! ### Automata -/

/-- The length of the longest beginning that two lists have in common. -/
def sharedLength : Ranges → Ranges → Nat
  | a :: as, b :: bs => if a = b then sharedLength as bs + 1 else 0
  | _, _ => 0

/-- The number of steps in lists of byte ranges, where a list shares its beginning with the one
before it. -/
def stepsAfter (before : Ranges) : List Ranges → Nat
  | [] => 0
  | ways :: rest => (ways.length - sharedLength before ways) + stepsAfter ways rest

/-- The nodes of an automaton that reads lists of byte ranges, at most so many bytes long: each
with the number of its edges, and with a key that nodes share from which the same bytes lead to
the end. The node at the beginning comes first. -/
def nodesFor : Nat → List Ranges → List (List Nat × Nat)
  | 0, _ => []
  | bytes + 1, ways =>
    let groups := (ways.splitBy fun a b => a.head? == b.head?).filter fun g => g ≠ [[]]
    let parts := groups.map fun g => nodesFor bytes (g.map List.tail)
    let edge (g : List Ranges) (part : List (List Nat × Nat)) : List Nat :=
      match g.head?.bind List.head?, part.head? with
      | some (a, b), some (key, _) => a :: b :: key.length :: key
      | some (a, b), none => [a, b, 0]
      | none, _ => []
    let key := (List.zipWith edge groups parts).flatten
    if groups = [] then [] else (key, groups.length) :: parts.flatten

/-- The nodes of a list without repetitions. -/
def distinctNodes (nodes : List (List Nat × Nat)) : List (List Nat × Nat) :=
  nodes.foldl (fun seen node => if seen.any (·.1 = node.1) then seen else node :: seen) []

end ClassCensus.Unicode
