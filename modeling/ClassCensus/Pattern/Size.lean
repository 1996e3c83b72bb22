import ClassCensus.Pattern.Basic
import ClassCensus.Unicode.Encoding

/-!
# The size of a pattern

For a pattern there are two automata over the bytes of a text, one for each direction of reading.
A pattern is refused if one of them takes more memory than is allowed, because it is counted too
often. The size of an automaton is the number of its states times that of a state, and what its
edges take.
-/

namespace ClassCensus.Pattern

/-- A direction of reading. The automaton that reads forward keeps the matches of groups. -/
inductive Direction where
  | forward
  | backward
deriving DecidableEq, Repr

/-- The bytes of a state. -/
def stateSize : Nat := 32

/-- The bytes of an edge that is taken for a range of bytes. -/
def rangeEdgeSize : Nat := 8

/-- The bytes of an edge that is taken without reading. -/
def freeEdgeSize : Nat := 4

/-- The size of the automaton for a class with these spans, at least one and not a single
character. Classes of ASCII are a single step. Of the others the automaton that reads forward has
the fewest states, and the one that reads backward a branch for each list of byte ranges, which
share the branches at their end. -/
def spansSize (direction : Direction) (spans : Unicode.Ranges) : Nat :=
  if spans.all fun (_, last) => decide (last < 0x80) then
    2 * stateSize + spans.length * rangeEdgeSize
  else
    let ways := Unicode.byteRanges spans
    match direction with
    | .forward =>
      let nodes := Unicode.distinctNodes (Unicode.nodesFor 4 ways)
      nodes.foldr (fun node n => stateSize + node.2 * rangeEdgeSize + n) stateSize
    | .backward =>
      2 * stateSize + ways.length * freeEdgeSize + Unicode.stepsAfter [] ways * stateSize

/-- The size of the automaton for a class. A single character is a step for each of its
bytes. -/
def classSize (direction : Direction) (cls : CharClass) : Nat :=
  match cls.spans with
  | [] => stateSize
  | [(first, last)] =>
    if first = last then (Unicode.bytesOf first).length * stateSize
    else spansSize direction [(first, last)]
  | spans => spansSize direction spans

/-- Alternatives between single characters as a class. -/
def asClass? : Pattern → Option CharClass
  | .char cls => some cls
  | .alt a b =>
    match a.asClass?, b.asClass? with
    | some a, some b => some (.union a b)
    | _, _ => none
  | _ => none

/-- Whether every match of a pattern is empty. -/
def isZeroWidth : Pattern → Bool
  | .empty => true
  | .char _ => false
  | .assertion _ _ => true
  | .seq a b => a.isZeroWidth && b.isZeroWidth
  | .alt a b => a.isZeroWidth && b.isZeroWidth
  | .loop a _ max => a.isZeroWidth || max = some 0
  | .capture a => a.isZeroWidth

/-- The size of an automaton for a loop around an automaton of some size. The inner one is there
as often as it is counted, once if it matches nothing but the empty text. -/
def loopSize (inner : Nat) (zeroWidth : Bool) (min : Nat) (max : Option Nat) : Nat :=
  let times (n : Nat) : Nat := if zeroWidth then Nat.min n 1 else n
  let branch := stateSize + 2 * freeEdgeSize
  match max with
  | none => Nat.max (times min) 1 * inner + branch
  | some max =>
    let least := times min
    let most := times max
    if most = least then Nat.max (least * inner) stateSize
    else least * inner + (most - least) * (inner + branch) + stateSize

/-- The size of the automaton for a pattern. -/
def size (direction : Direction) : Pattern → Nat
  | .empty => 0
  | .char cls => classSize direction cls
  | .assertion _ _ => stateSize
  | .seq a b => a.size direction + b.size direction
  | .alt a b =>
    match (alt a b).asClass? with
    | some cls => classSize direction cls
    | none => a.size direction + b.size direction + 2 * stateSize + 2 * freeEdgeSize
  | .loop a min max => loopSize (a.size direction) a.isZeroWidth min max
  | .capture a =>
    match direction with
    | .forward => a.size direction + 2 * stateSize
    | .backward => a.size direction

/-- The largest size of an automaton. -/
def sizeLimit : Nat := 10 * 1024 * 1024

/-- Whether both automata for a pattern are allowed. -/
def fits (a : Pattern) : Bool :=
  a.size .forward ≤ sizeLimit && a.size .backward ≤ sizeLimit

end ClassCensus.Pattern
