import ClassCensus.Pattern.CharClass

/-!
# Patterns

Regular patterns and what they match. A pattern that begins at a place of a text may end at
several places; a text matches when some place of it is the beginning of a match.
-/

namespace ClassCensus

/-! ### Places -/

/-- A place in a text: the character before it and the text after it. -/
structure Place where
  before : Option Char
  rest : List Char
deriving DecidableEq, Repr

/-- A condition on a place. -/
inductive Assertion where
  | textStart
  | textEnd
  | lineStart
  | lineEnd
  /-- As `lineStart`, where `\r`, `\n` and both together end a line. -/
  | crlfLineStart
  /-- As `lineEnd`, where `\r`, `\n` and both together end a line. -/
  | crlfLineEnd
  | wordBoundary
  | noWordBoundary
  | wordStart
  | wordEnd
  | wordStartHalf
  | wordEndHalf
deriving DecidableEq, Repr

namespace Assertion

/-- Whether a condition holds at a place, with `isWord` for the word characters. -/
def holds (isWord : Char → Bool) (a : Assertion) (p : Place) : Bool :=
  let before := p.before.any isWord
  let after := p.rest.head?.any isWord
  match a with
  | .textStart => p.before = none
  | .textEnd => p.rest = []
  | .lineStart => p.before = none || p.before = some '\n'
  | .lineEnd => p.rest = [] || p.rest.head? = some '\n'
  | .crlfLineStart =>
    p.before = none || p.before = some '\n' ||
      (p.before = some '\r' && p.rest.head? ≠ some '\n')
  | .crlfLineEnd =>
    p.rest = [] || p.rest.head? = some '\r' ||
      (p.rest.head? = some '\n' && p.before ≠ some '\r')
  | .wordBoundary => before != after
  | .noWordBoundary => before == after
  | .wordStart => !before && after
  | .wordEnd => before && !after
  | .wordStartHalf => !before
  | .wordEndHalf => !after

end Assertion

/-! ### Patterns -/

/-- A regular pattern. -/
inductive Pattern where
  | empty
  | char (cls : CharClass)
  /-- A condition; `ascii` limits word characters to those of ASCII. -/
  | assertion (ascii : Bool) (a : Assertion)
  | seq (a b : Pattern)
  | alt (a b : Pattern)
  /-- At least `min` times, and at most `max` times if that is given. -/
  | loop (a : Pattern) (min : Nat) (max : Option Nat)
  /-- A group whose match is kept. -/
  | capture (a : Pattern)
deriving Repr, Inhabited

namespace Pattern

/-! ### Matching -/

/-- A list of places with one more, unless it is there already. -/
def addPlace (p : Place) (ps : List Place) : List Place :=
  if p ∈ ps then ps else p :: ps

/-- A list of places without repetitions. -/
def distinct (ps : List Place) : List Place := ps.foldr addPlace []

/-- The places that can be reached in exactly `n` steps. -/
def reachExactly (step : Place → List Place) : Nat → List Place → List Place
  | 0, ps => ps
  | n + 1, ps => reachExactly step n (distinct (ps.flatMap step))

/-- The places that can be reached in at most `n` steps. -/
def reachWithin (step : Place → List Place) : Nat → List Place → List Place
  | 0, ps => ps
  | n + 1, ps => reachWithin step n (distinct (ps ++ ps.flatMap step))

/-- The places where a match that begins at a place can end. Steps only go forward, so more
steps than the rest of the text has characters bring nothing new. -/
def ends : Pattern → Place → List Place
  | .empty, p => [p]
  | .char cls, p =>
    match p.rest with
    | [] => []
    | c :: rest => if cls.contains c then [⟨some c, rest⟩] else []
  | .assertion ascii a, p =>
    let isWord := if ascii then CharClass.asciiWordChars.contains else CharClass.wordChars.contains
    if a.holds isWord p then [p] else []
  | .seq a b, p => distinct ((a.ends p).flatMap fun q => b.ends q)
  | .alt a b, p => distinct (a.ends p ++ b.ends p)
  | .loop a min max, p =>
    let bound := p.rest.length + 1
    let least := reachExactly (fun q => a.ends q) (Nat.min min bound) [p]
    let more :=
      match max with
      | some max => Nat.min (max - min) bound
      | none => bound
    reachWithin (fun q => a.ends q) more least
  | .capture a, p => a.ends p

/-- Whether a match begins at some place from a place on. -/
def matchesFrom (a : Pattern) (before : Option Char) : List Char → Bool
  | [] => a.ends ⟨before, []⟩ ≠ []
  | c :: rest => a.ends ⟨before, c :: rest⟩ ≠ [] || a.matchesFrom (some c) rest

/-- Whether a text has a match anywhere. -/
def isMatch (a : Pattern) (text : String) : Bool := a.matchesFrom none text.toList

end Pattern

end ClassCensus
