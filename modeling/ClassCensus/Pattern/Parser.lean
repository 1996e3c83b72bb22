import ClassCensus.Json.Token
import ClassCensus.Pattern.Size

/-!
# The notation of patterns

How a pattern is read from its text: literals and escapes, classes in brackets, groups with
flags, repetitions and alternatives. There are no references to groups and no conditions on the
text around a place except the assertions. A pattern may be nested 250 levels deep.
-/

namespace ClassCensus.Pattern

/-! ### Flags -/

/-- What the flags of a group change. -/
structure Flags where
  /-- `i`: letters match in either case. -/
  ignoreCase : Bool
  /-- `m`: `^` and `$` match at lines. -/
  multiLine : Bool
  /-- `s`: the dot matches line ends. -/
  dotAll : Bool
  /-- `u`: classes comprise characters outside of ASCII. -/
  unicode : Bool
  /-- `R`: `\r` ends a line, too. -/
  crlf : Bool
  /-- `x`: blanks and comments between the parts of a pattern are skipped. -/
  skipBlanks : Bool
deriving DecidableEq, Repr

namespace Flags

/-- The flags at the beginning of a pattern. -/
def initial : Flags :=
  { ignoreCase := false, multiLine := false, dotAll := false, unicode := true, crlf := false
    skipBlanks := false }

/-- The flags after one of them has been turned on or off. -/
def set (f : Flags) (letter : Char) (on : Bool) : Option Flags :=
  match letter with
  | 'i' => some { f with ignoreCase := on }
  | 'm' => some { f with multiLine := on }
  | 's' => some { f with dotAll := on }
  | 'u' => some { f with unicode := on }
  | 'R' => some { f with crlf := on }
  | 'x' => some { f with skipBlanks := on }
  | 'U' => some f
  | _ => none

/-- The class with all case variants of its characters if letters match in either case. -/
def fold (f : Flags) (cls : CharClass) : CharClass :=
  if f.ignoreCase then
    if f.unicode then .anyCase cls else .anyCaseAscii cls
  else cls

end Flags

/-- A list of flags up to the `)` or `:` that ends it: the flags, the end and the rest. No
letter and no minus may occur twice, and a minus needs a letter after it. -/
def readFlags (f : Flags) (seen : List Char) (on : Bool) :
    List Char → Option (Flags × Bool × Char × List Char)
  | [] => none
  | c :: rest =>
    if c = ')' ∨ c = ':' then
      if seen.head? = some '-' then none else some (f, seen ≠ [], c, rest)
    else if seen.contains c then none
    else if c = '-' then readFlags f (c :: seen) false rest
    else do
      let f ← f.set c on
      readFlags f (c :: seen) on rest

/-! ### Blanks -/

/-- A text after the blanks and comments at its beginning; a comment ends with its line. -/
def afterBlanks (inComment : Bool) : List Char → List Char
  | [] => []
  | c :: rest =>
    if inComment then afterBlanks (c ≠ '\n') rest
    else if Text.isBlank c then afterBlanks false rest
    else if c = '#' then afterBlanks true rest
    else c :: rest

/-- A text after the blanks and comments at its beginning if these are skipped. -/
def skip (f : Flags) (cs : List Char) : List Char :=
  if f.skipBlanks then afterBlanks false cs else cs

/-- The character after a hyphen in brackets, by which a range is told from a difference and
from the end of the class. Blanks and a comment mark are looked through. -/
def afterHyphen? (f : Flags) (cs : List Char) : Option Char :=
  if f.skipBlanks then
    match cs.dropWhile Text.isBlank with
    | '#' :: rest => (rest.dropWhile Text.isBlank).head?
    | rest => rest.head?
  else cs.head?

/-! ### Escapes -/

/-- A part of a pattern that is not composed. -/
inductive Atom where
  /-- A character; `byte` if two hexadecimal digits write it. -/
  | literal (c : Char) (byte : Bool)
  | cls (cls : CharClass)
  | assertion (a : Assertion)

/-- The character with a number that hexadecimal digits write. -/
def charOfHex? (digits : List Char) : Option Char := do
  let values ← digits.mapM Json.hexValue?
  let n := values.foldl (fun n d => n * 16 + d) 0
  if n < 0xD800 ∨ (0xE000 ≤ n ∧ n < 0x110000) then some (Char.ofNat n) else none

/-- A fixed number of hexadecimal digits, with blanks skipped after each. -/
def takeHex (f : Flags) : Nat → List Char → Option (List Char × List Char)
  | 0, cs => some ([], cs)
  | n + 1, c :: rest => do
    let _ ← Json.hexValue? c
    let (digits, rest) ← takeHex f n (skip f rest)
    return (c :: digits, rest)
  | _ + 1, [] => none

/-- The characters up to a closing brace, with blanks skipped between them. -/
def takeBraced (f : Flags) : Nat → List Char → Option (List Char × List Char)
  | 0, _ => none
  | steps + 1, cs =>
    match skip f cs with
    | [] => none
    | '}' :: rest => some ([], rest)
    | c :: rest => do
      let (taken, rest) ← takeBraced f steps rest
      return (c :: taken, rest)

/-- A character by its hexadecimal number, after the letter of the escape. -/
def readHex (f : Flags) (letter : Char) (cs : List Char) : Option (Atom × List Char) := do
  match skip f cs with
  | '{' :: rest =>
    let (digits, rest) ← takeBraced f rest.length.succ rest
    if digits = [] then none
    return (.literal (← charOfHex? digits) false, skip f rest)
  | rest =>
    let count := if letter = 'x' then 2 else if letter = 'u' then 4 else 8
    let (digits, rest) ← takeHex f count rest
    return (.literal (← charOfHex? digits) (letter = 'x'), rest)

/-- The class that the text of a property in braces stands for, and whether it is negated. -/
def bracedProperty? (text : List Char) : Option (CharClass × Bool) :=
  match Text.cutFirst '!' text with
  | some (property, '=' :: value) =>
    (CharClass.propertyValue? property value).map fun cls => (cls, true)
  | _ =>
    match Text.cutFirst ':' text with
    | some (property, value) =>
      (CharClass.propertyValue? property value).map fun cls => (cls, false)
    | none =>
      match Text.cutFirst '=' text with
      | some (property, value) =>
        (CharClass.propertyValue? property value).map fun cls => (cls, false)
      | none => (CharClass.property? text).map fun cls => (cls, false)

/-- A property of characters, after the letter of the escape. -/
def readProperty (f : Flags) (negated : Bool) (cs : List Char) : Option (Atom × List Char) := do
  if !f.unicode then none
  match skip f cs with
  | [] => none
  | '\\' :: _ => none
  | '{' :: rest =>
    let (text, rest) ← takeBraced f rest.length.succ rest
    let (cls, swapped) ← bracedProperty? text
    return (.cls (.negatedIf (negated != swapped) (f.fold cls)), rest)
  | c :: rest =>
    let cls ← CharClass.property? [c]
    return (.cls (.negatedIf negated (f.fold cls)), rest)

/-- The class of digits, blanks or word characters; outside of Unicode a negated one would
comprise single bytes and is refused. -/
def readNamedClass (f : Flags) (letter : Char) : Option CharClass :=
  let negated := letter.isUpper
  if f.unicode then
    let cls :=
      match letter.toLower with
      | 'd' => CharClass.digits
      | 's' => CharClass.blanks
      | _ => CharClass.wordChars
    some (.negatedIf negated cls)
  else if negated then none
  else
    match letter.toLower with
    | 'd' => some CharClass.asciiDigits
    | 's' => some CharClass.asciiBlanks
    | _ => some CharClass.asciiWordChars

/-- The name of a special word boundary up to its closing brace, with blanks skipped. -/
def takeBoundaryName (f : Flags) : Nat → List Char → Option (List Char × List Char)
  | 0, _ => none
  | _ + 1, [] => none
  | steps + 1, c :: rest =>
    if c = '}' then some ([], rest)
    else if c.isAlpha ∨ c = '-' then do
      let (name, rest) ← takeBoundaryName f steps (skip f rest)
      return (c :: name, rest)
    else none

/-- A word boundary, after its letter. A brace begins the name of a special boundary, unless
what follows it must be a counted repetition. -/
def readBoundary (f : Flags) : List Char → Option (Atom × List Char)
  | '{' :: rest =>
    match skip f rest with
    | [] => none
    | c :: more =>
      if c.isAlpha ∨ c = '-' then do
        let (name, rest) ← takeBoundaryName f more.length.succ.succ (c :: more)
        let a ←
          match String.ofList name with
          | "start" => some Assertion.wordStart
          | "end" => some .wordEnd
          | "start-half" => some .wordStartHalf
          | "end-half" => some .wordEndHalf
          | _ => none
        return (.assertion a, rest)
      else some (.assertion .wordBoundary, '{' :: rest)
  | rest => some (.assertion .wordBoundary, rest)

/-- Whether a character stands for itself after a backslash. -/
def isEscapable (c : Char) : Bool :=
  c.toNat < 0x80 && !c.isAlphanum && c ≠ '<' && c ≠ '>'

/-- An escape, after its backslash. -/
def readEscape (f : Flags) : List Char → Option (Atom × List Char)
  | [] => none
  | c :: rest =>
    match c with
    | 'x' => readHex f c rest
    | 'u' => readHex f c rest
    | 'U' => readHex f c rest
    | 'p' => readProperty f false rest
    | 'P' => readProperty f true rest
    | 'a' => some (.literal '\x07' false, rest)
    | 'f' => some (.literal '\x0c' false, rest)
    | 't' => some (.literal '\t' false, rest)
    | 'n' => some (.literal '\n' false, rest)
    | 'r' => some (.literal '\r' false, rest)
    | 'v' => some (.literal '\x0b' false, rest)
    | 'A' => some (.assertion .textStart, rest)
    | 'z' => some (.assertion .textEnd, rest)
    | 'b' => readBoundary f rest
    | 'B' => some (.assertion .noWordBoundary, rest)
    | '<' => some (.assertion .wordStart, rest)
    | '>' => some (.assertion .wordEnd, rest)
    | _ =>
      if ['d', 's', 'w', 'D', 'S', 'W'].contains c then
        (readNamedClass f c).map fun cls => (.cls cls, rest)
      else if isEscapable c then some (.literal c false, rest)
      else none

/-! ### Brackets -/

/-- An operation between the classes in brackets. -/
inductive ClassOp where
  | inter
  | diff
  | symmDiff

/-- A class with the number of levels that its parts are nested. -/
structure Nested (α : Type) where
  value : α
  depth : Nat

/-- The classes in brackets that have been read so far. -/
structure BracketState where
  /-- The left side of an operation and the operation. -/
  pending : Option (Nested CharClass × ClassOp)
  /-- The classes since the last operation, the latest one first. -/
  items : List (Nested CharClass)

namespace BracketState

/-- The state at the beginning of brackets. -/
def initial : BracketState := ⟨none, []⟩

/-- The state with one more class. -/
def push (s : BracketState) (cls : CharClass) (depth : Nat) : BracketState :=
  { s with items := ⟨cls, depth⟩ :: s.items }

/-- The classes since the last operation as one; several of them are one level deeper. -/
def joined (s : BracketState) : Nested CharClass :=
  match s.items with
  | [] => ⟨.empty, 0⟩
  | [item] => item
  | item :: items =>
    items.foldl
      (fun all item => ⟨.union item.value all.value, Nat.max all.depth (item.depth + 1)⟩)
      ⟨item.value, item.depth + 1⟩

/-- Everything that has been read as one class. -/
def closed (f : Flags) (s : BracketState) : Nested CharClass :=
  let right := s.joined
  match s.pending with
  | none => right
  | some (left, op) =>
    let a := f.fold left.value
    let b := f.fold right.value
    let value :=
      match op with
      | .inter => CharClass.inter a b
      | .diff => .diff a b
      | .symmDiff => .symmDiff a b
    ⟨value, Nat.max left.depth right.depth + 1⟩

/-- The state after an operation. -/
def operate (f : Flags) (s : BracketState) (op : ClassOp) : BracketState :=
  ⟨some (s.closed f, op), []⟩

end BracketState

/-- A named class such as `[:alpha:]` in brackets, after its bracket. What is no such class is
read as nested brackets instead. -/
def readAsciiClass : List Char → Option (CharClass × List Char)
  | ':' :: rest =>
    let (negated, rest) :=
      match rest with
      | '^' :: rest => (true, rest)
      | _ => (false, rest)
    match Text.cutFirst ':' rest with
    | some (name, ']' :: rest) =>
      (CharClass.asciiNamed? (String.ofList name)).map fun cls => (.negatedIf negated cls, rest)
    | _ => none
  | _ => none

/-- A character in brackets, which outside of Unicode has to be one of ASCII. -/
def bracketChar? (f : Flags) : Atom → Option Char
  | .literal c _ => if f.unicode ∨ c.toNat < 0x80 then some c else none
  | _ => none

/-- An item in brackets. -/
def readBracketItem (f : Flags) : List Char → Option (Atom × List Char)
  | [] => none
  | '\\' :: rest => readEscape f rest
  | c :: rest => some (.literal c false, rest)

/-- An item in brackets as a class. -/
def itemClass? (f : Flags) (a : Atom) : Option CharClass :=
  match a with
  | .cls cls => some cls
  | _ => (bracketChar? f a).map CharClass.only

/-- An item or a range in brackets. -/
def readBracketRange (f : Flags) (cs : List Char) : Option (CharClass × List Char) := do
  let (first, rest) ← readBracketItem f cs
  match skip f rest with
  | [] => none
  | '-' :: rest =>
    let next := afterHyphen? f rest
    if next = some ']' ∨ next = some '-' then
      return (← itemClass? f first, '-' :: rest)
    let (last, rest) ← readBracketItem f (skip f rest)
    let first ← bracketChar? f first
    let last ← bracketChar? f last
    if first ≤ last then some (.ranges [(first.toNat, last.toNat)], rest) else none
  | rest => return (← itemClass? f first, rest)

/-- Hyphens at the beginning of brackets stand for themselves. -/
def leadingHyphens (f : Flags) : Nat → BracketState → List Char → BracketState × List Char
  | steps + 1, s, '-' :: rest => leadingHyphens f steps (s.push (.only '-') 0) (skip f rest)
  | _, s, cs => (s, cs)

/-- The beginning of brackets, after the opening one: whether the class is negated, and the
characters that stand for themselves at this place. -/
def openBracket (f : Flags) (cs : List Char) : Bool × BracketState × List Char :=
  let (negated, cs) :=
    match skip f cs with
    | '^' :: rest => (true, skip f rest)
    | cs => (false, cs)
  let (s, cs) := leadingHyphens f cs.length .initial cs
  match s.items, cs with
  | [], ']' :: rest => (negated, s.push (.only ']') 0, skip f rest)
  | _, _ => (negated, s, cs)

/-- The class of closed brackets. Outside of Unicode a class with characters that are not of
ASCII would comprise single bytes and is refused. -/
def closeBracket? (f : Flags) (negated : Bool) (s : BracketState) : Option (Nested CharClass) :=
  let inner := s.closed f
  let cls := CharClass.negatedIf negated (f.fold inner.value)
  if !f.unicode && cls.contains '\x80' then none else some ⟨cls, inner.depth + 1⟩

/-- The class in brackets from some state on, and what follows the closing bracket. -/
def readBracket (f : Flags) : Nat → Bool → BracketState → List Char →
    Option (Nested CharClass × List Char)
  | 0, _, _, _ => none
  | steps + 1, negated, s, cs =>
    match skip f cs with
    | [] => none
    | '[' :: rest =>
      match readAsciiClass rest with
      | some (cls, rest) => readBracket f steps negated (s.push cls 0) rest
      | none => do
        let (innerNegated, inner, innerRest) := openBracket f rest
        let (cls, rest) ← readBracket f steps innerNegated inner innerRest
        readBracket f steps negated (s.push cls.value cls.depth) rest
    | ']' :: rest => do
      let cls ← closeBracket? f negated s
      return (cls, rest)
    | '&' :: '&' :: rest => readBracket f steps negated (s.operate f .inter) rest
    | '-' :: '-' :: rest => readBracket f steps negated (s.operate f .diff) rest
    | '~' :: '~' :: rest => readBracket f steps negated (s.operate f .symmDiff) rest
    | cs => do
      let (cls, rest) ← readBracketRange f cs
      readBracket f steps negated (s.push cls 0) rest

/-! ### Repetitions -/

/-- A count, with blanks before, between and after its digits; it has to fit 32 bits. -/
def takeCount? (f : Flags) (cs : List Char) : Option Nat × List Char :=
  let rec digits : Nat → List Char → List Char × List Char
    | steps + 1, c :: rest =>
      if c.isDigit then
        let (taken, rest) := digits steps (skip f rest)
        (c :: taken, rest)
      else ([], c :: rest)
    | _, cs => ([], cs)
  let (taken, rest) := digits cs.length (cs.dropWhile Text.isBlank)
  let n := Json.decimalValue taken
  (if taken = [] ∨ 0x100000000 ≤ n then none else some n, skip f (rest.dropWhile Text.isBlank))

/-- The bounds of a counted repetition, after its opening brace. -/
def readCounts (f : Flags) (cs : List Char) : Option (Nat × Option Nat × List Char) := do
  if skip f cs = [] then none
  let (min, rest) := takeCount? f (skip f cs)
  let min ← min
  match rest with
  | '}' :: rest => return (min, some min, rest)
  | ',' :: rest =>
    match skip f rest with
    | '}' :: rest => return (min, none, rest)
    | [] => none
    | rest =>
      let (max, rest) := takeCount? f rest
      let max ← max
      match rest with
      | '}' :: rest => if min ≤ max then some (min, some max, rest) else none
      | _ => none
  | _ => none

/-- What follows the mark for the shortest match, if it is there. -/
def afterLazyMark : List Char → List Char
  | '?' :: rest => rest
  | rest => rest

/-! ### Groups and alternatives -/

/-- A part of a sequence. -/
structure Part where
  pattern : Nested Pattern
  /-- Whether the part can be repeated; a change of flags cannot. -/
  repeatable : Bool

/-- Parts one after another, the latest first; several of them are one level deeper. -/
def sequence : List Part → Nested Pattern
  | [] => ⟨.empty, 0⟩
  | [part] => part.pattern
  | part :: parts =>
    parts.foldl
      (fun all part =>
        ⟨.seq part.pattern.value all.value, Nat.max all.depth (part.pattern.depth + 1)⟩)
      ⟨part.pattern.value, part.pattern.depth + 1⟩

/-- Alternatives, the last first; several of them are one level deeper. -/
def alternatives (last : Nested Pattern) : List (Nested Pattern) → Nested Pattern
  | [] => last
  | branches =>
    branches.foldl
      (fun all branch => ⟨.alt branch.value all.value, Nat.max all.depth (branch.depth + 1)⟩)
      ⟨last.value, last.depth + 1⟩

/-- The parts of a sequence with the last one repeated. -/
def repeatLast (min : Nat) (max : Option Nat) : List Part → Option (List Part)
  | part :: parts =>
    if part.repeatable then
      some (⟨⟨.loop part.pattern.value min max, part.pattern.depth + 1⟩, true⟩ :: parts)
    else none
  | [] => none

/-- The pattern of an atom. Outside of Unicode a byte that is no character of ASCII is
refused. -/
def atomPattern? (f : Flags) : Atom → Option Pattern
  | .literal c byte =>
    if !f.unicode && byte && c.toNat ≥ 0x80 then none
    else
      let folds := f.unicode || c.toNat < 0x80
      some (.char (if folds then f.fold (.only c) else .only c))
  | .cls cls => some (.char cls)
  | .assertion a => some (.assertion (!f.unicode) a)

/-- The pattern of a dot. -/
def dot? (f : Flags) : Option Pattern :=
  if !f.unicode then none
  else if f.dotAll then some (.char (.complement .empty))
  else if f.crlf then some (.char (.complement (.ranges [(10, 10), (13, 13)])))
  else some (.char (.complement (.only '\n')))

/-- The assertion at the beginning of a text or line. -/
def caret (f : Flags) : Assertion :=
  if f.multiLine then if f.crlf then .crlfLineStart else .lineStart else .textStart

/-- The assertion at the end of a text or line. -/
def dollar (f : Flags) : Assertion :=
  if f.multiLine then if f.crlf then .crlfLineEnd else .lineEnd else .textEnd

/-- An atom outside of brackets. -/
def readAtom (f : Flags) : List Char → Option (Pattern × List Char)
  | [] => none
  | '\\' :: rest => do
    let (a, rest) ← readEscape f rest
    return (← atomPattern? f a, rest)
  | '.' :: rest => (dot? f).map (·, rest)
  | '^' :: rest => some (.assertion false (caret f), rest)
  | '$' :: rest => some (.assertion false (dollar f), rest)
  | c :: rest => (atomPattern? f (.literal c false)).map (·, rest)

/-- The name of a group up to its closing angle bracket. -/
def readName (cs : List Char) : Option (List Char × List Char) :=
  match Text.cutFirst '>' cs with
  | some (c :: name, rest) =>
    if CharClass.isNameStart c && name.all CharClass.isNameChar then some (c :: name, rest)
    else none
  | _ => none

/-- A kind of groups. -/
inductive GroupKind where
  /-- The match of the group is not kept. -/
  | plain
  /-- The match of the group is kept, perhaps under a name. -/
  | kept (name : Option (List Char))

namespace GroupKind

/-- The pattern of a group of a kind. -/
def pattern (kind : GroupKind) (body : Pattern) : Pattern :=
  match kind with
  | .plain => body
  | .kept _ => .capture body

/-- The names of groups with that of one more, unless it is there already. -/
def addName? (kind : GroupKind) (names : List (List Char)) : Option (List (List Char)) :=
  match kind with
  | .kept (some name) => if names.contains name then none else some (name :: names)
  | _ => some names

end GroupKind

/-- What an opening parenthesis begins. -/
inductive Opening where
  /-- A group with flags of its own. -/
  | group (f : Flags) (kind : GroupKind) (rest : List Char)
  /-- A change of flags up to the end of the group around it. -/
  | flags (f : Flags) (rest : List Char)

/-- The beginning of a group, after its parenthesis. -/
def readOpening (f : Flags) (cs : List Char) : Option Opening :=
  match skip f cs with
  | '?' :: '=' :: _ => none
  | '?' :: '!' :: _ => none
  | '?' :: '<' :: '=' :: _ => none
  | '?' :: '<' :: '!' :: _ => none
  | '?' :: 'P' :: '<' :: rest => do
    let (name, rest) ← readName rest
    return .group f (.kept (some name)) rest
  | '?' :: '<' :: rest => do
    let (name, rest) ← readName rest
    return .group f (.kept (some name)) rest
  | '?' :: rest => do
    let (inner, any, finish, rest) ← readFlags f [] true rest
    if finish = ':' then some (.group inner .plain rest)
    else if any then some (.flags inner rest)
    else none
  | rest => some (.group f (.kept none) rest)

/-- The pattern up to the end of a group or of the text, the names of groups that have occurred
by then, and the rest. The branches and parts before the current place are given, the latest
first. -/
def readBranches : Nat → Flags → List (List Char) → List (Nested Pattern) → List Part →
    List Char → Option (Nested Pattern × List (List Char) × List Char)
  | 0, _, _, _, _, _ => none
  | steps + 1, f, names, branches, parts, cs =>
    match skip f cs with
    | [] => some (alternatives (sequence parts) branches, names, [])
    | ')' :: rest => some (alternatives (sequence parts) branches, names, ')' :: rest)
    | '|' :: rest => readBranches steps f names (sequence parts :: branches) [] rest
    | '(' :: rest => do
      match ← readOpening f rest with
      | .flags f rest =>
        readBranches steps f names branches (⟨⟨.empty, 0⟩, false⟩ :: parts) rest
      | .group inner kind rest =>
        let names ← kind.addName? names
        let (body, names, rest) ← readBranches steps inner names [] [] rest
        match rest with
        | ')' :: rest =>
          let group : Nested Pattern := ⟨kind.pattern body.value, body.depth + 1⟩
          readBranches steps f names branches (⟨group, true⟩ :: parts) rest
        | _ => none
    | '[' :: rest => do
      let (negated, s, rest) := openBracket f rest
      let (cls, rest) ← readBracket f rest.length.succ negated s rest
      readBranches steps f names branches (⟨⟨.char cls.value, cls.depth⟩, true⟩ :: parts) rest
    | '?' :: rest => do
      let parts ← repeatLast 0 (some 1) parts
      readBranches steps f names branches parts (afterLazyMark rest)
    | '*' :: rest => do
      let parts ← repeatLast 0 none parts
      readBranches steps f names branches parts (afterLazyMark rest)
    | '+' :: rest => do
      let parts ← repeatLast 1 none parts
      readBranches steps f names branches parts (afterLazyMark rest)
    | '{' :: rest => do
      let (min, max, rest) ← readCounts f rest
      let parts ← repeatLast min max parts
      readBranches steps f names branches parts (afterLazyMark (skip f rest))
    | cs => do
      let (pattern, rest) ← readAtom f cs
      readBranches steps f names branches (⟨⟨pattern, 0⟩, true⟩ :: parts) rest

/-- The deepest nesting that a pattern may have. -/
def depthLimit : Nat := 250

/-- The pattern that a text writes. -/
def parse? (text : String) : Option Pattern :=
  let cs := text.toList
  match readBranches cs.length.succ .initial [] [] [] cs with
  | some (pattern, _, []) =>
    if pattern.depth ≤ depthLimit ∧ pattern.value.fits then some pattern.value
    else none
  | _ => none

end ClassCensus.Pattern
