import ClassCensus.Json.Basic

/-!
# JSON tokens

A JSON text is cut into tokens; blanks between tokens do not matter. Strings are read in two
steps: first the characters and escapes between the quotes, then the text that they stand for.
-/

namespace ClassCensus.Json

/-! ### Characters -/

/-- The blanks that may stand between tokens. -/
def isSpace (c : Char) : Bool := c = ' ' || c = '\n' || c = '\t' || c = '\r'

/-- The value of a hexadecimal digit. -/
def hexValue? (c : Char) : Option Nat :=
  if '0' ≤ c ∧ c ≤ '9' then some (c.toNat - 48)
  else if 'a' ≤ c ∧ c ≤ 'f' then some (c.toNat - 87)
  else if 'A' ≤ c ∧ c ≤ 'F' then some (c.toNat - 55)
  else none

/-- The number that four hexadecimal digits write. -/
def hexUnit? (a b c d : Char) : Option Nat := do
  let a ← hexValue? a
  let b ← hexValue? b
  let c ← hexValue? c
  let d ← hexValue? d
  return ((a * 16 + b) * 16 + c) * 16 + d

/-! ### Strings -/

/-- A character of a string, or an escape for a unit of UTF-16. -/
inductive StringPart where
  | plain (c : Char)
  | unit (value : Nat)
deriving DecidableEq, Repr

/-- The character that a one-letter escape stands for. -/
def escaped? : Char → Option Char
  | '"' => some '"'
  | '\\' => some '\\'
  | '/' => some '/'
  | 'b' => some '\x08'
  | 'f' => some '\x0c'
  | 'n' => some '\n'
  | 'r' => some '\r'
  | 't' => some '\t'
  | _ => none

/-- The parts of a string up to its closing quote, and what follows the quote. -/
def scanString : List Char → Option (List StringPart × List Char)
  | [] => none
  | '"' :: rest => some ([], rest)
  | '\\' :: 'u' :: a :: b :: c :: d :: rest => do
    let unit ← hexUnit? a b c d
    let (parts, rest) ← scanString rest
    return (.unit unit :: parts, rest)
  | '\\' :: e :: rest => do
    let c ← escaped? e
    let (parts, rest) ← scanString rest
    return (.plain c :: parts, rest)
  | c :: rest => do
    if c.toNat < 0x20 ∨ c = '\\' then none
    let (parts, rest) ← scanString rest
    return (.plain c :: parts, rest)

/-- The text of a string: two units that form a surrogate pair are one character, and a unit
that is half of a pair without the other half leaves no text. -/
def textOf : List StringPart → Option (List Char)
  | [] => some []
  | .plain c :: rest => (textOf rest).map (c :: ·)
  | .unit high :: .unit low :: rest =>
    if 0xD800 ≤ high ∧ high < 0xDC00 then
      if 0xDC00 ≤ low ∧ low < 0xE000 then
        (textOf rest).map
          (Char.ofNat (0x10000 + (high - 0xD800) * 0x400 + (low - 0xDC00)) :: ·)
      else none
    else if 0xDC00 ≤ high ∧ high < 0xE000 then none
    else (textOf (.unit low :: rest)).map (Char.ofNat high :: ·)
  | .unit n :: rest =>
    if 0xD800 ≤ n ∧ n < 0xE000 then none else (textOf rest).map (Char.ofNat n :: ·)

/-! ### Numbers -/

/-- The value of a decimal digit. -/
def digitValue (c : Char) : Nat := c.toNat - 48

/-- The number that a run of decimal digits writes. -/
def decimalValue (digits : List Char) : Nat :=
  digits.foldl (fun n c => n * 10 + digitValue c) 0

/-- The digits at the beginning of a text, at least one, and what follows them. -/
def takeDigits? (cs : List Char) : Option (List Char × List Char) :=
  match cs.takeWhile Char.isDigit with
  | [] => none
  | digits => some (digits, cs.dropWhile Char.isDigit)

/-- The integer part of a number: a zero, or digits that do not begin with one. -/
def takeInteger? : List Char → Option (List Char × List Char)
  | '0' :: rest => some (['0'], rest)
  | cs => takeDigits? cs

/-- The fraction of a number, if there is one; a point without digits is no number. -/
def takeFraction? : List Char → Option (List Char × List Char)
  | '.' :: rest => do
    let (digits, rest) ← takeDigits? rest
    return ('.' :: digits, rest)
  | cs => some ([], cs)

/-- The exponent of a number, if there is one; a mark without digits is no number. -/
def takeExponent? : List Char → Option (List Char × List Char)
  | c :: rest =>
    if c = 'e' ∨ c = 'E' then
      match rest with
      | s :: tail =>
        if s = '+' ∨ s = '-' then do
          let (digits, rest) ← takeDigits? tail
          return (c :: s :: digits, rest)
        else do
          let (digits, rest) ← takeDigits? (s :: tail)
          return (c :: digits, rest)
      | [] => none
    else some ([], c :: rest)
  | [] => some ([], [])

/-- The number at the beginning of a text, and what follows it. -/
def scanNumber? (cs : List Char) : Option (Json × List Char) := do
  let (negative, body) :=
    match cs with
    | '-' :: rest => (true, rest)
    | cs => (false, cs)
  let (whole, rest) ← takeInteger? body
  let (fraction, rest) ← takeFraction? rest
  let (exponent, rest) ← takeExponent? rest
  let sign := if negative then ['-'] else []
  if fraction = [] ∧ exponent = [] ∧ ¬ (negative = true ∧ whole = ['0']) then
    let n : Int := decimalValue whole
    return (.integer (if negative then -n else n), rest)
  else
    return (.real (String.ofList (sign ++ whole ++ fraction ++ exponent)), rest)

/-! ### Tokens -/

/-- A token: a mark, or a value that is not an array or an object. -/
inductive Token where
  | beginArray
  | endArray
  | beginObject
  | endObject
  | comma
  | colon
  | scalar (value : Json)
deriving Repr, Inhabited

/-- The first token of a text that does not begin with a blank, and what follows it. -/
def scanToken? : List Char → Option (Token × List Char)
  | '[' :: rest => some (.beginArray, rest)
  | ']' :: rest => some (.endArray, rest)
  | '{' :: rest => some (.beginObject, rest)
  | '}' :: rest => some (.endObject, rest)
  | ',' :: rest => some (.comma, rest)
  | ':' :: rest => some (.colon, rest)
  | 'n' :: 'u' :: 'l' :: 'l' :: rest => some (.scalar .null, rest)
  | 't' :: 'r' :: 'u' :: 'e' :: rest => some (.scalar (.bool true), rest)
  | 'f' :: 'a' :: 'l' :: 's' :: 'e' :: rest => some (.scalar (.bool false), rest)
  | '"' :: rest => do
    let (parts, rest) ← scanString rest
    return (.scalar (.string ((textOf parts).map String.ofList)), rest)
  | cs => do
    let (number, rest) ← scanNumber? cs
    return (.scalar number, rest)

/-- The tokens of a text; every token takes at least one character, so the length of the text
bounds the number of steps. -/
def scanTokens : Nat → List Char → Option (List Token)
  | _, [] => some []
  | 0, _ :: _ => none
  | steps + 1, c :: cs =>
    if isSpace c then scanTokens steps cs
    else do
      let (token, rest) ← scanToken? (c :: cs)
      let tokens ← scanTokens steps rest
      return token :: tokens

/-- The tokens of a text, unless some part of it is no token. -/
def tokens? (cs : List Char) : Option (List Token) := scanTokens cs.length cs

end ClassCensus.Json
