import ClassCensus.Unicode.Category
import ClassCensus.Unicode.Digit
import ClassCensus.Unicode.Property
import ClassCensus.Unicode.Script
import ClassCensus.Unicode.Spans
import ClassCensus.Text.Blank

/-!
# Classes of characters

The classes that a pattern names, with the operations on them, and the classes that have a name
of their own: digits, blanks, word characters, and the properties of characters.
-/

namespace ClassCensus

/-- A class of characters. -/
inductive CharClass where
  | ranges (rs : Unicode.Ranges)
  | complement (a : CharClass)
  | union (a b : CharClass)
  | inter (a b : CharClass)
  | diff (a b : CharClass)
  | symmDiff (a b : CharClass)
  /-- All characters that differ in case only from one in the class. -/
  | anyCase (a : CharClass)
  /-- As `anyCase`, for the letters of ASCII only. -/
  | anyCaseAscii (a : CharClass)
deriving Repr, Inhabited

/-- The letters of ASCII that differ from a character in case only, and the character. -/
def asciiCaseVariants (c : Char) : List Char :=
  if c.isUpper then [c, Char.ofNat (c.toNat + 32)]
  else if c.isLower then [c, Char.ofNat (c.toNat - 32)]
  else [c]

namespace CharClass

/-- Whether a character is in a class. -/
def contains : CharClass → Char → Bool
  | .ranges rs, c => rs.contains c
  | .complement a, c => !a.contains c
  | .union a b, c => a.contains c || b.contains c
  | .inter a b, c => a.contains c && b.contains c
  | .diff a b, c => a.contains c && !b.contains c
  | .symmDiff a b, c => a.contains c != b.contains c
  | .anyCase a, c => (Unicode.caseVariants c).any fun d => a.contains d
  | .anyCaseAscii a, c => (asciiCaseVariants c).any fun d => a.contains d

/-- The spans of a class. -/
def spans : CharClass → Unicode.Ranges
  | .ranges rs => rs.spans
  | .complement a => a.spans.gaps
  | .union a b => Unicode.Ranges.spans (a.spans ++ b.spans)
  | .inter a b => a.spans.common b.spans
  | .diff a b => a.spans.common b.spans.gaps
  | .symmDiff a b =>
    Unicode.Ranges.spans (a.spans.common b.spans.gaps ++ b.spans.common a.spans.gaps)
  | .anyCase a => a.spans.withVariants
  | .anyCaseAscii a =>
    let s := a.spans
    let letters := (s.common [(0x41, 0x5A), (0x61, 0x7A)]).numbers
    let other (n : Nat) : Nat := if n < 0x60 then n + 32 else n - 32
    Unicode.Ranges.spans (s ++ letters.map fun n => (other n, other n))

/-- The class without characters. -/
def empty : CharClass := .ranges []

/-- The class of one character. -/
def only (c : Char) : CharClass := .ranges [(c.toNat, c.toNat)]

/-- A class, or all characters outside of it. -/
def negatedIf (negated : Bool) (a : CharClass) : CharClass :=
  if negated then .complement a else a

/-! ### Named classes -/

/-- The decimal digits. -/
def digits : CharClass := .ranges Unicode.decimalDigits

/-- The blanks. -/
def blanks : CharClass :=
  .ranges [(9, 13), (0x20, 0x20), (0x85, 0x85), (0xA0, 0xA0), (0x1680, 0x1680), (0x2000, 0x200A),
    (0x2028, 0x2029), (0x202F, 0x202F), (0x205F, 0x205F), (0x3000, 0x3000)]

/-- The word characters: letters, marks, decimal digits, connectors and joiners. -/
def wordChars : CharClass :=
  .ranges (Unicode.decodeRanges Unicode.alphabeticText ++
    Unicode.categoryRanges ["Mn", "Mc", "Me", "Nd", "Pc"] ++ [(0x200C, 0x200D)])

/-- The digits of ASCII. -/
def asciiDigits : CharClass := .ranges [(0x30, 0x39)]

/-- The blanks of ASCII. -/
def asciiBlanks : CharClass := .ranges [(9, 13), (0x20, 0x20)]

/-- The word characters of ASCII. -/
def asciiWordChars : CharClass :=
  .ranges [(0x30, 0x39), (0x41, 0x5A), (0x5F, 0x5F), (0x61, 0x7A)]

/-- The class with a name between colons in brackets, as `[:alpha:]`. -/
def asciiNamed? : String → Option CharClass
  | "alnum" => some (.ranges [(0x30, 0x39), (0x41, 0x5A), (0x61, 0x7A)])
  | "alpha" => some (.ranges [(0x41, 0x5A), (0x61, 0x7A)])
  | "ascii" => some (.ranges [(0, 0x7F)])
  | "blank" => some (.ranges [(9, 9), (0x20, 0x20)])
  | "cntrl" => some (.ranges [(0, 0x1F), (0x7F, 0x7F)])
  | "digit" => some asciiDigits
  | "graph" => some (.ranges [(0x21, 0x7E)])
  | "lower" => some (.ranges [(0x61, 0x7A)])
  | "print" => some (.ranges [(0x20, 0x7E)])
  | "punct" => some (.ranges [(0x21, 0x2F), (0x3A, 0x40), (0x5B, 0x60), (0x7B, 0x7E)])
  | "space" => some asciiBlanks
  | "upper" => some (.ranges [(0x41, 0x5A)])
  | "word" => some asciiWordChars
  | "xdigit" => some (.ranges [(0x30, 0x39), (0x41, 0x46), (0x61, 0x66)])
  | _ => none

/-! ### Properties -/

/-- A name of a property or of a value as it is compared: in lower case, without separators and
characters outside of ASCII, and without an `is` at its beginning. -/
def symbolicName (name : List Char) : List Char :=
  let reduce (cs : List Char) : List Char :=
    (cs.filter fun c => c.toNat < 0x80 && c ≠ ' ' && c ≠ '_' && c ≠ '-').map Char.toLower
  match name with
  | i :: s :: rest =>
    if i.toLower = 'i' ∧ s.toLower = 's' then
      let short := reduce rest
      if short = ['c'] then ['i', 's', 'c'] else short
    else reduce name
  | _ => reduce name

/-- The class that a name alone stands for: a binary property, a category or a script. Three
abbreviations of categories are never taken for properties. -/
def property? (name : List Char) : Option CharClass :=
  let name := String.ofList (symbolicName name)
  let binary := if ["cf", "sc", "lc"].contains name then none else Unicode.propertyNamed? name
  (binary <|> Unicode.categoryNamed? name <|> Unicode.scriptNamed? name).map .ranges

/-- The class that a property and a value stand for. -/
def propertyValue? (property value : List Char) : Option CharClass :=
  let property := String.ofList (symbolicName property)
  let value := String.ofList (symbolicName value)
  if property = "gc" ∨ property = "generalcategory" then
    (Unicode.categoryNamed? value).map .ranges
  else if property = "sc" ∨ property = "script" then (Unicode.scriptNamed? value).map .ranges
  else none

/-- Whether a character may begin the name of a group. -/
def isNameStart (c : Char) : Bool :=
  c = '_' || c.isAlpha ||
    (c.toNat ≥ 0x80 && (Unicode.decodeRanges Unicode.alphabeticText).contains c)

/-- Whether a character may stand in the name of a group after its beginning. -/
def isNameChar (c : Char) : Bool :=
  isNameStart c || c = '.' || c = '[' || c = ']' || c.isDigit ||
    (c.toNat ≥ 0x80 && (Unicode.categoryRanges ["Nd", "Nl", "No"]).contains c)

end CharClass

end ClassCensus
