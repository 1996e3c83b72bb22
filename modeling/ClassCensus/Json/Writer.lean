import ClassCensus.Json.Basic
import ClassCensus.Text.Pieces

/-!
# Writing JSON

A value is written either compactly, without any blank, or with one item or member on a line.
In a string only the quote, the backslash and the characters below U+0020 are escaped.
-/

namespace ClassCensus.Json

/-! ### Strings -/

/-- A hexadecimal digit in lower case. -/
def hexDigit (n : Nat) : Char :=
  if n < 10 then Char.ofNat (48 + n) else Char.ofNat (87 + n)

/-- A character as it stands in a string. -/
def escape (c : Char) : List Char :=
  if c = '"' then ['\\', '"']
  else if c = '\\' then ['\\', '\\']
  else if c = '\x08' then ['\\', 'b']
  else if c = '\t' then ['\\', 't']
  else if c = '\n' then ['\\', 'n']
  else if c = '\x0c' then ['\\', 'f']
  else if c = '\r' then ['\\', 'r']
  else if c.toNat < 0x20 then
    ['\\', 'u', '0', '0', hexDigit (c.toNat / 16), hexDigit (c.toNat % 16)]
  else [c]

/-- A string in quotes. A string without text is written as the half of a pair that it is. -/
def quote : Option String → List Char
  | some s => '"' :: (s.toList.flatMap escape ++ ['"'])
  | none => ['"', '\\', 'u', 'd', '8', '0', '0', '"']

/-- A value that is not an array or an object. -/
def writeScalar : Json → List Char
  | .null => ['n', 'u', 'l', 'l']
  | .bool true => ['t', 'r', 'u', 'e']
  | .bool false => ['f', 'a', 'l', 's', 'e']
  | .integer n => (toString n).toList
  | .real text => text.toList
  | .string text => quote text
  | .array _ => []
  | .object _ => []

/-! ### Compact text -/

mutual

/-- A value without any blank. -/
def compactChars : Json → List Char
  | .array items => '[' :: (compactItems items ++ [']'])
  | .object members => '\x7b' :: (compactMembers members ++ ['\x7d'])
  | .null => writeScalar .null
  | .bool b => writeScalar (.bool b)
  | .integer n => writeScalar (.integer n)
  | .real text => writeScalar (.real text)
  | .string text => writeScalar (.string text)

/-- The items of an array with commas between them. -/
def compactItems : List Json → List Char
  | [] => []
  | [item] => compactChars item
  | item :: next :: rest => compactChars item ++ ',' :: compactItems (next :: rest)

/-- The members of an object with commas between them. -/
def compactMembers : List (Option String × Json) → List Char
  | [] => []
  | [(key, value)] => quote key ++ ':' :: compactChars value
  | (key, value) :: next :: rest =>
    quote key ++ ':' :: (compactChars value ++ ',' :: compactMembers (next :: rest))

end

/-- The text of a value without any blank. -/
def compact (value : Json) : String := String.ofList (compactChars value)

/-! ### One item on a line -/

/-- A line break and the indentation of a level. -/
def newline (indent : List Char) (level : Nat) : List Char :=
  '\n' :: (List.replicate level indent).flatten

mutual

/-- A value at a level of nesting. Empty arrays and objects stay on their line. -/
def prettyChars (indent : List Char) (level : Nat) : Json → List Char
  | .array [] => ['[', ']']
  | .array (item :: items) =>
    '[' :: (prettyItems indent (level + 1) (item :: items) ++ newline indent level ++ [']'])
  | .object [] => ['\x7b', '\x7d']
  | .object (member :: members) =>
    '\x7b' ::
      (prettyMembers indent (level + 1) (member :: members) ++ newline indent level ++ ['\x7d'])
  | .null => writeScalar .null
  | .bool b => writeScalar (.bool b)
  | .integer n => writeScalar (.integer n)
  | .real text => writeScalar (.real text)
  | .string text => writeScalar (.string text)

/-- The items of an array, each on a line of its own. -/
def prettyItems (indent : List Char) (level : Nat) : List Json → List Char
  | [] => []
  | [item] => newline indent level ++ prettyChars indent level item
  | item :: next :: rest =>
    newline indent level ++
      (prettyChars indent level item ++ ',' :: prettyItems indent level (next :: rest))

/-- The members of an object, each on a line of its own. -/
def prettyMembers (indent : List Char) (level : Nat) : List (Option String × Json) → List Char
  | [] => []
  | [(key, value)] =>
    newline indent level ++ (quote key ++ ':' :: ' ' :: prettyChars indent level value)
  | (key, value) :: next :: rest =>
    newline indent level ++
      (quote key ++ ':' :: ' ' ::
        (prettyChars indent level value ++ ',' :: prettyMembers indent level (next :: rest)))

end

/-- The text of a value with one item or member on a line. -/
def pretty (indent : String) (value : Json) : String :=
  String.ofList (prettyChars indent.toList 0 value)

end ClassCensus.Json
