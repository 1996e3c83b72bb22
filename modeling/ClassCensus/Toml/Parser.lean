import ClassCensus.Json.Token
import ClassCensus.Toml.Basic
import ClassCensus.Text.Pieces

/-!
# The notation of TOML

How the lines of a TOML 1.0 document are read: keys, strings, numbers, dates, arrays and inline
tables. Values may be nested 79 levels deep, and a dotted key may have 79 parts.
-/

namespace ClassCensus.Toml

open Json (takeDigits? hexValue? decimalValue)

/-! ### Blanks, comments and line ends -/

/-- A text after spaces and tabs. -/
def skipSpace (cs : List Char) : List Char := cs.dropWhile fun c => c = ' ' || c = '\t'

/-- What follows a line end. -/
def afterNewline? : List Char → Option (List Char)
  | '\n' :: rest => some rest
  | '\r' :: '\n' :: rest => some rest
  | _ => none

/-- Whether a character may stand in a comment: all but the control characters, and the tab. -/
def isPrintable (c : Char) : Bool := c = '\t' || (c.toNat ≥ 0x20 && c.toNat ≠ 0x7F)

/-- A text after a comment, if one begins it. -/
def skipComment : List Char → List Char
  | '#' :: rest => rest.dropWhile isPrintable
  | cs => cs

/-- What follows the end of a line, before which spaces and a comment may stand. -/
def afterLine? (cs : List Char) : Option (List Char) :=
  match skipComment (skipSpace cs) with
  | [] => some []
  | rest => afterNewline? rest

/-- A text after spaces, line ends and whole comments, as they may stand in an array. -/
def skipFiller : Nat → List Char → Option (List Char)
  | 0, _ => none
  | steps + 1, cs =>
    match skipSpace cs with
    | '#' :: rest => do
      let rest ← afterNewline? (skipComment ('#' :: rest))
      skipFiller steps rest
    | '\n' :: rest => skipFiller steps rest
    | '\r' :: rest => do
      let rest ← afterNewline? ('\r' :: rest)
      skipFiller steps rest
    | rest => some rest

/-! ### Strings -/

/-- The character with a number that hexadecimal digits write. -/
def charOfHex? (digits : List Char) : Option Char := do
  let values ← digits.mapM hexValue?
  let n := values.foldl (fun n d => n * 16 + d) 0
  if n < 0xD800 ∨ (0xE000 ≤ n ∧ n < 0x110000) then some (Char.ofNat n) else none

/-- The character of an escape, after its backslash, and what follows it. -/
def readEscape : List Char → Option (Char × List Char)
  | 'b' :: rest => some ('\x08', rest)
  | 't' :: rest => some ('\t', rest)
  | 'n' :: rest => some ('\n', rest)
  | 'f' :: rest => some ('\x0c', rest)
  | 'r' :: rest => some ('\r', rest)
  | '"' :: rest => some ('"', rest)
  | '\\' :: rest => some ('\\', rest)
  | 'u' :: rest =>
    if rest.length < 4 then none else (charOfHex? (rest.take 4)).map fun c => (c, rest.drop 4)
  | 'U' :: rest =>
    if rest.length < 8 then none else (charOfHex? (rest.take 8)).map fun c => (c, rest.drop 8)
  | _ => none

/-- A string in double quotes, after the opening one. -/
def readBasic : Nat → List Char → Option (List Char × List Char)
  | 0, _ => none
  | _ + 1, [] => none
  | _ + 1, '"' :: rest => some ([], rest)
  | steps + 1, '\\' :: rest => do
    let (c, rest) ← readEscape rest
    let (text, rest) ← readBasic steps rest
    return (c :: text, rest)
  | steps + 1, c :: rest => do
    if !isPrintable c then none
    let (text, rest) ← readBasic steps rest
    return (c :: text, rest)

/-- A string in single quotes, after the opening one. -/
def readLiteral : List Char → Option (List Char × List Char)
  | [] => none
  | '\'' :: rest => some ([], rest)
  | c :: rest => do
    if !isPrintable c then none
    let (text, rest) ← readLiteral rest
    return (c :: text, rest)

/-- The number of quotes at the beginning of a text, at most five, and what follows them. -/
def takeQuotes (quote : Char) : Nat → List Char → Nat × List Char
  | limit + 1, c :: rest =>
    if c = quote then
      let (n, rest) := takeQuotes quote limit rest
      (n + 1, rest)
    else (0, c :: rest)
  | _, cs => (0, cs)

/-- A text after spaces, tabs and line ends. -/
def skipBlankLines : List Char → List Char
  | ' ' :: rest => skipBlankLines rest
  | '\t' :: rest => skipBlankLines rest
  | '\n' :: rest => skipBlankLines rest
  | '\r' :: '\n' :: rest => skipBlankLines rest
  | rest => rest

/-- What follows a line break that a backslash takes away, after the backslash: all blanks and
line ends that come next. -/
def afterFolded? (cs : List Char) : Option (List Char) :=
  (afterNewline? (skipSpace cs)).map skipBlankLines

/-- A string between three quotes on each side, after the opening ones. One or two quotes are
part of the text, also right before the closing ones. Line ends are written as `\n`. -/
def readBlock (quote : Char) : Nat → List Char → Option (List Char × List Char)
  | 0, _ => none
  | _ + 1, [] => none
  | steps + 1, c :: rest =>
    if c = quote then do
      let (n, after) := takeQuotes quote 5 (c :: rest)
      if n ≥ 3 then return (List.replicate (n - 3) quote, after)
      let (text, rest) ← readBlock quote steps after
      return (List.replicate n quote ++ text, rest)
    else if c = '\\' ∧ quote = '"' then
      match readEscape rest with
      | some (c, rest) => do
        let (text, rest) ← readBlock quote steps rest
        return (c :: text, rest)
      | none => do
        let rest ← afterFolded? rest
        readBlock quote steps rest
    else
      match afterNewline? (c :: rest) with
      | some rest => do
        let (text, rest) ← readBlock quote steps rest
        return ('\n' :: text, rest)
      | none => do
        if !isPrintable c then none
        let (text, rest) ← readBlock quote steps rest
        return (c :: text, rest)

/-- A text after the line end with which a block string may begin. -/
def afterFirstNewline (cs : List Char) : List Char := (afterNewline? cs).getD cs

/-- A string, if one begins the text; `block` says whether three quotes are read as such. -/
def readString (block : Bool) (cs : List Char) : Option (String × List Char) := do
  let (text, rest) ←
    match cs with
    | '"' :: '"' :: '"' :: rest =>
      if block then readBlock '"' cs.length (afterFirstNewline rest)
      else readBasic cs.length ('"' :: '"' :: rest)
    | '\'' :: '\'' :: '\'' :: rest =>
      if block then readBlock '\'' cs.length (afterFirstNewline rest)
      else readLiteral ('\'' :: '\'' :: rest)
    | '"' :: rest => readBasic cs.length rest
    | '\'' :: rest => readLiteral rest
    | _ => none
  return (String.ofList text, rest)

/-! ### Keys -/

/-- Whether a character may stand in a key without quotes. -/
def isBareChar (c : Char) : Bool := c.isAlphanum || c = '-' || c = '_'

/-- A part of a key. -/
def readKeyPart (cs : List Char) : Option (String × List Char) :=
  match cs.head? with
  | some '"' => readString false cs
  | some '\'' => readString false cs
  | _ =>
    match cs.takeWhile isBareChar with
    | [] => none
    | part => some (String.ofList part, cs.dropWhile isBareChar)

/-- The parts of a dotted key, with the blanks around them. -/
def readKeyParts : Nat → List Char → Option (List String × List Char)
  | 0, _ => none
  | steps + 1, cs => do
    let (part, rest) ← readKeyPart (skipSpace cs)
    match skipSpace rest with
    | '.' :: rest => do
      let (parts, rest) ← readKeyParts steps rest
      return (part :: parts, rest)
    | rest => return ([part], rest)

/-- The number of levels, of values and of keys, that a document may not reach. -/
def nestingLimit : Nat := 80

/-- A key. -/
def readKey (cs : List Char) : Option (List String × List Char) := do
  let (key, rest) ← readKeyParts cs.length.succ cs
  if key.length < nestingLimit then some (key, rest) else none

/-! ### Numbers -/

/-- Digits of a class with single underscores between them, and what follows. -/
def takeGrouped (isDigit : Char → Bool) : List Char → List Char × List Char
  | '_' :: c :: rest =>
    if isDigit c then
      let (digits, rest) := takeGrouped isDigit rest
      (c :: digits, rest)
    else ([], '_' :: c :: rest)
  | c :: rest =>
    if isDigit c then
      let (digits, rest) := takeGrouped isDigit rest
      (c :: digits, rest)
    else ([], c :: rest)
  | [] => ([], [])

/-- As `takeGrouped`, with at least one digit, and no underscore before the first. -/
def takeGrouped? (isDigit : Char → Bool) : List Char → Option (List Char × List Char)
  | c :: rest =>
    if isDigit c then
      let (digits, rest) := takeGrouped isDigit rest
      some (c :: digits, rest)
    else none
  | [] => none

/-- The sign of a number, if there is one. -/
def takeSign : List Char → Bool × List Char
  | '+' :: rest => (false, rest)
  | '-' :: rest => (true, rest)
  | cs => (false, cs)

/-- The digits of a decimal integer, which begins with a zero only if it is one. -/
def takeWhole? : List Char → Option (List Char × List Char)
  | '0' :: rest => some (['0'], rest)
  | cs => takeGrouped? Char.isDigit cs

/-- An integer within 64 bits. -/
def integer? (n : Int) : Option Toml :=
  if -0x8000000000000000 ≤ n ∧ n < 0x8000000000000000 then some (.integer n) else none

/-- An integer in a base that a letter after a zero says. -/
def readRadix (isDigit : Char → Bool) (base : Nat) (cs : List Char) :
    Option (Toml × List Char) := do
  let (digits, rest) ← takeGrouped? isDigit cs
  let values ← digits.mapM hexValue?
  let n : Nat := values.foldl (fun n d => n * base + d) 0
  let v ← integer? n
  return (v, rest)

/-- Whether a positive decimal number, given by its digits and the power of ten by which they
are to be multiplied, is too large for a floating-point number of 64 bits. -/
def overflows (digits : List Char) (exponent : Int) : Bool :=
  let n := decimalValue digits
  let width : Int := (toString n).length
  if n = 0 then false
  else if width + exponent > 310 then true
  else if width + exponent < 308 then false
  else
    let bound := Nat.pow 2 1024 - Nat.pow 2 970
    if 0 ≤ exponent then bound ≤ n * Nat.pow 10 exponent.toNat
    else bound * Nat.pow 10 (-exponent).toNat ≤ n

/-- The exponent of a floating-point number, after its letter. -/
def readExponent (cs : List Char) : Option (Int × List Char) := do
  let (negative, rest) := takeSign cs
  let (digits, rest) ← takeGrouped? Char.isDigit rest
  let n : Int := decimalValue digits
  return (if negative then -n else n, rest)

/-- A decimal number. A positive one that is too large for 64 bits is refused. -/
def readDecimal (cs : List Char) : Option (Toml × List Char) := do
  let (negative, rest) := takeSign cs
  match rest with
  | 'i' :: 'n' :: 'f' :: rest => return (.float "inf", rest)
  | 'n' :: 'a' :: 'n' :: rest => return (.float "nan", rest)
  | _ =>
    let (whole, rest) ← takeWhole? rest
    let (fraction, rest) ←
      match rest with
      | '.' :: rest => takeGrouped? Char.isDigit rest
      | rest => some ([], rest)
    let (exponent, rest) ←
      match rest with
      | 'e' :: rest => (readExponent rest).map fun (n, rest) => (some n, rest)
      | 'E' :: rest => (readExponent rest).map fun (n, rest) => (some n, rest)
      | rest => some (none, rest)
    if fraction = [] ∧ exponent = none then
      let n : Int := decimalValue whole
      return (← integer? (if negative then -n else n), rest)
    else
      let digits := whole ++ fraction
      let power := exponent.getD 0 - fraction.length
      if !negative && overflows digits power then none
      else
        let text := toString (decimalValue digits) ++ "e" ++ toString power
        return (.float (if negative then "-" ++ text else text), rest)

/-- A number. -/
def readNumber : List Char → Option (Toml × List Char)
  | '0' :: 'x' :: rest => readRadix (fun c => (hexValue? c).isSome) 16 rest
  | '0' :: 'o' :: rest => readRadix (fun c => '0' ≤ c ∧ c ≤ '7') 8 rest
  | '0' :: 'b' :: rest => readRadix (fun c => c = '0' ∨ c = '1') 2 rest
  | cs => readDecimal cs

/-! ### Dates and times -/

/-- A number of so many digits within bounds. -/
def takeField? (width low high : Nat) (cs : List Char) : Option (Nat × List Char) :=
  let digits := cs.take width
  let n := decimalValue digits
  if digits.length = width ∧ digits.all Char.isDigit ∧ low ≤ n ∧ n ≤ high then
    some (n, cs.drop width)
  else none

/-- What follows a character that has to be there. -/
def afterChar? (c : Char) : List Char → Option (List Char)
  | d :: rest => if d = c then some rest else none
  | [] => none

/-- The number of days of a month. -/
def daysOf (year month : Nat) : Nat :=
  if month = 2 then
    if year % 4 = 0 ∧ (year % 100 ≠ 0 ∨ year % 400 = 0) then 29 else 28
  else if [4, 6, 9, 11].contains month then 30
  else 31

/-- What follows a date. -/
def afterDate? (cs : List Char) : Option (List Char) := do
  let (year, rest) ← takeField? 4 0 9999 cs
  let rest ← afterChar? '-' rest
  let (month, rest) ← takeField? 2 1 12 rest
  let rest ← afterChar? '-' rest
  let (_, rest) ← takeField? 2 1 (daysOf year month) rest
  return rest

/-- What follows a time of day. -/
def afterTime? (cs : List Char) : Option (List Char) := do
  let (_, rest) ← takeField? 2 0 23 cs
  let rest ← afterChar? ':' rest
  let (_, rest) ← takeField? 2 0 59 rest
  let rest ← afterChar? ':' rest
  let (_, rest) ← takeField? 2 0 60 rest
  match rest with
  | '.' :: rest => return (← takeDigits? rest).2
  | rest => return rest

/-- What follows the offset of a time from UTC. -/
def afterOffset? : List Char → Option (List Char)
  | c :: rest =>
    if c = 'Z' ∨ c = 'z' then some rest
    else if c = '+' ∨ c = '-' then do
      let (_, rest) ← takeField? 2 0 23 rest
      let rest ← afterChar? ':' rest
      let (_, rest) ← takeField? 2 0 59 rest
      return rest
    else none
  | [] => none

/-- What follows a date, a time, or both with or without an offset. -/
def afterDateTime? (cs : List Char) : Option (List Char) :=
  match afterDate? cs with
  | none => afterTime? cs
  | some rest =>
    match rest with
    | c :: tail =>
      if c = 'T' ∨ c = 't' ∨ c = ' ' then
        match afterTime? tail with
        | some rest => some ((afterOffset? rest).getD rest)
        | none => some rest
      else some rest
    | [] => some []

/-- A date or time. -/
def readDateTime (cs : List Char) : Option (Toml × List Char) :=
  (afterDateTime? cs).map fun rest =>
    (.dateTime (String.ofList (cs.take (cs.length - rest.length))), rest)

/-! ### Values -/

/-- A value that is no array and no inline table. -/
def readScalar (cs : List Char) : Option (Toml × List Char) :=
  match cs with
  | 't' :: 'r' :: 'u' :: 'e' :: rest => some (.boolean true, rest)
  | 'f' :: 'a' :: 'l' :: 's' :: 'e' :: rest => some (.boolean false, rest)
  | '"' :: _ => (readString true cs).map fun (s, rest) => (.string s, rest)
  | '\'' :: _ => (readString true cs).map fun (s, rest) => (.string s, rest)
  | _ => readDateTime cs <|> readNumber cs

mutual

/-- A value inside of `depth` arrays and inline tables. -/
def readValue : Nat → Nat → List Char → Option (Toml × List Char)
  | 0, _, _ => none
  | steps + 1, depth, '[' :: rest => do
    if nestingLimit ≤ depth + 1 then none
    match rest with
    | ']' :: rest => return (.array [], rest)
    | _ =>
      let filled ← skipFiller rest.length.succ rest
      match filled with
      | ']' :: rest => return (.array [], rest)
      | _ =>
        let (items, rest) ← readItems steps (depth + 1) rest
        return (.array items, rest)
  | steps + 1, depth, '{' :: rest => do
    if nestingLimit ≤ depth + 1 then none
    match skipSpace rest with
    | '}' :: rest => return (.table .inline [], rest)
    | _ =>
      let (pairs, rest) ← readPairs steps (depth + 1) rest
      let entries ← ofPairs pairs
      return (.table .inline entries, rest)
  | _ + 1, _, cs => readScalar cs

/-- The items of an array up to its end, at least one. A comma may follow the last one. -/
def readItems : Nat → Nat → List Char → Option (List Toml × List Char)
  | 0, _, _ => none
  | steps + 1, depth, cs => do
    let cs ← skipFiller cs.length.succ cs
    let (item, rest) ← readValue steps depth cs
    let rest ← skipFiller rest.length.succ rest
    match rest with
    | ']' :: rest => return ([item], rest)
    | ',' :: rest =>
      let filled ← skipFiller rest.length.succ rest
      match filled with
      | ']' :: rest => return ([item], rest)
      | _ =>
        let (items, rest) ← readItems steps depth rest
        return (item :: items, rest)
    | _ => none

/-- The assignments of an inline table up to its end, at least one. -/
def readPairs : Nat → Nat → List Char → Option (List (List String × Toml) × List Char)
  | 0, _, _ => none
  | steps + 1, depth, cs => do
    let (key, rest) ← readKey cs
    let rest ← afterChar? '=' rest
    let (value, rest) ← readValue steps depth (skipSpace rest)
    match skipSpace rest with
    | '}' :: rest => return ([(key, value)], rest)
    | ',' :: rest =>
      let (pairs, rest) ← readPairs steps depth rest
      return ((key, value) :: pairs, rest)
    | _ => none

end

/-! ### Lines -/

/-- A header after its opening bracket. -/
def readHeader (cs : List Char) : Option (Line × List Char) :=
  match cs with
  | '[' :: rest => do
    let (key, rest) ← readKey rest
    let rest ← afterChar? ']' rest
    let rest ← afterChar? ']' rest
    return (.listHeader key, rest)
  | _ => do
    let (key, rest) ← readKey cs
    let rest ← afterChar? ']' rest
    return (.header key, rest)

/-- An assignment. -/
def readAssignment (cs : List Char) : Option (Line × List Char) := do
  let (key, rest) ← readKey cs
  let rest ← afterChar? '=' rest
  let rest := skipSpace rest
  let (value, rest) ← readValue (2 * rest.length + 2) 0 rest
  return (.assignment key value, rest)

/-- The lines of a document; empty lines and comments are left out. -/
def readLines : Nat → List Char → Option (List Line)
  | 0, _ => none
  | steps + 1, cs =>
    match skipSpace cs with
    | [] => some []
    | '#' :: rest => do
      let rest ← afterLine? ('#' :: rest)
      readLines steps rest
    | '\n' :: rest => readLines steps rest
    | '\r' :: rest => do
      let rest ← afterNewline? ('\r' :: rest)
      readLines steps rest
    | c :: rest => do
      let (line, rest) ← if c = '[' then readHeader rest else readAssignment (c :: rest)
      let rest ← afterLine? rest
      let lines ← readLines steps rest
      return line :: lines

/-- The entries of a document. A byte order mark may precede it. -/
def parse? (text : String) : Option Entries := do
  let cs :=
    match text.toList with
    | '\uFEFF' :: rest => rest
    | cs => cs
  let lines ← readLines cs.length.succ cs
  ofLines lines

end ClassCensus.Toml
