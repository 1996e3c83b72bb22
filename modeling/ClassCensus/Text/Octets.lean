/-!
# Texts as bytes

A system keeps its names as bytes, and these need not be those of a text. A string gives its bytes
in UTF-8, bytes give back the string that has them if there is one, and any bytes can be shown: what
cannot belong to a character is replaced by U+FFFD.
-/

namespace ClassCensus

/-- What a name or a path is made of: any bytes. -/
abbrev Octets := List UInt8

namespace Text

/-- The bytes of a string in UTF-8. -/
def bytesOf (s : String) : Octets := s.toUTF8.data.toList

instance : Coe String Octets := ⟨bytesOf⟩

/-- The string with these bytes, unless they are not UTF-8. -/
def ofBytes? (bytes : Octets) : Option String := String.fromUTF8? bytes.toByteArray

/-! ### Showing bytes -/

/-- The character with these bytes. -/
def charOf? (bytes : Octets) : Option Char :=
  (bytes.toByteArray.utf8DecodeChar? 0).filter fun c => c.utf8Size = bytes.length

/-- Whether a byte can follow the first one of a character. -/
def isTail (b : UInt8) : Bool := 0x80 ≤ b && b ≤ 0xBF

/-- Whether a byte can follow this one at the beginning of a character. After some first bytes it is
not any tail, because the character would be one with fewer bytes, a surrogate or too large. -/
def isSecond (first b : UInt8) : Bool :=
  if first = 0xE0 then 0xA0 ≤ b && b ≤ 0xBF
  else if first = 0xED then 0x80 ≤ b && b ≤ 0x9F
  else if first = 0xF0 then 0x90 ≤ b && b ≤ 0xBF
  else if first = 0xF4 then 0x80 ≤ b && b ≤ 0x8F
  else isTail b

/-- Whether bytes are the first ones of a character, but not all of them. -/
def isUnfinished : Octets → Bool
  | [a] => 0xC2 ≤ a && a ≤ 0xF4
  | [a, b] => 0xE0 ≤ a && a ≤ 0xF4 && isSecond a b
  | [a, b, c] => 0xF0 ≤ a && a ≤ 0xF4 && isSecond a b && isTail c
  | _ => false

/-- What stands for bytes that do not belong to a character. -/
def replacement : Char := '\uFFFD'

/-- What is shown of a byte between characters, and the unfinished bytes after it. -/
def showFirst (b : UInt8) : List Char × Octets :=
  match charOf? [b] with
  | some c => ([c], [])
  | none => if isUnfinished [b] then ([], [b]) else ([replacement], [])

/-- What is shown of unfinished bytes when another byte follows, and the unfinished bytes after it.
If it does not belong to their character, they are replaced as a whole and it stands for itself. -/
def showNext (unfinished : Octets) (b : UInt8) : List Char × Octets :=
  if unfinished = [] then showFirst b
  else
    match charOf? (unfinished ++ [b]) with
    | some c => ([c], [])
    | none =>
      if isUnfinished (unfinished ++ [b]) then ([], unfinished ++ [b])
      else (replacement :: (showFirst b).1, (showFirst b).2)

/-- What is shown of bytes after unfinished ones. -/
def shownAfter : (unfinished bytes : Octets) → List Char
  | unfinished, [] => if unfinished = [] then [] else [replacement]
  | unfinished, b :: rest =>
    (showNext unfinished b).1 ++ shownAfter (showNext unfinished b).2 rest

/-- The text that is shown for any bytes. -/
def shown (bytes : Octets) : String := String.ofList (shownAfter [] bytes)

end Text

end ClassCensus
