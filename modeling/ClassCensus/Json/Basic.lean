import ClassCensus.OrderedMap

/-!
# JSON values

The values of JSON as records of a program need them: numbers are integers or keep their text,
members keep their order and repetitions, and a string may have no text, because its escapes
leave half of a surrogate pair.
-/

namespace ClassCensus

/-- A JSON value. -/
inductive Json where
  | null
  | bool (value : Bool)
  /-- A number written without fraction and exponent. -/
  | integer (value : Int)
  /-- Any other number, `-0` among them, as it is written. -/
  | real (text : String)
  /-- A string; there is no text when its escapes leave half of a surrogate pair. -/
  | string (text : Option String)
  | array (items : List Json)
  /-- The members in the order in which they are written, repeated keys included. -/
  | object (members : List (Option String × Json))
deriving Repr, Inhabited

namespace Json

/-- A string with a text. -/
def text (s : String) : Json := .string (some s)

/-- A natural number. -/
def nat (n : Nat) : Json := .integer n

/-- The array of a list. -/
def list {α : Type} (f : α → Json) (xs : List α) : Json := .array (xs.map f)

/-- An array of strings. -/
def texts (xs : List String) : Json := list text xs

/-- The value, or `null`. -/
def optional {α : Type} (f : α → Json) : Option α → Json
  | some x => f x
  | none => .null

/-- An object with these members. -/
def record (members : List (String × Json)) : Json :=
  .object (members.map fun (key, value) => (some key, value))

/-- The object that has a member for every key of a map. -/
def map {α : Type} (f : α → Json) (m : OrderedMap α) : Json :=
  record (m.entries.map fun (key, value) => (key, f value))

end Json

end ClassCensus
