import ClassCensus.Json.Token

/-!
# Reading JSON

From the tokens of a text to the value that it writes. Arrays and objects may be nested to any
depth.
-/

namespace ClassCensus.Json

mutual

/-- The value at the beginning of a list of tokens, and the tokens after it. -/
def readValue : Nat → List Token → Option (Json × List Token)
  | 0, _ => none
  | _ + 1, [] => none
  | steps + 1, token :: rest =>
    match token with
    | .scalar value => some (value, rest)
    | .beginArray =>
      match rest with
      | .endArray :: rest => some (.array [], rest)
      | _ => do
        let (items, rest) ← readItems steps rest
        return (.array items, rest)
    | .beginObject =>
      match rest with
      | .endObject :: rest => some (.object [], rest)
      | _ => do
        let (members, rest) ← readMembers steps rest
        return (.object members, rest)
    | _ => none

/-- The items up to the end of an array, at least one. -/
def readItems : Nat → List Token → Option (List Json × List Token)
  | 0, _ => none
  | steps + 1, tokens => do
    let (item, rest) ← readValue steps tokens
    match rest with
    | .endArray :: rest => return ([item], rest)
    | .comma :: rest => do
      let (items, rest) ← readItems steps rest
      return (item :: items, rest)
    | _ => none

/-- The members up to the end of an object, at least one. -/
def readMembers : Nat → List Token → Option (List (Option String × Json) × List Token)
  | 0, _ => none
  | steps + 1, .scalar (.string key) :: .colon :: tokens => do
    let (value, rest) ← readValue steps tokens
    match rest with
    | .endObject :: rest => return ([(key, value)], rest)
    | .comma :: rest => do
      let (members, rest) ← readMembers steps rest
      return ((key, value) :: members, rest)
    | _ => none
  | _ + 1, _ => none

end

/-- The value that a list of tokens writes. Every step down takes a token, except the one from
an array or an object to its first element, so twice their number of steps is enough. -/
def ofTokens? (tokens : List Token) : Option Json :=
  match readValue (2 * tokens.length + 1) tokens with
  | some (value, []) => some value
  | _ => none

/-- The value that a text writes. -/
def parse? (text : String) : Option Json := do
  let tokens ← tokens? text.toList
  ofTokens? tokens

end ClassCensus.Json
