import ClassCensus.Json.Basic

/-!
# Reading records

How the fields of a record are found in a JSON value. A record is an object, or an array of its
fields in order. Members with other keys are ignored; a known key that occurs twice, a key
without text and a surplus item are mistakes.
-/

namespace ClassCensus.Json

/-- The value of the only member with a key; `none` where the key does not occur, an error
where it occurs twice. -/
def member? (key : String) (members : List (Option String × Json)) : Option (Option Json) :=
  match members.filter (fun m => m.1 = some key) with
  | [] => some none
  | [m] => some (some m.2)
  | _ => none

/-- The fields of a record in the order of their names; a field may be missing. -/
def fields? (names : List String) : Json → Option (List (Option Json))
  | .object members =>
    if members.all (fun m => m.1.isSome) then names.mapM (member? · members) else none
  | .array items =>
    if items.length ≤ names.length then
      some (items.map some ++ List.replicate (names.length - items.length) none)
    else none
  | _ => none

/-- A field that has to be there. -/
def required {α : Type} (decode : Json → Option α) : Option Json → Option α
  | some v => decode v
  | none => none

/-- A field that has the value `default` when it is missing. -/
def withDefault {α : Type} (default : α) (decode : Json → Option α) : Option Json → Option α
  | some v => decode v
  | none => some default

/-- The text of a string. -/
def text? : Json → Option String
  | .string s => s
  | _ => none

/-- A value, or nothing for `null`. -/
def nullable {α : Type} (decode : Json → Option α) : Json → Option (Option α)
  | .null => some none
  | v => (decode v).map some

/-- The items of an array. -/
def list? {α : Type} (decode : Json → Option α) : Json → Option (List α)
  | .array items => items.mapM decode
  | _ => none

/-- A map: a repeated key keeps its place and takes the later value. -/
def map? {α : Type} (decode : Json → Option α) : Json → Option (OrderedMap α)
  | .object members => do
    let pairs ← members.mapM fun (key, value) => do
      let key ← key
      let value ← decode value
      return (key, value)
    return OrderedMap.ofList pairs
  | _ => none

/-- A natural number below a bound. -/
def natBelow? (bound : Nat) : Json → Option Nat
  | .integer n => if 0 ≤ n ∧ n < bound then some n.toNat else none
  | _ => none

/-- A line number of 32 bits. -/
def uint32? (v : Json) : Option UInt32 :=
  (natBelow? 0x100000000 v).map UInt32.ofNat

/-- A signed number of 64 bits. -/
def int64? : Json → Option Int64
  | .integer n => if -0x8000000000000000 ≤ n ∧ n < 0x8000000000000000 then some (Int64.ofInt n) else none
  | _ => none

end ClassCensus.Json
