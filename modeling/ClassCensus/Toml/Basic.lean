/-!
# TOML values and tables

The values of a TOML document, and how tables grow while the document is read. A table remembers
how it came to be, because that decides who may extend it: a table that a header defines is
closed to dotted keys, one that dotted keys define is closed to headers, and an inline table is
closed to both.
-/

namespace ClassCensus

namespace Toml

/-- How a table came to be. -/
inductive TableKind where
  /-- A header names the table. -/
  | header
  /-- The table lies on the path of a header that names a deeper one. -/
  | onPath
  /-- The table lies on the path of a dotted key. -/
  | dotted
  /-- The table is written in braces. -/
  | inline
deriving DecidableEq, Repr

end Toml

/-- A value of a TOML document. -/
inductive Toml where
  | string (s : String)
  | integer (n : Int)
  /-- A floating-point number as it is written. -/
  | float (text : String)
  | boolean (b : Bool)
  /-- A date, a time or both as they are written. -/
  | dateTime (text : String)
  | array (items : List Toml)
  | table (kind : Toml.TableKind) (entries : List (String × Toml))
  /-- The tables that headers in double brackets define, the first one first. -/
  | tables (elements : List (List (String × Toml)))
deriving Repr, Inhabited

namespace Toml

/-- The entries of a table. -/
abbrev Entries := List (String × Toml)

/-- The value of an entry. -/
def find? (key : String) (entries : Entries) : Option Toml :=
  (entries.find? fun e => e.1 = key).map (·.2)

/-- The entries with another value at a key, which is added if it is not there. -/
def put (key : String) (value : Toml) : Entries → Entries
  | [] => [(key, value)]
  | e :: rest => if e.1 = key then (key, value) :: rest else e :: put key value rest

/-- Whether the path of a key may lead through a table: never through an inline one, and a
dotted key not through one that a header defines. -/
def TableKind.admits (dotted : Bool) : TableKind → Bool
  | .header => !dotted
  | .onPath => true
  | .dotted => true
  | .inline => false

/-- Changes the table at the end of a path. Tables that are missing on the way come to be, and
the path goes through the last table of a list of tables. -/
def descend (dotted : Bool) (change : TableKind → Entries → Option Entries) :
    List String → TableKind → Entries → Option Entries
  | [], kind, entries => change kind entries
  | key :: path, _, entries =>
    match find? key entries with
    | none => do
      let kind := if dotted then TableKind.dotted else .onPath
      let inner ← descend dotted change path kind []
      return put key (.table kind inner) entries
    | some (.table kind inner) => do
      if !kind.admits dotted then none
      let inner ← descend dotted change path kind inner
      return put key (.table kind inner) entries
    | some (.tables elements) => do
      let last ← elements.getLast?
      let last ← descend dotted change path .header last
      return put key (.tables (elements.dropLast ++ [last])) entries
    | some _ => none

/-- The path of a key and its last part. -/
def splitPath (key : List String) : Option (List String × String) :=
  key.getLast?.map fun last => (key.dropLast, last)

/-- Adds an entry under a dotted key. The key must be new, and every table on its path must be
one of dotted keys. -/
def assign (key : List String) (value : Toml) (entries : Entries) : Option Entries := do
  let (path, last) ← splitPath key
  let add (kind : TableKind) (entries : Entries) : Option Entries :=
    if path ≠ [] ∧ kind ≠ .dotted then none
    else if (find? last entries).isSome then none
    else some (entries ++ [(last, value)])
  descend true add path .header entries

/-- Defines the table that a header names. A table that was on the path of other headers only
may still be defined. -/
def defineTable (key : List String) (entries : Entries) : Option Entries := do
  let (path, last) ← splitPath key
  let define (_ : TableKind) (entries : Entries) : Option Entries :=
    match find? last entries with
    | none => some (put last (.table .header []) entries)
    | some (.table .onPath inner) => some (put last (.table .header inner) entries)
    | some _ => none
  descend false define path .header entries

/-- Adds a table to the list of tables that a header in double brackets names. -/
def addTable (key : List String) (entries : Entries) : Option Entries := do
  let (path, last) ← splitPath key
  let add (_ : TableKind) (entries : Entries) : Option Entries :=
    match find? last entries with
    | none => some (put last (.tables [[]]) entries)
    | some (.tables elements) => some (put last (.tables (elements ++ [[]])) entries)
    | some _ => none
  descend false add path .header entries

/-- The entries of an inline table. -/
def ofPairs (pairs : List (List String × Toml)) : Option Entries :=
  pairs.foldlM (fun entries (key, value) => assign key value entries) []

/-! ### Documents -/

/-- A line of a document. -/
inductive Line where
  | assignment (key : List String) (value : Toml)
  | header (key : List String)
  | listHeader (key : List String)
deriving Repr

/-- The entries of a document after one more line, and the table to which assignments belong. -/
def addLine (state : List String × Entries) : Line → Option (List String × Entries)
  | .assignment key value => do
    let (current, entries) := state
    let entries ← descend false (fun _ inner => assign key value inner) current .header entries
    return (current, entries)
  | .header key => (defineTable key state.2).map fun entries => (key, entries)
  | .listHeader key => (addTable key state.2).map fun entries => (key, entries)

/-- The entries of a document with these lines. -/
def ofLines (lines : List Line) : Option Entries :=
  (lines.foldlM addLine ([], [])).map (·.2)

end Toml

end ClassCensus
