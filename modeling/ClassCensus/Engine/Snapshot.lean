import ClassCensus.Engine.Basic
import ClassCensus.Sorting

/-!
# The engine of a list of classes

An engine that serves classes it is given. It keeps them in the order of their names, the first
of several with one name, together with an index from names to places. Changes are made to a
copy, so that resetting the engine undoes them all.
-/

namespace ClassCensus

/-- An engine that serves a fixed list of classes. -/
structure SnapshotEngine where
  /-- The classes as they were given. -/
  pristine : List ClassDef
  /-- The place of each name in `classes`. -/
  index : List (String × Nat)
  /-- The classes with their changes. -/
  classes : List ClassDef
deriving DecidableEq, Repr

namespace SnapshotEngine

/-- Whether the name of a class is not after that of another one. -/
def nameLe (a b : ClassDef) : Bool := !decide (b.name < a.name)

/-- The classes of a sorted list after `c` and `c` itself, without those that follow one of the same
name. -/
def dropRepeatedAfter (c : ClassDef) : List ClassDef → List ClassDef
  | [] => [c]
  | d :: rest =>
    if c.name = d.name then dropRepeatedAfter c rest else c :: dropRepeatedAfter d rest

/-- A sorted list without the classes that follow one of the same name. -/
def dropRepeated : List ClassDef → List ClassDef
  | [] => []
  | c :: rest => dropRepeatedAfter c rest

/-- The names of the classes that `dropRepeatedAfter` drops, in order. -/
def repeatedNamesAfter (c : ClassDef) : List ClassDef → List String
  | [] => []
  | d :: rest =>
    if c.name = d.name then d.name :: repeatedNamesAfter c rest else repeatedNamesAfter d rest

/-- The names of the classes that `dropRepeated` drops, in order. -/
def repeatedNames : List ClassDef → List String
  | [] => []
  | c :: rest => repeatedNamesAfter c rest

/-- The names of classes with their places, from a place on. -/
def indexFrom (place : Nat) : List ClassDef → List (String × Nat)
  | [] => []
  | c :: rest => (c.name, place) :: indexFrom (place + 1) rest

/-- The engine without any changes. -/
def reset (e : SnapshotEngine) : SnapshotEngine :=
  { e with classes := e.pristine, index := indexFrom 0 e.pristine }

/-- The engine that serves these classes. -/
def ofClasses (classes : List ClassDef) : SnapshotEngine :=
  reset { pristine := dropRepeated (Sorting.sort nameLe classes), index := [], classes := [] }

/-- What is to be told when an engine is built from classes. -/
def ofClassesEvents (classes : List ClassDef) : List Event :=
  (repeatedNames (Sorting.sort nameLe classes)).map .duplicateClass

/-- The place of a name. -/
def place? (e : SnapshotEngine) (className : String) : Option Nat :=
  (e.index.find? fun row => row.1 = className).map (·.2)

/-- The error for a class that is not there. -/
def absent (className : String) : CensusError :=
  .resolution className "not present on the classpath"

/-- The class with a name. -/
def resolve (e : SnapshotEngine) (className : String) : Except CensusError ClassDef :=
  match (e.place? className).bind (e.classes[·]?) with
  | some c => .ok c
  | none => .error (absent className)

/-- The engine with a change to the class with a name. The index stays as it is. -/
def edit (e : SnapshotEngine) (className : String) (change : ClassDef → ClassDef) :
    Except CensusError SnapshotEngine :=
  match e.place? className with
  | some i => .ok { e with classes := e.classes.modify i change }
  | none => .error (absent className)

instance : ClassEngine SnapshotEngine where
  name _ := "snapshot"
  classNames e := e.classes.map (·.name)
  resolve := resolve
  edit := edit
  dump _ := plainDump
  reset := reset

end SnapshotEngine

end ClassCensus
