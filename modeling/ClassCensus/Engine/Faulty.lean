import ClassCensus.Engine.Basic
import ClassCensus.Generation.Directory

/-!
# Engines with faults

An engine that fails where it is told to and does as another one everywhere else. It shows how
an analysis copes with an engine that cannot deliver a class or its dump, or that makes
directories of its own while it writes.
-/

namespace ClassCensus

/-- Where an engine fails, by class name. -/
structure EngineFaults where
  /-- The errors instead of classes. -/
  resolve : List (String × CensusError)
  /-- The faults instead of dumps. -/
  dump : List (String × DiskFault)
  /-- The directories that are made before a dump. -/
  makeDirs : List (String × Path)

/-- An engine with faults. -/
structure FaultyEngine (ε : Type) where
  inner : ε
  faults : EngineFaults

namespace FaultyEngine

variable {ε : Type} [ClassEngine ε]

/-- The value for a class name in a list. -/
def valueFor? {α : Type} (rows : List (String × α)) (className : String) : Option α :=
  (rows.find? fun row => row.1 = className).map (·.2)

/-- The class with a name, unless the engine fails at it. -/
def resolve (e : FaultyEngine ε) (className : String) : Except CensusError ClassDef :=
  match valueFor? e.faults.resolve className with
  | some error => .error error
  | none => ClassEngine.resolve e.inner className

/-- The engine with a change to the class with a name, unless it fails at it. -/
def edit (e : FaultyEngine ε) (className : String) (change : ClassDef → ClassDef) :
    Except CensusError (FaultyEngine ε) :=
  match valueFor? e.faults.resolve className with
  | some error => .error error
  | none => do return { e with inner := ← ClassEngine.edit e.inner className change }

/-- The dump of a class, unless the engine fails at it. -/
def dump (e : FaultyEngine ε) (c : ClassDef) : Job (Except DiskFault String) := do
  match valueFor? e.faults.dump c.name with
  | some fault => return .error fault
  | none =>
    match valueFor? e.faults.makeDirs c.name with
    | none => ClassEngine.dump e.inner c
    | some dir =>
      match ← makeDirs dir with
      | .error fault => return .error fault
      | .ok () => ClassEngine.dump e.inner c

instance : ClassEngine (FaultyEngine ε) where
  name _ := "faulty"
  classNames e := ClassEngine.classNames e.inner
  resolve := resolve
  edit := edit
  dump := dump
  reset e := { e with inner := ClassEngine.reset e.inner }

end FaultyEngine

end ClassCensus
