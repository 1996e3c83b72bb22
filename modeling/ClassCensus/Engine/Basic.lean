import ClassCensus.ClassDump
import ClassCensus.Job

/-!
# Engines

An analysis engine knows classes by name. It can be asked for them, a class of it can be
changed for the time being, and it can be put back into the state in which it was built.
-/

namespace ClassCensus

/-- What an analysis asks of an engine. -/
class ClassEngine (ε : Type) where
  /-- The name of the engine. -/
  name : ε → String
  /-- The names of the application classes in the order of the engine. -/
  classNames : ε → List String
  /-- The class with a name. -/
  resolve : ε → String → Except CensusError ClassDef
  /-- The engine with a change to the class with a name. -/
  edit : ε → String → (ClassDef → ClassDef) → Except CensusError ε
  /-- The dump of a class. -/
  dump : ε → ClassDef → Job (Except DiskFault String)
  /-- The engine without any changes. -/
  reset : ε → ε

/-- The dump of a class without any step. -/
def plainDump (c : ClassDef) : Job (Except DiskFault String) := .done (.ok c.dump)

end ClassCensus
