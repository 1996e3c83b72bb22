import ClassCensus.ClassDef.Codec
import ClassCensus.Engine.Snapshot
import ClassCensus.Generation.Directory
import ClassCensus.Snapshot.Scan

/-!
# Loading snapshots

A classpath is loaded as a whole: if one of its snapshots cannot be read there is no engine,
because it would lack classes without saying so.
-/

namespace ClassCensus

/-- The text of a file. -/
def readText (path : Path) : Job (Except DiskFault String) := do
  match ← Job.ofStep (.read path) with
  | .error f => return .error f
  | .ok bytes =>
    match String.fromUTF8? bytes with
    | some text => return .ok text
    | none => return .error .notText

/-- What is to be told of a snapshot whose place says another class name. -/
def misplacedEvents (classpath file : Path) (c : ClassDef) : List Event :=
  match snapshotClassName? classpath file with
  | some expected => if expected = c.name then [] else [.misplacedSnapshot file c.name]
  | none => []

/-- The class in a snapshot file. -/
def loadSnapshot (classpath file : Path) : Attempt ClassDef := do
  let text ← Attempt.atPath file (readText file)
  match ClassDef.parse? text with
  | none => throw (.snapshot file "not the description of a class")
  | some c =>
    Attempt.ofJob (Job.tellAll (misplacedEvents classpath file c))
    return c.fillDeclaringClass

/-- The classes in snapshot files, one after the other. -/
def loadSnapshots (classpath : Path) : List Path → Attempt (List ClassDef)
  | [] => return []
  | file :: rest => do
    let c ← loadSnapshot classpath file
    return c :: (← loadSnapshots classpath rest)

/-- The engine of a classpath. -/
def SnapshotEngine.load (classpath : Path) : Attempt SnapshotEngine := do
  if !(← Attempt.ofJob (isDirectory classpath)) then
    throw (.configuration classpath "classpath is not a directory")
  match ← Attempt.ofJob (gatherSnapshots classpath) with
  | .error e => throw (.configuration classpath e.message)
  | .ok files =>
    let classes ← loadSnapshots classpath files
    Attempt.ofJob (Job.tell (.snapshotsLoaded classpath classes.length))
    Attempt.ofJob (Job.tellAll (SnapshotEngine.ofClassesEvents classes))
    return SnapshotEngine.ofClasses classes

end ClassCensus
