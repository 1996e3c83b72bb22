import ClassCensus.ClassDef.Codec
import ClassCensus.Generation.Directory
import ClassCensus.Snapshot.Name

/-!
# Writing snapshots

The snapshot of a class is written below a classpath, in the directory of its package.
-/

namespace ClassCensus

/-- The text of the snapshot of a class. -/
def ClassDef.toSnapshot (c : ClassDef) : String := c.toJson.pretty "  "

/-- The path of the snapshot of a class. -/
def snapshotPath (classpath : Path) (className : String) : Path :=
  classpath.push <|
    Text.bytesOf (Text.joinStrings "/" (Text.splitString '.' className) ++ snapshotSuffix)

/-- Writes the snapshot of a class. -/
def writeSnapshot (classpath : Path) (c : ClassDef) : Job (Except DiskFault Unit) := do
  let file := snapshotPath classpath c.name
  match file.parent with
  | none => return .error .notFound
  | some directory =>
    match ← makeDirs directory with
    | .error f => return .error f
    | .ok () => Job.ofStep (.write file c.toSnapshot.toUTF8)

/-- Writes the snapshots of classes, up to the first one that cannot be written. -/
def writeSnapshots (classpath : Path) : List ClassDef → Job (Except DiskFault Unit)
  | [] => return .ok ()
  | c :: rest => do
    match ← writeSnapshot classpath c with
    | .error f => return .error f
    | .ok () => writeSnapshots classpath rest

end ClassCensus
