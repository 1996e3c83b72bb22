import ClassCensus.Path

/-!
# Names of snapshot files

A classpath holds a snapshot for each class, in a directory for each package segment. The name
of the file says the name of the class.
-/

namespace ClassCensus

/-- The end of the name of a snapshot file. -/
def snapshotSuffix : String := ".class.json"

/-- Whether a file with this name is a snapshot: the name is a text with something before the
suffix. -/
def isSnapshotName (name : Octets) : Bool :=
  match (Text.ofBytes? name).bind fun s => Text.beforeSuffix? snapshotSuffix.toList s.toList with
  | some (_ :: _) => true
  | _ => false

/-- The name of the class in a snapshot file, by its place in a classpath. What does not belong to
a text is replaced here, so that a file can have a place that names a class without being a
snapshot. -/
def snapshotClassName? (classpath file : Path) : Option String := do
  let parts ← classpath.componentsBelow? file
  let last ← parts.getLast?
  match Text.beforeSuffix? snapshotSuffix.toList last.text.toList with
  | some (c :: stem) =>
    return Text.joinStrings "." (parts.dropLast.map Component.text ++ [String.ofList (c :: stem)])
  | _ => none

end ClassCensus
