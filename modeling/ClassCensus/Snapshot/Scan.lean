import ClassCensus.Job
import ClassCensus.Snapshot.Name
import ClassCensus.Sorting

/-!
# Finding snapshots

The snapshots of a classpath are the regular files below it with the name of a snapshot, except
those in directories that never hold any. They are listed in the order of their paths.
-/

namespace ClassCensus

/-- The names of directories that never hold snapshots. -/
def excludedDirectories : List String := [".git", ".idea", "META-INF"]

/-- The path of an entry below a root. -/
def entryPath (root : Path) (location : Location) : Path := location.foldl Path.push root

/-- Whether a directory below a root is searched. -/
def isSearched (location : Location) : Bool :=
  location.all fun name => !(Text.ofBytes? name).any excludedDirectories.contains

/-- Whether an entry of a listing is a snapshot. The root itself may be one. -/
def isSnapshotEntry (root : Path) (entry : Location × EntryKind) : Bool :=
  entry.2 = .file && ((entryPath root entry.1).fileName.any isSnapshotName) &&
    isSearched entry.1.dropLast

/-- Whether an entry of a listing is a directory that is searched and whose path is too long to be
opened. -/
def isTooDeep (root : Path) (entry : Location × EntryKind) : Bool :=
  entry.2 = .directory && isSearched entry.1 &&
    Disk.pathLimit ≤ (entryPath root entry.1).octets.length

/-- Paths in their order. -/
def sortPaths (paths : List Path) : List Path :=
  let keyed := paths.map fun p => (p.components, p)
  (Sorting.sort (fun a b => !Path.componentsBefore b.1 a.1) keyed).map (·.2)

/-- The snapshots in a listing of everything at and below a root. -/
def snapshotsIn (root : Path) (entries : List (Location × EntryKind)) : List Path :=
  sortPaths ((entries.filter (isSnapshotEntry root)).map fun e => entryPath root e.1)

/-- A classpath that cannot be searched, because a directory of it cannot be opened. -/
structure ScanError where
  root : Path
  place : Path
  fault : DiskFault
deriving DecidableEq, Repr

namespace ScanError

/-- The wording of the error and of its causes. -/
def chain (e : ScanError) : List String :=
  ["Failed to gather class snapshots from " ++ e.root.text,
    "IO error for operation on " ++ e.place.text ++ ": " ++ e.fault.message, e.fault.message]

/-- The wording in one line. -/
def message (e : ScanError) : String := Text.joinStrings ": " e.chain

end ScanError

/-- The snapshots of a classpath. -/
def gatherSnapshots (root : Path) : Job (Except ScanError (List Path)) := do
  match ← Job.ofStep (.list root) with
  | .error fault => return .error ⟨root, root, fault⟩
  | .ok entries =>
    match entries.find? (isTooDeep root) with
    | some entry => return .error ⟨root, entryPath root entry.1, .nameTooLong⟩
    | none => return .ok (snapshotsIn root entries)

/-- The names of the classes whose snapshots are at these paths. -/
def snapshotClassNames (root : Path) (files : List Path) : List String :=
  files.filterMap (snapshotClassName? root)

end ClassCensus
