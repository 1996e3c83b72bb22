import ClassCensus.Disk.Lookup
import ClassCensus.Text.Blank

/-!
# Operations on a disk

What can be asked of a disk and what can be done to it. An operation that fails leaves the disk
as it was, with one exception: removing a tree by a path that does not name it removes what is
in it first.
-/

namespace ClassCensus.Disk

/-! ### Questions -/

/-- The kind of what a path leads to, links followed. -/
def status (d : Disk) (path : Path) : Except DiskFault EntryKind := do
  return (← d.find true path).2.kind

/-- The kind of what a path leads to; a link at its end is not followed. -/
def linkStatus (d : Disk) (path : Path) : Except DiskFault EntryKind := do
  return (← d.find false path).2.kind

/-- The bytes of a file. -/
def read (d : Disk) (path : Path) : Except DiskFault ByteArray := do
  match (← d.find true path).2 with
  | .file bytes => return bytes
  | _ => throw .isDirectory

/-- Everything at and below a path, with names as seen from it. A link at the path itself is
followed, links below are not; what lies at the path is listed without names, by its own
kind. -/
def list (d : Disk) (path : Path) : Except DiskFault (List (Location × EntryKind)) := do
  let (_, top) ← d.find false path
  let (location, _) ← d.find true path
  let below := (d.listing location).filter fun e => e.1 ≠ []
  return ([], top.kind) :: below.map fun e => (e.1, e.2.kind)

/-! ### Changes -/

/-- A path without slashes at its end, unless it consists of slashes. -/
def bare (path : Path) : Path :=
  let octets := Text.dropEnd Octet.slash path.octets
  if octets = [] then path else ⟨octets⟩

/-- Makes a directory. -/
def makeDir (d : Disk) (path : Path) : Except DiskFault Disk := do
  checkPath path
  let spot ← d.locate false (bare path)
  match spot.entry with
  | some _ => throw .exists
  | none => return d.put spot.location .directory

/-- Writes a file, new or in place of the bytes that it has. -/
def write (d : Disk) (path : Path) (bytes : ByteArray) : Except DiskFault Disk := do
  let spot ← d.locate true path
  if spot.slash ∨ spot.kind? = some .directory then throw .isDirectory
  return d.put spot.location (.file bytes)

/-- Gives a file or link another path, in place of a file or link that is there. Directories
keep their paths. -/
def rename (d : Disk) (path new : Path) : Except DiskFault Disk := do
  let (location, entry) ← d.find false path
  let spot ← d.locate false new
  if entry.kind = .directory then throw .invalid
  if spot.kind? = some .directory then throw .isDirectory
  if spot.slash then throw .notDirectory
  if spot.location = location then return d
  return (d.erase location).put spot.location entry

/-- Removes a file or a link. -/
def removeFile (d : Disk) (path : Path) : Except DiskFault Disk := do
  match ← d.find false path with
  | (_, .directory) => throw .isDirectory
  | (location, _) => return d.erase location

/-- Removes an empty directory. A path that does not end in a name cannot be removed. -/
def removeEmptyDir (d : Disk) (path : Path) : Except DiskFault Disk := do
  checkPath path
  let spot ← d.locate false (bare path)
  match lastPart? path with
  | none => throw .busy
  | some part =>
    if part = [Octet.dot] then throw .invalid
    else if part = [Octet.dot, Octet.dot] then throw .notEmpty
    else
      match spot.entry with
      | none => throw .notFound
      | some .directory => return d.erase spot.location
      | some _ => throw .notDirectory

/-- Removes a directory with everything below it, or a link. What is in the directory goes first,
and if the path leads nowhere then, the directory itself stays. -/
def removeTree (d : Disk) (path : Path) : Except DiskFault Unit × Disk :=
  match d.find false path with
  | .error f => (.error f, d)
  | .ok (location, .directory) =>
    let emptied := d.eraseBelow location
    match emptied.removeEmptyDir path with
    | .ok removed => (.ok (), removed)
    | .error .notFound => (.ok (), emptied)
    | .error f => (.error f, emptied)
  | .ok (location, .link _) => (.ok (), d.erase location)
  | .ok (_, .file _) => (.error .notDirectory, d)

/-- Makes a link. -/
def makeLink (d : Disk) (path : Path) (target : Octets) : Except DiskFault Disk := do
  let spot ← d.locate false path
  match spot.entry with
  | some _ => throw .exists
  | none => return d.put spot.location (.link ⟨target⟩)

end ClassCensus.Disk
