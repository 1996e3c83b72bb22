import ClassCensus.Entries
import ClassCensus.Fault

/-!
# Disks

A disk as a list of entries, each with its location. A location is the list of names from the
root down to the entry; the root itself is a directory without an entry of its own. Relative
paths begin at the home directory of the disk.
-/

namespace ClassCensus

/-- The names that lead from the root to an entry. -/
abbrev Location := List Octets

/-- What lies at a location. -/
inductive Entry where
  | directory
  | file (bytes : ByteArray)
  | link (target : Path)

/-- A kind of entries. -/
inductive EntryKind where
  | directory
  | file
  | link
deriving DecidableEq, Repr

/-- The kind of an entry. -/
def Entry.kind : Entry → EntryKind
  | .directory => .directory
  | .file _ => .file
  | .link _ => .link

/-- A disk. -/
structure Disk where
  /-- The entries in the order in which listings show them. -/
  entries : List (Location × Entry)
  /-- Where relative paths begin. -/
  home : Location

namespace Disk

/-- All beginnings of a location but the empty one, the shortest first. -/
def ancestors : Location → List Location
  | [] => []
  | name :: rest => [name] :: (ancestors rest).map (name :: ·)

/-- The disk that holds nothing but its empty home directory. -/
def blank (home : Location) : Disk :=
  { entries := (ancestors home).map fun location => (location, Entry.directory), home }

/-- What lies at a location. -/
def entryAt (d : Disk) (location : Location) : Option Entry :=
  if location = [] then some .directory else Entries.find? location d.entries

/-- The disk with an entry at a location. -/
def put (d : Disk) (location : Location) (entry : Entry) : Disk :=
  { d with entries := Entries.put location entry d.entries }

/-- The disk without the entry at a location. -/
def erase (d : Disk) (location : Location) : Disk :=
  { d with entries := d.entries.filter fun e => e.1 ≠ location }

/-- Whether a location is another one or lies below it. -/
def isBelow (top location : Location) : Bool := top.isPrefixOf location

/-- The disk without the entries strictly below a location. -/
def eraseBelow (d : Disk) (top : Location) : Disk :=
  { d with entries := d.entries.filter fun e => !(isBelow top e.1 && e.1 ≠ top) }

/-- The entries at and below a location, with their locations as seen from it. -/
def listing (d : Disk) (top : Location) : List (Location × Entry) :=
  d.entries.filterMap fun e =>
    if isBelow top e.1 then some (e.1.drop top.length, e.2) else none

end Disk

end ClassCensus
