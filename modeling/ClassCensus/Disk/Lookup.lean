import ClassCensus.Disk.Basic

/-!
# Where a path leads

A path is followed name by name. Only directories can be gone through; a link on the way is
replaced by its target, and a link at the end too if the operation follows links or the path
ends with a slash.
-/

namespace ClassCensus.Disk

/-- The longest name of an entry, in bytes. -/
def nameLimit : Nat := 255

/-- The length in bytes from which a path is too long. -/
def pathLimit : Nat := 4096

/-- The number of links that may be gone through on one way. -/
def linkLimit : Nat := 40

/-- The end of a way: a location whose directory exists, and what lies there. -/
structure Spot where
  location : Location
  entry : Option Entry
  /-- Whether the path ends with a slash, so that a directory is meant. -/
  slash : Bool

/-- The kind of what lies at the end of a way. -/
def Spot.kind? (spot : Spot) : Option EntryKind := spot.entry.map Entry.kind

/-- The names of a path between its slashes. -/
def namesOf (path : Octets) : List Octets := (Text.split Octet.slash path).filter (· ≠ [])

/-- Whether a directory lies at a location. -/
def hasDir (d : Disk) (location : Location) : Bool :=
  match d.entryAt location with
  | some .directory => true
  | _ => false

/-- Follows names from a directory on. At a link `follow` goes on, given the directory of the link,
its target and the names after it. -/
def walkNames (d : Disk) (followLast slash : Bool)
    (follow : Bool → Location → Path → List Octets → Except DiskFault Spot) :
    Location → List Octets → Except DiskFault Spot
  | here, [] => if d.hasDir here then .ok ⟨here, some .directory, slash⟩ else .error .notFound
  | here, name :: rest =>
    if name = [Octet.dot] then walkNames d followLast slash follow here rest
    else if name = [Octet.dot, Octet.dot] then
      walkNames d followLast slash follow here.dropLast rest
    else if nameLimit < name.length then .error .nameTooLong
    else
      let next := here ++ [name]
      match d.entryAt next with
      | none => if rest = [] ∧ d.hasDir here then .ok ⟨next, none, slash⟩ else .error .notFound
      | some .directory => walkNames d followLast slash follow next rest
      | some (.file bytes) =>
        if rest = [] then .ok ⟨next, some (.file bytes), slash⟩ else .error .notDirectory
      | some (.link target) =>
        if rest = [] ∧ !followLast ∧ !slash then .ok ⟨next, some (.link target), slash⟩
        else
          let slash :=
            if rest = [] then slash || target.octets.getLast? = some Octet.slash else slash
          follow slash here target rest

/-- Where the target of a link in a directory begins. -/
def linkStart (here : Location) (target : Path) : Location :=
  if target.octets.head? = some Octet.slash then [] else here

/-- Follows names from a directory on, through at most so many links. -/
def walk (d : Disk) (followLast : Bool) : Nat → Bool → Location → List Octets →
    Except DiskFault Spot
  | 0, slash, here, names =>
    walkNames d followLast slash (fun _ _ _ _ => .error .tooManyLinks) here names
  | links + 1, slash, here, names =>
    walkNames d followLast slash
      (fun slash here target rest =>
        if target.octets = [] then .error .notFound
        else
          walk d followLast links slash (linkStart here target)
            (namesOf target.octets ++ rest))
      here names

/-- Where a path begins. -/
def startOf (d : Disk) (path : Path) : Location :=
  if path.octets.head? = some Octet.slash then [] else d.home

/-- Whether a path can be asked for at all, wherever it leads. -/
def checkPath (path : Path) : Except DiskFault Unit :=
  if path.octets.contains Octet.nul then .error .nulInName
  else if path.octets = [] then .error .notFound
  else if pathLimit ≤ path.octets.length then .error .nameTooLong
  else .ok ()

/-- The end of the way of a path. A path of names that all stay where they are ends at a
directory. -/
def locate (d : Disk) (followLast : Bool) (path : Path) : Except DiskFault Spot := do
  checkPath path
  let slash := path.octets.getLast? = some Octet.slash
  d.walk followLast linkLimit slash (d.startOf path) (namesOf path.octets)

/-- The last part of a path; the root has none. -/
def lastPart? (path : Path) : Option Octets := (namesOf path.octets).getLast?

/-- What lies at the end of a path; what lies at a path with a slash has to be a directory. -/
def find (d : Disk) (followLast : Bool) (path : Path) : Except DiskFault (Location × Entry) := do
  let spot ← d.locate followLast path
  match spot.entry with
  | none => throw .notFound
  | some entry =>
    if spot.slash ∧ entry.kind ≠ .directory then throw .notDirectory
    return (spot.location, entry)

end ClassCensus.Disk
