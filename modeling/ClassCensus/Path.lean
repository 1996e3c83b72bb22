import ClassCensus.Text.Octets
import ClassCensus.Text.Pieces

/-!
# Paths

A path is made of bytes with slashes between them. The functions here look at the components of a
path only, never at a file system: empty components, and the component `.` anywhere but at the
beginning, say nothing and are passed over.
-/

namespace ClassCensus

namespace Octet

/-- The byte between names. -/
def slash : UInt8 := '/'.toUInt8

/-- The byte before an extension. The names that stay where they are or go back are made of it. -/
def dot : UInt8 := '.'.toUInt8

/-- The byte that no name has. -/
def nul : UInt8 := '\x00'.toUInt8

@[simp]
theorem dot_ne_slash : dot ≠ slash := by decide

@[simp]
theorem slash_ne_dot : slash ≠ dot := by decide

@[simp]
theorem nul_ne_slash : nul ≠ slash := by decide

end Octet

/-- A path as the system takes it. -/
structure Path where
  octets : Octets
deriving DecidableEq, Repr, Inhabited

/-- A path as it is shown. -/
def Path.text (p : Path) : String := Text.shown p.octets

instance : Coe Path String := ⟨Path.text⟩

/-- What a path consists of. -/
inductive Component where
  | root
  | current
  | parent
  | name (octets : Octets)
deriving DecidableEq, Repr

namespace Component

/-- A component as it is shown. -/
def text : Component → String
  | .root => "/"
  | .current => "."
  | .parent => ".."
  | .name s => Text.shown s

/-- The place of the kind of a component in the order of components. -/
def rank : Component → Nat
  | .root => 0
  | .current => 1
  | .parent => 2
  | .name _ => 3

/-- Whether a component is before another one; names are in the order of their bytes. -/
def before : Component → Component → Bool
  | .name s, .name t => s < t
  | a, b => a.rank < b.rank

end Component

/-! ### Segments -/

/-- What a path begins with. -/
inductive PathHead where
  | root
  | current
  | none
deriving DecidableEq, Repr

namespace PathHead

/-- The beginning as it is written. -/
def octets : PathHead → Octets
  | .root => [Octet.slash]
  | .current => [Octet.dot]
  | .none => []

/-- The beginning as components. -/
def components : PathHead → List Component
  | .root => [.root]
  | .current => [.current]
  | .none => []

end PathHead

/-- Whether a segment says nothing about where a path leads. -/
def isIdle (segment : Octets) : Bool := segment = [] || segment = [Octet.dot]

/-- Segments without the idle ones at their end. -/
def dropIdle (segments : List Octets) : List Octets :=
  (segments.reverse.dropWhile isIdle).reverse

namespace Path

/-- The beginning of a path and the segments between slashes after it. -/
def segments (p : Path) : PathHead × List Octets :=
  if p.octets.head? = some Octet.slash then (.root, Text.split Octet.slash p.octets.tail)
  else if p.octets = [Octet.dot] then (.current, [])
  else
    match Text.afterPrefix? [Octet.dot, Octet.slash] p.octets with
    | some rest => (.current, [] :: Text.split Octet.slash rest)
    | none => (.none, Text.split Octet.slash p.octets)

/-- The path with a beginning and segments. -/
def ofSegments (head : PathHead) (segments : List Octets) : Path :=
  ⟨head.octets ++ Text.join [Octet.slash] segments⟩

/-- A segment as a component. -/
def componentOf (segment : Octets) : Component :=
  if segment = [Octet.dot, Octet.dot] then .parent else .name segment

/-- The components of a path. -/
def components (p : Path) : List Component :=
  let (head, segments) := p.segments
  head.components ++ (segments.filter fun s => !isIdle s).map componentOf

/-- Whether a path begins at the root. -/
def isAbsolute (p : Path) : Bool := p.segments.1 = .root

/-- The last component if it is a name. -/
def fileName (p : Path) : Option Octets :=
  match p.components.getLast? with
  | some (.name s) => some s
  | _ => none

/-- The path without its last component; the root and the empty path have no parent. -/
def parent (p : Path) : Option Path :=
  let (head, segments) := p.segments
  match (dropIdle segments).reverse with
  | _ :: rest => some (ofSegments head (dropIdle rest.reverse))
  | [] => if head = .current then some ⟨[]⟩ else none

/-- The path with a further part. A part that begins at the root replaces the path, and an empty
one leaves a slash at the end. -/
def push (p : Path) (part : Octets) : Path :=
  if (Path.mk part).isAbsolute then ⟨part⟩
  else if p.octets = [] ∨ p.octets.getLast? = some Octet.slash then ⟨p.octets ++ part⟩
  else ⟨p.octets ++ Octet.slash :: part⟩

/-- The part of a file name before its last dot; a name without a dot, or with one at its
beginning only, is its own stem. -/
def stem (name : Octets) : Octets :=
  match Text.cutLast Octet.dot name with
  | some ([], _) => name
  | some (before, _) => before
  | none => name

/-- The path with another extension, and without slashes at its end. A path without a file name
stays as it is. -/
def withExtension (p : Path) (ext : Octets) : Path :=
  let (head, segments) := p.segments
  match (dropIdle segments).reverse with
  | last :: rest =>
    if last = [Octet.dot, Octet.dot] then p
    else ofSegments head (rest.reverse ++ [stem last ++ Octet.dot :: ext])
  | [] => p

/-- The components of a path below a base path, unless it is not below it. -/
def componentsBelow? (base p : Path) : Option (List Component) :=
  go base.components p.components
where
  /-- The components that follow those of the base. -/
  go : List Component → List Component → Option (List Component)
    | [], rest => some rest
    | _ :: _, [] => none
    | b :: base, c :: rest => if b = c then go base rest else none

/-- Whether one list of components is before another one in the order of paths. -/
def componentsBefore : List Component → List Component → Bool
  | [], [] => false
  | [], _ :: _ => true
  | _ :: _, [] => false
  | a :: as, b :: bs => if a = b then componentsBefore as bs else a.before b

end Path

end ClassCensus
