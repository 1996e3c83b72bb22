import ClassCensus.ClassDef
import ClassCensus.OrderedMap

/-!
# Stack variables

An engine makes temporaries with recognizable names. A convention decides which names count as
theirs; by it the locals of a method are parted into named locals and stack variables, each with
its type, in order.
-/

namespace ClassCensus

/-- A naming convention: which names are those of stack variables. -/
abbrev NamingConvention := String → Bool

/-- The convention of the default engine: a dollar sign, or an `l` and an ASCII digit, at the
beginning of the name. -/
def syntheticName : NamingConvention := fun name =>
  match name.toList with
  | '$' :: _ => true
  | 'l' :: d :: _ => d.isDigit
  | _ => false

/-- The locals of a method in two maps from names to types. -/
structure Partition where
  /-- The named locals. -/
  locals : OrderedMap String
  /-- The stack variables. -/
  stack : OrderedMap String
deriving DecidableEq

namespace Partition

/-- The partition without variables. -/
def empty : Partition := ⟨∅, ∅⟩

/-- The number of variables. -/
def size (p : Partition) : Nat := p.locals.size + p.stack.size

/-- Whether there is no variable. -/
def isEmpty (p : Partition) : Bool := p.size = 0

/-- The partition with one more local, on the side that the convention says. -/
def insert (isStack : NamingConvention) (p : Partition) (v : LocalVar) : Partition :=
  if isStack v.name then { p with stack := p.stack.insert v.name v.type }
  else { p with locals := p.locals.insert v.name v.type }

/-- The locals parted by a convention. -/
def ofLocals (isStack : NamingConvention) (locals : List LocalVar) : Partition :=
  locals.foldl (insert isStack) empty

end Partition

end ClassCensus
