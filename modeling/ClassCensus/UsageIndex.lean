import ClassCensus.CallSite
import ClassCensus.OrderedMap

/-!
# The usage index

Who calls what: for every called method the calls of it, in the order of classes, methods and
statements. A package prefix selects the classes whose calls are recorded.
-/

namespace ClassCensus

/-- The calls of each called method. -/
structure UsageIndex where
  /-- The calls by the signature of the called method, in order of discovery. -/
  usages : OrderedMap (List CallSite)
  /-- The signatures of all called methods. -/
  signatures : OrderedSet
  /-- The requested classes that the engine does not know. -/
  unresolved : List String
deriving DecidableEq

namespace UsageIndex

/-- The index without calls. -/
def empty : UsageIndex := ⟨∅, ∅, []⟩

instance : Inhabited UsageIndex := ⟨empty⟩

/-- The calls of a method; none if it is never called. -/
def callSites (index : UsageIndex) (signature : String) : List CallSite :=
  (index.usages.get? signature).getD []

/-- The number of calls. -/
def callSiteCount (index : UsageIndex) : Nat :=
  index.usages.values.foldr (fun sites n => sites.length + n) 0

/-- The index with one more call. -/
def record (index : UsageIndex) (site : CallSite) : UsageIndex :=
  { index with
    signatures := index.signatures.insert site.callee
    usages := index.usages.insert site.callee (index.callSites site.callee ++ [site]) }

/-- Whether a class is in a package whose name begins with a prefix. -/
def selects (packagePrefix : String) (c : ClassDef) : Bool :=
  packagePrefix.toList.isPrefixOf c.packageName.toList

/-- The calls in the selected classes, in the order of classes, methods and statements. -/
def sitesOf (packagePrefix : String) (classes : List ClassDef) : List CallSite :=
  (classes.filter (selects packagePrefix)).flatMap fun c => c.methods.flatMap Method.callSites

/-- The index of the calls in the selected classes. -/
def ofClasses (packagePrefix : String) (classes : List ClassDef) (unresolved : List String) :
    UsageIndex :=
  (sitesOf packagePrefix classes).foldl record { empty with unresolved }

/-- The index as a JSON object; without unresolved classes there is no member for them. -/
def toJson (index : UsageIndex) : Json :=
  let unresolved :=
    if index.unresolved = [] then [] else [("unresolved", Json.texts index.unresolved)]
  .record ([("usages", .map CallSite.listToJson index.usages),
    ("signatures", .texts index.signatures.toList)] ++ unresolved)

end UsageIndex

/-- The declared signatures and the called ones of a list of classes: for each method its own
signature, then those it calls. -/
def signaturesOf (classes : List ClassDef) : OrderedSet :=
  OrderedSet.ofList <|
    classes.flatMap fun c => c.methods.flatMap fun m => m.signature :: m.callees

end ClassCensus
