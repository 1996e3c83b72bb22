import ClassCensus.CallSite
import ClassCensus.Partition

/-!
# Metrics records

The record of a class: its superclass and interfaces, the signatures of its methods, and per
method the variables and the methods it calls, keyed by sub-signature. Written as JSON with an
indentation of four spaces, it is the metrics file of the class.
-/

namespace ClassCensus

/-- The metrics of a method. -/
structure MethodRecord where
  localVariables : OrderedMap String
  stackVariables : OrderedMap String
  /-- The signatures of the called methods in statement order. -/
  callees : List String
deriving DecidableEq

/-- The metrics of a class. -/
structure ClassRecord where
  className : String
  /-- The superclass; empty at the root of the hierarchy. -/
  superclass : String
  interfaces : List String
  methodCount : Nat
  signatures : List String
  /-- The metrics of the methods by sub-signature, in declaration order. -/
  methods : OrderedMap MethodRecord
deriving DecidableEq

/-! ### Assembly -/

namespace MethodRecord

/-- The record of a method without a body. -/
def empty : MethodRecord := ⟨∅, ∅, []⟩

/-- The metrics of a method under a naming convention. -/
def ofMethod (isStack : NamingConvention) (m : Method) : MethodRecord :=
  match m.body with
  | none => empty
  | some body =>
    let partition := Partition.ofLocals isStack body.locals
    { localVariables := partition.locals
      stackVariables := partition.stack
      callees := m.callees }

end MethodRecord

/-- The metrics of a class under a naming convention. Of two methods with one sub-signature the
later one is recorded. -/
def ClassRecord.ofClass (isStack : NamingConvention) (c : ClassDef) : ClassRecord :=
  { className := c.name
    superclass := c.superclass.getD ""
    interfaces := c.interfaces
    methodCount := c.methodCount
    signatures := c.methods.map Method.signature
    methods := OrderedMap.ofList
      (c.methods.map fun m => (m.subSignature, MethodRecord.ofMethod isStack m)) }

/-! ### JSON -/

namespace MethodRecord

/-- The record of a method as a JSON object. -/
def toJson (r : MethodRecord) : Json :=
  .record [("localVariables", .map Json.text r.localVariables),
    ("stackVariables", .map Json.text r.stackVariables),
    ("invokeExpressions", .texts r.callees)]

/-- The record of a method that a JSON value describes. -/
def ofJson? (v : Json) : Option MethodRecord := do
  match ← v.fields? ["localVariables", "stackVariables", "invokeExpressions"] with
  | [localVariables, stackVariables, callees] =>
    return {
      localVariables := ← Json.required (Json.map? Json.text?) localVariables
      stackVariables := ← Json.required (Json.map? Json.text?) stackVariables
      callees := ← Json.required (Json.list? Json.text?) callees }
  | _ => none

end MethodRecord

namespace ClassRecord

/-- The record of a class as a JSON object. -/
def toJson (r : ClassRecord) : Json :=
  .record [("className", .text r.className), ("superClass", .text r.superclass),
    ("implementedInterface", .texts r.interfaces), ("methodCount", .nat r.methodCount),
    ("methodsSignature", .texts r.signatures),
    ("methodsInformation", .map MethodRecord.toJson r.methods)]

/-- The text of the metrics file. -/
def toText (r : ClassRecord) : String := r.toJson.pretty "    " ++ "\n"

/-- The record of a class that a JSON value describes. -/
def ofJson? (v : Json) : Option ClassRecord := do
  match ← v.fields? ["className", "superClass", "implementedInterface", "methodCount",
      "methodsSignature", "methodsInformation"] with
  | [className, superclass, interfaces, methodCount, signatures, methods] =>
    return {
      className := ← Json.required Json.text? className
      superclass := ← Json.required Json.text? superclass
      interfaces := ← Json.required (Json.list? Json.text?) interfaces
      methodCount := ← Json.required (Json.natBelow? 0x10000000000000000) methodCount
      signatures := ← Json.required (Json.list? Json.text?) signatures
      methods := ← Json.required (Json.map? MethodRecord.ofJson?) methods }
  | _ => none

/-- The record of a class that a JSON text describes. -/
def parse? (text : String) : Option ClassRecord := do
  let v ← Json.parse? text
  ofJson? v

end ClassRecord

end ClassCensus
