import ClassCensus.Json.Decode
import ClassCensus.Json.Reader
import ClassCensus.Json.Writer
import ClassCensus.Signature

/-!
# Call sites

The calls in the body of a method, in statement order, each with the method that is called, the
method that calls and the source line.
-/

namespace ClassCensus

/-- One call in the body of a method. -/
structure CallSite where
  /-- The signature of the called method. -/
  callee : String
  /-- The signature of the calling method. -/
  caller : Option String
  /-- The source line of the call, or `CallSite.unknownLine`. -/
  line : Int64
deriving DecidableEq, Repr, Inhabited

namespace CallSite

/-- The line of a call whose statement has no line tag. -/
def unknownLine : Int64 := -1

/-- Whether the source line is known. -/
def hasLine (s : CallSite) : Bool := s.line ≠ unknownLine

/-- A line tag as the line of a call site. -/
def lineOf : Option UInt32 → Int64
  | some line => Int64.ofInt line.toNat
  | none => unknownLine

/-! ### JSON -/

/-- A call site as a JSON object; an unknown caller is left out. -/
def toJson (s : CallSite) : Json :=
  let caller :=
    match s.caller with
    | some caller => [("invokedInMethod", Json.text caller)]
    | none => []
  .record ([("invokedMethodSignature", .text s.callee)] ++ caller ++
    [("lineNumber", .integer s.line.toInt)])

/-- The call site that a JSON value describes. -/
def ofJson? (v : Json) : Option CallSite := do
  match ← v.fields? ["invokedMethodSignature", "invokedInMethod", "lineNumber"] with
  | [callee, caller, line] =>
    return {
      callee := ← Json.required Json.text? callee
      caller := ← Json.withDefault none (Json.nullable Json.text?) caller
      line := ← Json.required Json.int64? line }
  | _ => none

/-- A list of call sites as a JSON array. -/
def listToJson (sites : List CallSite) : Json := .list toJson sites

/-- The list of call sites that a JSON text describes. -/
def parseList? (text : String) : Option (List CallSite) := do
  let v ← Json.parse? text
  Json.list? ofJson? v

end CallSite

/-! ### Extraction -/

/-- The call of a statement in a method with the signature `caller`. -/
def Statement.callSite? (caller : String) (s : Statement) : Option CallSite :=
  s.target.map fun callee =>
    { callee, caller := some caller, line := CallSite.lineOf s.line }

/-- The calls of a method in statement order; a method without a body has none. -/
def Method.callSites (m : Method) : List CallSite :=
  m.statements.filterMap (Statement.callSite? m.signature)

/-- The signatures of the methods that a method calls, in statement order. -/
def Method.callees (m : Method) : List String := m.callSites.map (·.callee)

/-- The calls of the method that an identifier names; none when it names no method. -/
def ClassDef.callSitesOf (c : ClassDef) (id : String) : List CallSite :=
  match c.method? id with
  | some m => m.callSites
  | none => []

end ClassCensus
