import ClassCensus.ClassDef
import ClassCensus.Json.Decode
import ClassCensus.Json.Reader
import ClassCensus.Json.Writer

/-!
# Classes as JSON

How a class is written as a JSON object, with every field in a fixed order, and how it is read.
Only names and types have to be there when a class is read; everything else may be missing.
-/

namespace ClassCensus

/-! ### Writing -/

/-- A local variable as a JSON object. -/
def LocalVar.toJson (v : LocalVar) : Json :=
  .record [("name", .text v.name), ("type_name", .text v.type)]

/-- A line number as a JSON number. -/
def lineToJson (line : UInt32) : Json := .nat line.toNat

/-- A statement as a JSON object. -/
def Statement.toJson (s : Statement) : Json :=
  .record [("text", .text s.text), ("line", .optional lineToJson s.line),
    ("invoke", .optional .text s.target)]

/-- A method body as a JSON object. -/
def Body.toJson (b : Body) : Json :=
  .record [("locals", .list LocalVar.toJson b.locals),
    ("statements", .list Statement.toJson b.statements)]

/-- A method as a JSON object. -/
def Method.toJson (m : Method) : Json :=
  .record [("declaring_class", .text m.declaringClass), ("name", .text m.name),
    ("return_type", .text m.returnType), ("parameter_types", .texts m.parameterTypes),
    ("modifiers", .texts m.modifiers), ("start_line", .optional lineToJson m.startLine),
    ("body", .optional Body.toJson m.body)]

/-- A field as a JSON object. -/
def Field.toJson (f : Field) : Json :=
  .record [("name", .text f.name), ("type_name", .text f.type), ("modifiers", .texts f.modifiers)]

/-- A class as a JSON object. -/
def ClassDef.toJson (c : ClassDef) : Json :=
  .record [("name", .text c.name), ("superclass", .optional .text c.superclass),
    ("interfaces", .texts c.interfaces), ("modifiers", .texts c.modifiers),
    ("fields", .list Field.toJson c.fields), ("methods", .list Method.toJson c.methods)]

/-- A class as a JSON text without blanks. -/
def ClassDef.toText (c : ClassDef) : String := c.toJson.compact

/-! ### Reading -/

/-- The local variable that a JSON value describes. -/
def LocalVar.ofJson? (v : Json) : Option LocalVar := do
  match ← v.fields? ["name", "type_name"] with
  | [name, type] =>
    return { name := ← Json.required Json.text? name, type := ← Json.required Json.text? type }
  | _ => none

/-- The statement that a JSON value describes. -/
def Statement.ofJson? (v : Json) : Option Statement := do
  match ← v.fields? ["text", "line", "invoke"] with
  | [text, line, target] =>
    return {
      text := ← Json.required Json.text? text
      line := ← Json.withDefault none (Json.nullable Json.uint32?) line
      target := ← Json.withDefault none (Json.nullable Json.text?) target }
  | _ => none

/-- The method body that a JSON value describes. -/
def Body.ofJson? (v : Json) : Option Body := do
  match ← v.fields? ["locals", "statements"] with
  | [locals, statements] =>
    return {
      locals := ← Json.withDefault [] (Json.list? LocalVar.ofJson?) locals
      statements := ← Json.withDefault [] (Json.list? Statement.ofJson?) statements }
  | _ => none

/-- The method that a JSON value describes. -/
def Method.ofJson? (v : Json) : Option Method := do
  match ← v.fields? ["declaring_class", "name", "return_type", "parameter_types", "modifiers",
      "start_line", "body"] with
  | [declaringClass, name, returnType, parameterTypes, modifiers, startLine, body] =>
    return {
      declaringClass := ← Json.required Json.text? declaringClass
      name := ← Json.required Json.text? name
      returnType := ← Json.required Json.text? returnType
      parameterTypes := ← Json.withDefault [] (Json.list? Json.text?) parameterTypes
      modifiers := ← Json.withDefault [] (Json.list? Json.text?) modifiers
      startLine := ← Json.withDefault none (Json.nullable Json.uint32?) startLine
      body := ← Json.withDefault none (Json.nullable Body.ofJson?) body }
  | _ => none

/-- The field that a JSON value describes. -/
def Field.ofJson? (v : Json) : Option Field := do
  match ← v.fields? ["name", "type_name", "modifiers"] with
  | [name, type, modifiers] =>
    return {
      name := ← Json.required Json.text? name
      type := ← Json.required Json.text? type
      modifiers := ← Json.withDefault [] (Json.list? Json.text?) modifiers }
  | _ => none

/-- The class that a JSON value describes. -/
def ClassDef.ofJson? (v : Json) : Option ClassDef := do
  match ← v.fields? ["name", "superclass", "interfaces", "modifiers", "fields", "methods"] with
  | [name, superclass, interfaces, modifiers, fields, methods] =>
    return {
      name := ← Json.required Json.text? name
      superclass := ← Json.withDefault none (Json.nullable Json.text?) superclass
      interfaces := ← Json.withDefault [] (Json.list? Json.text?) interfaces
      modifiers := ← Json.withDefault [] (Json.list? Json.text?) modifiers
      fields := ← Json.withDefault [] (Json.list? Field.ofJson?) fields
      methods := ← Json.withDefault [] (Json.list? Method.ofJson?) methods }
  | _ => none

/-- The class that a JSON text describes. -/
def ClassDef.parse? (text : String) : Option ClassDef := do
  let v ← Json.parse? text
  ClassDef.ofJson? v

end ClassCensus
