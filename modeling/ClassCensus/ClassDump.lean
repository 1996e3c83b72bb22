import ClassCensus.ClassDef

/-!
# The dump of a class

A class as brace-structured text: a header line, the fields, and the methods with their locals
and statements, each member indented by one level. Line tags and call targets are not shown.
-/

namespace ClassCensus

/-- The indentation of one level. -/
def dumpIndent : String := "    "

/-- Modifiers, each followed by a space. -/
def dumpModifiers (modifiers : List String) : String :=
  Text.joinStrings "" (modifiers.map (· ++ " "))

/-- The lines of a dump as one text; every line is ended. -/
def dumpLines (lines : List String) : String :=
  Text.joinStrings "" (lines.map (· ++ "\n"))

/-- The lines of a method body between its braces; a blank line parts locals and statements. -/
def Body.dump (b : Body) : List String :=
  let locals := b.locals.map fun v => dumpIndent ++ dumpIndent ++ v.type ++ " " ++ v.name ++ ";"
  let gap := if b.locals ≠ [] ∧ b.statements ≠ [] then [""] else []
  let statements := b.statements.map fun s => dumpIndent ++ dumpIndent ++ s.text ++ ";"
  locals ++ gap ++ statements

/-- The first line of a method, without its end. -/
def Method.dumpHeader (m : Method) : String :=
  dumpIndent ++ dumpModifiers m.modifiers ++ m.returnType ++ " " ++ m.name ++ "(" ++
    Text.joinStrings ", " m.parameterTypes ++ ")"

/-- The lines of a method; one without a body ends with a semicolon. -/
def Method.dump (m : Method) : List String :=
  match m.body with
  | none => [m.dumpHeader ++ ";"]
  | some body =>
    [m.dumpHeader, dumpIndent ++ "\x7b"] ++ body.dump ++ [dumpIndent ++ "\x7d"]

/-- The line of a field. -/
def Field.dump (f : Field) : String :=
  dumpIndent ++ dumpModifiers f.modifiers ++ f.type ++ " " ++ f.name ++ ";"

/-- The header line of a class. The modifiers of an interface say that it is one, so the word
`class` is left out. -/
def ClassDef.dumpHeader (c : ClassDef) : String :=
  let keyword := if c.isInterface then "" else "class "
  let extended :=
    match c.superclass with
    | some superclass => " extends " ++ superclass
    | none => ""
  let implemented :=
    if c.interfaces = [] then "" else " implements " ++ Text.joinStrings ", " c.interfaces
  dumpModifiers c.modifiers ++ keyword ++ c.name ++ extended ++ implemented

/-- The lines of the methods, with a blank line before each of them, except the first one when
nothing stands before it. -/
def dumpMethods (afterMember : Bool) : List Method → List String
  | [] => []
  | m :: rest => (if afterMember then [""] else []) ++ m.dump ++ dumpMethods true rest

/-- The dump of a class. -/
def ClassDef.dump (c : ClassDef) : String :=
  dumpLines ([c.dumpHeader, "\x7b"] ++ c.fields.map Field.dump ++
    dumpMethods (c.fields ≠ []) c.methods ++ ["\x7d"])

end ClassCensus
