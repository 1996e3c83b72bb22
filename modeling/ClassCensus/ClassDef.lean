import ClassCensus.Text.Pieces

/-!
# Classes

A class as an analysis engine reports it: its declared fields and methods in declaration order,
and per method the local variables and statements of its body. Methods are written in two forms:

* the sub-signature `void main(java.lang.String[])`, unique inside a class;
* the signature `<pkg.App: void main(java.lang.String[])>`, unique in a program.
-/

namespace ClassCensus

/-! ### Types -/

/-- A local variable of a method body. -/
structure LocalVar where
  name : String
  type : String
deriving DecidableEq, Repr, Inhabited

/-- A statement of a method body. -/
structure Statement where
  /-- The statement as it is dumped, without the final semicolon. -/
  text : String
  /-- The source line the statement is tagged with. -/
  line : Option UInt32
  /-- The signature of the method that the statement calls. -/
  target : Option String
deriving DecidableEq, Repr, Inhabited

/-- The body of a method. -/
structure Body where
  locals : List LocalVar
  statements : List Statement
deriving DecidableEq, Repr, Inhabited

/-- A declared method. -/
structure Method where
  declaringClass : String
  name : String
  returnType : String
  parameterTypes : List String
  modifiers : List String
  /-- The source line on which the method is declared to begin. -/
  startLine : Option UInt32
  /-- The body; native and abstract methods have none. -/
  body : Option Body
deriving DecidableEq, Repr, Inhabited

/-- A declared field. -/
structure Field where
  name : String
  type : String
  modifiers : List String
deriving DecidableEq, Repr, Inhabited

/-- A class with its members in declaration order. -/
structure ClassDef where
  name : String
  superclass : Option String
  interfaces : List String
  modifiers : List String
  fields : List Field
  methods : List Method
deriving DecidableEq, Repr, Inhabited

/-! ### Methods -/

namespace Method

/-- Return type, name and parameter types. -/
def subSignature (m : Method) : String :=
  m.returnType ++ " " ++ m.name ++ "(" ++ Text.joinStrings "," m.parameterTypes ++ ")"

/-- The sub-signature with the declaring class, in angle brackets. -/
def signature (m : Method) : String :=
  "<" ++ m.declaringClass ++ ": " ++ m.subSignature ++ ">"

/-- The statements of the body; none without a body. -/
def statements (m : Method) : List Statement :=
  match m.body with
  | some body => body.statements
  | none => []

end Method

namespace Body

/-- The body without locals and statements. -/
def empty : Body := ⟨[], []⟩

/-- The body with one more local. -/
def addLocal (b : Body) (v : LocalVar) : Body := { b with locals := b.locals ++ [v] }

/-- The body with one more statement. -/
def addStatement (b : Body) (s : Statement) : Body :=
  { b with statements := b.statements ++ [s] }

/-- The line tags of the statements, in order. -/
def lines (b : Body) : List UInt32 := b.statements.filterMap (·.line)

/-- The smallest line tag. -/
def minLine (b : Body) : Option UInt32 := b.lines.min?

/-- The largest line tag. -/
def maxLine (b : Body) : Option UInt32 := b.lines.max?

end Body

/-- The first and last source line of a method: its declared start line, or else the smallest
line tag, and the largest line tag. A method without line tags covers no lines. -/
def Method.lineRange (m : Method) : Option (UInt32 × UInt32) := do
  let body ← m.body
  let last ← body.maxLine
  let first ← m.startLine <|> body.minLine
  return (first, last)

/-- Whether a source line lies in the line range of the method. -/
def Method.coversLine (m : Method) (line : UInt32) : Bool :=
  match m.lineRange with
  | some (first, last) => first ≤ line && line ≤ last
  | none => false

/-! ### Classes -/

namespace ClassDef

/-- A class of this name without any members. -/
def named (name : String) : ClassDef :=
  { name, superclass := none, interfaces := [], modifiers := [], fields := [], methods := [] }

/-- The part of the name before the last dot; empty in the default package. -/
def packageName (c : ClassDef) : String :=
  match Text.cutLastString '.' c.name with
  | some (package, _) => package
  | none => ""

/-- The part of the name after the last dot. -/
def shortName (c : ClassDef) : String :=
  match Text.cutLastString '.' c.name with
  | some (_, short) => short
  | none => c.name

/-- The number of declared methods. -/
def methodCount (c : ClassDef) : Nat := c.methods.length

/-- Whether the class is declared as an interface. -/
def isInterface (c : ClassDef) : Bool := c.modifiers.contains "interface"

/-- The class with one more implemented interface. -/
def addInterface (c : ClassDef) (name : String) : ClassDef :=
  { c with interfaces := c.interfaces ++ [name] }

/-- The class with one more field. -/
def addField (c : ClassDef) (field : Field) : ClassDef :=
  { c with fields := c.fields ++ [field] }

/-- The class with one more method, which is declared by this class from then on. -/
def addMethod (c : ClassDef) (method : Method) : ClassDef :=
  { c with methods := c.methods ++ [{ method with declaringClass := c.name }] }

/-- The class in which every method without a declaring class is declared by the class itself. -/
def fillDeclaringClass (c : ClassDef) : ClassDef :=
  let fill (m : Method) : Method :=
    if m.declaringClass = "" then { m with declaringClass := c.name } else m
  { c with methods := c.methods.map fill }

end ClassDef

end ClassCensus
