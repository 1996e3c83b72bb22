import ClassCensus.ClassDef

/-!
# Method identifiers

A method of a class is named by its signature, with or without the angle brackets at either end,
or by its sub-signature.
-/

namespace ClassCensus

/-- An identifier between angle brackets; a bracket that is there already is not repeated. -/
def bracketed (id : String) : String :=
  let chars := id.toList
  let front := if chars.head? = some '<' then [] else ['<']
  let back := if chars.getLast? = some '>' then [] else ['>']
  String.ofList (front ++ chars ++ back)

/-- Whether an identifier names a method. -/
def Method.isNamedBy (m : Method) (id : String) : Bool :=
  m.signature = bracketed id || m.subSignature = id

/-- The first declared method that an identifier names. -/
def ClassDef.method? (c : ClassDef) (id : String) : Option Method :=
  c.methods.find? (·.isNamedBy id)

end ClassCensus
