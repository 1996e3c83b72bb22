import ClassCensus.ClassDef

/-!
# Propagation of line tags

A statement without a line tag is given the tag of the closest tagged statement before it in
its body.
-/

namespace ClassCensus

/-- Statements with propagated tags, after a statement with the tag `last`. -/
def propagateFrom (last : Option UInt32) : List Statement → List Statement
  | [] => []
  | s :: rest =>
    let line := s.line <|> last
    { s with line } :: propagateFrom line rest

/-- The number of statements that `propagateFrom` gives a tag. -/
def retaggedFrom (last : Option UInt32) : List Statement → Nat
  | [] => 0
  | s :: rest =>
    (if s.line = none ∧ last ≠ none then 1 else 0) + retaggedFrom (s.line <|> last) rest

/-- A body with propagated line tags. -/
def Body.propagateLines (b : Body) : Body :=
  { b with statements := propagateFrom none b.statements }

/-- The number of statements of a body that are given a tag. -/
def Body.retagged (b : Body) : Nat := retaggedFrom none b.statements

/-- A class with propagated line tags in all of its bodies. -/
def ClassDef.propagateLines (c : ClassDef) : ClassDef :=
  { c with
    methods := c.methods.map fun m => { m with body := m.body.map Body.propagateLines } }

/-- The number of statements of a class that are given a tag. -/
def ClassDef.retagged (c : ClassDef) : Nat :=
  c.methods.foldr (fun m n => (m.body.map Body.retagged).getD 0 + n) 0

end ClassCensus
