import ClassCensus.ClassDump

/-!
# What a dump shows

A dump has no declaring classes and start lines of methods, no line tags and no call targets. A class
without them is what the dump shows (`ClassDef.shown`), and classes that show the same have one dump
(`ClassDef.dump_of_shown_eq`).
-/

namespace ClassCensus

/-- A statement without its line tag and its call target. -/
def Statement.shown (s : Statement) : Statement := { s with line := none, target := none }

/-- A body without line tags and call targets. -/
def Body.shown (b : Body) : Body := { b with statements := b.statements.map Statement.shown }

/-- A method without its declaring class, its start line, line tags and call targets. -/
def Method.shown (m : Method) : Method :=
  { m with declaringClass := "", startLine := none, body := m.body.map Body.shown }

/-- A class without the declaring classes and start lines of its methods, line tags and call targets. -/
def ClassDef.shown (c : ClassDef) : ClassDef := { c with methods := c.methods.map Method.shown }

theorem Body.dump_shown (b : Body) : b.shown.dump = b.dump := by
  simp [dump, shown, Statement.shown]

theorem Method.dump_shown (m : Method) : m.shown.dump = m.dump := by
  cases h : m.body with
  | none => simp [dump, shown, dumpHeader, h]
  | some b => simp [dump, shown, dumpHeader, h, Body.dump_shown]

theorem dumpMethods_map_shown (after : Bool) (ms : List Method) :
    dumpMethods after (ms.map Method.shown) = dumpMethods after ms := by
  induction ms generalizing after with
  | nil => rfl
  | cons m rest ih => simp only [List.map_cons, dumpMethods, Method.dump_shown, ih]

theorem ClassDef.dump_shown (c : ClassDef) : c.shown.dump = c.dump := by
  simp only [dump, shown, dumpMethods_map_shown]
  rfl

theorem ClassDef.dump_of_shown_eq {c d : ClassDef} (h : c.shown = d.shown) : c.dump = d.dump := by
  rw [← c.dump_shown, h, d.dump_shown]

end ClassCensus
