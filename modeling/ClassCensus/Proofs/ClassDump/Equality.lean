import ClassCensus.Proofs.ClassDump.Lines
import ClassCensus.Proofs.ClassDump.Shown

/-!
# Classes with one dump

The fields of a dump end at the first line that cannot be the line of a field, the body of a method at
its closing brace, and the locals of a body at its blank line. So the dump of a legible class tells all
that it shows: legible classes with one dump show the same (`ClassDef.dump_eq_iff`).
-/

namespace ClassCensus

open Text (phrase)

/-- What one line tells of each element, the lines tell of the list. -/
theorem map_eq_of_map_eq {α β γ : Type} {f : α → β} {g : α → γ} {xs ys : List α}
    (hfg : ∀ x ∈ xs, ∀ y ∈ ys, f x = f y → g x = g y) (h : xs.map f = ys.map f) :
    xs.map g = ys.map g := by
  induction xs generalizing ys with
  | nil =>
    have hys : ys = [] := List.map_eq_nil_iff.mp h.symm
    rw [hys]
  | cons x xs ih =>
    cases ys with
    | nil => cases h
    | cons y ys =>
      obtain ⟨hhead, htail⟩ := List.cons.inj h
      have hrest := ih (fun x hx y hy => hfg x (List.mem_cons_of_mem _ hx) y
        (List.mem_cons_of_mem _ hy)) htail
      rw [List.map_cons, List.map_cons, hrest,
        hfg x (List.mem_cons_self ..) y (List.mem_cons_self ..) hhead]

/-! ### Bodies -/

/-- The line of a local. -/
def LocalVar.dump (v : LocalVar) : String :=
  dumpIndent ++ dumpIndent ++ v.type ++ " " ++ v.name ++ ";"

/-- The line of a statement. -/
def Statement.dump (s : Statement) : String := dumpIndent ++ dumpIndent ++ s.text ++ ";"

theorem LocalVar.toList_dump (v : LocalVar) : v.dump.toList =
    (dumpIndent ++ dumpIndent).toList ++ phrase (declarationWords [] v.type v.name) ++ [';'] := by
  rw [phrase_declarationWords]
  simp [dump, dumpModifiers, Text.joinStrings]

theorem LocalVar.Legible.words {v : LocalVar} (h : v.Legible) :
    ∀ w ∈ declarationWords [] v.type v.name, IsWord w :=
  isWord_of_mem_declarationWords (fun _ hs => nomatch hs) h.type h.name

theorem LocalVar.Legible.dump_inj {v w : LocalVar} (hv : v.Legible) (hw : w.Legible)
    (h : v.dump = w.dump) : v = w := by
  have hchars := String.toList_inj.mpr h
  rw [toList_dump, toList_dump] at hchars
  obtain ⟨-, htype, hname⟩ := declarationWords_inj hv.words hw.words
    (List.append_cancel_left (List.append_cancel_right hchars))
  cases v
  cases w
  simp_all

theorem Statement.shown_of_dump_eq {s t : Statement} (h : s.dump = t.dump) : s.shown = t.shown := by
  have htext : s.text = t.text := by
    have hchars := String.toList_inj.mpr h
    simp only [dump, String.toList_append] at hchars
    exact String.toList_inj.mp (List.append_cancel_left (List.append_cancel_right hchars))
  rw [shown, shown, htext]

namespace Body

variable {b d : Body}

theorem dump_eq (h : b.statements ≠ []) : b.dump = b.locals.map LocalVar.dump ++
    ((if b.locals = [] then [] else [""]) ++ b.statements.map Statement.dump) := by
  have hlocals : LocalVar.dump =
      fun v => dumpIndent ++ dumpIndent ++ v.type ++ " " ++ v.name ++ ";" := rfl
  have hstatements : Statement.dump = fun s => dumpIndent ++ dumpIndent ++ s.text ++ ";" := rfl
  rw [dump, hlocals, hstatements]
  by_cases hb : b.locals = [] <;> simp [hb, h]

theorem mem_dump {l : String} (h : l ∈ b.dump) :
    l = "" ∨ (∃ v ∈ b.locals, l = v.dump) ∨ ∃ s ∈ b.statements, l = s.dump := by
  simp only [dump, List.mem_append, List.mem_map] at h
  rcases h with (⟨v, hv, rfl⟩ | h) | ⟨s, hs, rfl⟩
  · exact .inr (.inl ⟨v, hv, rfl⟩)
  · split at h
    · exact .inl (List.mem_singleton.mp h)
    · cases h
  · exact .inr (.inr ⟨s, hs, rfl⟩)

/-- A line of a body is blank or ends with a semicolon. -/
theorem eq_empty_or_getLast?_of_mem_dump {l : String} (h : l ∈ b.dump) :
    l = "" ∨ l.toList.getLast? = some ';' := by
  rcases mem_dump h with rfl | ⟨v, -, rfl⟩ | ⟨s, -, rfl⟩
  · exact .inl rfl
  · exact .inr (by simp [LocalVar.toList_dump])
  · exact .inr (by simp [Statement.dump])

theorem close_not_mem_dump : dumpIndent ++ "\x7d" ∉ b.dump := fun h =>
  absurd (eq_empty_or_getLast?_of_mem_dump h) (by decide)

theorem empty_not_mem_locals : "" ∉ b.locals.map LocalVar.dump := by
  simp [LocalVar.dump, dumpIndent]

theorem empty_not_mem_statements : "" ∉ b.statements.map Statement.dump := by
  simp [Statement.dump, dumpIndent]

theorem Legible.empty_mem_dump_iff (h : b.Legible) : "" ∈ b.dump ↔ b.locals ≠ [] := by
  rw [dump_eq h.nonempty, List.mem_append, List.mem_append]
  by_cases hb : b.locals = []
  · simp [hb, empty_not_mem_statements]
  · simp [hb]

/-- Locals and statements have lines of one shape, and the blank line between them is the only one. -/
theorem Legible.shown_of_dump_eq (hb : b.Legible) (hd : d.Legible) (h : b.dump = d.dump) :
    b.shown = d.shown := by
  have hnone : b.locals = [] ↔ d.locals = [] := by
    have hiff := hb.empty_mem_dump_iff
    rw [h, hd.empty_mem_dump_iff] at hiff
    exact not_iff_not.mp hiff.symm
  have hparts : b.locals.map LocalVar.dump = d.locals.map LocalVar.dump ∧
      b.statements.map Statement.dump = d.statements.map Statement.dump := by
    rw [dump_eq hb.nonempty, dump_eq hd.nonempty] at h
    by_cases hlocals : b.locals = []
    · have hlocals' := hnone.mp hlocals
      exact ⟨by rw [hlocals, hlocals'], by simpa [hlocals, hlocals'] using h⟩
    · have hlocals' : d.locals ≠ [] := fun hnil => hlocals (hnone.mpr hnil)
      rw [if_neg hlocals, if_neg hlocals'] at h
      exact Text.append_sep_inj empty_not_mem_locals empty_not_mem_locals h
  have hlocals := map_eq_of_map_eq (g := id) (fun v hv w hw =>
    (hb.locals v hv).dump_inj (hd.locals w hw)) hparts.1
  have hstatements := map_eq_of_map_eq (g := Statement.shown) (fun _ _ _ _ =>
    Statement.shown_of_dump_eq) hparts.2
  rw [List.map_id, List.map_id] at hlocals
  rw [shown, shown, hstatements, hlocals]

theorem Legible.no_break_dump (h : b.Legible) : ∀ l ∈ b.dump, '\n' ∉ l.toList := by
  intro l hl
  rcases mem_dump hl with rfl | ⟨v, hv, rfl⟩ | ⟨s, hs, rfl⟩
  · decide
  · have hphrase := IsPiece.no_break_phrase fun w hw => ((h.locals v hv).words w hw).isPiece
    rw [LocalVar.toList_dump]
    simp [dumpIndent, hphrase]
  · have htext := h.texts s hs
    simp [Statement.dump, dumpIndent, htext]

end Body

/-! ### Methods -/

namespace Method

variable {m n : Method}

theorem dump_of_none (h : m.body = none) : m.dump = [m.dumpHeader ++ ";"] := by
  rw [dump, h]

theorem dump_of_some {b : Body} (h : m.body = some b) :
    m.dump = m.dumpHeader :: (dumpIndent ++ "\x7b") :: (b.dump ++ [dumpIndent ++ "\x7d"]) := by
  rw [dump, h]
  rfl

/-- A semicolon after its first line tells a method without a body. -/
theorem dumpHeader_ne (m n : Method) : m.dumpHeader ++ ";" ≠ n.dumpHeader := by
  intro h
  have hheader : n.dumpHeader.toList.getLast? = some ')' := by
    rw [dumpHeader, String.toList_append]
    exact List.getLast?_concat
  rw [← h, String.toList_append] at hheader
  exact absurd (List.getLast?_concat.symm.trans hheader) (by decide)

theorem exists_dump_eq (m : Method) : ∃ l rest, m.dump = l :: rest ∧ '(' ∈ l.toList := by
  have hmem : '(' ∈ m.dumpHeader.toList := by simp [toList_dumpHeader]
  cases hm : m.body with
  | none => exact ⟨_, _, dump_of_none hm, by simp [hmem]⟩
  | some b => exact ⟨_, _, dump_of_some hm, hmem⟩

/-- The first line of a method tells whether it has a body, and the body ends at the closing brace. -/
theorem Legible.parts_of_dump_append (hm : m.Legible) (hn : n.Legible) {s t : List String}
    (h : m.dump ++ s = n.dump ++ t) :
    m.dumpHeader = n.dumpHeader ∧ m.body.map Body.shown = n.body.map Body.shown ∧ s = t := by
  cases hbody : m.body with
  | none =>
    rw [dump_of_none hbody] at h
    cases hbody' : n.body with
    | none =>
      rw [dump_of_none hbody'] at h
      obtain ⟨hheader, hrest⟩ := List.cons.inj h
      have hchars := String.toList_inj.mpr hheader
      rw [String.toList_append, String.toList_append] at hchars
      exact ⟨String.toList_inj.mp (List.append_cancel_right hchars), rfl, hrest⟩
    | some b =>
      rw [dump_of_some hbody'] at h
      exact absurd (List.cons.inj h).1 (dumpHeader_ne m n)
  | some b =>
    rw [dump_of_some hbody] at h
    cases hbody' : n.body with
    | none =>
      rw [dump_of_none hbody'] at h
      exact absurd (List.cons.inj h).1.symm (dumpHeader_ne n m)
    | some b' =>
      rw [dump_of_some hbody'] at h
      simp only [List.cons_append, List.append_assoc, List.nil_append] at h
      obtain ⟨hheader, hrest⟩ := List.cons.inj h
      obtain ⟨hlines, hrest⟩ := Text.append_sep_inj Body.close_not_mem_dump
        Body.close_not_mem_dump (List.cons.inj hrest).2
      have hshown := (hm.body b hbody).shown_of_dump_eq (hn.body b' hbody') hlines
      exact ⟨hheader, by rw [Option.map_some, Option.map_some, hshown], hrest⟩

/-- The lines of a method are told from the lines that follow. -/
theorem Legible.dump_append_inj (hm : m.Legible) (hn : n.Legible) {s t : List String}
    (h : m.dump ++ s = n.dump ++ t) : m.shown = n.shown ∧ s = t := by
  obtain ⟨hheader, hbody, hrest⟩ := hm.parts_of_dump_append hn h
  obtain ⟨⟨hmodifiers, hreturn, hname⟩, hparameters⟩ := hm.dumpHeader_inj hn hheader
  refine ⟨?_, hrest⟩
  rw [shown, shown, hmodifiers, hreturn, hname, hparameters, hbody]

theorem Legible.no_break_dump (h : m.Legible) : ∀ l ∈ m.dump, '\n' ∉ l.toList := by
  intro l hl
  have hheader := h.no_break_dumpHeader
  cases hbody : m.body with
  | none =>
    rw [dump_of_none hbody] at hl
    cases List.mem_singleton.mp hl
    simp [hheader]
  | some b =>
    rw [dump_of_some hbody] at hl
    simp only [List.mem_cons, List.mem_append, List.not_mem_nil, or_false] at hl
    rcases hl with rfl | rfl | hl | rfl
    · exact hheader
    · decide
    · exact (h.body b hbody).no_break_dump l hl
    · decide

end Method

theorem dumpMethods_cons_ne_nil (after : Bool) (m : Method) (rest : List Method) :
    dumpMethods after (m :: rest) ≠ [] := by
  obtain ⟨l, lines, hm, -⟩ := m.exists_dump_eq
  simp [dumpMethods, hm]

theorem dumpMethods_inj {after : Bool} {ms ns : List Method} (hms : ∀ m ∈ ms, m.Legible)
    (hns : ∀ n ∈ ns, n.Legible) (h : dumpMethods after ms = dumpMethods after ns) :
    ms.map Method.shown = ns.map Method.shown := by
  induction ms generalizing after ns with
  | nil =>
    cases ns with
    | nil => rfl
    | cons n ns => exact absurd h.symm (dumpMethods_cons_ne_nil after n ns)
  | cons m ms ih =>
    cases ns with
    | nil => exact absurd h (dumpMethods_cons_ne_nil after m ms)
    | cons n ns =>
      simp only [dumpMethods, List.append_assoc] at h
      obtain ⟨hshown, hrest⟩ := (hms m (List.mem_cons_self ..)).dump_append_inj
        (hns n (List.mem_cons_self ..)) (List.append_cancel_left h)
      have htail := ih (fun k hk => hms k (List.mem_cons_of_mem _ hk))
        (fun k hk => hns k (List.mem_cons_of_mem _ hk)) hrest
      rw [List.map_cons, List.map_cons, hshown, htail]

theorem no_break_dumpMethods {after : Bool} {ms : List Method} (hms : ∀ m ∈ ms, m.Legible) :
    ∀ l ∈ dumpMethods after ms, '\n' ∉ l.toList := by
  induction ms generalizing after with
  | nil => simp [dumpMethods]
  | cons m ms ih =>
    intro l hl
    simp only [dumpMethods, List.mem_append] at hl
    rcases hl with (hl | hl) | hl
    · split at hl
      · cases List.mem_singleton.mp hl
        decide
      · cases hl
    · exact (hms m (List.mem_cons_self ..)).no_break_dump l hl
    · exact ih (fun k hk => hms k (List.mem_cons_of_mem _ hk)) l hl

/-! ### Classes -/

namespace ClassDef

variable {c d : ClassDef}

/-- The lines of the methods and the closing brace of a class. -/
def endLines (c : ClassDef) : List String := dumpMethods (c.fields ≠ []) c.methods ++ ["\x7d"]

theorem dump_eq (c : ClassDef) : c.dump =
    dumpLines (c.dumpHeader :: "\x7b" :: (c.fields.map Field.dump ++ c.endLines)) := by
  rw [dump, endLines]
  simp

theorem Legible.no_break_lines (hc : c.Legible) :
    ∀ l ∈ c.dumpHeader :: "\x7b" :: (c.fields.map Field.dump ++ c.endLines), '\n' ∉ l.toList := by
  intro l hl
  simp only [endLines, List.mem_cons, List.mem_append, List.mem_map, List.not_mem_nil,
    or_false] at hl
  rcases hl with rfl | rfl | ⟨f, hf, rfl⟩ | hl | rfl
  · exact hc.no_break_dumpHeader
  · decide
  · exact (hc.fields f hf).not_mem_dump (by decide)
  · exact no_break_dumpMethods hc.methods l hl
  · decide

/-- The shape of the line of a field. -/
def IsFieldLine (l : String) : Prop := '(' ∉ l.toList ∧ l.toList.getLast? = some ';'

theorem Legible.isFieldLine (hc : c.Legible) : ∀ l ∈ c.fields.map Field.dump, IsFieldLine l := by
  intro l hl
  obtain ⟨f, hf, rfl⟩ := List.mem_map.mp hl
  exact ⟨(hc.fields f hf).not_mem_dump (by decide), by simp [Field.toList_dump]⟩

/-- The fields end before a blank line, the first line of a method or the closing brace. -/
theorem not_isFieldLine_of_head? : ∀ l ∈ c.endLines.head?, ¬IsFieldLine l := by
  intro l hl hline
  cases hmethods : c.methods with
  | nil =>
    rw [endLines, hmethods] at hl
    cases hl
    exact absurd hline.2 (by decide)
  | cons m rest =>
    obtain ⟨first, lines, hm, hopen⟩ := m.exists_dump_eq
    rw [endLines, hmethods, dumpMethods, hm] at hl
    by_cases hfields : c.fields = []
    · rw [if_neg (by simp [hfields])] at hl
      cases hl
      exact hline.1 hopen
    · rw [if_pos (decide_eq_true hfields)] at hl
      cases hl
      exact absurd hline.2 (by decide)

theorem Legible.shown_of_dump_eq (hc : c.Legible) (hd : d.Legible) (h : c.dump = d.dump) :
    c.shown = d.shown := by
  rw [dump_eq, dump_eq] at h
  obtain ⟨hheader, hrest⟩ := List.cons.inj (dumpLines_inj hc.no_break_lines hd.no_break_lines h)
  obtain ⟨hfieldLines, hend⟩ := Text.append_inj_of_kind hc.isFieldLine hd.isFieldLine
    not_isFieldLine_of_head? not_isFieldLine_of_head? (List.cons.inj hrest).2
  obtain ⟨⟨hmodifiers, hname⟩, hsuperclass, hinterfaces⟩ := hc.dumpHeader_inj hd hheader
  have hfields := map_eq_of_map_eq (g := id) (fun f hf g hg =>
    (hc.fields f hf).dump_inj (hd.fields g hg)) hfieldLines
  rw [List.map_id, List.map_id] at hfields
  have hmethodLines := List.append_cancel_right hend
  rw [hfields] at hmethodLines
  have hmethods := dumpMethods_inj hc.methods hd.methods hmethodLines
  rw [shown, shown, hname, hsuperclass, hinterfaces, hmodifiers, hfields, hmethods]

/-- Legible classes have one dump exactly if they differ in no more than declaring classes and start
lines of methods, line tags and call targets. -/
theorem dump_eq_iff (hc : c.Legible) (hd : d.Legible) : c.dump = d.dump ↔ c.shown = d.shown := by
  constructor
  · exact hc.shown_of_dump_eq hd
  · exact dump_of_shown_eq

/-- A statement that reads like the declaration of a local is told from it, line tags are not. -/
theorem dump_eq_iff_of_declaration :
    let run (start : Option UInt32) (locals : List LocalVar) (statements : List Statement) : Method :=
      ⟨"p.App", "run", "void", ["int", "p.Out"], ["static"], start, some ⟨locals, statements⟩⟩
    let app (m : Method) : ClassDef := { ClassDef.named "p.App" with
      superclass := some "p.Base", interfaces := ["p.A", "p.B"], modifiers := ["public"],
      fields := [⟨"size", "int", []⟩], methods := [m, { m with name := "stop", body := none }] }
    let c := app (run none [⟨"x", "int"⟩] [⟨"return", none, none⟩])
    let d := app (run none [] [⟨"int x", none, none⟩, ⟨"return", none, none⟩])
    let e := app (run (some 3) [⟨"x", "int"⟩] [⟨"return", some 4, none⟩])
    c.Legible ∧ d.Legible ∧ e.Legible ∧ c.dump ≠ d.dump ∧ c.dump = e.dump := by
  intro run app c d e
  have hc : c.Legible := by decide +kernel
  have hd : d.Legible := by decide +kernel
  have he : e.Legible := by decide +kernel
  refine ⟨hc, hd, he, ?_, (dump_eq_iff hc he).mpr (by decide +kernel)⟩
  intro h
  exact absurd ((dump_eq_iff hc hd).mp h) (by decide +kernel)

end ClassDef

end ClassCensus
