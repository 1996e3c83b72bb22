import ClassCensus.ClassRecord
import ClassCensus.LineTags
import ClassCensus.Proofs.ClassDump.Shown
import ClassCensus.Session
import Mathlib.Data.UInt

/-!
# What the propagation of line tags changes

Propagation gives a tag to statements that have none and leaves everything else alone: texts,
call targets, the smallest and the largest tag of each body. So the dump and the record of a
class stay as they are (`ClassDef.dump_propagateLines`, `ClassRecord.ofClass_propagateLines`), and
the method at a line is the same one (`methodAtLine_propagateLines`).
-/

namespace ClassCensus

/-! ### Statements -/

/-- Whatever does not look at line tags is the same after propagation. -/
theorem map_propagateFrom {α : Type} (f : Statement → α)
    (hf : ∀ (s : Statement) (line : Option UInt32), f { s with line } = f s)
    (last : Option UInt32) (ss : List Statement) :
    (propagateFrom last ss).map f = ss.map f := by
  induction ss generalizing last with
  | nil => rfl
  | cons s rest ih =>
    simp only [propagateFrom, List.map_cons]
    rw [hf, ih]

theorem propagateFrom_idem (last : Option UInt32) (ss : List Statement) :
    propagateFrom last (propagateFrom last ss) = propagateFrom last ss := by
  induction ss generalizing last with
  | nil => rfl
  | cons s rest ih =>
    have hline : ((s.line <|> last) <|> last) = (s.line <|> last) := by
      cases s.line <;> cases last <;> rfl
    simp only [propagateFrom, hline, ih]

/-! ### Bodies -/

instance lawfulOrderMaxUInt32 : Std.LawfulOrderMax UInt32 where
  max_eq_or a b := by
    change (if a ≤ b then b else a) = a ∨ (if a ≤ b then b else a) = b
    split
    · exact .inr rfl
    · exact .inl rfl
  max_le_iff a b c := by
    change (if a ≤ b then b else a) ≤ c ↔ a ≤ c ∧ b ≤ c
    split <;> simp_all only [UInt32.le_iff_toNat_le] <;> omega

theorem mem_lines_propagateFrom (last : Option UInt32) (ss : List Statement) (x : UInt32) :
    x ∈ (propagateFrom last ss).filterMap (·.line) →
      last = some x ∨ x ∈ ss.filterMap (·.line) := by
  induction ss generalizing last with
  | nil => simp [propagateFrom]
  | cons s rest ih =>
    intro hx
    simp only [propagateFrom, List.mem_filterMap, List.mem_cons] at hx
    obtain ⟨t, ht, hl⟩ := hx
    have hs : s.line = some x → x ∈ (s :: rest).filterMap (·.line) := by
      intro h
      exact List.mem_filterMap.mpr ⟨s, List.mem_cons_self .., h⟩
    have hline : (s.line <|> last) = some x →
        last = some x ∨ x ∈ (s :: rest).filterMap (·.line) := by
      intro h
      cases hsl : s.line with
      | none => exact .inl (by simpa [hsl] using h)
      | some y => exact .inr (hs (by simpa [hsl] using h))
    rcases ht with rfl | ht
    · exact hline hl
    · have hrest : x ∈ (propagateFrom (s.line <|> last) rest).filterMap (·.line) :=
        List.mem_filterMap.mpr ⟨t, ht, hl⟩
      rcases ih (s.line <|> last) hrest with h | h
      · exact hline h
      · obtain ⟨u, hu, hul⟩ := List.mem_filterMap.mp h
        exact .inr (List.mem_filterMap.mpr ⟨u, List.mem_cons_of_mem _ hu, hul⟩)

theorem mem_lines_of_mem (last : Option UInt32) (ss : List Statement) (x : UInt32)
    (hx : x ∈ ss.filterMap (·.line)) : x ∈ (propagateFrom last ss).filterMap (·.line) := by
  induction ss generalizing last with
  | nil => simp at hx
  | cons s rest ih =>
    simp only [List.mem_filterMap, List.mem_cons] at hx
    obtain ⟨t, ht, hl⟩ := hx
    rcases ht with rfl | ht
    · exact List.mem_filterMap.mpr ⟨_, List.mem_cons_self .., by simp [hl]⟩
    · have hrest := ih (s.line <|> last) (List.mem_filterMap.mpr ⟨t, ht, hl⟩)
      obtain ⟨u, hu, hul⟩ := List.mem_filterMap.mp hrest
      exact List.mem_filterMap.mpr ⟨u, List.mem_cons_of_mem _ hu, hul⟩

namespace Body

theorem mem_lines_propagateLines (b : Body) (x : UInt32) :
    x ∈ b.propagateLines.lines ↔ x ∈ b.lines := by
  constructor
  · intro h
    rcases mem_lines_propagateFrom none b.statements x h with h | h
    · cases h
    · exact h
  · exact mem_lines_of_mem none b.statements x

theorem minLine_propagateLines (b : Body) : b.propagateLines.minLine = b.minLine := by
  cases h : b.minLine with
  | none =>
    have hnil : b.lines = [] := List.min?_eq_none_iff.mp h
    refine List.min?_eq_none_iff.mpr (List.eq_nil_iff_forall_not_mem.mpr ?_)
    intro x hx
    rw [mem_lines_propagateLines, hnil] at hx
    cases hx
  | some m =>
    obtain ⟨hm, hle⟩ := List.min?_eq_some_iff.mp h
    refine List.min?_eq_some_iff.mpr ⟨(mem_lines_propagateLines b m).mpr hm, ?_⟩
    intro x hx
    exact hle x ((mem_lines_propagateLines b x).mp hx)

theorem maxLine_propagateLines (b : Body) : b.propagateLines.maxLine = b.maxLine := by
  cases h : b.maxLine with
  | none =>
    have hnil : b.lines = [] := List.max?_eq_none_iff.mp h
    refine List.max?_eq_none_iff.mpr (List.eq_nil_iff_forall_not_mem.mpr ?_)
    intro x hx
    rw [mem_lines_propagateLines, hnil] at hx
    cases hx
  | some m =>
    obtain ⟨hm, hle⟩ := List.max?_eq_some_iff.mp h
    refine List.max?_eq_some_iff.mpr ⟨(mem_lines_propagateLines b m).mpr hm, ?_⟩
    intro x hx
    exact hle x ((mem_lines_propagateLines b x).mp hx)

theorem propagateLines_idem (b : Body) : b.propagateLines.propagateLines = b.propagateLines := by
  simp only [propagateLines, propagateFrom_idem]

theorem shown_propagateLines (b : Body) : b.propagateLines.shown = b.shown := by
  have hstatements := map_propagateFrom Statement.shown (fun _ _ => rfl) none b.statements
  rw [shown, shown, propagateLines, hstatements]

end Body

/-! ### Methods -/

/-- A method with propagated line tags in its body. -/
def Method.propagateLines (m : Method) : Method :=
  { m with body := m.body.map Body.propagateLines }

theorem ClassDef.methods_propagateLines (c : ClassDef) :
    c.propagateLines.methods = c.methods.map Method.propagateLines := rfl

namespace Method

variable (m : Method)

@[simp]
theorem signature_propagateLines : m.propagateLines.signature = m.signature := by
  cases m
  rfl

@[simp]
theorem subSignature_propagateLines : m.propagateLines.subSignature = m.subSignature := by
  cases m
  rfl

@[simp]
theorem isNone_body_propagateLines : m.propagateLines.body.isNone = m.body.isNone := by
  simp [propagateLines]

theorem statements_propagateLines :
    m.propagateLines.statements = propagateFrom none m.statements := by
  cases h : m.body <;> simp [statements, propagateLines, Body.propagateLines, propagateFrom, h]

theorem propagateLines_idem : m.propagateLines.propagateLines = m.propagateLines := by
  cases h : m.body <;> simp [propagateLines, Body.propagateLines_idem, h]

theorem shown_propagateLines : m.propagateLines.shown = m.shown := by
  cases h : m.body <;> simp [shown, propagateLines, Body.shown_propagateLines, h]

theorem lineRange_propagateLines : m.propagateLines.lineRange = m.lineRange := by
  cases h : m.body with
  | none => simp [lineRange, propagateLines, h]
  | some b =>
    simp only [lineRange, propagateLines, h, Option.map_some, Option.bind_eq_bind,
      Option.bind_some, Body.maxLine_propagateLines, Body.minLine_propagateLines]

theorem coversLine_propagateLines (line : UInt32) :
    m.propagateLines.coversLine line = m.coversLine line := by
  simp only [coversLine, lineRange_propagateLines]

theorem callees_eq : m.callees = m.statements.filterMap (·.target) := by
  simp only [callees, callSites, List.map_filterMap]
  congr 1
  funext s
  cases h : s.target <;> simp [Statement.callSite?, h]

theorem callees_propagateLines : m.propagateLines.callees = m.callees := by
  have ht := map_propagateFrom (·.target) (fun _ _ => rfl) none m.statements
  rw [callees_eq, callees_eq, statements_propagateLines]
  have hf : ∀ ss : List Statement,
      ss.filterMap (·.target) = (ss.map (·.target)).filterMap id := by
    intro ss
    rw [List.filterMap_map]
    rfl
  rw [hf, ht, ← hf]

end Method

/-! ### Classes -/

theorem ClassDef.propagateLines_idem (c : ClassDef) :
    c.propagateLines.propagateLines = c.propagateLines := by
  have h : c.propagateLines.propagateLines.methods = c.propagateLines.methods := by
    simp only [methods_propagateLines, List.map_map]
    congr 1
    funext m
    exact m.propagateLines_idem
  exact congrArg (fun ms => { c with methods := ms }) h

theorem ClassDef.shown_propagateLines (c : ClassDef) : c.propagateLines.shown = c.shown := by
  have hmethods : c.propagateLines.methods.map Method.shown = c.methods.map Method.shown := by
    rw [methods_propagateLines, List.map_map]
    exact List.map_congr_left fun m _ => m.shown_propagateLines
  exact congrArg (fun ms => { c with methods := ms }) hmethods

theorem ClassDef.dump_propagateLines (c : ClassDef) : c.propagateLines.dump = c.dump :=
  dump_of_shown_eq c.shown_propagateLines

theorem MethodRecord.ofMethod_propagateLines (isStack : NamingConvention) (m : Method) :
    MethodRecord.ofMethod isStack m.propagateLines = MethodRecord.ofMethod isStack m := by
  have hc := m.callees_propagateLines
  cases h : m.body with
  | none => simp [ofMethod, Method.propagateLines, h]
  | some b =>
    simp only [ofMethod, h, hc]
    simp only [Method.propagateLines, h, Option.map_some, Body.propagateLines]

theorem ClassRecord.ofClass_propagateLines (isStack : NamingConvention) (c : ClassDef) :
    ClassRecord.ofClass isStack c.propagateLines = ClassRecord.ofClass isStack c := by
  simp only [ofClass, ClassDef.methods_propagateLines, List.map_map, Function.comp_def,
    Method.signature_propagateLines, Method.subSignature_propagateLines,
    MethodRecord.ofMethod_propagateLines, ClassDef.methodCount, List.length_map]
  rfl

theorem lookupIn_map_propagateLines (line : UInt32) (ms : List Method) :
    (lookupIn line (ms.map Method.propagateLines)).1 =
      (lookupIn line ms).1.map Method.propagateLines := by
  induction ms with
  | nil => rfl
  | cons m rest ih =>
    simp only [List.map_cons, lookupIn, Method.isNone_body_propagateLines,
      Method.coversLine_propagateLines]
    split
    · rfl
    · split
      · rfl
      · exact ih

/-- The method at a line is the same one, with tags or without. -/
theorem ClassDef.methodAtLine_propagateLines (c : ClassDef) (line : UInt32) :
    c.propagateLines.methodAtLine line = (c.methodAtLine line).map Method.propagateLines :=
  lookupIn_map_propagateLines line c.methods

end ClassCensus
