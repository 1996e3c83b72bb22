import ClassCensus.Proofs.LineLookup

/-!
# The method around a line

A method encloses the lines from its declared start, or from its smallest tag if no start is declared,
to its largest tag (`Method.Encloses`). A lookup goes through the methods of a class in order and ends
at the first one that encloses the line or has no body. Main statement: what is found is the first
enclosing method, if all methods before it have bodies, and nothing is found otherwise
(`Session.first_enclosing_method_found`).
-/

namespace ClassCensus

/-! ### Lines around a method -/

namespace Method

variable {m : Method} {line : UInt32}

/-- The line lies between the declared start of the method, or its smallest tag if no start is declared,
and its largest tag. -/
def Encloses (m : Method) (line : UInt32) : Prop :=
  ∃ first last,
    (m.startLine = some first ∨
      m.startLine = none ∧ first ∈ m.lines ∧ ∀ tag ∈ m.lines, first ≤ tag) ∧
    (last ∈ m.lines ∧ ∀ tag ∈ m.lines, tag ≤ last) ∧ first ≤ line ∧ line ≤ last

theorem lines_eq_nil_of_no_body (h : m.body = none) : m.lines = [] := by
  simp [lines, statements, h]

theorem body_of_encloses (h : m.Encloses line) : m.body.isSome := by
  obtain ⟨first, last, -, ⟨hlast, -⟩, -⟩ := h
  cases hb : m.body with
  | none =>
    rw [lines_eq_nil_of_no_body hb] at hlast
    cases hlast
  | some b => rfl

theorem startLine_or_minLine_iff {b : Body} {first : UInt32} (hb : m.body = some b) :
    (m.startLine <|> b.minLine) = some first ↔
      m.startLine = some first ∨
        m.startLine = none ∧ first ∈ m.lines ∧ ∀ tag ∈ m.lines, first ≤ tag := by
  rw [lines_of_body hb]
  cases hs : m.startLine with
  | some start => simp
  | none =>
    have hmin : b.minLine = some first ↔ first ∈ b.lines ∧ ∀ tag ∈ b.lines, first ≤ tag :=
      List.min?_eq_some_iff
    simpa using hmin

theorem coversLine_iff_encloses : m.coversLine line ↔ m.Encloses line := by
  rw [coversLine_iff]
  constructor
  · intro h
    obtain ⟨⟨first, last⟩, hr, hfirst, hlast⟩ := h
    obtain ⟨b, hb, hmax, hstart⟩ := lineRange_eq_some_iff.mp hr
    have hgreatest : last ∈ b.lines ∧ ∀ tag ∈ b.lines, tag ≤ last := List.max?_eq_some_iff.mp hmax
    rw [← lines_of_body hb] at hgreatest
    exact ⟨first, last, (startLine_or_minLine_iff hb).mp hstart, hgreatest, hfirst, hlast⟩
  · intro h
    obtain ⟨b, hb⟩ := Option.isSome_iff_exists.mp (body_of_encloses h)
    obtain ⟨first, last, hstart, hgreatest, hfirst, hlast⟩ := h
    rw [lines_of_body hb] at hgreatest
    have hmax : b.maxLine = some last := List.max?_eq_some_iff.mpr hgreatest
    have hr : m.lineRange = some (first, last) :=
      lineRange_eq_some_iff.mpr ⟨b, hb, hmax, (startLine_or_minLine_iff hb).mpr hstart⟩
    exact ⟨_, hr, hfirst, hlast⟩

instance (m : Method) (line : UInt32) : Decidable (m.Encloses line) :=
  decidable_of_iff (m.coversLine line) coversLine_iff_encloses

theorem not_encloses_of_late_start {first : UInt32} (hstart : m.startLine = some first)
    (hlate : ∀ tag ∈ m.lines, tag < first) : ¬m.Encloses line := by
  intro h
  obtain ⟨first', last, hfirst, ⟨hlast, -⟩, hle, hle'⟩ := h
  have hsame : first = first' := by
    cases hfirst with
    | inl hdeclared => exact Option.some.inj (hstart.symm.trans hdeclared)
    | inr hnone => exact absurd (hstart.symm.trans hnone.1) (by simp)
  subst hsame
  have hlt : last < first := hlate last hlast
  exact absurd (UInt32.lt_of_lt_of_le hlt (UInt32.le_trans hle hle')) (UInt32.lt_irrefl _)

end Method

/-! ### The first enclosing method -/

/-- The method at this place encloses the line, all methods up to it have bodies, and none before it
encloses the line. -/
structure FoundAt (ms : List Method) (line : UInt32) (i : Nat) (m : Method) : Prop where
  declared : ms[i]? = some m
  bodies : ∀ j ≤ i, ∀ n, ms[j]? = some n → n.body.isSome
  encloses : m.Encloses line
  first : ∀ j < i, ∀ n, ms[j]? = some n → ¬n.Encloses line

section Search

variable {n m : Method} {rest ms : List Method} {line : UInt32} {i : Nat}

theorem foundAt_zero : FoundAt (n :: rest) line 0 m ↔ n = m ∧ n.Encloses line := by
  constructor
  · intro h
    have hn : n = m := Option.some.inj h.declared
    exact ⟨hn, hn ▸ h.encloses⟩
  · intro h
    obtain ⟨rfl, hencloses⟩ := h
    refine ⟨rfl, ?_, hencloses, fun j hj => absurd hj (Nat.not_lt_zero j)⟩
    intro j hj n' hn'
    obtain rfl := Nat.le_zero.mp hj
    obtain rfl := Option.some.inj hn'
    exact Method.body_of_encloses hencloses

theorem foundAt_succ : FoundAt (n :: rest) line (i + 1) m ↔
    n.body.isSome ∧ ¬n.Encloses line ∧ FoundAt rest line i m := by
  constructor
  · intro h
    refine ⟨h.bodies 0 (Nat.zero_le _) n rfl, h.first 0 (Nat.succ_pos i) n rfl, h.declared, ?_,
      h.encloses, ?_⟩
    · intro j hj n' hn'
      exact h.bodies (j + 1) (Nat.succ_le_succ hj) n' hn'
    · intro j hj n' hn'
      exact h.first (j + 1) (Nat.succ_lt_succ hj) n' hn'
  · intro h
    obtain ⟨hbody, hnot, hrest⟩ := h
    refine ⟨hrest.declared, ?_, hrest.encloses, ?_⟩
    · intro j hj n' hn'
      cases j with
      | zero => exact Option.some.inj hn' ▸ hbody
      | succ j => exact hrest.bodies j (Nat.le_of_succ_le_succ hj) n' hn'
    · intro j hj n' hn'
      cases j with
      | zero => exact Option.some.inj hn' ▸ hnot
      | succ j => exact hrest.first j (Nat.lt_of_succ_lt_succ hj) n' hn'

/-- A search finds the first enclosing method before the first one without a body. -/
theorem lookupIn_eq_some_iff : (lookupIn line ms).1 = some m ↔ ∃ i, FoundAt ms line i m := by
  induction ms with
  | nil =>
    constructor
    · intro h
      cases h
    · intro h
      obtain ⟨i, hi⟩ := h
      cases hi.declared
  | cons n rest ih =>
    -- the first method ends the search, or the rest is searched
    rw [lookupIn]
    cases hb : n.body with
    | none =>
      have hnone : ¬n.Encloses line := fun h => by simpa [hb] using Method.body_of_encloses h
      refine iff_of_false (by simp) ?_
      intro h
      obtain ⟨i, hi⟩ := h
      cases i with
      | zero => exact hnone (foundAt_zero.mp hi).2
      | succ i => simpa [hb] using (foundAt_succ.mp hi).1
    | some b =>
      by_cases hencloses : n.Encloses line
      · have hcovers : n.coversLine line = true := Method.coversLine_iff_encloses.mpr hencloses
        rw [hcovers]
        constructor
        · intro h
          exact ⟨0, foundAt_zero.mpr ⟨Option.some.inj h, hencloses⟩⟩
        · intro h
          obtain ⟨i, hi⟩ := h
          cases i with
          | zero => exact congrArg some (foundAt_zero.mp hi).1
          | succ i => exact absurd hencloses (foundAt_succ.mp hi).2.1
      · have hcovers : n.coversLine line = false :=
          Bool.eq_false_iff.mpr fun h => hencloses (Method.coversLine_iff_encloses.mp h)
        rw [hcovers]
        constructor
        · intro h
          obtain ⟨i, hi⟩ := ih.mp h
          exact ⟨i + 1, foundAt_succ.mpr ⟨by rw [hb]; rfl, hencloses, hi⟩⟩
        · intro h
          obtain ⟨i, hi⟩ := h
          cases i with
          | zero => exact absurd (foundAt_zero.mp hi).2 hencloses
          | succ i => exact ih.mpr ⟨i, (foundAt_succ.mp hi).2.2⟩

/-- What comes after an enclosing method or after one without a body is not searched. -/
theorem lookupIn_append {more : List Method} (h : ∃ m ∈ ms, m.body = none ∨ m.Encloses line) :
    lookupIn line (ms ++ more) = lookupIn line ms := by
  induction ms with
  | nil =>
    obtain ⟨m, hm, -⟩ := h
    cases hm
  | cons n rest ih =>
    rw [List.cons_append, lookupIn, lookupIn]
    by_cases hb : n.body.isNone
    · rw [if_pos hb, if_pos hb]
    · by_cases hcovers : n.coversLine line
      · rw [if_neg hb, if_neg hb, if_pos hcovers, if_pos hcovers]
      · rw [if_neg hb, if_neg hb, if_neg hcovers, if_neg hcovers]
        apply ih
        obtain ⟨m, hm, hends⟩ := h
        cases List.mem_cons.mp hm with
        | inr hrest => exact ⟨m, hrest, hends⟩
        | inl heq =>
          subst heq
          cases hends with
          | inl hnone => exact absurd (Option.isNone_iff_eq_none.mpr hnone) hb
          | inr hencloses => exact absurd (Method.coversLine_iff_encloses.mpr hencloses) hcovers

end Search

/-! ### Sessions -/

namespace Session

variable {ε ε' : Type} [ClassEngine ε] [ClassEngine ε']

/-- Looking up a line fails just as the class of the file cannot be resolved. Otherwise it gives the
signature of the first method that encloses the line, if all methods up to it have bodies, and nothing
if there is no such method. Methods that are added after one that encloses the line, or after one
without a body, make no difference, and a method that is declared to begin after its tags is never
found. -/
theorem first_enclosing_method_found (s : Session ε) (layout : SourceLayout) (file : String)
    (line : UInt32) :
    (∀ error, s.resolve (layout.className file) = .error error →
      s.methodAtLine layout file line = .error error) ∧
    ∀ c, s.resolve (layout.className file) = .ok c →
      (∀ signature, s.methodAtLine layout file line = .ok (some signature) ↔
        ∃ i m, FoundAt c.methods line i m ∧ m.signature = signature) ∧
      ((¬∃ i m, FoundAt c.methods line i m) → s.methodAtLine layout file line = .ok none) ∧
      ((∃ m ∈ c.methods, m.body = none ∨ m.Encloses line) →
        ∀ (s' : Session ε') (layout' : SourceLayout) (file' : String) (c' : ClassDef) more,
          s'.resolve (layout'.className file') = .ok c' → c'.methods = c.methods ++ more →
          s'.methodAtLine layout' file' line = s.methodAtLine layout file line) ∧
      ∀ m first, m.startLine = some first → (∀ tag ∈ m.lines, tag < first) →
        m.coversLine line = false ∧ ∀ i, ¬FoundAt c.methods line i m := by
  refine ⟨?_, ?_⟩
  · intro error herror
    rw [methodAtLine, herror]
    rfl
  intro c hc
  have hlookup : s.methodAtLine layout file line =
      .ok ((lookupIn line c.methods).1.map Method.signature) := methodAtLine_of_resolve hc line
  refine ⟨?_, ?_, ?_, ?_⟩
  · intro signature
    rw [hlookup, Except.ok.injEq, Option.map_eq_some_iff]
    constructor
    · intro h
      obtain ⟨m, hm, hsignature⟩ := h
      obtain ⟨i, hi⟩ := lookupIn_eq_some_iff.mp hm
      exact ⟨i, m, hi, hsignature⟩
    · intro h
      obtain ⟨i, m, hi, hsignature⟩ := h
      exact ⟨m, lookupIn_eq_some_iff.mpr ⟨i, hi⟩, hsignature⟩
  · intro hnone
    rw [hlookup]
    cases hm : (lookupIn line c.methods).1 with
    | none => rfl
    | some m =>
      obtain ⟨i, hi⟩ := lookupIn_eq_some_iff.mp hm
      exact absurd ⟨i, m, hi⟩ hnone
  · intro hends s' layout' file' c' more hc' hmethods
    have hlookup' : s'.methodAtLine layout' file' line =
        .ok ((lookupIn line c'.methods).1.map Method.signature) := methodAtLine_of_resolve hc' line
    rw [hlookup', hlookup, hmethods, lookupIn_append hends]
  · intro m first hstart hlate
    have hnot : ¬m.Encloses line := Method.not_encloses_of_late_start hstart hlate
    refine ⟨?_, fun i hi => hnot hi.encloses⟩
    exact Bool.eq_false_iff.mpr fun h => hnot (Method.coversLine_iff_encloses.mp h)

/-- Overlapping methods after one that is declared to begin after its tags and one without tags, and a
method without a body before the last one. -/
theorem first_enclosing_method_found_before_native :
    let method (name : String) (start : Option UInt32) (tags : List UInt32) : Method :=
      ⟨"p.X", name, "void", [], [], start, some ⟨[], tags.map fun tag => ⟨"nop", some tag, none⟩⟩⟩
    let native : Method := ⟨"p.X", "clock", "long", [], ["native"], none, none⟩
    let methods := [method "late" (some 50) [5, 9], method "empty" (some 1) [],
      method "run" (some 10) [20, 12], method "inner" none [18, 15], native]
    let c : ClassDef := { ClassDef.named "p.X" with methods }
    let longer : ClassDef := { c with methods := methods ++ [method "all" (some 0) [99]] }
    let session (c : ClassDef) : Session SnapshotEngine := ⟨.ofClasses [c], ["p.X"], "noop"⟩
    (session c).resolve "p.X" = .ok c ∧
      (∃ error, (session c).resolve "p.Y" = .error error ∧
        (session c).methodAtLine .default "p/Y.java" 16 = .error error) ∧
      (session c).methodAtLine .default "p/X.java" 16 = .ok (some "<p.X: void run()>") ∧
      (session longer).methodAtLine .default "p/X.java" 16 = .ok (some "<p.X: void run()>") ∧
      (session c).methodAtLine .default "p/X.java" 7 = .ok none ∧
      (method "late" (some 50) [5, 9]).coversLine 7 = false := by
  intro method native methods c longer session
  have hX : SourceLayout.default.className "p/X.java" = "p.X" := by decide +kernel
  have hY : SourceLayout.default.className "p/Y.java" = "p.Y" := by decide +kernel
  have hc : (session c).resolve (SourceLayout.default.className "p/X.java") = .ok c := by
    rw [hX]
    decide +kernel
  have hlonger : (session longer).resolve (SourceLayout.default.className "p/X.java") =
      .ok longer := by
    rw [hX]
    decide +kernel
  have hrun : FoundAt c.methods 16 2 (method "run" (some 10) [20, 12]) :=
    foundAt_succ.mpr ⟨rfl, by decide +kernel,
      foundAt_succ.mpr ⟨rfl, by decide +kernel, foundAt_zero.mpr ⟨rfl, by decide +kernel⟩⟩⟩
  have hnone : ¬∃ i m, FoundAt c.methods 7 i m := by
    intro h
    obtain ⟨i, m, hi⟩ := h
    have hfound : (lookupIn 7 c.methods).1 = some m := lookupIn_eq_some_iff.mpr ⟨i, hi⟩
    have hnothing : (lookupIn 7 c.methods).1 = none := by decide +kernel
    rw [hnothing] at hfound
    cases hfound
  have hat16 := @first_enclosing_method_found SnapshotEngine SnapshotEngine _ _ (session c) .default
    "p/X.java" 16
  have hat7 := @first_enclosing_method_found SnapshotEngine SnapshotEngine _ _ (session c) .default
    "p/X.java" 7
  have helse := @first_enclosing_method_found SnapshotEngine SnapshotEngine _ _ (session c) .default
    "p/Y.java" 16
  obtain ⟨hsome, -, hmore, -⟩ := hat16.2 c hc
  obtain ⟨-, hnowhere, -, hlate⟩ := hat7.2 c hc
  have hfound : (session c).methodAtLine .default "p/X.java" 16 = .ok (some "<p.X: void run()>") :=
    (hsome _).mpr ⟨2, _, hrun, by decide +kernel⟩
  refine ⟨hX ▸ hc, ?_, hfound, ?_, hnowhere hnone, ?_⟩
  · have hunresolved : ((session c).resolve "p.Y").toOption = none := by decide +kernel
    cases hresolve : (session c).resolve "p.Y" with
    | error error => exact ⟨error, rfl, helse.1 error (hY ▸ hresolve)⟩
    | ok other =>
      rw [hresolve] at hunresolved
      cases hunresolved
  · have hends : ∃ m ∈ c.methods, m.body = none ∨ m.Encloses 16 :=
      ⟨native, by decide +kernel, .inl rfl⟩
    rw [← hfound]
    exact hmore hends (session longer) .default "p/X.java" longer _ hlonger rfl
  · have hlines : (method "late" (some 50) [5, 9]).lines = [5, 9] := by decide +kernel
    refine (hlate (method "late" (some 50) [5, 9]) 50 rfl ?_).1
    rw [hlines]
    simp

end Session

end ClassCensus
