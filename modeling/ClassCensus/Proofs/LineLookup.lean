import ClassCensus.Proofs.LineTags
import ClassCensus.Proofs.Sorting
import ClassCensus.Proofs.TaggedSession

/-!
# Calls and the methods at their lines

The extraction of calls and the lookup of lines do not know of each other: the one copies the tag
of a statement, the other searches the line ranges of a class. Where the ranges of a class are
apart (`ClassDef.LinesApart`) they agree: the method at the line of a call is the method that calls
(`Session.lookup_at_callSite`).
-/

namespace ClassCensus

/-! ### Line ranges -/

/-- The line tags in the body of a method; none without a body. -/
def Method.lines (m : Method) : List UInt32 := m.statements.filterMap (·.line)

namespace Method

variable {m : Method} {line : UInt32}

theorem lines_of_body {b : Body} (h : m.body = some b) : m.lines = b.lines := by
  simp only [lines, statements, h, Body.lines]

theorem lineRange_eq_some_iff {first last : UInt32} :
    m.lineRange = some (first, last) ↔
      ∃ b, m.body = some b ∧ b.maxLine = some last ∧
        (m.startLine <|> b.minLine) = some first := by
  cases hb : m.body with
  | none => simp [lineRange, hb]
  | some b => simp [lineRange, hb, Option.bind_eq_some_iff, and_comm]

theorem coversLine_iff :
    m.coversLine line ↔ ∃ r ∈ m.lineRange, r.1 ≤ line ∧ line ≤ r.2 := by
  cases h : m.lineRange with
  | none => simp [coversLine, h]
  | some r => simp [coversLine, h]

/-- A line that a method covers is not after all of its tags. -/
theorem exists_tag_of_coversLine (h : m.coversLine line) : ∃ tag ∈ m.lines, line ≤ tag := by
  obtain ⟨⟨first, last⟩, hr, -, hle⟩ := coversLine_iff.mp h
  obtain ⟨b, hb, hmax, -⟩ := lineRange_eq_some_iff.mp hr
  have hlast : last ∈ b.lines := (List.max?_eq_some_iff.mp hmax).1
  exact ⟨last, lines_of_body hb ▸ hlast, hle⟩

/-- A method covers its tags, unless it is declared to begin after one of them. -/
theorem coversLine_of_mem_lines (hstart : ∀ first ∈ m.startLine, first ≤ line)
    (h : line ∈ m.lines) : m.coversLine line := by
  cases hb : m.body with
  | none => simp [lines, statements, hb] at h
  | some b =>
    rw [lines_of_body hb] at h
    have hne : b.lines ≠ [] := List.ne_nil_of_mem h
    obtain ⟨last, hmax⟩ := Option.ne_none_iff_exists'.mp (mt List.max?_eq_none_iff.mp hne)
    obtain ⟨least, hmin⟩ := Option.ne_none_iff_exists'.mp (mt List.min?_eq_none_iff.mp hne)
    have hle : line ≤ last := (List.max?_eq_some_iff.mp hmax).2 line h
    cases hs : m.startLine with
    | some first =>
      have hr : m.lineRange = some (first, last) :=
        lineRange_eq_some_iff.mpr ⟨b, hb, hmax, by rw [hs]; rfl⟩
      exact coversLine_iff.mpr ⟨_, hr, hstart first hs, hle⟩
    | none =>
      have hr : m.lineRange = some (least, last) :=
        lineRange_eq_some_iff.mpr ⟨b, hb, hmax, by rw [hs]; exact hmin⟩
      exact coversLine_iff.mpr ⟨_, hr, (List.min?_eq_some_iff.mp hmin).2 line h, hle⟩

theorem mem_lines_propagateLines : line ∈ m.propagateLines.lines ↔ line ∈ m.lines := by
  cases hb : m.body with
  | none => simp [lines, statements, propagateLines, hb]
  | some b =>
    have hb' : m.propagateLines.body = some b.propagateLines := by simp [propagateLines, hb]
    rw [lines_of_body hb, lines_of_body hb', Body.mem_lines_propagateLines]

end Method

/-! ### Classes whose methods are apart -/

/-- The method is not declared to begin after one of its tags. -/
def Method.StartsFirst (m : Method) : Prop :=
  ∀ first ∈ m.startLine, ∀ tag ∈ m.lines, first ≤ tag

/-- No line is in the ranges of both methods. -/
def Method.RangesApart (m n : Method) : Prop :=
  ∀ r ∈ m.lineRange, ∀ q ∈ n.lineRange, r.2 < q.1 ∨ q.2 < r.1

-- Evaluated on lists and options: a search for the instance may end in going through all numbers.
instance (m : Method) : Decidable m.StartsFirst :=
  decidable_of_iff (m.startLine.all fun first => m.lines.all (first ≤ ·)) (by
    simp [Method.StartsFirst, Option.all_eq_true])

instance (m n : Method) : Decidable (m.RangesApart n) :=
  decidable_of_iff (m.lineRange.all fun r => n.lineRange.all fun q => r.2 < q.1 ∨ q.2 < r.1) (by
    simp [Method.RangesApart, Option.all_eq_true])

/-- The lines of a class tell its methods apart: each has a body, none is declared to begin after
one of its tags, and no line is in the ranges of two. -/
structure ClassDef.LinesApart (c : ClassDef) : Prop where
  body : ∀ m ∈ c.methods, m.body.isSome
  start : ∀ m ∈ c.methods, m.StartsFirst
  ranges : ∀ m ∈ c.methods, ∀ n ∈ c.methods, m ≠ n → m.RangesApart n

instance (c : ClassDef) : Decidable c.LinesApart :=
  decidable_of_iff
    ((∀ m ∈ c.methods, m.body.isSome) ∧ (∀ m ∈ c.methods, m.StartsFirst) ∧
      ∀ m ∈ c.methods, ∀ n ∈ c.methods, m ≠ n → m.RangesApart n)
    ⟨fun h => ⟨h.1, h.2.1, h.2.2⟩, fun h => ⟨h.body, h.start, h.ranges⟩⟩

/-- Without a method that ends the search, the search is for the first method that covers the
line. -/
theorem lookupIn_eq_find? {line : UInt32} {ms : List Method} (h : ∀ m ∈ ms, m.body.isSome) :
    (lookupIn line ms).1 = ms.find? (·.coversLine line) := by
  induction ms with
  | nil => rfl
  | cons m rest ih =>
    have hm : m.body.isNone = false := by
      have hsome := h m (List.mem_cons_self ..)
      cases hb : m.body with
      | none => simp [hb] at hsome
      | some b => rfl
    simp only [lookupIn, hm, Bool.false_eq_true, if_false, List.find?_cons]
    cases m.coversLine line with
    | true => rfl
    | false => exact ih fun n hn => h n (List.mem_cons_of_mem _ hn)

/-- What a lookup finds is a method of the class that covers the line. -/
theorem coversLine_of_lookupIn {line : UInt32} {ms : List Method} {m : Method}
    (h : (lookupIn line ms).1 = some m) : m ∈ ms ∧ m.coversLine line := by
  induction ms with
  | nil => cases h
  | cons n rest ih =>
    simp only [lookupIn] at h
    split at h
    · cases h
    · split at h
      · rename_i hcovers
        obtain rfl := Option.some.inj h
        exact ⟨List.mem_cons_self .., hcovers⟩
      · obtain ⟨hmem, hcovers⟩ := ih h
        exact ⟨List.mem_cons_of_mem _ hmem, hcovers⟩

namespace ClassDef.LinesApart

variable {c : ClassDef} {m n : Method} {line : UInt32}

theorem covers (hc : c.LinesApart) (hm : m ∈ c.methods) (h : line ∈ m.lines) :
    m.coversLine line :=
  Method.coversLine_of_mem_lines (fun first hs => hc.start m hm first hs line h) h

/-- At most one method covers a line. -/
theorem eq_of_covers (hc : c.LinesApart) (hm : m ∈ c.methods) (hn : n ∈ c.methods)
    (h : m.coversLine line) (h' : n.coversLine line) : m = n := by
  obtain ⟨r, hr, hr1, hr2⟩ := Method.coversLine_iff.mp h
  obtain ⟨q, hq, hq1, hq2⟩ := Method.coversLine_iff.mp h'
  by_contra hne
  rcases hc.ranges m hm n hn hne r hr q hq with hlt | hlt
  · exact absurd (UInt32.lt_of_le_of_lt (UInt32.le_trans hq1 hr2) hlt) (UInt32.lt_irrefl _)
  · exact absurd (UInt32.lt_of_le_of_lt (UInt32.le_trans hr1 hq2) hlt) (UInt32.lt_irrefl _)

/-- The method at a tag is the one whose tag it is. -/
theorem methodAtLine_of_mem (hc : c.LinesApart) (hm : m ∈ c.methods) (h : line ∈ m.lines) :
    c.methodAtLine line = some m := by
  have hcovers : m.coversLine line := hc.covers hm h
  rw [methodAtLine, lookupIn_eq_find? hc.body]
  apply Sorting.find?_eq_some_of_unique hm hcovers
  intro n hn hcovers'
  exact hc.eq_of_covers hn hm hcovers' hcovers

/-- Propagation leaves the lines of a class apart. -/
theorem propagateLines (hc : c.LinesApart) : c.propagateLines.LinesApart where
  body := by
    intro m' hm'
    obtain ⟨m, hm, rfl⟩ := List.mem_map.mp hm'
    simpa [Method.propagateLines] using hc.body m hm
  start := by
    intro m' hm' first hfirst tag htag
    obtain ⟨m, hm, rfl⟩ := List.mem_map.mp hm'
    exact hc.start m hm first hfirst tag (Method.mem_lines_propagateLines.mp htag)
  ranges := by
    intro m' hm' n' hn' hne r hr q hq
    obtain ⟨m, hm, rfl⟩ := List.mem_map.mp hm'
    obtain ⟨n, hn, rfl⟩ := List.mem_map.mp hn'
    have hmn : m ≠ n := by
      intro h
      exact hne (congrArg Method.propagateLines h)
    exact hc.ranges m hm n hn hmn r (m.lineRange_propagateLines ▸ hr) q
      (n.lineRange_propagateLines ▸ hq)

end ClassDef.LinesApart

/-! ### Calls with a known line -/

/-- The line of a call is a tag of its method or unknown. No tag is taken for an unknown line, as
tags have 32 bits and no sign. -/
theorem Method.line_of_mem_callSites {m : Method} {site : CallSite} (h : site ∈ m.callSites)
    (hknown : site.line ≠ CallSite.unknownLine) :
    site.caller = some m.signature ∧ ∃ line ∈ m.lines, site.line.toInt = line.toNat := by
  obtain ⟨statement, hs, hsite⟩ := List.mem_filterMap.mp h
  obtain ⟨callee, -, rfl⟩ := Option.map_eq_some_iff.mp hsite
  cases hline : statement.line with
  | none => simp [CallSite.lineOf, hline] at hknown
  | some line =>
    have hlt : line.toNat < 4294967296 := line.toNat_lt
    have hint : (Int64.ofInt line.toNat).toInt = line.toNat := by
      apply Int64.toInt_ofInt_of_le <;> omega
    exact ⟨rfl, line, List.mem_filterMap.mpr ⟨statement, hs, hline⟩, by
      simpa [CallSite.lineOf, hline] using hint⟩

namespace Session

variable {ε : Type} [ClassEngine ε] {s : Session ε} {c : ClassDef}

/-- The calls of a class that a session reports. -/
inductive Reports (s : Session ε) (c : ClassDef) : CallSite → Prop
  /-- By a name of the class and an identifier of a method. -/
  | ofMethod {className id : String} {sites : List CallSite} {site : CallSite}
      (resolved : s.resolve className = .ok c) (asked : s.callSitesOf className id = .ok sites)
      (listed : site ∈ sites) : s.Reports c site
  /-- In a usage index, among the calls of whatever is called. -/
  | ofIndex {classNames : List String} {packagePrefix callee : String} {m : Method}
      {site : CallSite} (declared : m ∈ c.methods) (calls : site ∈ m.callSites)
      (listed : site ∈ (s.usageIndex classNames packagePrefix).callSites callee) :
      s.Reports c site

theorem Reports.caller {site : CallSite} (h : s.Reports c site) :
    ∃ m ∈ c.methods, site ∈ m.callSites := by
  cases h with
  | ofIndex declared calls => exact ⟨_, declared, calls⟩
  | @ofMethod className id sites _ resolved asked listed =>
    have hsites : sites = c.callSitesOf id := by
      simp only [callSitesOf, resolved] at asked
      exact (Except.ok.inj asked).symm
    subst hsites
    simp only [ClassDef.callSitesOf] at listed
    cases hm : c.method? id with
    | none => simp [hm] at listed
    | some m =>
      rw [hm] at listed
      exact ⟨m, List.mem_of_find?_eq_some hm, listed⟩

/-- No call of a class is left out, if the class has a name. -/
theorem reports_of_calls {className : String} (h : s.resolve className = .ok c) {m : Method}
    (hm : m ∈ c.methods) {site : CallSite} (hsite : site ∈ m.callSites) : s.Reports c site := by
  have hresolvable : s.resolvable [className] = [c] := by simp [resolvable, h, Except.toOption]
  have hselected : [c].filter (UsageIndex.selects "") = [c] := by
    simp [UsageIndex.selects]
  have hmem : site ∈ UsageIndex.sitesOf "" [c] := by
    simp only [UsageIndex.sitesOf, hselected, List.flatMap_singleton]
    exact List.mem_flatMap.mpr ⟨m, hm, hsite⟩
  have hlisted : site ∈ (s.usageIndex [className] "").callSites site.callee := by
    rw [usageIndex, hresolvable, UsageIndex.callSites_ofClasses]
    exact List.mem_filter.mpr ⟨hmem, by simp⟩
  exact .ofIndex hm hsite hlisted

theorem methodAtLine_of_resolve {layout : SourceLayout} {file : String}
    (h : s.resolve (layout.className file) = .ok c) (line : UInt32) :
    s.methodAtLine layout file line = .ok ((c.methodAtLine line).map Method.signature) := by
  simp only [methodAtLine, h]
  rfl

/-- The method at the line of a call is the method that calls, and what is found at a line is a
method of the class with a tag on this line or after it. -/
theorem lookup_at_callSite {layout : SourceLayout} {file : String}
    (hfile : s.resolve (layout.className file) = .ok c) (hc : c.LinesApart) :
    (∀ site, s.Reports c site → site.line ≠ CallSite.unknownLine →
      ∃ line : UInt32, site.line.toInt = line.toNat ∧ site.caller.isSome ∧
        s.methodAtLine layout file line = .ok site.caller) ∧
      ∀ line signature, s.methodAtLine layout file line = .ok (some signature) →
        ∃ m ∈ c.methods, m.signature = signature ∧ ∃ tag ∈ m.lines, line ≤ tag := by
  constructor
  · intro site hsite hknown
    obtain ⟨m, hm, hcalls⟩ := hsite.caller
    obtain ⟨hcaller, line, htag, hline⟩ := Method.line_of_mem_callSites hcalls hknown
    have hfound : c.methodAtLine line = some m := hc.methodAtLine_of_mem hm htag
    refine ⟨line, hline, by rw [hcaller]; rfl, ?_⟩
    rw [methodAtLine_of_resolve hfile, hfound, hcaller]
    rfl
  · intro line signature hlookup
    rw [methodAtLine_of_resolve hfile] at hlookup
    obtain ⟨m, hfound, hsignature⟩ := Option.map_eq_some_iff.mp (Except.ok.inj hlookup)
    obtain ⟨hm, hcovers⟩ := coversLine_of_lookupIn hfound
    exact ⟨m, hm, hsignature, Method.exists_tag_of_coversLine hcovers⟩

/-- A call without a tag is given one when the session is opened, and its method is found there. -/
theorem lookup_at_callSite_given_a_tag :
    let run : Method := ⟨"p.X", "run", "void", [], [], some 3,
      some ⟨[], [⟨"a = 1", some 5, none⟩, ⟨"call", none, some "<p.X: void end()>"⟩]⟩⟩
    let stop : Method := ⟨"p.X", "end", "void", [], [], none, some ⟨[], [⟨"return", some 9, none⟩]⟩⟩
    let c : ClassDef := { ClassDef.named "p.X" with methods := [run, stop] }
    ∃ s events, opened (SnapshotEngine.ofClasses [c]) .lineTags = .ok (s, events) ∧
      s.Reports c.propagateLines ⟨"<p.X: void end()>", some "<p.X: void run()>", 5⟩ ∧
      s.methodAtLine .default "src/main/java/p/X.java" 5 = .ok (some "<p.X: void run()>") ∧
      ∃ m ∈ c.propagateLines.methods, m.signature = "<p.X: void run()>" ∧
        ∃ tag ∈ m.lines, 5 ≤ tag := by
  intro run stop c
  have hclass : (opened (SnapshotEngine.ofClasses [c]) .lineTags).toOption.map
      (fun p => p.1.resolve "p.X") = some (.ok c.propagateLines) := by decide +kernel
  rcases hopened : opened (SnapshotEngine.ofClasses [c]) .lineTags with error | ⟨s, events⟩
  · rw [hopened] at hclass
    cases hclass
  · rw [hopened] at hclass
    have hresolve : s.resolve "p.X" = .ok c.propagateLines := Option.some.inj hclass
    have hfile : SourceLayout.default.className "src/main/java/p/X.java" = "p.X" := by
      decide +kernel
    have hapart : c.LinesApart := by decide +kernel
    have hreported : s.Reports c.propagateLines
        ⟨"<p.X: void end()>", some "<p.X: void run()>", 5⟩ :=
      reports_of_calls hresolve (List.mem_cons_self ..) (by decide +kernel)
    obtain ⟨hlookup, hback⟩ := lookup_at_callSite (hfile ▸ hresolve) hapart.propagateLines
    obtain ⟨line, hline, -, hfound⟩ := hlookup _ hreported (by decide)
    have hfive : line = 5 := UInt32.toNat_inj.mp (Int.ofNat.inj hline.symm)
    subst hfive
    exact ⟨s, events, rfl, hreported, hfound, hback 5 _ hfound⟩

end Session

end ClassCensus
