import ClassCensus.Proofs.LineTags

/-!
# The calls of a usage index

A usage index groups calls by the called method: its keys and signatures are the called methods
in the order of their first call (`keys_ofClasses`, `signatures_ofClasses`), and the calls of a
method are those of all calls that name it, in order (`callSites_ofClasses`). Each call comes from a
statement; what propagation of line tags does to it is told by the statements before it
(`sitesOf_propagateLines`).
-/

namespace ClassCensus

/-! ### Grouping -/

namespace UsageIndex

/-- Names with one more, unless it is there already. -/
def addName (names : List String) (name : String) : List String :=
  if name ∈ names then names else names ++ [name]

theorem keys_foldl_record (sites : List CallSite) (index : UsageIndex) :
    (sites.foldl record index).usages.keys =
      (sites.map (·.callee)).foldl addName index.usages.keys := by
  induction sites generalizing index with
  | nil => rfl
  | cons site rest ih =>
    simp only [List.foldl_cons, List.map_cons, ih]
    congr 1
    exact OrderedMap.keys_insert ..

theorem signatures_foldl_record (sites : List CallSite) (index : UsageIndex) :
    (sites.foldl record index).signatures =
      index.signatures.insertAll (sites.map (·.callee)) := by
  induction sites generalizing index with
  | nil => rfl
  | cons site rest ih =>
    simp only [List.foldl_cons, List.map_cons, ih]
    rfl

theorem unresolved_foldl_record (sites : List CallSite) (index : UsageIndex) :
    (sites.foldl record index).unresolved = index.unresolved := by
  induction sites generalizing index with
  | nil => rfl
  | cons site rest ih =>
    rw [List.foldl_cons, ih]
    rfl

theorem callSites_record (index : UsageIndex) (site : CallSite) (callee : String) :
    (index.record site).callSites callee =
      index.callSites callee ++ if site.callee = callee then [site] else [] := by
  simp only [record, callSites, OrderedMap.get?_insert]
  by_cases h : site.callee = callee
  · simp [h]
  · simp [h, Ne.symm h]

theorem callSites_foldl_record (sites : List CallSite) (index : UsageIndex) (callee : String) :
    (sites.foldl record index).callSites callee =
      index.callSites callee ++ sites.filter fun s => s.callee = callee := by
  induction sites generalizing index with
  | nil => simp
  | cons site rest ih =>
    rw [List.foldl_cons, ih, callSites_record, List.append_assoc]
    congr 1
    by_cases h : site.callee = callee
    · simp [h]
    · simp [h]

section OfClasses

variable (packagePrefix : String) (classes : List ClassDef) (unresolved : List String)

theorem keys_ofClasses :
    (ofClasses packagePrefix classes unresolved).usages.keys =
      ((sitesOf packagePrefix classes).map (·.callee)).foldl addName [] :=
  keys_foldl_record ..

theorem signatures_ofClasses :
    (ofClasses packagePrefix classes unresolved).signatures =
      .ofList ((sitesOf packagePrefix classes).map (·.callee)) :=
  signatures_foldl_record ..

theorem unresolved_ofClasses :
    (ofClasses packagePrefix classes unresolved).unresolved = unresolved :=
  unresolved_foldl_record ..

theorem callSites_ofClasses (callee : String) :
    (ofClasses packagePrefix classes unresolved).callSites callee =
      (sitesOf packagePrefix classes).filter fun s => s.callee = callee :=
  (callSites_foldl_record ..).trans (List.nil_append _)

end OfClasses

end UsageIndex

/-! ### Calls and their statements -/

/-- A call in a body: a statement that calls, and the statements before it. -/
structure Call where
  /-- The signature of the calling method. -/
  caller : String
  /-- The statements of the body before the call. -/
  before : List Statement
  /-- The statement that calls. -/
  statement : Statement
  /-- The signature of the called method. -/
  callee : String

namespace Call

/-- The call site with the tag of the statement as its line. -/
def site (c : Call) : CallSite :=
  { callee := c.callee, caller := some c.caller, line := CallSite.lineOf c.statement.line }

/-- The tag of the closest tagged statement before the call. -/
def precedingTag (c : Call) : Option UInt32 := (c.before.filterMap (·.line)).getLast?

/-- The call site with the tag of the statement as its line, or else the closest tag before it. -/
def taggedSite (c : Call) : CallSite :=
  { c.site with line := CallSite.lineOf (c.statement.line <|> c.precedingTag) }

end Call

/-- The calls among the statements of a body that follow `before`. -/
def callsFrom (caller : String) (before : List Statement) : List Statement → List Call
  | [] => []
  | s :: rest =>
    (s.target.map fun callee => ⟨caller, before, s, callee⟩).toList ++
      callsFrom caller (before ++ [s]) rest

/-- The calls of a method in statement order. -/
def Method.calls (m : Method) : List Call := callsFrom m.signature [] m.statements

/-- The calls in the classes with a package prefix. -/
def callsIn (packagePrefix : String) (classes : List ClassDef) : List Call :=
  (classes.filter (UsageIndex.selects packagePrefix)).flatMap fun c => c.methods.flatMap Method.calls

theorem map_site_callsFrom (caller : String) (before ss : List Statement) :
    (callsFrom caller before ss).map Call.site = ss.filterMap (Statement.callSite? caller) := by
  induction ss generalizing before with
  | nil => rfl
  | cons s rest ih =>
    simp only [callsFrom, List.map_append, ih]
    cases h : s.target with
    | none => simp [Statement.callSite?, h]
    | some callee => simp [Statement.callSite?, Call.site, h]

/-- Propagation gives a call the tag that the statements before it tell. -/
theorem map_taggedSite_callsFrom (caller : String) (before ss : List Statement) :
    (callsFrom caller before ss).map Call.taggedSite =
      (propagateFrom (before.filterMap (·.line)).getLast? ss).filterMap
        (Statement.callSite? caller) := by
  induction ss generalizing before with
  | nil => rfl
  | cons s rest ih =>
    have hlast : ((before ++ [s]).filterMap (·.line)).getLast? =
        (s.line <|> (before.filterMap (·.line)).getLast?) := by
      rw [List.filterMap_append]
      cases h : s.line <;> simp [h]
    simp only [callsFrom, List.map_append, ih, propagateFrom, hlast]
    cases h : s.target with
    | none =>
      rw [List.filterMap_cons_none (by simp [Statement.callSite?])]
      rfl
    | some callee =>
      have hsite : Statement.callSite? caller
          { text := s.text
            line := s.line <|> (before.filterMap (·.line)).getLast?
            target := some callee } =
          some (Call.taggedSite ⟨caller, before, s, callee⟩) := rfl
      rw [List.filterMap_cons_some hsite]
      rfl

theorem Method.map_site_calls (m : Method) : m.calls.map Call.site = m.callSites :=
  map_site_callsFrom ..

theorem Method.map_taggedSite_calls (m : Method) :
    m.calls.map Call.taggedSite = m.propagateLines.callSites := by
  simp only [callSites, statements_propagateLines, signature_propagateLines]
  exact map_taggedSite_callsFrom ..

theorem sitesOf_eq_map_site (packagePrefix : String) (classes : List ClassDef) :
    UsageIndex.sitesOf packagePrefix classes = (callsIn packagePrefix classes).map Call.site := by
  simp only [UsageIndex.sitesOf, callsIn, List.map_flatMap, Method.map_site_calls]

/-- Propagation of line tags moves each call to the closest tag and changes nothing else of it. -/
theorem sitesOf_propagateLines (packagePrefix : String) (classes : List ClassDef) :
    UsageIndex.sitesOf packagePrefix (classes.map ClassDef.propagateLines) =
      (callsIn packagePrefix classes).map Call.taggedSite := by
  have hsel : (UsageIndex.selects packagePrefix ∘ ClassDef.propagateLines) =
      UsageIndex.selects packagePrefix := rfl
  simp only [UsageIndex.sitesOf, callsIn, List.map_flatMap, List.filter_map, hsel,
    List.flatMap_map, ClassDef.methods_propagateLines, Method.map_taggedSite_calls]

theorem callees_propagateLines (packagePrefix : String) (classes : List ClassDef) :
    (UsageIndex.sitesOf packagePrefix (classes.map ClassDef.propagateLines)).map (·.callee) =
      (UsageIndex.sitesOf packagePrefix classes).map (·.callee) := by
  rw [sitesOf_propagateLines, sitesOf_eq_map_site, List.map_map, List.map_map]
  rfl

end ClassCensus
