import ClassCensus.Proofs.OrderedMap
import ClassCensus.Session

/-!
# The usage index as a grouping

A walk through the listed classes meets call statements one after another
(`Session.invocations`). The usage index is this walk, grouped by the called method
(`Session.usageIndex_groups_invocations`): no call is lost, counted twice or moved.
-/

namespace ClassCensus

/-! ### The index of a list of calls -/

/-- One more element in the group of a key makes the groups longer by one. -/
theorem Entries.length_groups_put {α : Type} (key : String) (x : α) (es : List (String × List α)) :
    (put key ((find? key es).getD [] ++ [x]) es).foldr (fun e n => e.2.length + n) 0 =
      es.foldr (fun e n => e.2.length + n) 0 + 1 := by
  induction es with
  | nil => rfl
  | cons entry rest ih =>
    unfold put find?
    by_cases h : entry.1 = key
    · simp only [h, if_true, List.foldr_cons, Option.getD_some, List.length_append,
        List.length_singleton]
      omega
    · simp only [h, if_false, List.foldr_cons, ih]
      omega

namespace UsageIndex

theorem callSiteCount_record (index : UsageIndex) (site : CallSite) :
    (index.record site).callSiteCount = index.callSiteCount + 1 := by
  unfold callSiteCount OrderedMap.values
  rw [List.foldr_map, List.foldr_map]
  exact Entries.length_groups_put site.callee site index.usages.entries

theorem callSiteCount_foldl_record (sites : List CallSite) (index : UsageIndex) :
    (sites.foldl record index).callSiteCount = index.callSiteCount + sites.length := by
  induction sites generalizing index with
  | nil => rfl
  | cons site rest ih =>
    rw [List.foldl_cons, ih, callSiteCount_record, List.length_cons]
    omega

section OfClasses

variable (packagePrefix : String) (classes : List ClassDef) (unresolved : List String)

theorem keys_ofClasses_eq_eraseDups :
    (ofClasses packagePrefix classes unresolved).usages.keys =
      ((sitesOf packagePrefix classes).map (·.callee)).eraseDups := by
  rw [keys_ofClasses, foldl_addName_nil]

theorem signatures_ofClasses_toList :
    (ofClasses packagePrefix classes unresolved).signatures.toList =
      ((sitesOf packagePrefix classes).map (·.callee)).eraseDups := by
  rw [signatures_ofClasses, OrderedSet.toList_ofList]

theorem entries_ofClasses :
    (ofClasses packagePrefix classes unresolved).usages.entries =
      ((sitesOf packagePrefix classes).map (·.callee)).eraseDups.map fun callee =>
        (callee, (sitesOf packagePrefix classes).filter (·.callee = callee)) := by
  rw [OrderedMap.entries_eq_map_keys _ [], keys_ofClasses_eq_eraseDups]
  apply List.map_congr_left
  intro callee _
  exact congrArg (Prod.mk callee) (callSites_ofClasses packagePrefix classes unresolved callee)

theorem callSiteCount_ofClasses :
    (ofClasses packagePrefix classes unresolved).callSiteCount =
      (sitesOf packagePrefix classes).length :=
  (callSiteCount_foldl_record ..).trans (Nat.zero_add _)

theorem callSites_ofClasses_eq_nil_iff (callee : String) :
    (ofClasses packagePrefix classes unresolved).callSites callee = [] ↔
      callee ∉ (sitesOf packagePrefix classes).map (·.callee) := by
  rw [callSites_ofClasses, List.filter_eq_nil_iff, List.mem_map]
  constructor
  · rintro h ⟨site, hsite, heq⟩
    exact h site hsite (decide_eq_true heq)
  · intro h site hsite heq
    exact h ⟨site, hsite, of_decide_eq_true heq⟩

end OfClasses

end UsageIndex

/-! ### The walk -/

/-- A statement with an invoke target, and the method whose body it is in. -/
structure Invocation where
  method : Method
  statement : Statement
  target : String

namespace Invocation

/-- Target, enclosing method and line tag; -1 stands for a missing tag. -/
def site (v : Invocation) : CallSite :=
  { callee := v.target
    caller := some v.method.signature
    line :=
      match v.statement.line with
      | some line => Int64.ofInt line.toNat
      | none => -1 }

theorem line_site_eq_neg_one_iff (v : Invocation) : v.site.line = -1 ↔ v.statement.line = none := by
  cases h : v.statement.line with
  | none => simp [site, h]
  | some line =>
    have hlt : line.toNat < 4294967296 := line.toNat_lt
    have hint : (Int64.ofInt line.toNat).toInt = line.toNat := by
      apply Int64.toInt_ofInt_of_le <;> omega
    have hne : Int64.ofInt line.toNat ≠ -1 := by
      intro e
      rw [e] at hint
      have hneg : (-1 : Int64).toInt = -1 := by decide
      omega
    simp [site, h, hne]

end Invocation

/-- The statements with an invoke target in the body of a method; none without a body. -/
def Method.invocations (m : Method) : List Invocation :=
  match m.body with
  | none => []
  | some body => body.statements.filterMap fun s => s.target.map fun target => ⟨m, s, target⟩

theorem Method.map_site_invocations (m : Method) :
    m.invocations.map Invocation.site = m.callSites := by
  unfold invocations callSites statements
  cases m.body with
  | none => rfl
  | some body =>
    simp only [List.map_filterMap]
    apply List.filterMap_congr
    intro s _
    unfold Statement.callSite?
    rw [Option.map_map]
    rfl

namespace Session

variable {ε : Type} [ClassEngine ε]

/-- The call statements that a walk through the listed classes meets: the listed names that
resolve to a class with a package prefix, its methods, and the statements of their bodies. -/
def invocations (s : Session ε) (classNames : List String) (packagePrefix : String) :
    List Invocation :=
  classNames.flatMap fun n =>
    match s.resolve n with
    | .error _ => []
    | .ok c =>
      if packagePrefix.toList <+: c.packageName.toList then c.methods.flatMap Method.invocations
      else []

theorem map_site_invocations (s : Session ε) (classNames : List String) (packagePrefix : String) :
    (s.invocations classNames packagePrefix).map Invocation.site =
      UsageIndex.sitesOf packagePrefix (s.resolvable classNames) := by
  unfold invocations resolvable UsageIndex.sitesOf
  induction classNames with
  | nil => rfl
  | cons n rest ih =>
    rw [List.flatMap_cons, List.map_append, ih]
    cases h : s.resolve n with
    | error e =>
      rw [List.filterMap_cons_none (by rw [h]; rfl)]
      rfl
    | ok c =>
      rw [List.filterMap_cons_some (b := c) (by rw [h]; rfl), List.filter_cons]
      by_cases hp : packagePrefix.toList <+: c.packageName.toList
      · have hsel : UsageIndex.selects packagePrefix c = true := List.isPrefixOf_iff_prefix.mpr hp
        simp only [hp, hsel, if_true, List.flatMap_cons, List.map_flatMap,
          Method.map_site_invocations]
      · have hsel : UsageIndex.selects packagePrefix c = false := by
          rw [← Bool.not_eq_true]
          exact fun e => hp (List.isPrefixOf_iff_prefix.mp e)
        simp only [hp, hsel, if_false, Bool.false_eq_true, List.map_nil, List.nil_append]

/-- The usage index is the grouping of the walk: the sites of each called method, in the order of
the walk, under the called methods in the order of their first calls. -/
theorem usageIndex_groups_invocations (s : Session ε) (classNames : List String)
    (packagePrefix : String) :
    let walk := s.invocations classNames packagePrefix
    let sites := walk.map Invocation.site
    let index := s.usageIndex classNames packagePrefix
    index.usages.entries =
        (sites.map (·.callee)).eraseDups.map (fun callee =>
          (callee, sites.filter (·.callee = callee))) ∧
      index.signatures.toList = index.usages.keys ∧
      index.unresolved =
        classNames.filter (fun n => match s.resolve n with | .ok _ => false | .error _ => true) ∧
      index.callSiteCount = sites.length ∧
      (∀ callee, index.callSites callee = [] ↔ callee ∉ sites.map (·.callee)) ∧
      ∀ v ∈ walk, v.site.line = -1 ↔ v.statement.line = none := by
  intro walk sites index
  have hsites : sites = UsageIndex.sitesOf packagePrefix (s.resolvable classNames) :=
    s.map_site_invocations classNames packagePrefix
  have hkeys : index.signatures.toList = index.usages.keys := by
    show (UsageIndex.ofClasses _ _ _).signatures.toList = (UsageIndex.ofClasses _ _ _).usages.keys
    rw [UsageIndex.signatures_ofClasses_toList, UsageIndex.keys_ofClasses_eq_eraseDups]
  have hunresolved : index.unresolved =
      classNames.filter (fun n => match s.resolve n with | .ok _ => false | .error _ => true) := by
    show (UsageIndex.ofClasses _ _ (s.unresolved classNames)).unresolved = _
    rw [UsageIndex.unresolved_ofClasses]
    apply List.filter_congr
    intro n _
    cases s.resolve n <;> rfl
  rw [hsites]
  refine ⟨?_, hkeys, hunresolved, ?_, ?_, ?_⟩
  · exact UsageIndex.entries_ofClasses ..
  · exact UsageIndex.callSiteCount_ofClasses ..
  · exact UsageIndex.callSites_ofClasses_eq_nil_iff packagePrefix _ _
  · exact fun v _ => v.line_site_eq_neg_one_iff

end Session

end ClassCensus
