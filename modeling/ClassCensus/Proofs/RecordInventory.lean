import ClassCensus.Engine.Snapshot
import ClassCensus.Proofs.ClassRecord

/-!
# Records, usage index and signatures

Three walks over the same classes: the records of the classes, the usage index and the list of
all signatures. They agree (`Session.records_agree`).
-/

namespace ClassCensus

theorem isPrefixOf_empty (c : ClassDef) : UsageIndex.selects "" c = true := by
  have hnil : "".toList = [] := rfl
  unfold UsageIndex.selects
  rw [hnil]
  rfl

namespace UsageIndex

/-- All calls are selected by the empty prefix. -/
theorem sitesOf_empty (classes : List ClassDef) :
    (sitesOf "" classes).map (·.callee) =
      classes.flatMap fun c => c.methods.flatMap Method.callees := by
  have hall : classes.filter (selects "") = classes := by
    apply List.filter_eq_self.mpr
    exact fun c _ => isPrefixOf_empty c
  unfold sitesOf
  rw [hall, List.map_flatMap]
  simp only [List.map_flatMap]
  rfl

/-- A prefix selects some of the calls. -/
theorem mem_sitesOf {packagePrefix : String} {classes : List ClassDef} {site : CallSite}
    (h : site ∈ sitesOf packagePrefix classes) : site ∈ sitesOf "" classes := by
  obtain ⟨c, hc, hsite⟩ := List.mem_flatMap.mp h
  have hmem : c ∈ classes := (List.mem_filter.mp hc).1
  exact List.mem_flatMap.mpr ⟨c, List.mem_filter.mpr ⟨hmem, isPrefixOf_empty c⟩, hsite⟩

theorem length_callSites_ofClasses (packagePrefix : String) (classes : List ClassDef)
    (unresolved : List String) (signature : String) :
    ((ofClasses packagePrefix classes unresolved).callSites signature).length =
      ((sitesOf packagePrefix classes).map (·.callee)).count signature := by
  rw [callSites_ofClasses, List.count_eq_countP, List.countP_map, List.countP_eq_length_filter]
  congr 1

end UsageIndex

theorem toList_signaturesOf (classes : List ClassDef) :
    (signaturesOf classes).toList =
      (classes.flatMap fun c => c.methods.flatMap fun m => m.signature :: m.callees).eraseDups :=
  OrderedSet.toList_ofList _

theorem mem_signaturesOf_of_site {classes : List ClassDef} {site : CallSite}
    (h : site ∈ UsageIndex.sitesOf "" classes) : site.callee ∈ (signaturesOf classes).toList := by
  have hcallee : site.callee ∈ (UsageIndex.sitesOf "" classes).map (·.callee) :=
    List.mem_map.mpr ⟨site, h, rfl⟩
  rw [UsageIndex.sitesOf_empty] at hcallee
  rw [toList_signaturesOf, List.mem_eraseDups]
  obtain ⟨c, hc, hcallee⟩ := List.mem_flatMap.mp hcallee
  obtain ⟨m, hm, hcallee⟩ := List.mem_flatMap.mp hcallee
  exact List.mem_flatMap.mpr ⟨c, hc, List.mem_flatMap.mpr ⟨m, hm, List.mem_cons_of_mem _ hcallee⟩⟩

/-- What the records of classes tell of their methods, in order. -/
theorem told_classes {classes : List ClassDef} (isStack : NamingConvention)
    {record : ClassDef → ClassRecord}
    (hdistinct : ∀ c ∈ classes, (c.methods.map Method.subSignature).Nodup)
    (hrecord : ∀ c ∈ classes, record c = ClassRecord.ofClass isStack c) :
    (classes.flatMap fun c =>
        c.methods.zipIdx.map fun (m, i) => (record c).told? i m.subSignature) =
      (classes.flatMap fun c => c.methods.map fun m => m.signature :: m.callees).map some := by
  rw [List.map_flatMap]
  apply List.flatMap_congr
  intro c hc
  have htold : ∀ e ∈ c.methods.zipIdx, (record c).told? e.2 e.1.subSignature =
      some (e.1.signature :: e.1.callees) := by
    intro e he
    have hplace : c.methods[e.2]? = some e.1 := List.mem_zipIdx_iff_getElem?.mp he
    rw [hrecord c hc]
    exact ClassRecord.told_ofClass isStack (hdistinct c hc) hplace
  have hmethods : c.methods = c.methods.zipIdx.map Prod.fst := (List.zipIdx_map_fst ..).symm
  rw [List.map_congr_left htold]
  conv_rhs => rw [hmethods]
  simp only [List.map_map]
  rfl

namespace Session

variable {ε : Type} [ClassEngine ε] {s : Session ε} {classNames : List String}
  {classes : List ClassDef}

theorem resolvable_of_resolve (h : classNames.map s.resolve = classes.map Except.ok) :
    s.resolvable classNames = classes := by
  have hmap : s.resolvable classNames = (classNames.map s.resolve).filterMap Except.toOption := by
    rw [List.filterMap_map]
    rfl
  rw [hmap, h, List.filterMap_map]
  exact List.filterMap_some

theorem unresolved_of_resolve (h : classNames.map s.resolve = classes.map Except.ok) :
    s.unresolved classNames = [] := by
  apply List.filter_eq_nil_iff.mpr
  intro n hn hnone
  have hmem : s.resolve n ∈ classes.map Except.ok := h ▸ List.mem_map.mpr ⟨n, hn, rfl⟩
  obtain ⟨c, _, hc⟩ := List.mem_map.mp hmem
  rw [← hc] at hnone
  cases hnone

/-- The records of the listed classes, as assembled or as read back from their metrics files, the
usage index and the list of all signatures tell of the same signatures and calls. -/
theorem records_agree (s : Session ε) (isStack : NamingConvention) (classNames : List String)
    (classes : List ClassDef) (record : ClassDef → ClassRecord)
    (hresolve : classNames.map s.resolve = classes.map Except.ok)
    (hdistinct : ∀ c ∈ classes, (c.methods.map Method.subSignature).Nodup)
    (hrecord : ∀ c ∈ classes, record c = ClassRecord.ofClass isStack c ∨
      c.methodCount < 2 ^ 64 ∧
        ClassRecord.ofBytes? (ClassRecord.ofClass isStack c).toText.toUTF8 = some (record c)) :
    (∃ told : List (List String),
        (classes.flatMap fun c =>
          c.methods.zipIdx.map fun (m, i) => (record c).told? i m.subSignature) = told.map some ∧
        (s.allSignatures classNames).1.toList = told.flatten.eraseDups ∧
        (s.allSignatures classNames).2 = []) ∧
      (∀ signature, ((s.usageIndex classNames "").callSites signature).length =
        (classes.flatMap fun c => (record c).callees).count signature) ∧
      (s.usageIndex classNames "").signatures.toList =
        (classes.flatMap fun c => (record c).callees).eraseDups ∧
      (∀ packagePrefix, ∀ key ∈ (s.usageIndex classNames packagePrefix).usages.keys,
        key ∈ (s.allSignatures classNames).1.toList) ∧
      ∀ c ∈ classes, c.methodCount < 2 ^ 64 →
        ClassRecord.ofBytes? (ClassRecord.ofClass isStack c).toText.toUTF8 = some (record c) := by
  have hclasses : s.resolvable classNames = classes := resolvable_of_resolve hresolve
  have hback : ∀ c : ClassDef, c.methodCount < 2 ^ 64 →
      ClassRecord.ofBytes? (ClassRecord.ofClass isStack c).toText.toUTF8 =
        some (ClassRecord.ofClass isStack c) :=
    fun c hc => ClassRecord.ofBytes?_toText hc
  have hassembled : ∀ c ∈ classes, record c = ClassRecord.ofClass isStack c := by
    intro c hc
    rcases hrecord c hc with h | ⟨hcount, hread⟩
    · exact h
    · rw [hback c hcount] at hread
      exact (Option.some.inj hread).symm
  have hcallees : (classes.flatMap fun c => (record c).callees) =
      (UsageIndex.sitesOf "" classes).map (·.callee) := by
    rw [UsageIndex.sitesOf_empty]
    apply List.flatMap_congr
    intro c hc
    rw [hassembled c hc]
    exact ClassRecord.callees_ofClass isStack (hdistinct c hc)
  refine ⟨⟨_, told_classes isStack hdistinct hassembled, ?_, unresolved_of_resolve hresolve⟩,
    ?_, ?_, ?_, ?_⟩
  · show (signaturesOf (s.resolvable classNames)).toList = _
    rw [hclasses, toList_signaturesOf]
    congr 1
    simp only [List.flatMap_def, List.map_map, List.flatten_flatten]
    rfl
  · intro signature
    show ((UsageIndex.ofClasses "" (s.resolvable classNames) _).callSites signature).length = _
    rw [UsageIndex.length_callSites_ofClasses, hclasses, hcallees]
  · show (UsageIndex.ofClasses "" (s.resolvable classNames) _).signatures.toList = _
    rw [UsageIndex.signatures_ofClasses_toList, hclasses, hcallees]
  · intro packagePrefix key hkey
    have hkeys : key ∈ (UsageIndex.ofClasses packagePrefix (s.resolvable classNames)
      (s.unresolved classNames)).usages.keys := hkey
    rw [UsageIndex.keys_ofClasses_eq_eraseDups, List.mem_eraseDups] at hkeys
    obtain ⟨site, hsite, rfl⟩ := List.mem_map.mp hkeys
    exact mem_signaturesOf_of_site (UsageIndex.mem_sitesOf hsite)
  · intro c hc hcount
    rw [hassembled c hc]
    exact hback c hcount

/-- A class with two methods, one of which calls the other; its record is read back. -/
theorem records_agree_two_methods :
    let run : Method := ⟨"p.X", "run", "void", [], [], none,
      some ⟨[⟨"$a", "int"⟩], [⟨"call", some 7, some "<p.X: void end()>"⟩]⟩⟩
    let stop : Method := ⟨"p.X", "end", "void", [], [], none, none⟩
    let c : ClassDef := { ClassDef.named "p.X" with methods := [run, stop] }
    let s : Session SnapshotEngine := ⟨.ofClasses [c], ["p.X"], "none"⟩
    let record := ClassRecord.ofClass syntheticName
    ["p.X"].map s.resolve = [c].map Except.ok ∧ (c.methods.map Method.subSignature).Nodup ∧
      ClassRecord.ofBytes? (record c).toText.toUTF8 = some (record c) ∧
      (s.allSignatures ["p.X"]).1.toList = ["<p.X: void run()>", "<p.X: void end()>"] ∧
      ((s.usageIndex ["p.X"] "").callSites "<p.X: void end()>").length = 1 := by
  intro run stop c s record
  have hresolve : ["p.X"].map s.resolve = [c].map Except.ok := by decide +kernel
  have hdistinct : ∀ c' ∈ [c], (c'.methods.map Method.subSignature).Nodup := by
    intro c' hc'
    rw [List.mem_singleton.mp hc']
    decide
  have hcount : ∀ c' ∈ [c], c'.methodCount < 2 ^ 64 := by
    intro c' hc'
    rw [List.mem_singleton.mp hc']
    decide
  obtain ⟨⟨told, htold, hsignatures, -⟩, hcounts, -, -, hback⟩ :=
    records_agree s syntheticName ["p.X"] [c] record hresolve hdistinct
      fun c' hc' => .inr ⟨hcount c' hc', ClassRecord.ofBytes?_toText (hcount c' hc')⟩
  have htold' : told = [["<p.X: void run()>", "<p.X: void end()>"], ["<p.X: void end()>"]] := by
    have h : told.map some =
        [["<p.X: void run()>", "<p.X: void end()>"], ["<p.X: void end()>"]].map some := by
      rw [← htold]
      decide +kernel
    exact List.map_injective_iff.mpr (Option.some_injective _) h
  refine ⟨hresolve, hdistinct c (List.mem_singleton.mpr rfl),
    hback c (List.mem_singleton.mpr rfl) (hcount c (List.mem_singleton.mpr rfl)), ?_, ?_⟩
  · rw [hsignatures, htold']
    decide
  · rw [hcounts]
    decide +kernel

end Session

end ClassCensus
