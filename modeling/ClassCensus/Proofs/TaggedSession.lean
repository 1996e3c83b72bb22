import ClassCensus.Generation.Run
import ClassCensus.Proofs.Engine.Snapshot
import ClassCensus.Proofs.UsageIndex

/-!
# Sessions with propagated line tags

A session that is opened with line tag propagation answers as one without it, but for the lines of
calls whose statements have no tag: its classes are those of the other session after propagation
(`opened_both`), and what is asked of them is told by `Proofs/LineTags` and `Proofs/UsageIndex`.
-/

namespace ClassCensus

/-! ### Opening -/

namespace SnapshotEngine

/-- Propagation goes through every class, and whoever resolves gets propagated classes. -/
theorem run_propagateLines {e : SnapshotEngine} (he : e.Indexed) (count : Nat)
    (names : List String) (hn : ∀ n ∈ names, ∃ c, e.resolve n = .ok c) :
    ∃ e' events, (Preparation.propagateLines count names).run e = .ok (e', events) ∧
      ∀ m, e'.resolve m =
        if m ∈ names then (e.resolve m).map ClassDef.propagateLines else e.resolve m := by
  induction names generalizing e count with
  | nil => exact ⟨e, _, rfl, by simp⟩
  | cons n rest ih =>
    obtain ⟨c, hc⟩ := hn n (List.mem_cons_self ..)
    obtain ⟨e1, hedit, he1, -, hres⟩ := resolve_edit he hc ClassDef.propagateLines
    have hrest : ∀ m ∈ rest, ∃ d, e1.resolve m = .ok d := by
      intro m hm
      obtain ⟨d, hd⟩ := hn m (List.mem_cons_of_mem _ hm)
      rw [hres m, hd]
      split
      · exact ⟨_, rfl⟩
      · exact ⟨_, rfl⟩
    obtain ⟨e', events, hrun, hall⟩ := ih he1 (count + c.retagged) hrest
    refine ⟨e', events, ?_, ?_⟩
    · have hedit' : ClassEngine.edit e n ClassDef.propagateLines = .ok e1 := hedit
      have hc' : ClassEngine.resolve e n = .ok c := hc
      simp only [Preparation.propagateLines, Preparation.run, hedit', hc', hrun]
    · intro m
      rw [hall m, hres m]
      by_cases hmn : m = n
      · subst hmn
        -- a class that is named again is propagated again, to no effect
        simp [hc, Except.map, ClassDef.propagateLines_idem]
      · simp [hmn]

end SnapshotEngine

namespace Session

/-- Both ways of opening succeed, with the same names and with the same classes, propagated or
not. -/
theorem opened_both (e : SnapshotEngine) :
    ∃ plain tagged plainEvents taggedEvents,
      opened e .none = .ok (plain, plainEvents) ∧
      opened e .lineTags = .ok (tagged, taggedEvents) ∧
      tagged.applicationClasses = plain.applicationClasses ∧
      ∀ n, tagged.resolve n = (plain.resolve n).map ClassDef.propagateLines := by
  have he := e.indexed_reset
  have hn : ∀ n ∈ e.pristine.map (·.name), ∃ c, e.reset.resolve n = .ok c :=
    fun n hn => SnapshotEngine.resolve_of_mem he hn
  obtain ⟨e', events, hrun, hres⟩ := SnapshotEngine.run_propagateLines he 0 _ hn
  have hrun' : (PreTransform.lineTags.prepare (ClassEngine.classNames (ClassEngine.reset e))).run
      (ClassEngine.reset e) = .ok (e', events) := hrun
  refine ⟨⟨e.reset, e.pristine.map (·.name), "none"⟩,
    ⟨e', e.pristine.map (·.name), "line-tag-propagation"⟩, _,
    events ++ [.sessionOpened "snapshot" (e.pristine.map (·.name)).length "line-tag-propagation"],
    rfl, ?_, rfl, ?_⟩
  · simp only [opened, hrun', bind, Except.bind]
    rfl
  · intro n
    change e'.resolve n = (e.reset.resolve n).map ClassDef.propagateLines
    rw [hres n]
    split
    · rfl
    · rename_i h
      rw [SnapshotEngine.resolve_of_not_mem he h]
      rfl

/-! ### Answers -/

/-- The calls of a method in the resolvable classes with a package prefix. -/
def callsOf (s : Session SnapshotEngine) (names : List String) (packagePrefix callee : String) :
    List Call :=
  (callsIn packagePrefix (s.resolvable names)).filter fun c => c.callee = callee

theorem callSites_plain (s : Session SnapshotEngine) (names : List String)
    (packagePrefix callee : String) :
    (s.usageIndex names packagePrefix).callSites callee =
      (s.callsOf names packagePrefix callee).map Call.site := by
  simp only [usageIndex, UsageIndex.callSites_ofClasses, sitesOf_eq_map_site, callsOf,
    List.filter_map]
  rfl

theorem recordEvents_map_propagateLines (className : String) (seen : List String)
    (ms : List Method) :
    recordEvents className seen (ms.map Method.propagateLines) =
      recordEvents className seen ms := by
  induction ms generalizing seen with
  | nil => rfl
  | cons m rest ih =>
    simp only [List.map_cons, recordEvents, Method.isNone_body_propagateLines,
      Method.signature_propagateLines, Method.subSignature_propagateLines, ih]

section Answers

variable {plain tagged : Session SnapshotEngine}
  (h : ∀ n, tagged.resolve n = (plain.resolve n).map ClassDef.propagateLines)

include h

theorem resolvable_tagged (names : List String) :
    tagged.resolvable names = (plain.resolvable names).map ClassDef.propagateLines := by
  simp only [resolvable, List.map_filterMap]
  congr 1
  funext n
  rw [h n]
  cases plain.resolve n <;> rfl

theorem unresolved_tagged (names : List String) :
    tagged.unresolved names = plain.unresolved names := by
  simp only [unresolved]
  congr 1
  funext n
  rw [h n]
  cases plain.resolve n <;> rfl

theorem methodAtLine_tagged (layout : SourceLayout) (file : String) (line : UInt32) :
    tagged.methodAtLine layout file line = plain.methodAtLine layout file line := by
  simp only [methodAtLine, h]
  cases plain.resolve (layout.className file) with
  | error error => rfl
  | ok c =>
    have hm := c.methodAtLine_propagateLines line
    simp only [Except.map, bind, Except.bind, hm, Option.map_map]
    rfl

theorem allSignatures_tagged (names : List String) :
    tagged.allSignatures names = plain.allSignatures names := by
  simp only [allSignatures, resolvable_tagged h, unresolved_tagged h, signaturesOf,
    List.flatMap_map, ClassDef.methods_propagateLines, Method.signature_propagateLines,
    Method.callees_propagateLines]

/-- With tags or without, the same steps generate the artifacts of a class. -/
theorem generateArtifacts_tagged (isStack : NamingConvention) (paths : ArtifactPaths)
    (className : String) :
    generateArtifacts tagged isStack paths className =
      generateArtifacts plain isStack paths className := by
  simp only [generateArtifacts, h className]
  cases plain.resolve className with
  | error error => rfl
  | ok c =>
    have hdump : ClassEngine.dump tagged.engine c.propagateLines =
        ClassEngine.dump plain.engine c := by
      change plainDump _ = plainDump _
      rw [plainDump, ClassDef.dump_propagateLines]
      rfl
    have hevents := recordEvents_map_propagateLines c.name [] c.methods
    have hname : c.propagateLines.name = c.name := rfl
    have hbind : ∀ (a : ClassDef) (next : ClassDef → Attempt Unit),
        (Attempt.ofExcept (.ok a) >>= next) = next a := fun _ _ => rfl
    simp only [Except.map, hbind, hdump, hname, ClassDef.methods_propagateLines,
      hevents, ClassRecord.ofClass_propagateLines]

theorem generateAll_tagged (isStack : NamingConvention) (root : Path) (replace : Bool)
    (report : GenerationReport) (names : List String) :
    generateAll tagged isStack root replace report names =
      generateAll plain isStack root replace report names := by
  induction names generalizing report with
  | nil => rfl
  | cons className rest ih =>
    simp only [generateAll, generateClass, generateArtifacts_tagged h, ih]

theorem generate_tagged (isStack : NamingConvention) (names : List String) (root : Path)
    (replace : Bool) :
    generate tagged isStack names root replace = generate plain isStack names root replace := by
  simp only [generate, generateAll_tagged h]

theorem seenSignatures_tagged (hnames : tagged.applicationClasses = plain.applicationClasses)
    (packagePrefix : String) :
    tagged.seenSignatures packagePrefix = plain.seenSignatures packagePrefix := by
  simp only [seenSignatures, usageIndex, hnames, UsageIndex.signatures_ofClasses,
    resolvable_tagged h, callees_propagateLines]

theorem usageIndex_keys_tagged (names : List String) (packagePrefix : String) :
    (tagged.usageIndex names packagePrefix).usages.keys =
      (plain.usageIndex names packagePrefix).usages.keys := by
  simp only [usageIndex, UsageIndex.keys_ofClasses, resolvable_tagged h, callees_propagateLines]

theorem usageIndex_unresolved_tagged (names : List String) (packagePrefix : String) :
    (tagged.usageIndex names packagePrefix).unresolved =
      (plain.usageIndex names packagePrefix).unresolved := by
  simp only [usageIndex, UsageIndex.unresolved_ofClasses, unresolved_tagged h]

theorem callSites_tagged (names : List String) (packagePrefix callee : String) :
    (tagged.usageIndex names packagePrefix).callSites callee =
      (plain.callsOf names packagePrefix callee).map Call.taggedSite := by
  simp only [usageIndex, UsageIndex.callSites_ofClasses, resolvable_tagged h,
    sitesOf_propagateLines, callsOf, List.filter_map]
  rfl

end Answers

/-- Line tag propagation changes nothing but the lines of calls. A session that is opened with it
generates the same artifacts with the same report in every world, finds the same method at a line
and the same signatures, and its usage index has the same calls of the same methods in the same
order: each with the tag of its own statement, as without propagation, or if that has none with
the closest tag before it in its body. -/
theorem lineTags_change_only_lines (e : SnapshotEngine) :
    ∃ plain tagged plainEvents taggedEvents,
      opened e .none = .ok (plain, plainEvents) ∧
      opened e .lineTags = .ok (tagged, taggedEvents) ∧
      tagged.applicationClasses = plain.applicationClasses ∧
      (∀ isStack names root replace (w : World),
        (generate tagged isStack names root replace).run.run w =
          (generate plain isStack names root replace).run.run w) ∧
      (∀ layout file line,
        tagged.methodAtLine layout file line = plain.methodAtLine layout file line) ∧
      (∀ names, tagged.allSignatures names = plain.allSignatures names) ∧
      (∀ packagePrefix,
        tagged.seenSignatures packagePrefix = plain.seenSignatures packagePrefix) ∧
      ∀ names packagePrefix,
        (tagged.usageIndex names packagePrefix).usages.keys =
          (plain.usageIndex names packagePrefix).usages.keys ∧
        (tagged.usageIndex names packagePrefix).unresolved =
          (plain.usageIndex names packagePrefix).unresolved ∧
        ∀ callee,
          (plain.usageIndex names packagePrefix).callSites callee =
            (plain.callsOf names packagePrefix callee).map Call.site ∧
          (tagged.usageIndex names packagePrefix).callSites callee =
            (plain.callsOf names packagePrefix callee).map Call.taggedSite := by
  obtain ⟨plain, tagged, plainEvents, taggedEvents, hp, ht, hnames, h⟩ := opened_both e
  refine ⟨plain, tagged, plainEvents, taggedEvents, hp, ht, hnames, ?_, methodAtLine_tagged h,
    allSignatures_tagged h, seenSignatures_tagged h hnames, ?_⟩
  · intro isStack names root replace w
    rw [generate_tagged h]
  · intro names packagePrefix
    refine ⟨usageIndex_keys_tagged h names packagePrefix,
      usageIndex_unresolved_tagged h names packagePrefix, ?_⟩
    intro callee
    exact ⟨callSites_plain plain names packagePrefix callee,
      callSites_tagged h names packagePrefix callee⟩

end Session

end ClassCensus
