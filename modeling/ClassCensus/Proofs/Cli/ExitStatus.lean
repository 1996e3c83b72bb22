import ClassCensus.Proofs.Cli.Beginnings
import ClassCensus.Proofs.Engine.Snapshot
import ClassCensus.Proofs.Generation.Entries

/-!
# The status with which a generation ends

A run that is to generate artifacts ends in one of three ways (`Cli.ending_of_run`): it is refused
with status 2 for a problem; its output root cannot be prepared, which ends with status 1 and
without a report; or it prints a report, and its status says whether a class failed
(`Cli.status_tells_failures`).
-/

namespace ClassCensus.Cli

open Job (Asking OnlyAsks)

namespace Generation

variable {g : Generation} {a : Arguments} {w w' : World}

/-- The output root of a generation is deleted, if it is to be replaced, and made. -/
def Prepared (g : Generation) : Prop := ∃ w', g.plan.opening.run.run g.start = (.ok (), w')

/-- A generation ends with a report. -/
def Reports (g : Generation) (report : GenerationReport) (w' : World) : Prop :=
  (g.plan.generate g.classes).run.run g.start = (.ok report, w')

theorem resolvesOrRecovers (g : Generation) : g.plan.ResolvesOrRecovers := by
  intro n e h
  rw [SnapshotEngine.error_of_resolve (h : g.analysis.session.engine.resolve n = .error e)]
  rfl

theorem printsQuietly (g : Generation) : g.plan.PrintsQuietly := fun _ => .done trivial

/-- What comes before a generation leaves the disk as it is. -/
theorem Begins.disk_start (h : g.Begins a w) : g.start.disk = w.disk := by
  have hopened : g.opened.disk = w.disk := by
    have := (onlyAsks_openClasspath g.settings.classPath (.ofFlag g.settings.preTransform)
      g.settings.isStack g.settings.layout).disk_eq w
    rwa [h.loaded] at this
  exact ((onlyAsks_requestedClasses g.analysis g.settings.classList).disk_eq g.opened).trans hopened

/-- What is told and printed of a report. -/
def answer (g : Generation) (report : GenerationReport) : Job Outcome := do
  Job.tell <| .remark .info <|
    "Processed " ++ toString report.total ++ " classes: " ++
      toString report.generated.length ++ " generated, " ++
      toString report.skipped.length ++ " skipped, " ++
      toString report.failures.length ++ " failed"
  finish g.analysis (answerText g.settings report.toJson report.render) report.hasFailures

theorem run_runGeneration (hroot : g.settings.outDir = some g.root) :
    (runGeneration g.settings g.analysis).run g.opened =
      match (g.plan.generate g.classes).run.run g.start with
      | (.error e, w1) =>
        (⟨1, "", causeReport ("Failed to prepare output root: " ++ g.root.text) e.chain⟩, w1)
      | (.ok report, w1) => (g.answer report).run w1 := by
  have hplan : g.analysis.generate g.classes g.root g.settings.replaceExisting =
      g.plan.generate g.classes := rfl
  unfold runGeneration
  rw [hroot]
  refine (Job.run_bind (requestedClasses g.analysis g.settings.classList) _ g.opened).trans ?_
  rw [run_requestedClasses, ← hplan]
  refine (Job.run_bind (g.analysis.generate g.classes g.root
    g.settings.replaceExisting).run _ g.start).trans ?_
  rcases (g.analysis.generate g.classes g.root
    g.settings.replaceExisting).run.run g.start with ⟨r, w1⟩
  cases r with
  | error e => rfl
  | ok report => rfl

theorem asking_answer (g : Generation) (report : GenerationReport) :
    Asking (· = .answered (answerText g.settings report.toJson report.render) report.hasFailures)
      (g.answer report) :=
  (onlyAsks_tell _).bind fun _ _ => (onlyAsks_close g.analysis).bind fun _ _ => .done rfl

end Generation

/-- The ways in which a run that is to generate artifacts can end. -/
inductive Ending (a : Arguments) (w : World) (o : Outcome) (w' : World) : Prop where
  | refused (problem : Problem a w) (error : SetupError) (outcome : o = .refused error)
  | unprepared (g : Generation) (begins : g.Begins a w) (error : CensusError)
      (opening : g.plan.opening.run.run g.start = (.error error, w'))
      (outcome : o =
        ⟨1, "", causeReport ("Failed to prepare output root: " ++ g.root.text) error.chain⟩)
  | reported (g : Generation) (begins : g.Begins a w) (report : GenerationReport) (w1 : World)
      (reports : g.Reports report w1) (disk : w'.disk = w1.disk)
      (outcome : o =
        .answered (answerText g.settings report.toJson report.render) report.hasFailures)

theorem ending_of_run {a : Arguments} (hq : ¬a.Queries) (w : World) :
    Ending a w ((runArguments a).run w).1 ((runArguments a).run w).2 := by
  rcases refused_or_begins hq w with ⟨hproblem, e, he⟩ | ⟨g, hbegins, hrun⟩
  · exact .refused hproblem e he
  · rw [hrun]
    rcases hopening : g.plan.opening.run.run g.start with ⟨r, w1⟩
    cases r with
    | error e =>
      have hgenerate : (g.plan.generate g.classes).run.run g.start = (.error e, w1) := by
        rw [Plan.generate_eq, Attempt.run_bind, hopening]
      rw [Generation.run_runGeneration hbegins.root, hgenerate]
      exact .unprepared g hbegins e hopening rfl
    | ok u =>
      obtain ⟨report, w2, hreport⟩ :
          ∃ report w2, (g.plan.generate g.classes).run.run g.start = (.ok report, w2) :=
        Plan.exists_report g.resolvesOrRecovers hopening
      rw [Generation.run_runGeneration hbegins.root, hreport]
      have hanswer := ((g.asking_answer report).ensures w2).result
      exact .reported g hbegins report w2 hreport hanswer.2.disk hanswer.1

/-- Where something is printed the output root has been prepared. -/
theorem prepared_of_printed {a : Arguments} (hq : ¬a.Queries) {w : World}
    (h : ((runArguments a).run w).1.stdout ≠ "") {g : Generation} (hbegins : g.Begins a w) :
    g.Prepared := by
  have hending := ending_of_run hq w
  generalize ((runArguments a).run w).1 = o at hending h
  cases hending with
  | refused problem error outcome => exact absurd problem hbegins.no_problem
  | unprepared g' begins error opening outcome =>
    subst outcome
    exact absurd rfl h
  | reported g' begins report w1 reports disk outcome =>
    obtain rfl := hbegins.unique begins
    obtain ⟨w2, w3, hopening, -⟩ := Plan.course_of_report reports
    exact ⟨w2, hopening⟩

/-! ### Runs -/

/-- A generation of the run ends with a report of some kind, which is what is printed. -/
def PrintsReport (a : Arguments) (w : World) (o : Outcome) (kind : GenerationReport → Prop) :
    Prop :=
  ∃ g : Generation, g.Begins a w ∧ ∃ report w1, g.Reports report w1 ∧
    o.stdout = answerText g.settings report.toJson report.render ∧ kind report

/-- There is one report only that can be printed. -/
theorem printsReport_iff {a : Arguments} {w w1 : World} {g : Generation} {report : GenerationReport}
    {failed : Bool} (hbegins : g.Begins a w) (hreports : g.Reports report w1)
    (kind : GenerationReport → Prop) :
    PrintsReport a w (.answered (answerText g.settings report.toJson report.render) failed) kind ↔
      kind report := by
  constructor
  · rintro ⟨g', hbegins', report', w2, hreports', -, hkind⟩
    obtain rfl := hbegins.unique hbegins'
    obtain rfl : report' = report :=
      Except.ok.inj (Prod.mk.inj (hreports'.symm.trans hreports)).1
    exact hkind
  · exact fun hkind => ⟨g, hbegins, report, w1, hreports, rfl, hkind⟩

theorem Problem.not_printsReport {a : Arguments} {w : World} (h : Problem a w) (o : Outcome)
    (kind : GenerationReport → Prop) : ¬PrintsReport a w o kind := by
  rintro ⟨g, hbegins, -⟩
  exact hbegins.no_problem h

/-- A run that is to generate artifacts, and whose output root can be prepared if it comes to that,
ends with status 1 just where a report with a failed class is printed, with status 0 just where a
report without one is printed, and with status 2 just where the configuration, the classpath or the
output root has a problem. With status 0 there is an entry at the dump path of each class, if no
link has the name of an artifact. -/
theorem status_tells_failures {args : List String} {a : Arguments} (hargs : requestOf args = .run a)
    (hquery : ¬a.Queries) {w : World} (hprepared : ∀ g : Generation, g.Begins a w → g.Prepared) :
    (((run args).run w).1.exit = 1 ↔
      PrintsReport a w ((run args).run w).1 fun report => report.failures ≠ []) ∧
    (((run args).run w).1.exit = 0 ↔
      PrintsReport a w ((run args).run w).1 fun report => report.failures = []) ∧
    (((run args).run w).1.exit = 0 → w.disk.LinksAside →
      ∀ g : Generation, g.Begins a w → ∀ n ∈ g.classes, ∃ kind,
        ((run args).run w).2.disk.status (g.plan.paths n).dump = .ok kind) ∧
    (((run args).run w).1.exit = 2 ↔ Problem a w) := by
  have hrun : run args = runArguments a := by rw [run, hargs]
  rw [hrun]
  have hending := ending_of_run hquery w
  generalize ((runArguments a).run w).1 = o at hending
  generalize ((runArguments a).run w).2 = w' at hending
  cases hending with
  | refused problem error outcome =>
    have hexit : o.exit = 2 := outcome ▸ rfl
    rw [hexit]
    exact ⟨⟨fun h => absurd h (by decide), fun h => absurd h (problem.not_printsReport o _)⟩,
      ⟨fun h => absurd h (by decide), fun h => absurd h (problem.not_printsReport o _)⟩,
      fun h => absurd h (by decide), fun _ => problem, fun _ => rfl⟩
  | unprepared g begins error opening outcome =>
    obtain ⟨w1, hopening⟩ := hprepared g begins
    rw [opening] at hopening
    cases hopening
  | reported g begins report w1 reports disk outcome =>
    have hexit : o.exit = if report.failures = [] then 0 else 1 := by
      rw [outcome]
      by_cases h : report.failures = []
      · simp [Outcome.answered, GenerationReport.hasFailures, h]
      · simp [Outcome.answered, GenerationReport.hasFailures, h]
    rw [hexit, outcome, printsReport_iff begins reports, printsReport_iff begins reports]
    refine ⟨?_, ?_, ?_, ?_⟩
    · split <;> simp_all
    · split <;> simp_all
    · intro h hd g' hbegins
      obtain rfl := begins.unique hbegins
      have hnone : report.failures = [] := by
        by_contra hne
        rw [if_neg hne] at h
        cases h
      rw [disk]
      exact Plan.entries_of_run g'.printsQuietly reports hnone (begins.disk_start ▸ hd)
    · refine ⟨fun h => ?_, fun h => absurd h begins.no_problem⟩
      split at h <;> cases h

/-- A classpath with one class, and an output root that is a link to an empty directory. -/
def linkedRoot : World :=
  let disk : Disk := ⟨[(["home"], .directory), (["home", "cp"], .directory),
    (["home", "cp", "X.class.json"], .file "\x7b\"name\":\"X\"\x7d".toUTF8),
    (["home", "real"], .directory), (["home", "out"], .link ⟨"real"⟩)], ["home"]⟩
  ⟨disk, 7, 1, []⟩

/-- The arguments that ask for a list of classes there. -/
def classListWords (list : String) : List String :=
  ["--class-path=cp", "--out-dir=out", "--class-list=" ++ list]

def classListArguments (list : String) : Arguments :=
  ⟨"cp", some "out", some list, false, false, none, false, none, none, none, false, none⟩

/-- A class that is not there fails beside one that is generated; alone, this one is generated and
has its dump. -/
theorem status_tells_failures_below_link :
    PrintsReport (classListArguments "X:Gone") linkedRoot
      ((run (classListWords "X:Gone")).run linkedRoot).1 (fun report => report.failures ≠ []) ∧
    PrintsReport (classListArguments "X") linkedRoot
      ((run (classListWords "X")).run linkedRoot).1 (fun report => report.failures = []) ∧
    ¬Problem (classListArguments "X") linkedRoot ∧
    ∃ g : Generation, g.Begins (classListArguments "X") linkedRoot ∧ g.classes = ["X"] ∧
      ∃ kind, ((run (classListWords "X")).run linkedRoot).2.disk.status (g.plan.paths "X").dump =
        .ok kind := by
  have hquery : ∀ list, ¬(classListArguments list).Queries := by
    intro list
    simp [Arguments.Queries, classListArguments]
  have hfailing : requestOf (classListWords "X:Gone") = .run (classListArguments "X:Gone") := rfl
  have hfine : requestOf (classListWords "X") = .run (classListArguments "X") := rfl
  have hprinted : ∀ list, requestOf (classListWords list) = .run (classListArguments list) →
      ((run (classListWords list)).run linkedRoot).1.stdout ≠ "" →
      ∀ g : Generation, g.Begins (classListArguments list) linkedRoot → g.Prepared := by
    intro list hlist hout g hbegins
    rw [run, hlist] at hout
    exact prepared_of_printed (hquery list) hout hbegins
  obtain ⟨hone, -, -, -⟩ := status_tells_failures hfailing (hquery _)
    (hprinted _ hfailing (by decide +kernel))
  obtain ⟨-, hzero, hentries, htwo⟩ := status_tells_failures hfine (hquery _)
    (hprinted _ hfine (by decide +kernel))
  have hexit : ((run (classListWords "X")).run linkedRoot).1.exit = 0 := by decide +kernel
  have haside : linkedRoot.disk.LinksAside := .of_entries (by decide +kernel)
  have hclasses : ((settingsOf (classListArguments "X")).run.run linkedRoot).1.toOption.map
      (·.classList) = some (some ["X"]) := by decide +kernel
  have hreport := hzero.mp hexit
  obtain ⟨g, hbegins, -⟩ := hreport
  rw [hbegins.configured] at hclasses
  have hchosen : g.settings.classList = some ["X"] := Option.some.inj hclasses
  have hlist : g.classes = ["X"] := by rw [Generation.classes, hchosen, Option.getD_some]
  have hsound : ¬Problem (classListArguments "X") linkedRoot := by
    intro h
    rw [← htwo, hexit] at h
    cases h
  exact ⟨hone.mp (by decide +kernel), hzero.mp hexit, hsound, g, hbegins, hlist,
    hentries hexit haside g hbegins "X" (by simp [hlist])⟩

/-- An output root below a file can be named, and not be made: the status is that of a failed class,
although no class was reached and no report is printed. -/
theorem status_one_without_report :
    let disk : Disk := ⟨[(["home"], .directory), (["home", "cp"], .directory),
      (["home", "f"], .file .empty)], ["home"]⟩
    ((run ["--class-path=cp", "--out-dir=f/x"]).run ⟨disk, 7, 1, []⟩).1 =
      ⟨1, "", "Error: Failed to prepare output root: f/x\n\nCaused by:\n" ++
        "    0: I/O error at f/x: Not a directory (os error 20)\n" ++
        "    1: Not a directory (os error 20)\n"⟩ := by
  decide +kernel

end ClassCensus.Cli
