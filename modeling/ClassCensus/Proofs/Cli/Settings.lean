import ClassCensus.Cli.Run
import ClassCensus.Proofs.Asking

/-!
# What a run of the command line begins with

Before a run answers or generates anything it reads settings and snapshots and looks at paths. All
of this only asks (`Cli.onlyAsks_settingsOf`, `onlyAsks_openClasspath`). The settings are made of
four parts that can be told apart (`Cli.settingsOf_eq`).
-/

namespace ClassCensus

open Job (Asking OnlyAsks)

/-! ### Looking at paths -/

theorem onlyAsks_pathExists (path : Path) : OnlyAsks (pathExists path) := by
  refine (Asking.ofStep (s := .status path) trivial).bind ?_
  rintro (_ | _) -
  · exact .done trivial
  · exact .done trivial

theorem onlyAsks_isDirectory (path : Path) : OnlyAsks (isDirectory path) := by
  refine (Asking.ofStep (s := .status path) trivial).bind ?_
  rintro (_ | _) -
  · exact .done trivial
  · exact .done trivial

theorem onlyAsks_tellAll (events : List Event) : OnlyAsks (Job.tellAll events) :=
  (Asking.of_yields (Job.yields_tellAll events)).mono fun _ _ => trivial

theorem onlyAsks_tell (event : Event) : OnlyAsks (Job.tell event) := .ofStep trivial

theorem onlyAsks_readText (path : Path) : OnlyAsks (readText path) := by
  refine (Asking.ofStep (s := .read path) trivial).bind ?_
  rintro (f | bytes) -
  · exact .done trivial
  · dsimp only
    split
    · exact .done trivial
    · exact .done trivial

/-! ### Loading snapshots -/

theorem onlyAsks_atPath {α : Type} {path : Path} {job : Job (Except DiskFault α)}
    (h : OnlyAsks job) : OnlyAsks (Attempt.atPath path job).run := by
  refine h.bind ?_
  rintro (_ | _) -
  · exact .done trivial
  · exact .done trivial

theorem onlyAsks_gatherSnapshots (root : Path) : OnlyAsks (gatherSnapshots root) := by
  refine (Asking.ofStep (s := .list root) trivial).bind ?_
  rintro (f | entries) -
  · exact .done trivial
  · dsimp only
    split
    · exact .done trivial
    · exact .done trivial

theorem onlyAsks_loadSnapshot (classpath file : Path) :
    OnlyAsks (loadSnapshot classpath file).run := by
  refine (onlyAsks_atPath (onlyAsks_readText file)).attempts ?_
  intro text
  split
  · exact .done trivial
  · exact (Asking.lift (onlyAsks_tellAll _)).attempts fun _ => .done trivial

theorem onlyAsks_loadSnapshots (classpath : Path) (files : List Path) :
    OnlyAsks (loadSnapshots classpath files).run := by
  induction files with
  | nil => exact .done trivial
  | cons file rest ih =>
    refine (onlyAsks_loadSnapshot classpath file).attempts ?_
    intro c
    exact ih.attempts fun _ => .done trivial

theorem onlyAsks_load (classpath : Path) : OnlyAsks (SnapshotEngine.load classpath).run := by
  refine (Asking.lift (onlyAsks_isDirectory classpath)).attempts ?_
  intro present
  cases present with
  | false => exact .done trivial
  | true =>
    refine (Asking.lift (onlyAsks_gatherSnapshots classpath)).attempts ?_
    rintro (e | files)
    · exact .done trivial
    · refine (onlyAsks_loadSnapshots classpath files).attempts ?_
      intro classes
      refine (Asking.lift (onlyAsks_tell _)).attempts ?_
      intro _
      exact (Asking.lift (onlyAsks_tellAll _)).attempts fun _ => .done trivial

theorem onlyAsks_openClasspath (classpath : Path) (transform : PreTransform)
    (isStack : NamingConvention) (layout : SourceLayout) :
    OnlyAsks (Analysis.openClasspath classpath transform isStack layout).run := by
  refine (onlyAsks_load classpath).attempts ?_
  intro engine
  have hsession : OnlyAsks (Session.openWith engine transform).run := by
    refine Asking.attempts (.done trivial) ?_
    rintro ⟨session, events⟩
    exact (Asking.lift (onlyAsks_tellAll events)).attempts fun _ => .done trivial
  exact hsession.attempts fun _ => .done trivial

namespace Cli

/-! ### Settings -/

theorem onlyAsks_loadConfig (path : Path) : OnlyAsks (loadConfig path).run := by
  refine (Asking.lift (onlyAsks_pathExists path)).attempts ?_
  intro present
  cases present with
  | false => exact .done trivial
  | true =>
    refine (Asking.lift (onlyAsks_readText path)).attempts ?_
    rintro (f | text)
    · exact .done trivial
    · dsimp only
      split
      · exact .done trivial
      · exact .done trivial

theorem onlyAsks_configOf (name : Option String) : OnlyAsks (configOf name).run := by
  cases name with
  | none => exact (onlyAsks_loadConfig _).attempts fun _ => .done trivial
  | some name =>
    refine (onlyAsks_loadConfig _).attempts ?_
    rintro (_ | config)
    · exact .done trivial
    · exact .done trivial

theorem onlyAsks_checkClassPath (path : String) : OnlyAsks (checkClassPath path).run := by
  unfold checkClassPath
  split
  · exact .done trivial
  refine (Asking.lift (onlyAsks_isDirectory _)).attempts ?_
  rintro (_ | _)
  · exact .done trivial
  · exact .done trivial

theorem onlyAsks_checkOutDir (path : String) (replaceExisting : Bool) :
    OnlyAsks (checkOutDir path replaceExisting).run := by
  unfold checkOutDir
  split
  · exact .done trivial
  refine (Asking.lift (onlyAsks_pathExists _)).attempts ?_
  intro present
  cases present && !replaceExisting with
  | false => exact .done trivial
  | true =>
    refine (Asking.lift (onlyAsks_isDirectory _)).attempts ?_
    rintro (_ | _)
    · exact .done trivial
    · exact .done trivial

/-- The output root that is named, if it will do. -/
def chosenOutDir (outDir : Option String) (replaceExisting : Bool) : Setup (Option Path) :=
  match outDir with
  | some path => do return some (← checkOutDir path replaceExisting)
  | none => pure none

/-- The naming convention of a configuration. -/
def chosenConvention (config : Config) : Setup NamingConvention :=
  match config.convention with
  | .ok isStack => pure isStack
  | .error error => throw (.invalidPattern error)

/-- Whether the output root is to be replaced. -/
def Arguments.replaces (a : Arguments) (config : Config) : Bool :=
  a.replaceExisting || config.replaceExisting.getD false

/-- The settings of a run, when all of their parts are known. -/
def Arguments.settings (a : Arguments) (config : Config) (classPath : Path)
    (outDir : Option Path) (isStack : NamingConvention) : Settings where
  classPath
  outDir
  classList :=
    match a.classList with
    | some list => some (splitClassList list)
    | none => config.classList
  preTransform := a.preTransform || config.preTransform.getD false
  replaceExisting := a.replaces config
  json := a.json || config.wantsJson
  isStack
  layout := config.sourceLayout

theorem settingsOf_eq (a : Arguments) :
    settingsOf a = do
      let config ← configOf a.config
      let classPath ← checkClassPath a.classPath
      let outDir ← chosenOutDir a.outDir (a.replaces config)
      let isStack ← chosenConvention config
      return a.settings config classPath outDir isStack := by
  refine bind_congr fun config => bind_congr fun classPath => ?_
  have hpattern : ∀ outDir : Option Path,
      (match config.convention with
        | .ok isStack => pure isStack >>= fun s => pure (a.settings config classPath outDir s)
        | .error error =>
          throw (.invalidPattern error) >>= fun s => pure (a.settings config classPath outDir s)) =
        (chosenConvention config >>= fun s => pure (a.settings config classPath outDir s)) := by
    intro outDir
    unfold chosenConvention
    cases config.convention with
    | ok isStack => rfl
    | error error => rfl
  cases a.outDir with
  | none =>
    simp only [chosenOutDir, pure_bind]
    exact hpattern none
  | some path =>
    simp only [chosenOutDir, bind_assoc, pure_bind]
    exact bind_congr fun root => hpattern (some root)

theorem onlyAsks_settingsOf (a : Arguments) : OnlyAsks (settingsOf a).run := by
  rw [settingsOf_eq]
  refine (onlyAsks_configOf a.config).attempts ?_
  intro config
  refine (onlyAsks_checkClassPath a.classPath).attempts ?_
  intro classPath
  have hout : OnlyAsks (chosenOutDir a.outDir (a.replaces config)).run := by
    cases a.outDir with
    | none => exact .done trivial
    | some path => exact (onlyAsks_checkOutDir path _).attempts fun _ => .done trivial
  have hpattern : OnlyAsks (chosenConvention config).run := by
    unfold chosenConvention
    split
    · exact .done trivial
    · exact .done trivial
  exact hout.attempts fun _ => hpattern.attempts fun _ => .done trivial

end Cli

end ClassCensus
