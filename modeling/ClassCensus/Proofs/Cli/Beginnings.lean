import ClassCensus.Proofs.Cli.Queries
import ClassCensus.Proofs.Generation.Recovery

/-!
# How a generation begins

The settings of a run are read off its arguments and the disk, and leave the world as it is
(`Cli.settings_cases`). A run that is to generate either has a problem with its configuration, its
classpath or its output root, and is refused, or it begins to generate (`Cli.refused_or_begins`).
-/

namespace ClassCensus

/-! ### Reading -/

/-- The text of a file on a disk. -/
def Disk.textAt (d : Disk) (path : Path) : Except DiskFault String :=
  match d.read path with
  | .error f => .error f
  | .ok bytes =>
    match String.fromUTF8? bytes with
    | some text => .ok text
    | none => .error .notText

theorem run_readText (path : Path) (w : World) :
    (readText path).run w = (w.disk.textAt path, w) := by
  have hstep : (Job.ofStep (.read path)).run w = (w.disk.read path, w) := rfl
  unfold readText Disk.textAt
  refine (Job.run_bind (Job.ofStep (.read path)) _ w).trans ?_
  rw [hstep]
  dsimp only
  cases w.disk.read path with
  | error f => rfl
  | ok bytes =>
    dsimp only
    cases String.fromUTF8? bytes <;> rfl

namespace Cli

theorem Setup.run_bind {α β : Type} (job : Setup α) (next : α → Setup β) (w : World) :
    (job >>= next).run.run w =
      match job.run.run w with
      | (.ok a, w1) => (next a).run.run w1
      | (.error e, w1) => (.error e, w1) := by
  refine (Job.run_bind job.run (ExceptT.bindCont next) w).trans ?_
  rcases job.run.run w with ⟨r, w1⟩
  cases r with
  | ok a => rfl
  | error e => rfl

theorem Setup.run_lift {α : Type} (job : Job α) (w : World) :
    (liftM job : Setup α).run.run w = (.ok (job.run w).1, (job.run w).2) :=
  Job.run_bind job (fun a => .done (Except.ok a : Except SetupError α)) w

/-! ### The configuration -/

/-- The configuration in a file, if the file is there. -/
def configIn (d : Disk) (path : Path) : Except SetupError (Option Config) :=
  match d.status path with
  | .error _ => .ok none
  | .ok _ =>
    match d.textAt path with
    | .error fault => .error (.unreadableConfig path fault)
    | .ok text =>
      match Config.parse? text with
      | none => .error (.invalidConfig path)
      | some config => .ok (some config)

/-- The configuration of a run: that of the named file, which has to be there, or that of the
default file. -/
def configOn (d : Disk) : Option String → Except SetupError Config
  | some name =>
    match configIn d ⟨name⟩ with
    | .ok (some config) => .ok config
    | .ok none => .error (.missingConfig ⟨name⟩)
    | .error e => .error e
  | none => (configIn d defaultConfig).map (·.getD .empty)

theorem run_loadConfig (path : Path) (w : World) :
    (loadConfig path).run.run w = (configIn w.disk path, w) := by
  unfold loadConfig configIn
  rw [Setup.run_bind, Setup.run_lift, run_pathExists]
  dsimp only
  cases w.disk.status path with
  | error f => rfl
  | ok kind =>
    have hread : ∀ next : Except DiskFault String → Setup (Option Config),
        ((liftM (readText path) : Setup (Except DiskFault String)) >>= next).run.run w =
          (next (w.disk.textAt path)).run.run w := by
      intro next
      rw [Setup.run_bind, Setup.run_lift, run_readText]
    simp only [Except.isOk, Except.toBool, Bool.not_true, Bool.false_eq_true, if_false]
    refine (hread _).trans ?_
    cases w.disk.textAt path with
    | error f => rfl
    | ok text =>
      dsimp only
      cases Config.parse? text <;> rfl

theorem run_configOf (name : Option String) (w : World) :
    (configOf name).run.run w = (configOn w.disk name, w) := by
  unfold configOf configOn
  cases name with
  | none =>
    dsimp only
    rw [Setup.run_bind, run_loadConfig]
    cases configIn w.disk defaultConfig <;> rfl
  | some name =>
    dsimp only
    rw [Setup.run_bind, run_loadConfig]
    rcases configIn w.disk ⟨name⟩ with e | (_ | config) <;> rfl

/-! ### The settings -/

theorem run_checkClassPath_of_directory {path : String} {w : World}
    (h : w.disk.status ⟨path⟩ = .ok .directory) :
    (checkClassPath path).run.run w = (.ok ⟨path⟩, w) := by
  have hnul : '\x00' ∉ path.toList := fun h0 =>
    ((Disk.checkPath_ok_iff _).mp (Disk.arrives_of_status h).1).1
      ((Text.mem_bytesOf_iff (by decide)).mpr h0)
  unfold checkClassPath
  rw [if_neg (by simpa using hnul), Setup.run_bind, Setup.run_lift, run_isDirectory, h]
  rfl

theorem run_checkClassPath_of_other {path : String} {w : World}
    (h : w.disk.status ⟨path⟩ ≠ .ok .directory) :
    ∃ e, (checkClassPath path).run.run w = (.error e, w) := by
  unfold checkClassPath
  split
  · exact ⟨_, rfl⟩
  · refine ⟨.classpathNotDirectory path, ?_⟩
    rw [Setup.run_bind, Setup.run_lift, run_isDirectory]
    simp only [h, decide_false, Bool.false_eq_true, if_false]
    rfl

/-- The output root has a character that no path has, or something other than a directory is in its place
and is to stay. -/
def OutputRefused (d : Disk) (path : String) (replaceExisting : Bool) : Prop :=
  '\x00' ∈ path.toList ∨
    replaceExisting = false ∧ ∃ kind, d.status ⟨path⟩ = .ok kind ∧ kind ≠ .directory

theorem run_checkOutDir_of_refused {path : String} {replaceExisting : Bool} {w : World}
    (h : OutputRefused w.disk path replaceExisting) :
    ∃ e, (checkOutDir path replaceExisting).run.run w = (.error e, w) := by
  unfold checkOutDir
  split
  · exact ⟨_, rfl⟩
  · rename_i hnul
    obtain ⟨rfl, kind, hkind, hother⟩ := h.resolve_left (by simpa using hnul)
    refine ⟨.outputNotDirectory path, ?_⟩
    rw [Setup.run_bind, Setup.run_lift, run_pathExists, hkind]
    simp only [Except.isOk, Except.toBool, Bool.not_false, Bool.and_self, if_true]
    rw [Setup.run_bind, Setup.run_lift, run_isDirectory, hkind]
    have hno : decide ((Except.ok kind : Except DiskFault EntryKind) = .ok .directory) = false :=
      decide_eq_false fun h => hother (Except.ok.inj h)
    rw [hno]
    rfl

theorem run_checkOutDir_of_free {path : String} {replaceExisting : Bool} {w : World}
    (h : ¬OutputRefused w.disk path replaceExisting) :
    (checkOutDir path replaceExisting).run.run w = (.ok ⟨path⟩, w) := by
  have hnul : '\x00' ∉ path.toList := fun h0 => h (.inl h0)
  unfold checkOutDir
  rw [if_neg (by simpa using hnul), Setup.run_bind, Setup.run_lift, run_pathExists]
  dsimp only
  cases hstatus : w.disk.status ⟨path⟩ with
  | error f => rfl
  | ok kind =>
    cases replaceExisting with
    | true => rfl
    | false =>
      obtain rfl : kind = .directory := by
        by_contra hother
        exact h (.inr ⟨rfl, kind, hstatus, hother⟩)
      simp only [Except.isOk, Except.toBool, Bool.not_false, Bool.and_self, if_true]
      rw [Setup.run_bind, Setup.run_lift, run_isDirectory, hstatus]
      rfl

/-- The output root is the named one, if it is free. -/
theorem run_chosenOutDir_of_free {outDir : Option String} {replaceExisting : Bool} {w : World}
    (h : ∀ path, outDir = some path → ¬OutputRefused w.disk path replaceExisting) :
    (chosenOutDir outDir replaceExisting).run.run w =
      (.ok (outDir.map fun path : String => ⟨path⟩), w) := by
  cases outDir with
  | none => rfl
  | some path =>
    rw [chosenOutDir, Setup.run_bind, run_checkOutDir_of_free (h path rfl)]
    rfl

theorem run_chosenConvention (config : Config) (w : World) :
    (chosenConvention config).run.run w =
      (config.convention.mapError .invalidPattern, w) := by
  unfold chosenConvention
  cases config.convention <;> rfl

/-- What is wrong with the configuration, the classpath or the output root of a run that is to
generate artifacts. -/
inductive Problem (a : Arguments) (w : World) : Prop where
  | configuration {e : SetupError} (unusable : configOn w.disk a.config = .error e)
  | pattern {config : Config} {e : CensusError} (configured : configOn w.disk a.config = .ok config)
      (invalid : config.convention = .error e)
  | classpath (other : w.disk.status ⟨a.classPath⟩ ≠ .ok .directory)
  | snapshots {settings : Settings} {e : CensusError} {w1 : World}
      (configured : (settingsOf a).run.run w = (.ok settings, w))
      (unloaded : (Analysis.openClasspath settings.classPath (.ofFlag settings.preTransform)
        settings.isStack settings.layout).run.run w = (.error e, w1))
  | outputRefused {config : Config} {path : String}
      (configured : configOn w.disk a.config = .ok config) (named : a.outDir = some path)
      (refused : OutputRefused w.disk path (a.replaces config))
  | outputMissing (missing : a.outDir = none)

/-- The settings of a run for which nothing is wrong with them. -/
structure Configured (a : Arguments) (w : World) (config : Config) (isStack : NamingConvention) :
    Prop where
  configured : configOn w.disk a.config = .ok config
  convention : config.convention = .ok isStack
  classPath : w.disk.status ⟨a.classPath⟩ = .ok .directory
  output : ∀ path, a.outDir = some path → ¬OutputRefused w.disk path (a.replaces config)
  settings : (settingsOf a).run.run w =
    (.ok (a.settings config ⟨a.classPath⟩ (a.outDir.map fun path : String => ⟨path⟩) isStack), w)

/-- The settings are those of a run without problems, or they are refused. -/
theorem settings_cases (a : Arguments) (w : World) :
    (∃ config isStack, Configured a w config isStack) ∨
      Problem a w ∧ ∃ e, (settingsOf a).run.run w = (.error e, w) := by
  have hrun := congrArg (fun job : Setup Settings => job.run.run w) (settingsOf_eq a)
  simp only [Setup.run_bind, run_configOf] at hrun
  cases hconfig : configOn w.disk a.config with
  | error e =>
    rw [hconfig] at hrun
    exact .inr ⟨.configuration hconfig, e, hrun⟩
  | ok config =>
    rw [hconfig] at hrun
    dsimp only at hrun
    by_cases hclass : w.disk.status ⟨a.classPath⟩ = .ok .directory
    · rw [run_checkClassPath_of_directory hclass] at hrun
      dsimp only at hrun
      by_cases hrefused : ∃ path, a.outDir = some path ∧ OutputRefused w.disk path (a.replaces config)
      · obtain ⟨path, hpath, hrefused⟩ := hrefused
        obtain ⟨e, he⟩ := run_checkOutDir_of_refused hrefused
        rw [hpath, chosenOutDir, Setup.run_bind, he] at hrun
        exact .inr ⟨.outputRefused hconfig hpath hrefused, e, hrun⟩
      · have hfree : ∀ path, a.outDir = some path → ¬OutputRefused w.disk path (a.replaces config) :=
          fun path hpath h => hrefused ⟨path, hpath, h⟩
        rw [run_chosenOutDir_of_free hfree] at hrun
        dsimp only at hrun
        rw [run_chosenConvention] at hrun
        cases hpattern : config.convention with
        | error e =>
          rw [hpattern] at hrun
          exact .inr ⟨.pattern hconfig hpattern, _, hrun⟩
        | ok isStack =>
          rw [hpattern] at hrun
          exact .inl ⟨config, isStack, hconfig, hpattern, hclass, hfree, hrun⟩
    · obtain ⟨e, he⟩ := run_checkClassPath_of_other hclass
      rw [he] at hrun
      exact .inr ⟨.classpath hclass, e, hrun⟩

/-! ### Generations -/

/-- What a run has when it begins to generate: its settings, the analysis that it has opened, the
output root, and the world after the opening. -/
structure Generation where
  settings : Settings
  analysis : Analysis SnapshotEngine
  root : Path
  opened : World

namespace Generation

def plan (g : Generation) : Plan SnapshotEngine :=
  ⟨g.analysis.session, g.analysis.isStack, g.root, g.settings.replaceExisting⟩

/-- The requested classes, or all of them. -/
def classes (g : Generation) : List String :=
  g.settings.classList.getD g.analysis.applicationClasses

/-- The world in which the first class of a generation is to come. -/
def start (g : Generation) : World :=
  ((requestedClasses g.analysis g.settings.classList).run g.opened).2

/-- A run of the arguments begins with this generation. -/
structure Begins (g : Generation) (a : Arguments) (w : World) : Prop where
  configured : (settingsOf a).run.run w = (.ok g.settings, w)
  loaded : (Analysis.openClasspath g.settings.classPath (.ofFlag g.settings.preTransform)
    g.settings.isStack g.settings.layout).run.run w = (.ok g.analysis, g.opened)
  root : g.settings.outDir = some g.root

variable {g : Generation} {a : Arguments} {w : World}

theorem run_requestedClasses (g : Generation) :
    (requestedClasses g.analysis g.settings.classList).run g.opened = (g.classes, g.start) := by
  refine Prod.ext ?_ rfl
  unfold classes
  cases g.settings.classList with
  | none => rfl
  | some list =>
    change ((Job.bind (Job.tellAll _) fun _ => .done list).run g.opened).1 = list
    rw [Job.run_bind]
    rfl

theorem Begins.unique {g' : Generation} (h : g.Begins a w) (h' : g'.Begins a w) : g' = g := by
  obtain ⟨settings, analysis, root, opened⟩ := g
  obtain ⟨settings', analysis', root', opened'⟩ := g'
  obtain ⟨hconfigured, hloaded, hroot⟩ := h
  obtain ⟨hconfigured', hloaded', hroot'⟩ := h'
  dsimp only at *
  rw [hconfigured] at hconfigured'
  obtain rfl := Except.ok.inj (Prod.mk.inj hconfigured').1
  rw [hloaded] at hloaded'
  obtain ⟨h1, rfl⟩ := Prod.mk.inj hloaded'
  obtain rfl := Except.ok.inj h1
  rw [hroot] at hroot'
  obtain rfl := Option.some.inj hroot'
  rfl

/-- What begins has no problem. -/
theorem Begins.no_problem (h : g.Begins a w) : ¬Problem a w := by
  rcases settings_cases a w with ⟨config, isStack, hc⟩ | ⟨-, e, he⟩
  · have hsettings :
        g.settings = a.settings config ⟨a.classPath⟩
          (a.outDir.map fun path : String => ⟨path⟩) isStack := by
      have h0 := h.configured
      rw [hc.settings] at h0
      exact (Except.ok.inj (Prod.mk.inj h0).1).symm
    intro hproblem
    cases hproblem with
    | configuration unusable =>
      rw [hc.configured] at unusable
      cases unusable
    | pattern configured invalid =>
      rw [hc.configured] at configured
      obtain rfl := Except.ok.inj configured
      rw [hc.convention] at invalid
      cases invalid
    | classpath other => exact other hc.classPath
    | snapshots configured unloaded =>
      have h0 := h.configured
      rw [configured] at h0
      obtain rfl := Except.ok.inj (Prod.mk.inj h0).1
      rw [h.loaded] at unloaded
      cases unloaded
    | outputRefused configured named refused =>
      rw [hc.configured] at configured
      obtain rfl := Except.ok.inj configured
      exact hc.output _ named refused
    | outputMissing missing =>
      have hroot := h.root
      rw [hsettings] at hroot
      simp [Arguments.settings, missing] at hroot
  · have h0 := h.configured
    rw [he] at h0
    cases h0

end Generation

theorem run_runArguments (a : Arguments) (w : World) :
    (runArguments a).run w =
      match (settingsOf a).run.run w with
      | (.error e, w1) => (.refused e, w1)
      | (.ok settings, w1) =>
        match (Analysis.openClasspath settings.classPath (.ofFlag settings.preTransform)
          settings.isStack settings.layout).run.run w1 with
        | (.error e, w2) => (.refused (.analysis e), w2)
        | (.ok analysis, w2) => (runWith a settings analysis).run w2 := by
  refine (Job.run_bind (settingsOf a).run _ w).trans ?_
  rcases (settingsOf a).run.run w with ⟨r, w1⟩
  cases r with
  | error e => rfl
  | ok settings =>
    refine (Job.run_bind (Analysis.openClasspath settings.classPath (.ofFlag settings.preTransform)
      settings.isStack settings.layout).run _ w1).trans ?_
    dsimp only
    rcases (Analysis.openClasspath settings.classPath (.ofFlag settings.preTransform)
      settings.isStack settings.layout).run.run w1 with ⟨r, w2⟩
    cases r with
    | error e => rfl
    | ok analysis => rfl

/-- A run that is to generate is refused for a problem, or it begins to generate. -/
theorem refused_or_begins {a : Arguments} (hq : ¬a.Queries) (w : World) :
    (Problem a w ∧ ∃ e, ((runArguments a).run w).1 = .refused e) ∨
      ∃ g : Generation, g.Begins a w ∧
        (runArguments a).run w = (runGeneration g.settings g.analysis).run g.opened := by
  have hrun := run_runArguments a w
  rcases settings_cases a w with ⟨config, isStack, hc⟩ | ⟨hproblem, e, he⟩
  · generalize hs : a.settings config ⟨a.classPath⟩
      (a.outDir.map fun path : String => ⟨path⟩) isStack = settings
    have hconfigured : (settingsOf a).run.run w = (.ok settings, w) := hs ▸ hc.settings
    have hout : settings.outDir = a.outDir.map fun path : String => ⟨path⟩ := hs ▸ rfl
    rw [hconfigured] at hrun
    dsimp only at hrun
    rcases hopen : (Analysis.openClasspath settings.classPath (.ofFlag settings.preTransform)
      settings.isStack settings.layout).run.run w with ⟨r, w1⟩
    rw [hopen] at hrun
    cases r with
    | error e => exact .inl ⟨.snapshots hconfigured hopen, _, by rw [hrun]⟩
    | ok analysis =>
      dsimp only at hrun
      rw [((runWith_cases settings analysis a).resolve_left fun h => hq h.1).2] at hrun
      cases hpath : a.outDir with
      | none =>
        refine .inl ⟨.outputMissing hpath, .outputMissing, ?_⟩
        rw [hpath] at hout
        rw [hrun, runGeneration, hout]
        exact congrArg Prod.fst (Job.run_bind analysis.close (fun _ => .done _) w1)
      | some path =>
        rw [hpath] at hout
        exact .inr ⟨⟨settings, analysis, ⟨path⟩, w1⟩, ⟨hconfigured, hopen, hout⟩, hrun⟩
  · rw [he] at hrun
    exact .inl ⟨hproblem, e, by rw [hrun]⟩

end Cli

end ClassCensus
