import ClassCensus.Analysis
import ClassCensus.Proofs.Job

/-!
# The life of an engine

An engine is handed from one analysis to the next, and may be edited and reset in between. Whatever
was done with it, it still has the classes that it was built from, and both the opening and the closing
of an analysis go back to them. So no analysis can tell what came before it
(`Lifecycle.analyses_do_not_leak`).
-/

namespace ClassCensus

/-! ### Queries -/

/-- What can be asked of an analysis. -/
inductive Query where
  | applicationClasses
  | resolve (className : String)
  | dump (className : String)
  | record (className : String)
  | generate (classNames : List String) (root : Path) (replace : Bool)
  | callSitesOf (className id : String)
  | usageIndex (classNames : List String) (packagePrefix : String)
  | seenSignatures (packagePrefix : String)
  | allSignatures (classNames : List String)
  | methodAtLine (file : String) (line : UInt32)

namespace Query

/-- The answer to a query. -/
@[reducible] def Answer : Query → Type
  | .applicationClasses => List String
  | .resolve _ => Except CensusError ClassDef
  | .dump _ => Except CensusError (Except DiskFault String)
  | .record _ => Except CensusError ClassRecord
  | .generate _ _ _ => Except CensusError GenerationReport
  | .callSitesOf _ _ => Except CensusError (List CallSite)
  | .usageIndex _ _ => UsageIndex
  | .seenSignatures _ => OrderedSet
  | .allSignatures _ => OrderedSet × List String
  | .methodAtLine _ _ => Except CensusError (Option String)

/-- How an analysis answers a query. -/
def job {ε : Type} [ClassEngine ε] (a : Analysis ε) : (q : Query) → Job q.Answer
  | .applicationClasses => .done a.applicationClasses
  | .resolve className => .done (a.session.resolve className)
  | .dump className =>
    match a.session.resolve className with
    | .ok c => (ClassEngine.dump a.session.engine c).bind fun dump => .done (.ok dump)
    | .error error => .done (.error error)
  | .record className => .done ((a.session.resolve className).map (ClassRecord.ofClass a.isStack))
  | .generate classNames root replace => (a.generate classNames root replace).run
  | .callSitesOf className id => (a.callSitesOf className id).run
  | .usageIndex classNames packagePrefix => a.usageIndex classNames packagePrefix
  | .seenSignatures packagePrefix => a.seenSignatures packagePrefix
  | .allSignatures classNames => a.allSignatures classNames
  | .methodAtLine file line => (a.methodAtLine file line).run

end Query

/-- Two analyses have the same classes and answer every query alike, with the same effects. -/
structure Analysis.Indistinguishable {ε : Type} [ClassEngine ε] (a b : Analysis ε) : Prop where
  applicationClasses : a.applicationClasses = b.applicationClasses
  resolve : ∀ className, a.session.resolve className = b.session.resolve className
  answers : ∀ (q : Query) (w : World), (q.job a).run w = (q.job b).run w

/-! ### Histories -/

namespace Lifecycle

/-- Where an engine is: with its owner, or in an analysis. -/
inductive Stage where
  | idle (engine : SnapshotEngine)
  | busy (analysis : Analysis SnapshotEngine)

/-- What is done with an engine. -/
inductive Act where
  | openWith (transform : PreTransform) (isStack : NamingConvention) (layout : SourceLayout)
  | ask (query : Query)
  | close
  | edit (className : String) (change : ClassDef → ClassDef)
  | reset

/-- The engine with a change to a class, or as it is if there is no such class. -/
def edited (e : SnapshotEngine) (className : String) (change : ClassDef → ClassDef) :
    SnapshotEngine :=
  match e.edit className change with
  | .ok changed => changed
  | .error _ => e

/-- An analysis with another engine. -/
def withEngine (a : Analysis SnapshotEngine) (e : SnapshotEngine) : Analysis SnapshotEngine :=
  { a with session := { a.session with engine := e } }

/-- The stage and the world after an act. An analysis that cannot be opened keeps the engine, and the
owner of an engine cannot ask or close; then nothing goes on. -/
def Act.perform : Act → Stage → World → Option (Stage × World)
  | .openWith transform isStack layout, .idle e, w =>
    match (Analysis.openWith e transform isStack layout).run.run w with
    | (.ok a, w) => some (.busy a, w)
    | (.error _, _) => none
  | .ask q, .busy a, w => some (.busy a, ((q.job a).run w).2)
  | .close, .busy a, w => some (.idle (a.close.run w).1, (a.close.run w).2)
  | .edit className change, .idle e, w => some (.idle (edited e className change), w)
  | .edit className change, .busy a, w =>
    some (.busy (withEngine a (edited a.session.engine className change)), w)
  | .reset, .idle e, w => some (.idle e.reset, w)
  | _, _, _ => none

/-- The stage and the world after a history. -/
def performAll : List Act → Stage → World → Option (Stage × World)
  | [], stage, w => some (stage, w)
  | act :: rest, stage, w => do
    let (stage, w) ← act.perform stage w
    performAll rest stage w

/-- The engine of a stage. -/
def Stage.engine : Stage → SnapshotEngine
  | .idle e => e
  | .busy a => a.session.engine

/-! ### What is kept -/

theorem reset_eq_of_pristine {e e' : SnapshotEngine} (h : e.pristine = e'.pristine) :
    e.reset = e'.reset := by
  unfold SnapshotEngine.reset
  rw [h]

/-- An open session has the names of the engine that was reset, and the engine that was prepared
then. -/
theorem run_of_opened {e : SnapshotEngine} {transform : PreTransform}
    {s : Session SnapshotEngine} {events : List Event}
    (h : Session.opened e transform = .ok (s, events)) :
    s.applicationClasses = ClassEngine.classNames e.reset ∧
      ∃ told, (transform.prepare (ClassEngine.classNames e.reset)).run e.reset =
        .ok (s.engine, told) := by
  have hbind : (((transform.prepare (ClassEngine.classNames e.reset)).run e.reset).bind fun r =>
      .ok ((⟨r.1, ClassEngine.classNames e.reset, transform.name⟩ : Session SnapshotEngine),
        r.2 ++ [Event.sessionOpened (ClassEngine.name r.1)
          (ClassEngine.classNames e.reset).length transform.name])) = .ok (s, events) := h
  cases hrun : (transform.prepare (ClassEngine.classNames e.reset)).run e.reset with
  | error error =>
    rw [hrun] at hbind
    cases hbind
  | ok r =>
    rw [hrun] at hbind
    cases hbind
    exact ⟨rfl, r.2, rfl⟩

theorem run_openSession (e : SnapshotEngine) (transform : PreTransform) (w : World) :
    (Session.openWith e transform).run.run w =
      match Session.opened e transform with
      | .ok (session, events) => (.ok session, ((Job.tellAll events).run w).2)
      | .error error => (.error error, w) := by
  unfold Session.openWith
  rw [Attempt.run_bind]
  cases Session.opened e transform with
  | error error => rfl
  | ok opened =>
    obtain ⟨session, events⟩ := opened
    have htold := Attempt.run_bind (Attempt.ofJob (Job.tellAll events))
      (fun _ => (pure session : Attempt (Session SnapshotEngine))) w
    rw [Attempt.run_ofJob] at htold
    exact htold

theorem run_openWith (e : SnapshotEngine) (transform : PreTransform) (isStack : NamingConvention)
    (layout : SourceLayout) (w : World) :
    (Analysis.openWith e transform isStack layout).run.run w =
      match Session.opened e transform with
      | .ok (session, events) => (.ok ⟨session, isStack, layout⟩, ((Job.tellAll events).run w).2)
      | .error error => (.error error, w) := by
  unfold Analysis.openWith
  rw [Attempt.run_bind, run_openSession]
  cases Session.opened e transform with
  | error error => rfl
  | ok opened => rfl

/-- A property of engines that edits and resets keep. -/
structure Lasting (P : SnapshotEngine → Prop) : Prop where
  edit : ∀ {e e' : SnapshotEngine} {className : String} {change : ClassDef → ClassDef},
    e.edit className change = .ok e' → P e → P e'
  reset : ∀ {e : SnapshotEngine}, P e → P e.reset

namespace Lasting

variable {P : SnapshotEngine → Prop} (hP : Lasting P)
include hP

theorem edited {e : SnapshotEngine} (he : P e) (className : String)
    (change : ClassDef → ClassDef) : P (edited e className change) := by
  unfold Lifecycle.edited
  split
  · exact hP.edit ‹_› he
  · exact he

/-- A preparation edits classes, one after the other. -/
theorem run {p : Preparation} {e e' : SnapshotEngine} {events : List Event}
    (h : p.run e = .ok (e', events)) (he : P e) : P e' := by
  induction p generalizing e with
  | done told =>
    cases h
    exact he
  | fail error => cases h
  | edit className change next ih =>
    rw [Preparation.run] at h
    split at h
    · rename_i changed hedit
      exact ih _ h (hP.edit hedit he)
    · exact ih _ h he

theorem opened {e : SnapshotEngine} {transform : PreTransform} {s : Session SnapshotEngine}
    {events : List Event} (h : Session.opened e transform = .ok (s, events)) (he : P e) :
    P s.engine := by
  obtain ⟨-, told, hrun⟩ := run_of_opened h
  exact hP.run hrun (hP.reset he)

/-- Whatever is done with an engine, it keeps the property. -/
theorem perform {act : Act} {stage stage' : Stage} {w w' : World}
    (h : act.perform stage w = some (stage', w')) (hstage : P stage.engine) : P stage'.engine := by
  cases act with
  | openWith transform isStack layout =>
    cases stage with
    | busy a => cases h
    | idle e =>
      rw [Act.perform, run_openWith] at h
      cases hopened : Session.opened e transform with
      | error error =>
        rw [hopened] at h
        cases h
      | ok opened =>
        rw [hopened] at h
        cases h
        exact hP.opened hopened hstage
  | ask q =>
    cases stage with
    | idle e => cases h
    | busy a =>
      cases h
      exact hstage
  | close =>
    cases stage with
    | idle e => cases h
    | busy a =>
      cases h
      exact hP.reset hstage
  | edit className change =>
    cases stage with
    | idle e =>
      cases h
      exact hP.edited hstage className change
    | busy a =>
      cases h
      exact hP.edited hstage className change
  | reset =>
    cases stage with
    | idle e =>
      cases h
      exact hP.reset hstage
    | busy a => cases h

theorem performAll {history : List Act} {stage stage' : Stage} {w w' : World}
    (h : performAll history stage w = some (stage', w')) (hstage : P stage.engine) :
    P stage'.engine := by
  induction history generalizing stage w with
  | nil =>
    cases h
    exact hstage
  | cons act rest ih =>
    obtain ⟨⟨next, w1⟩, hact, hrest⟩ := Option.bind_eq_some_iff.mp h
    exact ih hrest (hP.perform hact hstage)

end Lasting

/-- An engine keeps the classes that it was built from. -/
theorem lasting_pristine (classes : List ClassDef) : Lasting (·.pristine = classes) where
  edit := by
    intro e e' className change h he
    unfold SnapshotEngine.edit at h
    split at h
    · cases h
      exact he
    · cases h
  reset := id

theorem opened_eq_of_pristine {e e' : SnapshotEngine} (h : e.pristine = e'.pristine)
    (transform : PreTransform) : Session.opened e transform = Session.opened e' transform := by
  have hreset : ClassEngine.reset e = ClassEngine.reset e' := reset_eq_of_pristine h
  unfold Session.opened
  rw [hreset]

/-- An analysis is opened alike, and is the same one, whatever was done before with the engine that it
is opened with; and what an analysis hands back is the engine as it was built. -/
theorem analyses_do_not_leak {classes : List ClassDef} {history : List Act} {stage : Stage}
    {w w' : World} (h : performAll history (.idle (.ofClasses classes)) w = some (stage, w')) :
    match stage with
    | .idle e => ∀ transform isStack layout,
        (∀ v : World, (Analysis.openWith e transform isStack layout).run.run v =
          (Analysis.openWith (.ofClasses classes) transform isStack layout).run.run v) ∧
        ∀ a b v v',
          ((Analysis.openWith e transform isStack layout).run.run v).1 = .ok a →
          ((Analysis.openWith (.ofClasses classes) transform isStack layout).run.run v').1 = .ok b →
          a.Indistinguishable b
    | .busy a => ∀ v : World, (a.close.run v).1 = SnapshotEngine.ofClasses classes := by
  have hkept : stage.engine.pristine = (SnapshotEngine.ofClasses classes).pristine :=
    (lasting_pristine _).performAll h rfl
  cases stage with
  | busy a =>
    intro v
    exact reset_eq_of_pristine hkept
  | idle e =>
    intro transform isStack layout
    have hopened : Session.opened e transform =
        Session.opened (SnapshotEngine.ofClasses classes) transform :=
      opened_eq_of_pristine hkept transform
    refine ⟨?_, ?_⟩
    · intro v
      rw [run_openWith, run_openWith, hopened]
    · intro a b v v' ha hb
      have hsame : a = b := by
        rw [run_openWith, hopened] at ha
        rw [run_openWith] at hb
        cases hfresh : Session.opened (SnapshotEngine.ofClasses classes) transform with
        | error error =>
          rw [hfresh] at ha
          cases ha
        | ok opened =>
          rw [hfresh] at ha hb
          exact Except.ok.inj (ha.symm.trans hb)
      subst hsame
      exact ⟨rfl, fun _ => rfl, fun _ _ => rfl⟩

/-- An engine whose classes were renamed, once for an analysis that generated artifacts and once
by its owner. -/
theorem analyses_do_not_leak_after_renaming :
    let classes := [ClassDef.named "p.B", { ClassDef.named "p.A" with modifiers := ["final"] }]
    let renamed (c : ClassDef) : ClassDef := { c with name := "q.Z", modifiers := [] }
    let rename : PreTransform :=
      { name := "rename", prepare := fun _ => .edit "p.A" renamed fun _ => .done [] }
    let history : List Act := [.openWith rename syntheticName default,
      .ask (.generate ["p.A"] ⟨"out"⟩ false), .close, .edit "p.B" renamed]
    let w : World := ⟨.blank ["home"], 7, 0, []⟩
    ∃ e w', performAll history (.idle (.ofClasses classes)) w = some (.idle e, w') ∧
      e ≠ .ofClasses classes ∧
      (Analysis.openWith e .lineTags syntheticName default).run.run w' =
        (Analysis.openWith (.ofClasses classes) .lineTags syntheticName default).run.run w' := by
  intro classes renamed rename history w
  have hperform : ∃ w', performAll history (.idle (.ofClasses classes)) w =
      some (.idle (edited (.ofClasses classes) "p.B" renamed), w') := ⟨_, rfl⟩
  obtain ⟨w', hw'⟩ := hperform
  refine ⟨_, w', hw', by decide +kernel, ?_⟩
  exact ((analyses_do_not_leak hw') .lineTags syntheticName default).1 w'

end Lifecycle

end ClassCensus
