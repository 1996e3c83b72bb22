import ClassCensus.Proofs.Generation.Visits

/-!
# The turns of a run

A run gives its classes their turns, one after the other. `Plan.turns` lists them, each with the
world that it finds and the world that it leaves, for engines that may do anything while they print.
Each turn begins where the one before it ended, and the report of the run is made of its turns
(`Plan.follows_turns`, `Plan.course_of_report`).
-/

namespace ClassCensus

variable {ε : Type} [ClassEngine ε]

/-- What is fixed for a generation, with any engine. -/
structure Plan (ε : Type) where
  session : Session ε
  isStack : NamingConvention
  root : Path
  replace : Bool

/-- The turn of a class: the world that it found, what became of the class, and the world that it
left. -/
structure Turn where
  className : String
  before : World
  result : Except CensusError ClassOutcome
  after : World

/-- A turn without the worlds. -/
def Turn.visit (t : Turn) : Visit := ⟨t.className, t.before.disk, t.result⟩

namespace Plan

variable (p : Plan ε)

/-- The paths of the artifacts of a class. -/
def paths (n : String) : ArtifactPaths := ArtifactPaths.ofClass p.root n

def generateClass (n : String) : Attempt ClassOutcome :=
  ClassCensus.generateClass p.session p.isStack p.root p.replace n

def generateAll (report : GenerationReport) (names : List String) : Attempt GenerationReport :=
  ClassCensus.generateAll p.session p.isStack p.root p.replace report names

def generate (names : List String) : Attempt GenerationReport :=
  ClassCensus.generate p.session p.isStack names p.root p.replace

/-- What a generation does before it comes to its classes. -/
def opening : Attempt Unit := do
  if p.replace then removeOutputRoot p.root
  Attempt.atPath p.root (makeDirs p.root)

/-- The turns of classes, until one ends with an error that concerns more than its class. -/
def turns : List String → World → List Turn
  | [], _ => []
  | n :: rest, w =>
    let (r, w1) := (p.generateClass n).run.run w
    ⟨n, w, r, w1⟩ ::
      match r with
      | .ok _ => turns rest w1
      | .error e =>
        if e.isRecoverable then turns rest ((Job.tell (.generationFailed n e)).run w1).2 else []

/-- The turns of a whole generation; there are none if its output root cannot be prepared. -/
def course (names : List String) (w : World) : List Turn :=
  match p.opening.run.run w with
  | (.ok (), w1) => p.turns names w1
  | (.error _, _) => []

/-- Turns that follow each other from a first world to a last one. -/
inductive Follows : World → List Turn → World → Prop where
  | nil (w : World) : Follows w [] w
  | cons {n : String} {w w1 w2 w' : World} {r : Except CensusError ClassOutcome} {ts : List Turn}
      (ran : (p.generateClass n).run.run w = (r, w1)) (passes : w1.Passes w2)
      (rest : Follows w2 ts w') : Follows w (⟨n, w, r, w1⟩ :: ts) w'

section Runs

variable {p} {w w' : World} {ts : List Turn}

theorem Follows.ran (h : p.Follows w ts w') {t : Turn} (ht : t ∈ ts) :
    (p.generateClass t.className).run.run t.before = (t.result, t.after) := by
  induction h with
  | nil w => cases ht
  | cons ran _ _ ih =>
    rcases List.mem_cons.mp ht with rfl | ht
    · exact ran
    · exact ih ht

theorem passes_tell (event : Event) (w : World) : w.Passes ((Job.tell event).run w).2 :=
  ⟨rfl, rfl, Nat.le_refl _⟩

/-- One turn, and how the run goes on after it. -/
theorem run_generateAll_cons (report : GenerationReport) (n : String) (rest : List String)
    (w : World) :
    (p.generateAll report (n :: rest)).run.run w =
      match (p.generateClass n).run.run w with
      | (.ok .generated, w1) => (p.generateAll (report.addGenerated n) rest).run.run w1
      | (.ok .skipped, w1) => (p.generateAll (report.addSkipped n) rest).run.run w1
      | (.error e, w1) =>
        if e.isRecoverable then
          (p.generateAll (report.addFailure n e) rest).run.run
            ((Job.tell (.generationFailed n e)).run w1).2
        else (.error e, ((Job.tell (.generationAborted n e)).run w1).2) := by
  unfold Plan.generateAll Plan.generateClass
  rw [ClassCensus.generateAll, Attempt.run_bind, Attempt.run_ofJob]
  rcases (ClassCensus.generateClass p.session p.isStack p.root p.replace n).run.run w with ⟨r, w1⟩
  cases r with
  | ok o => cases o <;> rfl
  | error e =>
    dsimp only
    cases he : e.isRecoverable with
    | true => rfl
    | false => rfl

/-- The turns of a run follow each other, and the run ends as they tell. -/
theorem follows_turns (p : Plan ε) (names : List String) (report : GenerationReport) (w : World) :
    p.Follows w (p.turns names w) ((p.generateAll report names).run.run w).2 ∧
      Setup.Closes report names ((p.turns names w).map Turn.visit)
        ((p.generateAll report names).run.run w).1 := by
  induction names generalizing report w with
  | nil => exact ⟨.nil w, .report rfl fun _ hv => absurd hv List.not_mem_nil⟩
  | cons n rest ih =>
    rw [run_generateAll_cons, turns]
    rcases hr : (p.generateClass n).run.run w with ⟨r, w1⟩
    cases r with
    | ok o =>
      have hgo : (Turn.visit ⟨n, w, .ok o, w1⟩).goesOn := by
        intro e he
        cases he
      cases o with
      | generated =>
        obtain ⟨hfollows, hcloses⟩ := ih (report.addGenerated n) w1
        exact ⟨.cons hr (.refl w1) hfollows, Setup.Closes.cons hgo hcloses⟩
      | skipped =>
        obtain ⟨hfollows, hcloses⟩ := ih (report.addSkipped n) w1
        exact ⟨.cons hr (.refl w1) hfollows, Setup.Closes.cons hgo hcloses⟩
    | error e =>
      cases he : e.isRecoverable with
      | true =>
        have hgo : (Turn.visit ⟨n, w, .error e, w1⟩).goesOn := by
          intro e' h
          obtain rfl := Except.error.inj h
          exact he
        obtain ⟨hfollows, hcloses⟩ :=
          ih (report.addFailure n e) ((Job.tell (.generationFailed n e)).run w1).2
        simp only [he, if_true]
        exact ⟨.cons hr (passes_tell _ w1) hfollows, Setup.Closes.cons hgo hcloses⟩
      | false =>
        simp only [he, Bool.false_eq_true, if_false]
        exact ⟨.cons hr (passes_tell _ w1) (.nil _),
          .aborted (List.mem_singleton.mpr rfl) rfl he⟩

theorem generate_eq (p : Plan ε) (names : List String) :
    p.generate names = (do
      p.opening
      let report ← p.generateAll .empty names
      Attempt.ofJob <| Job.tell <|
        .generationFinished report.total report.generated.length report.skipped.length
          report.failures.length p.root
      return report) := by
  unfold generate ClassCensus.generate opening generateAll
  cases p.replace with
  | true => simp only [if_true, bind_assoc]
  | false => rfl

/-- A generation with a report has come to each of its classes, and its report is made of their
turns. -/
theorem course_of_report {names : List String} {report : GenerationReport}
    (h : (p.generate names).run.run w = (.ok report, w')) :
    ∃ w1 w2, p.opening.run.run w = (.ok (), w1) ∧ p.Follows w1 (p.course names w) w2 ∧
      w2.Passes w' ∧
      (p.course names w).map Turn.className = names ∧
      report = ((p.course names w).map Turn.visit).foldl .add .empty := by
  rw [p.generate_eq, Attempt.run_bind] at h
  rcases h1 : p.opening.run.run w with ⟨r1, w1⟩
  rw [h1] at h
  cases r1 with
  | error e => cases h
  | ok u =>
    dsimp only at h
    rw [Attempt.run_bind] at h
    obtain ⟨hfollows, hcloses⟩ := p.follows_turns names .empty w1
    rcases h2 : (p.generateAll .empty names).run.run w1 with ⟨r2, w2⟩
    rw [h2] at h hfollows hcloses
    have hcourse : p.course names w = p.turns names w1 := by rw [course, h1]
    rw [hcourse]
    cases r2 with
    | error e => cases h
    | ok report' =>
      cases h
      cases hcloses with
      | report classes all =>
        rw [List.map_map] at classes
        exact ⟨w1, w2, rfl, hfollows, passes_tell _ w2, classes, rfl⟩

/-- The classes that a report lists as skipped are those whose turns were. -/
theorem mem_skipped_iff {n : String} :
    n ∈ ((ts.map Turn.visit).foldl GenerationReport.add .empty).skipped ↔
      ∃ t ∈ ts, t.result = .ok .skipped ∧ t.className = n := by
  simp only [GenerationReport.foldl_add, GenerationReport.empty, List.nil_append,
    List.mem_filterMap, List.mem_map, Visit.skipped?_eq_some, exists_exists_and_eq_and, Turn.visit]

/-- The failures that a report lists are those of the turns. -/
theorem mem_failures_iff {f : GenerationFailure} :
    f ∈ ((ts.map Turn.visit).foldl GenerationReport.add .empty).failures ↔
      ∃ t ∈ ts, t.result = .error f.error ∧ t.className = f.className := by
  simp only [GenerationReport.foldl_add, GenerationReport.empty, List.nil_append,
    List.mem_filterMap, List.mem_map, Visit.failure?_eq_some, exists_exists_and_eq_and, Turn.visit]

end Runs

end Plan

end ClassCensus
