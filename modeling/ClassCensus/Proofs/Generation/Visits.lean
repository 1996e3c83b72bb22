import ClassCensus.Proofs.Generation.ClassRun

/-!
# The classes of a run

A run comes to its classes one after the other. `Setup.visits` lists what becomes of each of them,
and `ensures_generateAll` tells that the report of the run is made of these visits, that each of them
ends in one of the outcomes of a class, and that every moment of the run is a number of changes away
from its start.
-/

namespace ClassCensus

open Disk

variable {ε : Type} [ClassEngine ε]

/-- A class that a run has come to: the disk that it found, and what became of the class. -/
structure Visit where
  className : String
  before : Disk
  result : Except CensusError ClassOutcome

/-- Whether the run comes to the next class. -/
def Visit.goesOn (v : Visit) : Prop := ∀ e, v.result = .error e → e.isRecoverable = true

/-- The report with one more visit. -/
def GenerationReport.add (r : GenerationReport) (v : Visit) : GenerationReport :=
  match v.result with
  | .ok .generated => r.addGenerated v.className
  | .ok .skipped => r.addSkipped v.className
  | .error e => r.addFailure v.className e

namespace Setup

variable (s : Setup ε)

def generateAll (report : GenerationReport) (names : List String) : Attempt GenerationReport :=
  ClassCensus.generateAll s.session s.isStack s.root s.replace report names

/-- What a run comes to, class by class. -/
def visits : List String → World → List Visit
  | [], _ => []
  | n :: rest, w =>
    let (r, w1) := (s.generateClass n).run.run w
    ⟨n, w.disk, r⟩ ::
      match r with
      | .ok _ => visits rest w1
      | .error e =>
        if e.isRecoverable then visits rest ((Job.tell (.generationFailed n e)).run w1).2 else []

/-- A world in which the classes of a run can be generated: below a ground, with no directory in the
way of a temporary file or of a dump that is to be replaced. -/
structure Poised (links : Nat) (top : Location) (w : World) : Prop where
  ground : Ground w.disk s.root links top
  free : ∀ n, FreeOfDirectories top n w
  dump : s.replace = true → ∀ n, w.disk.entryAt (dumpPlace top n) ≠ some .directory

/-- Each visit of a run ends in an outcome of its class, and the next one begins there. -/
inductive Visited (links : Nat) (top : Location) : World → List Visit → World → Prop where
  | nil {w : World} (poised : s.Poised links top w) : Visited links top w [] w
  | cons {n : String} {w w1 w2 w' : World} {r : Except CensusError ClassOutcome}
      {visits : List Visit} (hn : WellFormed n) (poised : s.Poised links top w)
      (outcome : s.Outcome top n w r w1) (passes : w1.Passes w2)
      (rest : Visited links top w2 visits w') :
      Visited links top w (⟨n, w.disk, r⟩ :: visits) w'

/-- One change while the artifacts of some classes are generated. -/
def Change (top : Location) (names : List String) (d d' : Disk) : Prop :=
  ∃ n ∈ names, ClassChange s top n d d'

/-- What holds at every moment of a run over classes. -/
structure During (top : Location) (names : List String) (w m : World) : Prop where
  process : m.process = w.process
  clock : w.clock ≤ m.clock
  changes : Relation.ReflTransGen (s.Change top names) w.disk m.disk

/-- How a run over classes ends, by its visits. -/
inductive Closes (report : GenerationReport) (names : List String) (visits : List Visit) :
    Except CensusError GenerationReport → Prop where
  | report (classes : visits.map Visit.className = names) (all : ∀ v ∈ visits, v.goesOn) :
      Closes report names visits (.ok (visits.foldl .add report))
  | aborted {v : Visit} (mem : v ∈ visits) {e : CensusError} (error : v.result = .error e)
      (fatal : e.isRecoverable = false) : Closes report names visits (.error e)

end Setup

section Runs

variable {s : Setup ε} {links : Nat} {top : Location} {names : List String} {n : String}
  {w m : World}

namespace Setup

theorem Poised.of_moment (h : s.Poised links top w) (hm : Moment s top n w m) :
    s.Poised links top m := by
  refine ⟨hm.changes.ground h.ground, ?_, ?_⟩
  · intro k name t ht
    rw [hm.process]
    exact hm.changes.not_directory not_withinPackage_temporaryPlace
      (h.free k name t (Nat.le_trans hm.clock ht))
  · intro hr k
    exact hm.changes.not_directory not_withinPackage_dumpPlace (h.dump hr k)

theorem Poised.of_passes (h : s.Poised links top w) (hm : w.Passes m) : s.Poised links top m :=
  h.of_moment (n := "") (.of_passes hm)

namespace During

theorem refl (w : World) : s.During top names w w := ⟨rfl, Nat.le_refl _, .refl⟩

theorem trans {a b c : World} (h1 : s.During top names a b) (h2 : s.During top names b c) :
    s.During top names a c :=
  ⟨h2.process.trans h1.process, Nat.le_trans h1.clock h2.clock, h1.changes.trans h2.changes⟩

theorem of_passes (h : w.Passes m) : s.During top names w m :=
  ⟨h.process, h.clock, by rw [h.disk]⟩

theorem of_moment (hn : n ∈ names) (h : Moment s top n w m) : s.During top names w m :=
  ⟨h.process, h.clock, h.changes.lift id fun _ _ hc => ⟨n, hn, hc⟩⟩

theorem weaken {names' : List String} (h : s.During top names w m) (hn : names ⊆ names') :
    s.During top names' w m :=
  ⟨h.process, h.clock, h.changes.lift id fun _ _ ⟨n, hmem, hc⟩ => ⟨n, hn hmem, hc⟩⟩

/-- A property of disks that every change preserves holds during the whole run. -/
theorem preserves {P : Disk → Prop} (h : s.During top names w m)
    (step : ∀ n ∈ names, ∀ d d', ClassChange s top n d d' → P d → P d') (hw : P w.disk) :
    P m.disk := by
  have hc := h.changes
  generalize m.disk = d at hc ⊢
  induction hc with
  | refl => exact hw
  | tail _ hstep ih =>
    obtain ⟨n, hn, hc⟩ := hstep
    exact step n hn _ _ hc ih

end During

theorem Closes.cons {report : GenerationReport} {v : Visit} {visits : List Visit}
    {r : Except CensusError GenerationReport} (hv : v.goesOn)
    (h : Closes (report.add v) names visits r) :
    Closes report (v.className :: names) (v :: visits) r := by
  cases h with
  | report classes all =>
    refine .report (by rw [List.map_cons, classes]) ?_
    intro u hu
    rcases List.mem_cons.mp hu with rfl | hu
    · exact hv
    · exact all u hu
  | aborted mem error fatal => exact .aborted (List.mem_cons_of_mem _ mem) error fatal

end Setup

/-- The run over classes: its visits, its report, and its moments. -/
theorem ensures_generateAll (hp : s.Poised links top w) (hn : ∀ n ∈ names, WellFormed n)
    (report : GenerationReport) :
    Attempt.Ensures (s.generateAll report names) w (s.During top names w) fun r w' =>
      s.Visited links top w (s.visits names w) w' ∧
        Setup.Closes report names (s.visits names w) r := by
  induction names generalizing w report with
  | nil => exact .pure ⟨.nil hp, .report rfl (by simp [Setup.visits])⟩
  | cons n rest ih =>
    have hwf : WellFormed n := hn n (List.mem_cons_self ..)
    have hrest : ∀ x ∈ rest, WellFormed x := fun x hx => hn x (List.mem_cons_of_mem _ hx)
    have hclass := (ensures_generateClass hp.ground hwf (hp.free n) (hp.dump · n)).last (.refl w)
    have hmem : n ∈ n :: rest := List.mem_cons_self ..
    unfold Setup.generateAll ClassCensus.generateAll
    refine .bind (.ofJob ((Job.Ensures.self hclass).mono (fun m hm => .of_moment hmem hm) ?_))
    rintro r w1 ⟨⟨hout, hmom⟩, hrun⟩
    have hduring : s.During top (n :: rest) w w1 := .of_moment hmem hmom
    have hp1 := hp.of_moment hmom
    cases r with
    | ok o =>
      have hv : s.visits (n :: rest) w = ⟨n, w.disk, .ok o⟩ :: s.visits rest w1 := by
        rw [Setup.visits, hrun]
      have hgo : (⟨n, w.disk, .ok o⟩ : Visit).goesOn := fun e he => by cases he
      have hnext : ∀ report', report' = report.add ⟨n, w.disk, .ok o⟩ →
          Attempt.Ensures (s.generateAll report' rest) w1 (s.During top (n :: rest) w) fun r w' =>
            s.Visited links top w (s.visits (n :: rest) w) w' ∧
              Setup.Closes report (n :: rest) (s.visits (n :: rest) w) r := by
        rintro report' rfl
        refine (ih hp1 hrest _).mono
          (fun m hm => hduring.trans (hm.weaken (List.subset_cons_self ..))) ?_
        rintro r w' ⟨h1, h2⟩
        rw [hv]
        exact ⟨.cons hwf hp hout (.refl w1) h1, h2.cons hgo⟩
      cases o with
      | generated => exact hnext _ rfl
      | skipped => exact hnext _ rfl
    | error e =>
      have hpass : ∀ event, w1.Passes ((Job.tell event).run w1).2 := fun event =>
        ((Job.yields_tell event).ensures w1).result.2
      have htold : ∀ event, s.During top (n :: rest) w ((Job.tell event).run w1).2 :=
        fun event => hduring.trans (.of_passes (hpass event))
      cases he : e.isRecoverable with
      | true =>
        have hv : s.visits (n :: rest) w = ⟨n, w.disk, .error e⟩ ::
            s.visits rest ((Job.tell (.generationFailed n e)).run w1).2 := by
          simp only [Setup.visits, hrun, he, if_true]
        have hgo : (⟨n, w.disk, .error e⟩ : Visit).goesOn := by
          intro e' h
          cases h
          exact he
        simp only [he, if_true]
        refine .bind (.ofJob (.ofStep (htold _) ?_))
        refine (ih (hp1.of_passes (hpass (.generationFailed n e))) hrest _).mono
          (fun m hm => (htold _).trans (hm.weaken (List.subset_cons_self ..))) ?_
        rintro r w' ⟨h1, h2⟩
        rw [hv]
        exact ⟨.cons hwf hp hout (hpass _) h1, h2.cons hgo⟩
      | false =>
        have hv : s.visits (n :: rest) w = [⟨n, w.disk, .error e⟩] := by
          simp only [Setup.visits, hrun, he]
          rfl
        simp only [he]
        refine .bind (.ofJob (.ofStep (htold _) ?_))
        refine .throw ?_
        rw [hv]
        exact ⟨.cons hwf hp hout (hpass _) (.nil (hp1.of_passes (hpass (.generationAborted n e)))),
          .aborted (List.mem_singleton.mpr rfl) rfl he⟩

end Runs

/-! ### Reports -/

namespace Visit

def generated? (v : Visit) : Option String :=
  match v.result with
  | .ok .generated => some v.className
  | _ => none

def skipped? (v : Visit) : Option String :=
  match v.result with
  | .ok .skipped => some v.className
  | _ => none

def failure? (v : Visit) : Option GenerationFailure :=
  match v.result with
  | .error e => some ⟨v.className, e⟩
  | _ => none

theorem generated?_eq_some {v : Visit} {n : String} :
    v.generated? = some n ↔ v.result = .ok .generated ∧ v.className = n := by
  unfold generated?
  split <;> simp_all

theorem skipped?_eq_some {v : Visit} {n : String} :
    v.skipped? = some n ↔ v.result = .ok .skipped ∧ v.className = n := by
  unfold skipped?
  split <;> simp_all

theorem failure?_eq_some {v : Visit} {f : GenerationFailure} :
    v.failure? = some f ↔ v.result = .error f.error ∧ v.className = f.className := by
  unfold failure?
  cases hr : v.result with
  | ok o => simp
  | error e =>
    simp only [Option.some.injEq, Except.error.injEq]
    constructor
    · rintro rfl
      exact ⟨rfl, rfl⟩
    · rintro ⟨h1, h2⟩
      rw [h1, h2]

end Visit

/-- The report of visits lists the classes of each kind in order. -/
theorem GenerationReport.foldl_add (report : GenerationReport) (vs : List Visit) :
    vs.foldl .add report =
      { generated := report.generated ++ vs.filterMap Visit.generated?
        skipped := report.skipped ++ vs.filterMap Visit.skipped?
        failures := report.failures ++ vs.filterMap Visit.failure? } := by
  induction vs generalizing report with
  | nil => simp
  | cons v vs ih =>
    rw [List.foldl_cons, ih]
    cases hr : v.result with
    | error e =>
      simp [GenerationReport.add, Visit.generated?, Visit.skipped?, Visit.failure?, hr, addFailure]
    | ok o =>
      cases o with
      | generated =>
        simp [GenerationReport.add, Visit.generated?, Visit.skipped?, Visit.failure?, hr,
          addGenerated]
      | skipped =>
        simp [GenerationReport.add, Visit.generated?, Visit.skipped?, Visit.failure?, hr, addSkipped]

end ClassCensus
