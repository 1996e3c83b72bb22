import ClassCensus.Proofs.Generation.Steps

/-!
# The errors of a run

Whatever goes wrong with a file is an error of this file (`failsAs_writeInPlace`), and everything else
that a run can fail with comes from its engine: where both are errors of a kind, so are all errors of
the run (`Plan.failsAs_generate`) and of the classes in its report (`Plan.failures_of_report`). Errors of
files concern one class only, so a run whose engine has such errors only ends with a report as soon as
its output root is prepared (`Plan.exists_report`).
-/

namespace ClassCensus

/-! ### Attempts -/

/-- All errors of an attempt are of a kind. -/
def Attempt.FailsAs {α : Type} (P : CensusError → Prop) (job : Attempt α) : Prop :=
  ∀ w e w', job.run.run w = (.error e, w') → P e

namespace Attempt.FailsAs

variable {α β : Type} {P : CensusError → Prop}

theorem bind {job : Attempt α} {next : α → Attempt β} (h : FailsAs P job)
    (hnext : ∀ a, FailsAs P (next a)) : FailsAs P (job >>= next) := by
  intro w e w' hrun
  rw [Attempt.run_bind] at hrun
  rcases hjob : job.run.run w with ⟨r, w1⟩
  rw [hjob] at hrun
  cases r with
  | ok a => exact hnext a w1 e w' hrun
  | error e1 =>
    obtain rfl : e1 = e := Except.error.inj (Prod.mk.inj hrun).1
    exact h w _ w1 hjob

theorem pure (a : α) : FailsAs P (Pure.pure a : Attempt α) := by
  intro w e w' hrun
  cases hrun

theorem throw {e : CensusError} (h : P e) : FailsAs P (MonadExcept.throw e : Attempt α) := by
  intro w e' w' hrun
  obtain rfl : e = e' := Except.error.inj (Prod.mk.inj hrun).1
  exact h

theorem ofJob (job : Job α) : FailsAs P (Attempt.ofJob job) := by
  intro w e w' hrun
  rw [Attempt.run_ofJob] at hrun
  cases hrun

theorem ofExcept {result : Except CensusError α} (h : ∀ e, result = .error e → P e) :
    FailsAs P (Attempt.ofExcept result) :=
  fun _ e _ hrun => h e (Prod.mk.inj hrun).1

theorem atPath {path : Path} (h : ∀ f, P (.ofFault path f)) (job : Job (Except DiskFault α)) :
    FailsAs P (Attempt.atPath path job) := by
  intro w e w' hrun
  rw [Attempt.run_atPath] at hrun
  rcases hjob : job.run w with ⟨r, w1⟩
  rw [hjob] at hrun
  cases r with
  | ok a => cases hrun
  | error f =>
    cases hrun
    exact h f

theorem tryCatch {job : Attempt α} {handler : CensusError → Attempt α}
    (h : ∀ e, P e → FailsAs P (handler e)) (hjob : FailsAs P job) :
    FailsAs P (MonadExcept.tryCatch job handler) := by
  intro w e w' hrun
  rw [Attempt.run_tryCatch] at hrun
  rcases hr : job.run.run w with ⟨r, w1⟩
  rw [hr] at hrun
  cases r with
  | ok a => cases hrun
  | error e1 => exact h e1 (hjob w e1 w1 hr) w1 e w' hrun

end Attempt.FailsAs

open Attempt (FailsAs)

/-! ### Classes -/

section Files

variable {P : CensusError → Prop} (hfile : ∀ path problem, P (.file path problem))
include hfile

theorem failsAs_moveInPlace (temporary path : Path) : FailsAs P (moveInPlace temporary path) := by
  intro w e w' hrun
  rw [run_moveInPlace] at hrun
  split at hrun
  · cases hrun
  · cases hrun
    exact hfile _ _

theorem failsAs_writeInPlace (path : Path) (bytes : ByteArray) :
    FailsAs P (writeInPlace path bytes) := by
  unfold writeInPlace
  split
  · exact .throw (hfile _ _)
  · split
    · exact .throw (hfile _ _)
    · exact .bind (.ofJob _) fun _ => .bind (.atPath (fun _ => hfile _ _) _) fun _ =>
        failsAs_moveInPlace hfile _ _

theorem failsAs_writePair (paths : ArtifactPaths) (dump metrics : ByteArray) :
    FailsAs P (writePair paths dump metrics) :=
  .bind (failsAs_writeInPlace hfile _ _) fun _ =>
    .tryCatch (fun _ he => .bind (.ofJob _) fun _ => .throw he) (failsAs_writeInPlace hfile _ _)

theorem failsAs_makeParent (paths : ArtifactPaths) : FailsAs P (makeParent paths) := by
  unfold makeParent
  split
  · exact .atPath (fun _ => hfile _ _) _
  · exact .pure ()

theorem failsAs_removeOutputRoot (root : Path) : FailsAs P (removeOutputRoot root) := by
  unfold removeOutputRoot
  refine .bind (.ofJob _) fun status => ?_
  split
  · exact .pure ()
  · exact .throw (hfile _ _)
  · split
    · exact .bind (.atPath (fun _ => hfile _ _) _) fun _ => .ofJob _
    · exact .bind (.atPath (fun _ => hfile _ _) _) fun _ => .ofJob _

end Files

namespace Plan

variable {ε : Type} [ClassEngine ε] {p : Plan ε} {P : CensusError → Prop} {names : List String}
  {w : World}

section Runs

variable (hfile : ∀ path problem, P (.file path problem))
include hfile

omit [ClassEngine ε] in
theorem failsAs_opening (p : Plan ε) : FailsAs P p.opening := by
  unfold opening
  have hmake : FailsAs P (Attempt.atPath p.root (makeDirs p.root)) := .atPath (fun _ => hfile _ _) _
  split
  · exact .bind (failsAs_removeOutputRoot hfile _) fun _ => hmake
  · exact hmake

/-- A class fails for a reason that concerns a file, or as its engine says. -/
theorem failsAs_generateClass {n : String} (h : ∀ e, p.session.resolve n = .error e → P e) :
    FailsAs P (p.generateClass n) := by
  have hartifacts : FailsAs P (generateArtifacts p.session p.isStack (p.paths n) n) :=
    .bind (failsAs_makeParent hfile _) fun _ => .bind (.ofExcept h) fun c =>
      .bind (.atPath (fun _ => hfile _ _) _) fun _ => .bind (.ofJob _) fun _ =>
        .bind (failsAs_writePair hfile _ _ _) fun _ => .ofJob _
  intro w e w' hrun
  rw [run_generateClass] at hrun
  split at hrun
  · cases hrun
  · rcases hr : (generateArtifacts p.session p.isStack (p.paths n) n).run.run w with ⟨r, w1⟩
    rw [hr] at hrun
    cases r with
    | ok u => cases hrun
    | error e1 =>
      obtain rfl : e1 = e := Except.error.inj (Prod.mk.inj hrun).1
      exact hartifacts w _ w1 hr

theorem failsAs_generateAll (h : ∀ n ∈ names, ∀ e, p.session.resolve n = .error e → P e)
    (report : GenerationReport) : FailsAs P (p.generateAll report names) := by
  induction names generalizing report with
  | nil => exact .pure report
  | cons n rest ih =>
    have hn := failsAs_generateClass hfile (h n (List.mem_cons_self ..))
    have hrest := ih fun m hm => h m (List.mem_cons_of_mem _ hm)
    intro w e w' hrun
    rw [run_generateAll_cons] at hrun
    rcases hr : (p.generateClass n).run.run w with ⟨r, w1⟩
    rw [hr] at hrun
    cases r with
    | ok o => cases o <;> exact hrest _ _ e w' hrun
    | error e1 =>
      dsimp only at hrun
      split at hrun
      · exact hrest _ _ e w' hrun
      · cases hrun
        exact hn w e _ hr

variable (h : ∀ n ∈ names, ∀ e, p.session.resolve n = .error e → P e)
include h

theorem failsAs_generate : FailsAs P (p.generate names) := by
  rw [p.generate_eq]
  exact .bind (failsAs_opening hfile p) fun _ => .bind (failsAs_generateAll hfile h _) fun _ =>
    .bind (.ofJob _) fun _ => .pure _

theorem failures_of_report {report : GenerationReport} {w' : World}
    (hrun : (p.generate names).run.run w = (.ok report, w')) :
    ∀ f ∈ report.failures, P f.error := by
  intro f hf
  obtain ⟨w1, w2, -, hfollows, -, hnames, rfl⟩ := course_of_report hrun
  obtain ⟨t, ht, hresult, hname⟩ := mem_failures_iff.mp hf
  have hran := hfollows.ran ht
  rw [hresult] at hran
  have hmem : t.className ∈ names := hnames ▸ List.mem_map_of_mem ht
  exact failsAs_generateClass hfile (h _ hmem) _ _ _ hran

end Runs

/-- All classes that the engine does not deliver are missing for a reason of their own. -/
def ResolvesOrRecovers (p : Plan ε) : Prop :=
  ∀ n e, p.session.resolve n = .error e → e.isRecoverable = true

/-- A generation whose output root is prepared ends with a report. -/
theorem exists_report (h : p.ResolvesOrRecovers) {w1 : World}
    (hopening : p.opening.run.run w = (.ok (), w1)) :
    ∃ report w', (p.generate names).run.run w = (.ok report, w') := by
  have hcloses := (p.follows_turns names .empty w1).2
  rcases hrun : (p.generateAll .empty names).run.run w1 with ⟨r, w2⟩
  rw [hrun] at hcloses
  cases r with
  | ok report =>
    refine ⟨report, ?_⟩
    rw [p.generate_eq, Attempt.run_bind, hopening]
    dsimp only
    rw [Attempt.run_bind, hrun]
    exact ⟨_, rfl⟩
  | error e =>
    exfalso
    cases hcloses with
    | aborted mem result fatal =>
      have hrecovers : e.isRecoverable = true :=
        failsAs_generateAll (P := (·.isRecoverable = true)) (fun _ _ => rfl) (fun n _ => h n) _ _ _ _
          hrun
      rw [fatal] at hrecovers
      cases hrecovers

end Plan

end ClassCensus
