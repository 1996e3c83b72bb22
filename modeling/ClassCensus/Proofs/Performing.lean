import ClassCensus.Proofs.Asking

/-!
# The steps of a job

`Job.Performs` says that a job performs steps of one kind only, whatever the answers are. What each step
of the kind preserves holds at every moment of the job (`Job.Performs.ensures`).
-/

namespace ClassCensus

namespace Job

variable {α β : Type} {P Q : Step → Prop}

/-- All steps of a job are of a kind, whatever the answers are. -/
inductive Performs (P : Step → Prop) : Job α → Prop where
  | done (a : α) : Performs P (.done a)
  | step {s : Step} {k : s.Answer → Job α} (first : P s) (next : ∀ answer, Performs P (k answer)) :
      Performs P (.step s k)

namespace Performs

theorem ofStep {s : Step} (h : P s) : (Job.ofStep s).Performs P := .step h fun _ => .done _

theorem bind {job : Job α} {next : α → Job β} (h : job.Performs P) (hn : ∀ a, (next a).Performs P) :
    (job.bind next).Performs P := by
  induction h with
  | done a => exact hn a
  | step first _ ih => exact .step first ih

theorem mono {job : Job α} (h : job.Performs P) (hpq : ∀ s, P s → Q s) : job.Performs Q := by
  induction h with
  | done a => exact .done a
  | step first _ ih => exact .step (hpq _ first) ih

theorem of_asking {R : α → Prop} {job : Job α} (h : job.Asking R) : job.Performs Step.Asks := by
  induction h with
  | done => exact .done _
  | step asks _ ih => exact .step asks ih

/-- What every step of the kind preserves holds at every moment. -/
theorem ensures {inv : World → Prop} {job : Job α} (h : job.Performs P)
    (step : ∀ w s, P s → inv w → inv (w.perform s).2) {w : World} (hw : inv w) :
    job.Ensures w inv fun _ w' => inv w' := by
  induction h generalizing w with
  | done a => exact .done hw
  | step first _ ih =>
    have hnext := step w _ first hw
    exact .step hnext (ih _ hnext)

end Performs

end Job

namespace Attempt

variable {α β : Type} {P Q : Step → Prop}

/-- All steps of an attempt are of a kind. -/
abbrev Performs (P : Step → Prop) (job : Attempt α) : Prop := Job.Performs P job.run

namespace Performs

theorem pure (a : α) : Performs P (Pure.pure a : Attempt α) := .done _

theorem throw (e : CensusError) : Performs P (MonadExcept.throw e : Attempt α) := .done _

theorem ofExcept (result : Except CensusError α) : Performs P (Attempt.ofExcept result) := .done _

theorem bind {job : Attempt α} {next : α → Attempt β} (h : Performs P job)
    (hn : ∀ a, Performs P (next a)) : Performs P (job >>= next) := by
  refine Job.Performs.bind h fun r => ?_
  cases r with
  | ok a => exact hn a
  | error e => exact .done _

theorem ofJob {job : Job α} (h : job.Performs P) : Performs P (Attempt.ofJob job) :=
  Job.Performs.bind h fun _ => .done _

theorem atPath {path : Path} {job : Job (Except DiskFault α)} (h : job.Performs P) :
    Performs P (Attempt.atPath path job) := by
  refine Job.Performs.bind h fun r => ?_
  cases r <;> exact .done _

theorem tryCatch {job : Attempt α} {handler : CensusError → Attempt α} (h : Performs P job)
    (hn : ∀ e, Performs P (handler e)) : Performs P (tryCatchThe CensusError job handler) := by
  refine Job.Performs.bind h fun r => ?_
  cases r with
  | ok a => exact .done _
  | error e => exact hn e

end Performs

end Attempt

end ClassCensus
