import ClassCensus.Proofs.Job

/-!
# Jobs that only ask, and jobs that do the same

`Job.Asking` speaks about all results that a job without changes can have, whatever the answers
are. `Job.Alike` compares two jobs with the same steps: in every world they do the same, and only
their results differ (`Job.Alike.run`).
-/

namespace ClassCensus

namespace Job

variable {α β γ δ : Type}

/-! ### Asking -/

/-- A job that only asks, and whose result has a property whatever the answers are. -/
inductive Asking (P : α → Prop) : Job α → Prop where
  | done {a : α} (h : P a) : Asking P (.done a)
  | step {s : Step} {k : s.Answer → Job α} (asks : s.Asks) (next : ∀ answer, Asking P (k answer)) :
      Asking P (.step s k)

/-- A job that only asks. -/
abbrev OnlyAsks (job : Job α) : Prop := job.Asking fun _ => True

namespace Asking

variable {P : α → Prop} {Q : β → Prop}

theorem ofStep {s : Step} (h : s.Asks) : (Job.ofStep s).OnlyAsks := .step h fun _ => .done trivial

theorem mono {P' : α → Prop} {job : Job α} (h : job.Asking P) (hp : ∀ a, P a → P' a) :
    job.Asking P' := by
  induction h with
  | done ha => exact .done (hp _ ha)
  | step asks _ ih => exact .step asks ih

theorem bind {job : Job α} {next : α → Job β} (h : job.Asking P)
    (hn : ∀ a, P a → (next a).Asking Q) : (job.bind next).Asking Q := by
  induction h with
  | done ha => exact hn _ ha
  | step asks _ ih => exact .step asks ih

theorem of_yields {job : Job α} {a : α} (h : job.Yields a) : job.Asking (· = a) := by
  induction h with
  | done a => exact .done rfl
  | step asks _ ih => exact .step asks ih

/-- Asking passes the time. -/
theorem ensures {job : Job α} (h : job.Asking P) (w : World) :
    job.Ensures w w.Passes fun a w1 => P a ∧ w.Passes w1 := by
  induction h generalizing w with
  | done ha => exact .done ⟨ha, .refl w⟩
  | step asks next ih =>
    have hp := World.passes_perform (w := w) asks
    exact .step hp ((ih _ _).mono (fun m hm => hp.trans hm) fun a w1 ha => ⟨ha.1, hp.trans ha.2⟩)

/-- What follows an attempt is attempted if it succeeds. -/
theorem attempt {ε : Type} {P : Except ε α → Prop} {Q : Except ε β → Prop}
    {job : ExceptT ε Job α} {next : α → ExceptT ε Job β} (h : Asking P job.run)
    (hok : ∀ a, P (.ok a) → Asking Q (next a).run) (herror : ∀ e, P (.error e) → Q (.error e)) :
    Asking Q (job >>= next).run := by
  refine @bind _ _ P Q job.run (ExceptT.bindCont next) h ?_
  intro r hr
  cases r with
  | ok a => exact hok a hr
  | error e => exact .done (herror e hr)

/-- Attempts that only ask, one after the other. -/
theorem attempts {ε : Type} {job : ExceptT ε Job α} {next : α → ExceptT ε Job β}
    (h : OnlyAsks job.run) (hnext : ∀ a, OnlyAsks (next a).run) :
    OnlyAsks (job >>= next).run :=
  h.attempt (fun a _ => hnext a) fun _ _ => trivial

theorem lift {ε : Type} {job : Job α} (h : job.OnlyAsks) :
    OnlyAsks (ExceptT.lift job : ExceptT ε Job α).run :=
  h.bind fun _ _ => .done trivial

end Asking

/-! ### Alike jobs -/

/-- Two jobs with the same steps, whatever the answers are, and with related results. -/
inductive Alike (R : α → β → Prop) : Job α → Job β → Prop where
  | done {a : α} {b : β} (h : R a b) : Alike R (.done a) (.done b)
  | step {s : Step} {k : s.Answer → Job α} {k' : s.Answer → Job β}
      (next : ∀ answer, Alike R (k answer) (k' answer)) : Alike R (.step s k) (.step s k')

namespace Alike

theorem refl {R : α → α → Prop} (hr : ∀ a, R a a) (job : Job α) : Alike R job job := by
  induction job with
  | done a => exact .done (hr a)
  | step s k ih => exact .step ih

theorem bind {R : α → β → Prop} {S : γ → δ → Prop} {job : Job α} {job' : Job β}
    {next : α → Job γ} {next' : β → Job δ} (h : Alike R job job')
    (hn : ∀ a b, R a b → Alike S (next a) (next' b)) :
    Alike S (job.bind next) (job'.bind next') := by
  induction h with
  | done hab => exact hn _ _ hab
  | step _ ih => exact .step ih

/-- The same job, with alike jobs after it. -/
theorem bind_same {S : γ → δ → Prop} (job : Job α) {next : α → Job γ} {next' : α → Job δ}
    (hn : ∀ a, Alike S (next a) (next' a)) : Alike S (job.bind next) (job.bind next') := by
  refine (refl (R := Eq) (fun _ => rfl) job).bind ?_
  rintro a _ rfl
  exact hn a

/-- The same attempt, with alike ones after it. -/
theorem attempt_same {ε : Type} {S : Except ε γ → Except ε δ → Prop} (job : ExceptT ε Job α)
    {next : α → ExceptT ε Job γ} {next' : α → ExceptT ε Job δ}
    (hn : ∀ a, Alike S (next a).run (next' a).run) (he : ∀ e, S (.error e) (.error e)) :
    Alike S (job >>= next).run (job >>= next').run := by
  refine @bind_same _ _ _ S job.run (ExceptT.bindCont next) (ExceptT.bindCont next') ?_
  intro r
  cases r with
  | ok a => exact hn a
  | error e => exact .done (he e)

/-- Alike jobs do the same in every world. -/
theorem run {R : α → β → Prop} {job : Job α} {job' : Job β} (h : Alike R job job') (w : World) :
    R (job.run w).1 (job'.run w).1 ∧ (job'.run w).2 = (job.run w).2 ∧
      job'.moments w = job.moments w := by
  induction h generalizing w with
  | done hab => exact ⟨hab, rfl, rfl⟩
  | step _ ih =>
    obtain ⟨hr, hw, hm⟩ := ih _ (World.perform w _).2
    exact ⟨hr, hw, congrArg _ hm⟩

end Alike

end Job

end ClassCensus
