import ClassCensus.Job

/-!
# What a job ensures

`Job.Ensures` speaks about every moment of a job and about its result. One rule for each way to make
a job leads from the parts of a job to the whole of it. A job that only asks and always gives the
same result is told by `Job.Yields`.
-/

namespace ClassCensus

namespace Job

variable {α β : Type}

instance : LawfulMonad Job :=
  LawfulMonad.mk' Job (fun job => job.bind_done) (fun _ _ => rfl) fun job f g => job.bind_assoc f g

/-- All moments of a job have a property, and the result and the last world have another one. -/
structure Ensures (job : Job α) (w : World) (inv : World → Prop) (post : α → World → Prop) :
    Prop where
  moments : ∀ m ∈ job.moments w, inv m
  result : post (job.run w).1 (job.run w).2

theorem moments_bind (job : Job α) (next : α → Job β) (w : World) :
    (job.bind next).moments w =
      job.moments w ++ (next (job.run w).1).moments (job.run w).2 := by
  induction job generalizing w with
  | done a => rfl
  | step s k ih => simp only [bind, moments, run, ih, List.cons_append]

/-- The last world of a job is the first one or one of its moments. -/
theorem run_eq_or_mem (job : Job α) (w : World) :
    (job.run w).2 = w ∨ (job.run w).2 ∈ job.moments w := by
  induction job generalizing w with
  | done a => exact .inl rfl
  | step s k ih =>
    rcases ih (w.perform s).1 (w.perform s).2 with h | h
    · exact .inr (List.mem_cons.mpr (.inl h))
    · exact .inr (List.mem_cons_of_mem _ h)

namespace Ensures

variable {w : World} {inv : World → Prop}

theorem done {post : α → World → Prop} {a : α} (h : post a w) :
    (Job.done a).Ensures w inv post :=
  ⟨fun _ hm => absurd hm (List.not_mem_nil), h⟩

theorem step {post : α → World → Prop} {s : Step} {k : s.Answer → Job α}
    (hm : inv (w.perform s).2) (h : (k (w.perform s).1).Ensures (w.perform s).2 inv post) :
    (Job.step s k).Ensures w inv post := by
  refine ⟨?_, h.result⟩
  intro m hmem
  rcases List.mem_cons.mp hmem with rfl | hmem
  · exact hm
  · exact h.moments m hmem

theorem ofStep {s : Step} {post : s.Answer → World → Prop} (hm : inv (w.perform s).2)
    (h : post (w.perform s).1 (w.perform s).2) : (Job.ofStep s).Ensures w inv post :=
  .step hm (.done h)

theorem bind {job : Job α} {next : α → Job β} {post : β → World → Prop}
    (h : job.Ensures w inv fun a w1 => (next a).Ensures w1 inv post) :
    (job.bind next).Ensures w inv post := by
  refine ⟨?_, ?_⟩
  · intro m hm
    rw [moments_bind] at hm
    rcases List.mem_append.mp hm with hm | hm
    · exact h.moments m hm
    · exact h.result.moments m hm
  · rw [run_bind]
    exact h.result.result

theorem mono {job : Job α} {inv' : World → Prop} {post post' : α → World → Prop}
    (h : job.Ensures w inv post) (hi : ∀ m, inv m → inv' m)
    (hp : ∀ a w1, post a w1 → post' a w1) : job.Ensures w inv' post' :=
  ⟨fun m hm => hi m (h.moments m hm), hp _ _ h.result⟩

theorem post {job : Job α} {post post' : α → World → Prop} (h : job.Ensures w inv post)
    (hp : ∀ a w1, post a w1 → post' a w1) : job.Ensures w inv post' :=
  h.mono (fun _ hm => hm) hp

/-- What holds first and at all moments holds last. -/
theorem last {job : Job α} {post : α → World → Prop} (h : job.Ensures w inv post) (hw : inv w) :
    job.Ensures w inv fun a w1 => post a w1 ∧ inv w1 := by
  refine ⟨h.moments, h.result, ?_⟩
  rcases job.run_eq_or_mem w with h0 | h0
  · rwa [h0]
  · exact h.moments _ h0

/-- The result and the last world are those of the run. -/
theorem self {job : Job α} {post : α → World → Prop} (h : job.Ensures w inv post) :
    job.Ensures w inv fun a w1 => post a w1 ∧ job.run w = (a, w1) :=
  ⟨h.moments, h.result, rfl⟩

end Ensures

end Job

/-! ### Jobs that only ask -/

/-- A step that changes no disk. -/
def Step.Asks : Step → Prop
  | .status _ => True
  | .linkStatus _ => True
  | .read _ => True
  | .list _ => True
  | .stamp => True
  | .record _ => True
  | _ => False

namespace Job

variable {α : Type}

/-- A job that only asks, and gives the same result whatever the answers are. -/
inductive Yields : Job α → α → Prop where
  | done (a : α) : Yields (.done a) a
  | step {s : Step} {k : s.Answer → Job α} {a : α} (asks : s.Asks)
      (next : ∀ answer, Yields (k answer) a) : Yields (.step s k) a

end Job

namespace World

/-- A later world of the same process with the same disk. -/
structure Passes (w w' : World) : Prop where
  disk : w'.disk = w.disk
  process : w'.process = w.process
  clock : w.clock ≤ w'.clock

namespace Passes

theorem refl (w : World) : w.Passes w := ⟨rfl, rfl, Nat.le_refl _⟩

theorem trans {a b c : World} (h1 : a.Passes b) (h2 : b.Passes c) : a.Passes c :=
  ⟨h2.disk.trans h1.disk, h2.process.trans h1.process, Nat.le_trans h1.clock h2.clock⟩

end Passes

/-- A later world of the same process. -/
structure Later (w w' : World) : Prop where
  process : w'.process = w.process
  clock : w.clock ≤ w'.clock

theorem Later.refl (w : World) : w.Later w := ⟨rfl, Nat.le_refl _⟩

theorem Later.trans {a b c : World} (h1 : a.Later b) (h2 : b.Later c) : a.Later c :=
  ⟨h2.process.trans h1.process, Nat.le_trans h1.clock h2.clock⟩

theorem later_perform (w : World) (s : Step) : w.Later (w.perform s).2 := by
  have hchange : ∀ r, w.Later (w.change r).2 := by
    intro r
    cases r <;> exact ⟨rfl, Nat.le_refl _⟩
  cases s with
  | stamp => exact ⟨rfl, Nat.le_succ _⟩
  | makeDir p => exact hchange _
  | write p b => exact hchange _
  | rename p q => exact hchange _
  | removeFile p => exact hchange _
  | _ => exact ⟨rfl, Nat.le_refl _⟩

theorem passes_perform {w : World} {s : Step} (h : s.Asks) : w.Passes (w.perform s).2 := by
  cases s with
  | status p => exact .refl w
  | linkStatus p => exact .refl w
  | read p => exact .refl w
  | list p => exact .refl w
  | stamp => exact ⟨rfl, rfl, Nat.le_succ _⟩
  | record e => exact ⟨rfl, rfl, Nat.le_refl _⟩
  | makeDir p => exact h.elim
  | write p b => exact h.elim
  | rename p q => exact h.elim
  | removeFile p => exact h.elim
  | removeTree p => exact h.elim

theorem perform_log (w : World) (log : List Event) (s : Step) :
    (World.perform { w with log := log } s).1 = (w.perform s).1 ∧
      ∃ log', (World.perform { w with log := log } s).2 = { (w.perform s).2 with log := log' } := by
  have hchange : ∀ r, (World.change { w with log := log } r).1 = (w.change r).1 ∧
      ∃ log', (World.change { w with log := log } r).2 = { (w.change r).2 with log := log' } := by
    intro r
    cases r <;> exact ⟨rfl, log, rfl⟩
  cases s with
  | makeDir p => exact hchange _
  | write p b => exact hchange _
  | rename p q => exact hchange _
  | removeFile p => exact hchange _
  | _ => exact ⟨rfl, _, rfl⟩

end World

namespace Job

variable {α : Type}

theorem Yields.ensures {job : Job α} {a : α} (h : job.Yields a) (w : World) :
    job.Ensures w w.Passes fun b w1 => b = a ∧ w.Passes w1 := by
  induction h generalizing w with
  | done a => exact .done ⟨rfl, .refl w⟩
  | step asks next ih =>
    have hp := World.passes_perform (w := w) asks
    exact .step hp ((ih _ _).mono (fun m hm => hp.trans hm) fun b w1 hb => ⟨hb.1, hp.trans hb.2⟩)

/-- Whatever a job does, time passes. -/
theorem later_run (job : Job α) (w : World) : w.Later (job.run w).2 := by
  induction job generalizing w with
  | done a => exact .refl w
  | step s k ih => exact (World.later_perform w s).trans (ih _ _)

/-- What a job does does not depend on the events that have been told. -/
theorem run_log (job : Job α) (w : World) (log : List Event) :
    (job.run { w with log := log }).1 = (job.run w).1 ∧
      ∃ log', (job.run { w with log := log }).2 = { (job.run w).2 with log := log' } := by
  induction job generalizing w log with
  | done a => exact ⟨rfl, log, rfl⟩
  | step s k ih =>
    obtain ⟨hanswer, log', hworld⟩ := World.perform_log w log s
    simp only [run]
    rw [hanswer, hworld]
    exact ih _ _ log'

theorem yields_tell (event : Event) : (tell event).Yields () := .step trivial fun _ => .done ()

theorem yields_tellAll (events : List Event) : (tellAll events).Yields () := by
  induction events with
  | nil => exact .done ()
  | cons event rest ih => exact .step trivial fun _ => ih

theorem clock_tellAll (events : List Event) (w : World) :
    ((tellAll events).run w).2.clock = w.clock := by
  induction events generalizing w with
  | nil => rfl
  | cons event rest ih => exact ih _

end Job

/-! ### Attempts -/

namespace Attempt

variable {α β : Type} {w : World} {inv : World → Prop}

/-- All moments of an attempt have a property, and the result and the last world have another
one. -/
abbrev Ensures (job : Attempt α) (w : World) (inv : World → Prop)
    (post : Except CensusError α → World → Prop) : Prop :=
  Job.Ensures job.run w inv post

/-- What follows an attempt is run if it succeeds. -/
theorem run_bind (job : Attempt α) (next : α → Attempt β) (w : World) :
    (job >>= next).run.run w =
      match job.run.run w with
      | (.ok a, w1) => (next a).run.run w1
      | (.error e, w1) => (.error e, w1) := by
  have h := Job.run_bind job.run (ExceptT.bindCont next) w
  rcases hr : job.run.run w with ⟨r, w1⟩
  rw [hr] at h
  cases r with
  | ok a => exact h
  | error e => exact h

theorem later_run {job : Attempt α} {w w' : World} {r : Except CensusError α}
    (h : job.run.run w = (r, w')) : w.Later w' := by
  have hlater := Job.later_run job.run w
  rwa [h] at hlater

theorem run_ofJob (job : Job α) (w : World) :
    (Attempt.ofJob job).run.run w = (.ok (job.run w).1, (job.run w).2) :=
  Job.run_bind job (fun a => .done (Except.ok a : Except CensusError α)) w

theorem run_atPath (path : Path) (job : Job (Except DiskFault α)) (w : World) :
    (Attempt.atPath path job).run.run w =
      ((job.run w).1.mapError (.ofFault path), (job.run w).2) := by
  unfold Attempt.atPath
  refine (Job.run_bind job _ w).trans ?_
  rcases job.run w with ⟨r, w1⟩
  cases r with
  | ok a => rfl
  | error f => rfl

/-- An error is handled in the world in which it came up. -/
theorem run_tryCatch (job : Attempt α) (handler : CensusError → Attempt α) (w : World) :
    (MonadExcept.tryCatch job handler).run.run w =
      match job.run.run w with
      | (.ok a, w1) => (.ok a, w1)
      | (.error e, w1) => (handler e).run.run w1 := by
  refine (Job.run_bind job.run _ w).trans ?_
  rcases job.run.run w with ⟨r, w1⟩
  cases r with
  | ok a => rfl
  | error e => rfl

theorem Ensures.pure {post : Except CensusError α → World → Prop} {a : α} (h : post (.ok a) w) :
    Ensures (Pure.pure a : Attempt α) w inv post :=
  Job.Ensures.done h

theorem Ensures.throw {post : Except CensusError α → World → Prop} {e : CensusError}
    (h : post (.error e) w) : Ensures (MonadExcept.throw e : Attempt α) w inv post :=
  Job.Ensures.done h

/-- What follows an attempt is attempted if it succeeds; else its error is the result. -/
theorem Ensures.bind {job : Attempt α} {next : α → Attempt β}
    {post : Except CensusError β → World → Prop}
    (h : Ensures job w inv fun r w1 =>
      match r with
      | .ok a => Ensures (next a) w1 inv post
      | .error e => post (.error e) w1) :
    Ensures (job >>= next) w inv post := by
  refine Job.Ensures.bind (h.post ?_)
  intro r w1 hr
  cases r with
  | ok a => exact hr
  | error e => exact .done hr

theorem Ensures.ofJob {job : Job α} {post : Except CensusError α → World → Prop}
    (h : job.Ensures w inv fun a w1 => post (.ok a) w1) :
    Ensures (Attempt.ofJob job) w inv post :=
  Job.Ensures.bind (h.post fun _ _ hp => .done hp)

theorem Ensures.ofExcept {result : Except CensusError α}
    {post : Except CensusError α → World → Prop} (h : post result w) :
    Ensures (Attempt.ofExcept result) w inv post :=
  Job.Ensures.done h

theorem Ensures.atPath {path : Path} {job : Job (Except DiskFault α)}
    {post : Except CensusError α → World → Prop}
    (h : job.Ensures w inv fun r w1 => post (r.mapError (.ofFault path)) w1) :
    Ensures (Attempt.atPath path job) w inv post := by
  refine Job.Ensures.bind (h.post ?_)
  intro r w1 hr
  cases r with
  | ok a => exact .done hr
  | error f => exact .done hr

theorem Ensures.tryCatch {job : Attempt α} {handler : CensusError → Attempt α}
    {post : Except CensusError α → World → Prop}
    (h : Ensures job w inv fun r w1 =>
      match r with
      | .ok a => post (.ok a) w1
      | .error e => Ensures (handler e) w1 inv post) :
    Ensures (tryCatchThe CensusError job handler) w inv post := by
  refine Job.Ensures.bind (h.post ?_)
  intro r w1 hr
  cases r with
  | ok a => exact .done hr
  | error e => exact hr

end Attempt

end ClassCensus
