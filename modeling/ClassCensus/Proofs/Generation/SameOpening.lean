import ClassCensus.Proofs.Disk.Same
import ClassCensus.Proofs.Generation.WholeRun

/-!
# Openings in two worlds

What comes before the classes of a run looks at the disk only, not at the clock or the number of the
process (`Job.Timeless`). In two worlds whose disks have the same entries it comes to the same
(`opening_same`).
-/

namespace ClassCensus

open Disk

/-! ### Jobs that do not look at the clock -/

/-- A step that asks or changes paths of a disk and puts no bytes on it. -/
def Step.Timeless : Step → Prop
  | .status _ => True
  | .linkStatus _ => True
  | .makeDir _ => True
  | .removeFile _ => True
  | .removeTree _ => True
  | .record _ => True
  | _ => False

namespace Job

variable {α β : Type}

/-- All steps of a job are timeless, whatever the answers are. -/
def Timeless : Job α → Prop
  | .done _ => True
  | .step s k => s.Timeless ∧ ∀ answer, (k answer).Timeless

theorem Timeless.bind {job : Job α} {next : α → Job β} (h : job.Timeless)
    (hn : ∀ a, (next a).Timeless) : (job.bind next).Timeless := by
  induction job with
  | done a => exact hn a
  | step s k ih => exact ⟨h.1, fun answer => ih answer (h.2 answer)⟩

theorem Timeless.ofStep {s : Step} (h : s.Timeless) : (Job.ofStep s).Timeless :=
  ⟨h, fun _ => trivial⟩

end Job

theorem World.change_same {w m : World} {r r' : Except DiskFault Disk} (h : Same w.disk m.disk)
    (hr : SameResult r r') :
    (m.change r').1 = (w.change r).1 ∧ Same (w.change r).2.disk (m.change r').2.disk := by
  cases r with
  | ok d =>
    cases r' with
    | ok d' => exact ⟨rfl, hr⟩
    | error f => exact hr.elim
  | error f =>
    cases r' with
    | ok d' => exact hr.elim
    | error f' =>
      obtain rfl : f = f' := hr
      exact ⟨rfl, h⟩

theorem World.perform_same {w m : World} {s : Step} (h : Same w.disk m.disk) (hs : s.Timeless) :
    (m.perform s).1 = (w.perform s).1 ∧ Same (w.perform s).2.disk (m.perform s).2.disk := by
  cases s with
  | status p => exact ⟨h.status p, h⟩
  | linkStatus p => exact ⟨h.linkStatus p, h⟩
  | makeDir p => exact World.change_same h (h.makeDir p)
  | removeFile p => exact World.change_same h (h.removeFile p)
  | removeTree p => exact h.removeTree p
  | record e => exact ⟨rfl, h⟩
  | read p => exact hs.elim
  | list p => exact hs.elim
  | write p b => exact hs.elim
  | rename p q => exact hs.elim
  | stamp => exact hs.elim

/-- A timeless job gives the same result on disks with the same entries, and leaves disks with the
same entries. -/
theorem Job.Timeless.run_same {α : Type} {job : Job α} (hj : job.Timeless) {w m : World}
    (h : Same w.disk m.disk) :
    (job.run m).1 = (job.run w).1 ∧ Same (job.run w).2.disk (job.run m).2.disk := by
  induction job generalizing w m with
  | done a => exact ⟨rfl, h⟩
  | step s k ih =>
    obtain ⟨hanswer, hdisk⟩ := World.perform_same h hj.1
    simp only [run]
    rw [hanswer]
    exact ih _ (hj.2 _) hdisk

/-! ### The opening -/

namespace Attempt

variable {α β : Type}

/-- All steps of an attempt are timeless. -/
abbrev Timeless (job : Attempt α) : Prop := Job.Timeless job.run

theorem Timeless.bind {job : Attempt α} {next : α → Attempt β} (h : Timeless job)
    (hn : ∀ a, Timeless (next a)) : Timeless (job >>= next) := by
  refine Job.Timeless.bind h fun r => ?_
  cases r with
  | ok a => exact hn a
  | error e => exact trivial

theorem Timeless.ofJob {job : Job α} (h : job.Timeless) : Timeless (Attempt.ofJob job) :=
  Job.Timeless.bind h fun _ => trivial

theorem Timeless.atPath {path : Path} {job : Job (Except DiskFault α)} (h : job.Timeless) :
    Timeless (Attempt.atPath path job) := by
  refine Job.Timeless.bind h fun r => ?_
  cases r <;> exact trivial

end Attempt

theorem timeless_unlessDirectory (p : Path) (f : DiskFault) :
    Job.Timeless (do if ← isDirectory p then return Except.ok () else return .error f) := by
  have hask : (isDirectory p).Timeless := by
    refine Job.Timeless.bind (.ofStep trivial) fun r => ?_
    cases r <;> exact trivial
  refine Job.Timeless.bind hask fun b => ?_
  cases b <;> exact trivial

theorem timeless_ensureDir (p : Path) : (ensureDir p).Timeless := by
  refine Job.Timeless.bind (.ofStep trivial) fun r => ?_
  cases r with
  | ok u => exact trivial
  | error f => exact timeless_unlessDirectory p f

theorem timeless_makeDirsWithin (steps : Nat) (p : Path) : (makeDirsWithin steps p).Timeless := by
  induction steps generalizing p with
  | zero => exact trivial
  | succ steps ih =>
    unfold makeDirsWithin
    by_cases ht : p.octets = []
    · simp only [ht, if_true]
      exact trivial
    · simp only [ht, if_false]
      refine Job.Timeless.bind (.ofStep trivial) fun r => ?_
      cases r with
      | ok u => exact trivial
      | error f =>
        cases f with
        | notFound =>
          cases hq : p.parent with
          | none => exact trivial
          | some q =>
            refine Job.Timeless.bind (ih q) fun r => ?_
            cases r with
            | ok u => exact timeless_ensureDir p
            | error f => exact trivial
        | _ => exact timeless_unlessDirectory p _

theorem timeless_removeOutputRoot (root : Path) : Attempt.Timeless (removeOutputRoot root) := by
  refine .bind (.ofJob (.ofStep trivial)) fun r => ?_
  have htold : Attempt.Timeless (Attempt.ofJob (Job.tell (.artifactsRemoved root))) :=
    .ofJob (.ofStep trivial)
  cases r with
  | error f => cases f <;> exact trivial
  | ok kind =>
    by_cases hk : kind = .directory
    · simp only [hk, if_true]
      exact .bind (.atPath (.ofStep trivial)) fun _ => htold
    · simp only [hk, if_false]
      exact .bind (.atPath (.ofStep trivial)) fun _ => htold

variable {ε : Type} [ClassEngine ε] {s : Setup ε} {w m : World}

theorem Setup.timeless_opening (s : Setup ε) : Attempt.Timeless s.opening := by
  unfold opening
  have hmake : Attempt.Timeless (Attempt.atPath s.root (makeDirs s.root)) :=
    .atPath (timeless_makeDirsWithin _ _)
  cases s.replace with
  | false => exact hmake
  | true => exact .bind (timeless_removeOutputRoot s.root) fun _ => hmake

/-- On disks with the same entries two runs open alike. -/
theorem opening_same (h : Same w.disk m.disk) :
    (s.opening.run.run m).1 = (s.opening.run.run w).1 ∧
      Same (s.opening.run.run w).2.disk (s.opening.run.run m).2.disk :=
  s.timeless_opening.run_same h

end ClassCensus
