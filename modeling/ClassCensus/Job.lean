import ClassCensus.Disk.Operation
import ClassCensus.Event

/-!
# Jobs

A job is a computation that asks a disk and changes it, step by step. As a value it says which
step comes first and how to go on with each answer; what a step does is said apart, here on a
disk that is itself a value. So one and the same job can be run, watched between its steps, and
reasoned about.
-/

namespace ClassCensus

/-! ### Steps -/

/-- What makes the name of a temporary file unique. -/
structure Stamp where
  process : Nat
  time : Nat
deriving DecidableEq, Repr

/-- A step of a job. -/
inductive Step where
  | status (path : Path)
  | linkStatus (path : Path)
  | read (path : Path)
  | list (path : Path)
  | makeDir (path : Path)
  | write (path : Path) (bytes : ByteArray)
  | rename (path new : Path)
  | removeFile (path : Path)
  | removeTree (path : Path)
  | stamp
  | record (event : Event)

/-- The answer to a step. -/
@[reducible] def Step.Answer : Step → Type
  | .status _ => Except DiskFault EntryKind
  | .linkStatus _ => Except DiskFault EntryKind
  | .read _ => Except DiskFault ByteArray
  | .list _ => Except DiskFault (List (Location × EntryKind))
  | .makeDir _ => Except DiskFault Unit
  | .write _ _ => Except DiskFault Unit
  | .rename _ _ => Except DiskFault Unit
  | .removeFile _ => Except DiskFault Unit
  | .removeTree _ => Except DiskFault Unit
  | .stamp => Stamp
  | .record _ => Unit

/-! ### Jobs -/

/-- A job with a result. -/
inductive Job (α : Type) where
  | done (result : α)
  | step (s : Step) (next : s.Answer → Job α)

namespace Job

variable {α β : Type}

/-- One job after another, which takes its result. -/
def bind (job : Job α) (next : α → Job β) : Job β :=
  match job with
  | .done a => next a
  | .step s k => .step s fun answer => (k answer).bind next

instance : Monad Job where
  pure := done
  bind := bind

/-- The job of a single step. -/
def ofStep (s : Step) : Job s.Answer := .step s done

theorem bind_done (job : Job α) : job.bind done = job := by
  induction job with
  | done a => rfl
  | step s k ih => simp [bind, ih]

theorem bind_assoc {γ : Type} (job : Job α) (f : α → Job β) (g : β → Job γ) :
    (job.bind f).bind g = job.bind fun a => (f a).bind g := by
  induction job with
  | done a => rfl
  | step s k ih => simp [bind, ih]

/-- Tells an event. -/
def tell (event : Event) : Job Unit := ofStep (.record event)

/-- Tells events in order. -/
def tellAll : List Event → Job Unit
  | [] => .done ()
  | event :: rest => .step (.record event) fun _ => tellAll rest

end Job

/-- A job that may fail with an error of the analysis. -/
abbrev Attempt (α : Type) := ExceptT CensusError Job α

namespace Attempt

/-- A job that cannot fail. -/
def ofJob {α : Type} (job : Job α) : Attempt α := ExceptT.lift job

/-- A job whose fault is an error at a path. -/
def atPath {α : Type} (path : Path) (job : Job (Except DiskFault α)) : Attempt α :=
  ExceptT.mk <| job.bind fun
    | .ok a => .done (.ok a)
    | .error f => .done (.error (.ofFault path f))

/-- The result of a computation without steps. -/
def ofExcept {α : Type} (result : Except CensusError α) : Attempt α := ExceptT.mk (.done result)

end Attempt

/-! ### Running -/

/-- The world of a running job: a disk, the number of the process, a clock, and the events that
have been told. -/
structure World where
  disk : Disk
  process : Nat
  clock : Nat
  /-- The events, the latest first. -/
  log : List Event

namespace World

/-- The world after a change of its disk, or as it was if that fails. -/
def change (w : World) (result : Except DiskFault Disk) : Except DiskFault Unit × World :=
  match result with
  | .ok disk => (.ok (), { w with disk })
  | .error f => (.error f, w)

/-- The answer to a step, and the world after it. -/
def perform (w : World) : (s : Step) → s.Answer × World
  | .status path => (w.disk.status path, w)
  | .linkStatus path => (w.disk.linkStatus path, w)
  | .read path => (w.disk.read path, w)
  | .list path => (w.disk.list path, w)
  | .makeDir path => w.change (w.disk.makeDir path)
  | .write path bytes => w.change (w.disk.write path bytes)
  | .rename path new => w.change (w.disk.rename path new)
  | .removeFile path => w.change (w.disk.removeFile path)
  | .removeTree path =>
    let (result, disk) := w.disk.removeTree path
    (result, { w with disk })
  | .stamp => (⟨w.process, w.clock⟩, { w with clock := w.clock + 1 })
  | .record event => ((), { w with log := event :: w.log })

end World

namespace Job

/-- The result of a job, and the world after it. -/
def run {α : Type} : Job α → World → α × World
  | .done a, w => (a, w)
  | .step s k, w =>
    let (answer, w) := w.perform s
    (k answer).run w

/-- The worlds after each step of a job. -/
def moments {α : Type} : Job α → World → List World
  | .done _, _ => []
  | .step s k, w =>
    let (answer, w) := w.perform s
    w :: (k answer).moments w

theorem run_bind {α β : Type} (job : Job α) (next : α → Job β) (w : World) :
    (job.bind next).run w = (next (job.run w).1).run (job.run w).2 := by
  induction job generalizing w with
  | done a => rfl
  | step s k ih => simp only [bind, run, ih]

end Job

end ClassCensus
