import ClassCensus.Proofs.Disk.Removal
import ClassCensus.Proofs.Generation.Turns

/-!
# The steps of a class

What is done for a class, as equations of its run for engines that may do anything while they print.
A class is skipped or its artifacts are generated (`Plan.run_generateClass`), part by part
(`Plan.run_generateArtifacts`). These come up to the dump, which is then put in place or the metrics file
removed (`Plan.generateArtifacts_eq`). A file is written beside its place and then moved
(`run_writeInPlace`, `run_moveInPlace`).
-/

namespace ClassCensus

open Disk

/-! ### Removing a file -/

theorem part_removeFile (w : World) (path : Path) :
    Part ((Job.ofStep (.removeFile path)).run w).2.disk w.disk := by
  change Part (w.change (w.disk.removeFile path)).2.disk w.disk
  cases h : w.disk.removeFile path with
  | error f => exact .refl _
  | ok d' =>
    obtain ⟨l, e, -, -, rfl⟩ := removeFile_ok h
    exact .erase w.disk l

theorem part_discardOrphan (w : World) (path : Path) :
    Part ((discardOrphan path).run w).2.disk w.disk := by
  have hpart := part_removeFile w path
  unfold discardOrphan
  change Part ((Job.bind (Job.ofStep (.removeFile path)) _).run w).2.disk w.disk
  rw [Job.run_bind]
  rcases hrun : (Job.ofStep (.removeFile path)).run w with ⟨r, w1⟩
  rw [hrun] at hpart
  cases r with
  | ok u => exact hpart
  | error f => cases f <;> exact hpart

/-! ### Writing in place -/

/-- A temporary file is moved, or it is removed and the fault is one of the path. -/
theorem run_moveInPlace (temporary path : Path) (w : World) :
    (moveInPlace temporary path).run.run w =
      match w.disk.rename temporary path with
      | .ok d => (.ok (), { w with disk := d })
      | .error f =>
        (.error (.ofFault path f), ((Job.ofStep (.removeFile temporary)).run w).2) := by
  unfold moveInPlace
  rw [Attempt.run_bind, Attempt.run_ofJob]
  have hstep : (Job.ofStep (.rename temporary path)).run w =
      w.change (w.disk.rename temporary path) := rfl
  rw [hstep]
  cases w.disk.rename temporary path with
  | ok d => rfl
  | error f => rfl

/-- A file is written beside its place, with a name of its own, and then moved. -/
theorem run_writeInPlace {path dir : Path} {name : Octets} (hdir : path.parent = some dir)
    (hname : path.fileName = some name) (bytes : ByteArray) (w : World) :
    (writeInPlace path bytes).run.run w =
      let temporary := dir.push (temporaryName name ⟨w.process, w.clock⟩)
      let w1 := { w with clock := w.clock + 1 }
      match w.disk.write temporary bytes with
      | .ok d => (moveInPlace temporary path).run.run { w1 with disk := d }
      | .error f => (.error (.ofFault temporary f), w1) := by
  unfold writeInPlace
  simp only [hdir, hname]
  rw [Attempt.run_bind, Attempt.run_ofJob]
  have hstamp : (Job.ofStep .stamp).run w =
      (⟨w.process, w.clock⟩, { w with clock := w.clock + 1 }) := rfl
  rw [hstamp]
  dsimp only
  rw [Attempt.run_bind, Attempt.run_atPath]
  have hwrite : ∀ (tmp : Path) (w1 : World), (Job.ofStep (.write tmp bytes)).run w1 =
      w1.change (w1.disk.write tmp bytes) := fun _ _ => rfl
  rw [hwrite]
  dsimp only
  cases w.disk.write (dir.push (temporaryName name ⟨w.process, w.clock⟩)) bytes with
  | ok d => rfl
  | error f => rfl

variable {ε : Type} [ClassEngine ε]

namespace Plan

/-! ### Artifacts -/

/-- What is done for a class before its dump is written: its directory is made, it is printed, and
its metrics file is put in place. The result is the text of the dump. -/
def upToDump (p : Plan ε) (n : String) : Attempt String := do
  makeParent (p.paths n)
  let c ← Attempt.ofExcept (p.session.resolve n)
  let text ← Attempt.atPath (p.paths n).dump (ClassEngine.dump p.session.engine c)
  Attempt.ofJob (Job.tellAll (recordEvents c.name [] c.methods))
  writeInPlace (p.paths n).metrics (ClassRecord.ofClass p.isStack c).toText.toUTF8
  return text

/-- The dump is put in place, or else the metrics file is removed. -/
def placeDump (p : Plan ε) (n text : String) : Attempt Unit :=
  tryCatch (writeInPlace (p.paths n).dump text.toUTF8) fun error => do
    Attempt.ofJob (discardOrphan (p.paths n).metrics)
    throw error

theorem generateArtifacts_eq (p : Plan ε) (n : String) :
    generateArtifacts p.session p.isStack (p.paths n) n = (do
      let text ← p.upToDump n
      p.placeDump n text
      Attempt.ofJob (Job.tell (.artifactsWritten n (p.paths n).dump))) := by
  simp only [generateArtifacts, upToDump, placeDump, writePair, bind_assoc, pure_bind]

/-- The artifacts of a class are generated part by part. -/
theorem run_generateArtifacts (p : Plan ε) (n : String) (w : World) :
    (generateArtifacts p.session p.isStack (p.paths n) n).run.run w =
      match (makeParent (p.paths n)).run.run w with
      | (.error e, w1) => (.error e, w1)
      | (.ok (), w1) =>
        match p.session.resolve n with
        | .error e => (.error e, w1)
        | .ok c =>
          match (ClassEngine.dump p.session.engine c).run w1 with
          | (.error f, w2) => (.error (.ofFault (p.paths n).dump f), w2)
          | (.ok text, w2) =>
            match (writePair (p.paths n) text.toUTF8
                (ClassRecord.ofClass p.isStack c).toText.toUTF8).run.run
                ((Job.tellAll (recordEvents c.name [] c.methods)).run w2).2 with
            | (.error e, w3) => (.error e, w3)
            | (.ok (), w3) => (.ok (), ((Job.tell (.artifactsWritten n (p.paths n).dump)).run w3).2) := by
  unfold generateArtifacts
  rw [Attempt.run_bind]
  rcases (makeParent (p.paths n)).run.run w with ⟨e | ⟨⟩, w1⟩
  · rfl
  dsimp only
  rw [Attempt.run_bind]
  have hresolve : (Attempt.ofExcept (p.session.resolve n)).run.run w1 = (p.session.resolve n, w1) := rfl
  rw [hresolve]
  cases p.session.resolve n with
  | error e => rfl
  | ok c =>
    dsimp only
    rw [Attempt.run_bind, Attempt.run_atPath]
    rcases (ClassEngine.dump p.session.engine c).run w1 with ⟨f | text, w2⟩
    · rfl
    dsimp only [Except.mapError]
    rw [Attempt.run_bind, Attempt.run_ofJob]
    dsimp only
    rw [Attempt.run_bind]
    rcases (writePair (p.paths n) text.toUTF8 (ClassRecord.ofClass p.isStack c).toText.toUTF8).run.run
      ((Job.tellAll (recordEvents c.name [] c.methods)).run w2).2 with ⟨e | ⟨⟩, w3⟩
    · rfl
    · dsimp only
      rw [Attempt.run_ofJob]

variable {p : Plan ε} {n : String} {w w' : World}

/-- A class is skipped where its dump path leads to something, if artifacts are kept. -/
theorem run_generateClass (p : Plan ε) (n : String) (w : World) :
    (p.generateClass n).run.run w =
      if p.replace = false ∧ (w.disk.status (p.paths n).dump).isOk then
        (.ok .skipped, { w with log := .artifactsPresent n :: w.log })
      else
        match (generateArtifacts p.session p.isStack (p.paths n) n).run.run w with
        | (.ok (), w1) => (.ok .generated, w1)
        | (.error e, w1) => (.error e, w1) := by
  have hstep : p.generateClass n = (do
      if ← isPresent p.replace (p.paths n) then
        Attempt.ofJob (Job.tell (.artifactsPresent n))
        return .skipped
      else
        generateArtifacts p.session p.isStack (p.paths n) n
        return .generated) := rfl
  have hpresent : (isPresent p.replace (p.paths n)).run.run w =
      (.ok (decide (p.replace = false ∧ (w.disk.status (p.paths n).dump).isOk)), w) := by
    cases hrep : p.replace with
    | true => rfl
    | false =>
      simp only [isPresent, Bool.false_eq_true, if_false, Attempt.run_ofJob, run_pathExists,
        true_and, Bool.decide_eq_true]
  rw [hstep, Attempt.run_bind, hpresent]
  by_cases h : p.replace = false ∧ (w.disk.status (p.paths n).dump).isOk
  · simp only [h]
    rfl
  · simp only [h, decide_false, Bool.false_eq_true, if_false]
    rw [Attempt.run_bind]
    rcases (generateArtifacts p.session p.isStack (p.paths n) n).run.run w with ⟨r, w1⟩
    cases r <;> rfl

omit [ClassEngine ε] in
/-- Where a dump that has been written cannot be put in place, the temporary file and the metrics file
are removed. -/
theorem run_placeDump_of_rename_error {text : String} {name : Octets} {dir : Path} {d : Disk}
    {f : DiskFault}
    (hdir : (p.paths n).dump.parent = some dir) (hname : (p.paths n).dump.fileName = some name)
    (hwrite : w.disk.write (dir.push (temporaryName name ⟨w.process, w.clock⟩)) text.toUTF8 = .ok d)
    (hrename : d.rename (dir.push (temporaryName name ⟨w.process, w.clock⟩)) (p.paths n).dump =
      .error f) :
    ∃ w', (p.placeDump n text).run.run w = (.error (.ofFault (p.paths n).dump f), w') ∧
      Part w'.disk d := by
  have hrun : (writeInPlace (p.paths n).dump text.toUTF8).run.run w =
      (.error (.ofFault (p.paths n).dump f),
        ((Job.ofStep (.removeFile (dir.push (temporaryName name ⟨w.process, w.clock⟩)))).run
          { w with disk := d, clock := w.clock + 1 }).2) := by
    rw [run_writeInPlace hdir hname]
    simp only [hwrite, run_moveInPlace, hrename]
  generalize hw1 : ((Job.ofStep (.removeFile (dir.push
    (temporaryName name ⟨w.process, w.clock⟩)))).run { w with disk := d, clock := w.clock + 1 }).2 =
      w1 at hrun
  have hpart : Part w1.disk d := hw1 ▸ part_removeFile _ _
  refine ⟨((discardOrphan (p.paths n).metrics).run w1).2, ?_, (part_discardOrphan _ _).trans hpart⟩
  unfold placeDump
  rw [Attempt.run_tryCatch, hrun]
  dsimp only
  rw [Attempt.run_bind, Attempt.run_ofJob]
  rfl

end Plan

end ClassCensus
