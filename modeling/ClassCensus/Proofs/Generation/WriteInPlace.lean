import ClassCensus.Proofs.Generation.Places

/-!
# Writing one file in place

A file is written to a temporary place and renamed. Between two moments its directory looks in one of
four ways (`Writing`), and the file is there at the end if there is room for it and no directory is
in the way (`ensures_writeInPlace`).
-/

namespace ClassCensus

open Disk

/-- The disk after a file has been written to a temporary place and been renamed. -/
def Disk.settle (d : Disk) (temporary place : Location) (bytes : ByteArray) : Disk :=
  ((d.put temporary (.file bytes)).erase temporary).put place (.file bytes)

/-- How a disk may look while a file is written in place. -/
inductive Writing (p : Path) (name : Octets) (stamp : Stamp) (place : Location)
    (bytes : ByteArray) (d : Disk) (temporary : Location) : Disk → Prop where
  | before : Writing p name stamp place bytes d temporary d
  | written : Writing p name stamp place bytes d temporary (d.put temporary (.file bytes))
  | discarded :
      Writing p name stamp place bytes d temporary
        ((d.put temporary (.file bytes)).erase temporary)
  | settled (room : Writable p name stamp) (free : d.entryAt place ≠ some .directory) :
      Writing p name stamp place bytes d temporary (d.settle temporary place bytes)

/-- The path and the fault that keep a file from being written in place, where a directory may have
taken its place. -/
def writeFault (p : Path) (name : Octets) (stamp : Stamp) (taken : Bool) :
    Option (Path × DiskFault) :=
  let temporary := p.trimmed.push (temporaryName name stamp)
  match checkPath temporary with
  | .error f => some (temporary, f)
  | .ok () =>
    if nameLimit < (temporaryName name stamp).length then some (temporary, .nameTooLong)
    else
      match checkPath (p.push name) with
      | .error f => some (p.push name, f)
      | .ok () => if taken then some (p.push name, .isDirectory) else none

theorem writeFault_of_writable {p : Path} {name : Octets} {stamp : Stamp}
    (h : Writable p name stamp) (taken : Bool) :
    writeFault p name stamp taken = if taken then some (p.push name, .isDirectory) else none := by
  simp only [writeFault, h.temporary, h.short, h.target, if_false]

theorem writeFault_eq_none {p : Path} {name : Octets} {stamp : Stamp} {taken : Bool} :
    writeFault p name stamp taken = none ↔ Writable p name stamp ∧ taken = false := by
  constructor
  · intro h
    unfold writeFault at h
    rcases checkPath_cases (p.trimmed.push (temporaryName name stamp)) with htemporary | ⟨f, hf⟩
    · by_cases hlong : nameLimit < (temporaryName name stamp).length
      · simp only [htemporary, hlong, if_true, reduceCtorEq] at h
      · rcases checkPath_cases (p.push name) with htarget | ⟨f, hf⟩
        · simp only [htemporary, hlong, htarget, if_false] at h
          cases taken with
          | true => cases h
          | false => exact ⟨⟨htemporary, hlong, htarget⟩, rfl⟩
        · simp only [htemporary, hlong, hf, if_false, reduceCtorEq] at h
    · simp only [hf, reduceCtorEq] at h
  · rintro ⟨hroom, rfl⟩
    exact writeFault_of_writable hroom false

/-- What has become of a file that was to be written in place. -/
def Written (p : Path) (name : Octets) (place : Location) (bytes : ByteArray) (w : World)
    (temporary : Location) (r : Except CensusError Unit) (w' : World) : Prop :=
  w'.process = w.process ∧ w'.clock = w.clock + 1 ∧
    match r with
    | .ok () =>
      Writable p name ⟨w.process, w.clock⟩ ∧ w.disk.entryAt place ≠ some .directory ∧
        w'.disk = w.disk.settle temporary place bytes
    | .error e =>
      (∃ q f, e = .ofFault q f ∧
        writeFault p name ⟨w.process, w.clock⟩ (w.disk.hasDir place) = some (q, f)) ∧
        (w'.disk = w.disk ∨ w'.disk = (w.disk.put temporary (.file bytes)).erase temporary)

/-- What keeps a file from being written in place is a want of room, or a directory. -/
theorem not_writable_of_writeFault {d : Disk} {p : Path} {name : Octets} {stamp : Stamp}
    {place : Location} {r : Path × DiskFault}
    (h : writeFault p name stamp (d.hasDir place) = some r) :
    ¬Writable p name stamp ∨ d.entryAt place = some .directory := by
  by_contra hno
  obtain ⟨hroom, hfree⟩ := not_or.mp hno
  have hnone : writeFault p name stamp (d.hasDir place) = none := by
    refine writeFault_eq_none.mpr ⟨not_not.mp hroom, ?_⟩
    rw [Bool.eq_false_iff]
    exact fun h0 => hfree ((hasDir_iff d place).mp h0)
  rw [hnone] at h
  cases h

theorem temporaryName_ne_self (name : Octets) (stamp : Stamp) :
    temporaryName name stamp ≠ name := by
  intro h
  have hl := congrArg List.length h
  have hlt := length_lt_temporaryName name stamp
  omega

/-- A temporary file is given its place or else removed. -/
theorem ensures_moveInPlace {w : World} {inv : World → Prop}
    {post : Except CensusError Unit → World → Prop} {temporary target : Path} {rest : Disk}
    (hi : inv w) (hrem : w.disk.removeFile temporary = .ok rest)
    (hok : ∀ d', w.disk.rename temporary target = .ok d' →
      inv { w with disk := d' } ∧ post (.ok ()) { w with disk := d' })
    (herr : ∀ f, w.disk.rename temporary target = .error f →
      inv { w with disk := rest } ∧ post (.error (.ofFault target f)) { w with disk := rest }) :
    Attempt.Ensures (moveInPlace temporary target) w inv post := by
  have hperf : w.perform (.rename temporary target) =
      w.change (w.disk.rename temporary target) := rfl
  cases hren : w.disk.rename temporary target with
  | ok d' =>
    rw [hren] at hperf
    refine .bind (.ofJob (.ofStep ?_ ?_))
    · rw [hperf]
      exact (hok d' hren).1
    · rw [hperf]
      exact .pure (hok d' hren).2
  | error f =>
    rw [hren] at hperf
    have hperf2 : w.perform (.removeFile temporary) =
        w.change (w.disk.removeFile temporary) := rfl
    rw [hrem] at hperf2
    refine .bind (.ofJob (.ofStep ?_ ?_))
    · rw [hperf]
      exact hi
    · rw [hperf]
      refine .bind (.ofJob (.ofStep ?_ ?_))
      · change inv (w.perform (.removeFile temporary)).2
        rw [hperf2]
        exact (herr f hren).1
      · refine .throw ?_
        change post _ (w.perform (.removeFile temporary)).2
        rw [hperf2]
        exact (herr f hren).2

/-- A file is written in place if there is room for it and no directory is in the way. -/
theorem ensures_writeInPlace {w : World} {p : Path} {links : Nat} {here : Location}
    {name : Octets} (bytes : ByteArray) (hn : Path.IsName name)
    (hl : w.disk.Leads p links here) (hd : w.disk.entryAt here = some .directory)
    (hk : ∀ x t, w.disk.entryAt (here ++ [x]) ≠ some (.link t))
    {temporary : Location}
    (htmp : temporary = here ++ [temporaryName name ⟨w.process, w.clock⟩])
    (ht : w.disk.entryAt temporary ≠ some .directory) :
    Attempt.Ensures (writeInPlace (p.push name) bytes) w
      (fun m => m.process = w.process ∧ w.clock ≤ m.clock ∧
        Writing p name ⟨w.process, w.clock⟩ (here ++ [name]) bytes w.disk temporary m.disk)
      (Written p name (here ++ [name]) bytes w temporary) := by
  obtain ⟨d, process, clock, log⟩ := w
  dsimp only at hl hd hk htmp ht ⊢
  have hname := isName_temporaryName hn ⟨process, clock⟩
  have htl : d.Leads p.trimmed links here := leads_trimmed.mpr hl
  have hne : temporary ≠ [] := by simp [htmp]
  simp only [writeInPlace, Path.parent_push p hn, Path.fileName_push p hn]
  refine .bind (.ofJob (.ofStep ⟨rfl, Nat.le_succ _, .before⟩ ?_))
  have hstamp : World.perform ⟨d, process, clock, log⟩ .stamp =
      (⟨process, clock⟩, ⟨d, process, clock + 1, log⟩) := rfl
  rw [hstamp]
  dsimp only
  generalize htp : p.trimmed.push (temporaryName name ⟨process, clock⟩) = tp
  have hwrite : World.perform ⟨d, process, clock + 1, log⟩ (.write tp bytes) =
      World.change ⟨d, process, clock + 1, log⟩ (d.write tp bytes) := rfl
  by_cases hroom : checkPath tp = .ok () ∧
      ¬nameLimit < (temporaryName name ⟨process, clock⟩).length
  · have hcheck : checkPath (p.trimmed.push (temporaryName name ⟨process, clock⟩)) = .ok () := by
      rw [htp]
      exact hroom.1
    have hat : d.At tp temporary := by
      have h := at_push hname htl hd hcheck hroom.2 (hk _)
      rwa [htp, ← htmp] at h
    rw [hat.write_ok ht bytes] at hwrite
    have hentry := entryAt_put d hne (.file bytes)
    have hkeep : KeepsWays d (d.put temporary (.file bytes)) := by
      refine .put_file hne bytes ht ?_
      intro t
      rw [htmp]
      exact hk _ t
    have hat2 : (d.put temporary (.file bytes)).At tp temporary := by
      have h := at_push hname (hkeep.leads htl) (hkeep.directory here hd) hcheck hroom.2 (by
        intro t
        rw [← htmp, hentry, if_pos rfl]
        simp)
      rwa [htp, ← htmp] at h
    have hfile : (d.put temporary (.file bytes)).entryAt temporary = some (.file bytes) := by
      rw [hentry, if_pos rfl]
    have hplace : here ++ [name] ≠ temporary := by
      rw [htmp]
      intro h0
      exact temporaryName_ne_self name _ (by simpa using h0.symm)
    have hshort : ¬nameLimit < name.length := by
      have h1 := hroom.2
      have hlt := length_lt_temporaryName name ⟨process, clock⟩
      omega
    have hat3 : checkPath (p.push name) = .ok () →
        (d.put temporary (.file bytes)).At (p.push name) (here ++ [name]) := by
      intro hc
      refine at_push hn (hkeep.leads hl) (hkeep.directory here hd) hc hshort ?_
      intro t
      rw [hentry, if_neg hplace]
      exact hk name t
    refine .bind (.atPath (.ofStep ?_ ?_))
    · rw [hwrite]
      exact ⟨rfl, Nat.le_succ _, .written⟩
    simp only [hwrite, World.change, Except.mapError]
    refine ensures_moveInPlace ⟨rfl, Nat.le_succ _, .written⟩ (hat2.removeFile_file hfile) ?_ ?_
    · intro d' hren
      have hc : checkPath (p.push name) = .ok () := by
        rcases checkPath_cases (p.push name) with hc | ⟨f, hc⟩
        · exact hc
        · have := hat2.rename_error hfile (locate_of_check_error hc)
          rw [this] at hren
          cases hren
      have hfree : d.entryAt (here ++ [name]) ≠ some .directory := by
        intro h0
        have := hat2.rename_dir hfile (hat3 hc) (by rw [hentry, if_neg hplace, h0])
        rw [this] at hren
        cases hren
      have hok := hat2.rename_ok hfile (hat3 hc) (by rwa [hentry, if_neg hplace]) hplace
      rw [hok] at hren
      cases hren
      have hw : Writable p name ⟨process, clock⟩ := ⟨hcheck, hroom.2, hc⟩
      exact ⟨⟨rfl, Nat.le_succ _, .settled hw hfree⟩, rfl, rfl, hw, hfree, rfl⟩
    · intro f hren
      refine ⟨⟨rfl, Nat.le_succ _, .discarded⟩, rfl, rfl, ⟨_, f, rfl, ?_⟩, .inr rfl⟩
      simp only [writeFault, hcheck, hroom.2, if_false]
      rcases checkPath_cases (p.push name) with hc | ⟨f', hc⟩
      · have hdir : d.entryAt (here ++ [name]) = some .directory := by
          by_contra h0
          have hok := hat2.rename_ok hfile (hat3 hc) (by rwa [hentry, if_neg hplace]) hplace
          rw [hok] at hren
          cases hren
        have hfault := hat2.rename_dir hfile (hat3 hc) (by rw [hentry, if_neg hplace, hdir])
        rw [hren] at hfault
        simp only [hc, (hasDir_iff d _).mpr hdir, if_true, Except.error.inj hfault]
      · have hfault := hat2.rename_error hfile (locate_of_check_error hc)
        rw [hren] at hfault
        simp only [hc, Except.error.inj hfault]
  · have hbad : ∃ f, d.write tp bytes = .error f ∧
        writeFault p name ⟨process, clock⟩ (d.hasDir (here ++ [name])) = some (tp, f) := by
      simp only [writeFault, htp]
      rcases checkPath_cases tp with hc | ⟨f, hc⟩
      · have hlong : nameLimit < (temporaryName name ⟨process, clock⟩).length := by
          by_contra h0
          exact hroom ⟨hc, h0⟩
        refine ⟨.nameTooLong, write_of_locate_error ?_ bytes, by simp only [hc, hlong, if_true]⟩
        rw [← htp] at hc ⊢
        exact locate_push_long hname htl hc hlong
      · exact ⟨f, write_of_locate_error (locate_of_check_error hc) bytes, by simp only [hc]⟩
    obtain ⟨f, hf, hfault⟩ := hbad
    rw [hf] at hwrite
    refine .bind (.atPath (.ofStep ?_ ?_))
    · rw [hwrite]
      exact ⟨rfl, Nat.le_succ _, .before⟩
    · rw [hwrite]
      exact ⟨rfl, rfl, ⟨_, f, rfl, hfault⟩, .inl rfl⟩

end ClassCensus
