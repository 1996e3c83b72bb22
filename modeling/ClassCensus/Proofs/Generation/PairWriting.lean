import ClassCensus.Proofs.ArtifactPaths
import ClassCensus.Proofs.Disk.Sites
import ClassCensus.Proofs.Generation.Steps
import ClassCensus.Proofs.Generation.Story

/-!
# Writing a pair

The two files of a pair are written all or nothing. A file that is written in place is there with all
its bytes, or the disk is as it was (`run_writeInPlace_of_leads`, `run_writeInPlace_of_lost`). From the
two files together follows the main statement for a pair of any class below any root
(`writePair_all_or_nothing`); it asks that the way to the directory of the pair does not go through a
link in the place of one of the two files.
-/

namespace ClassCensus

namespace Disk

variable {d d' : Disk} {p : Path} {links : Nat} {here : Location} {name : Octets}

/-! ### The end of a way -/

theorem Sound.directory_of_leads (hd : d.Sound) (h : d.Leads p links here) :
    d.entryAt here = some .directory := directory_of_descend hd.tree (hd.start p) h

theorem find_push_congr (hname : Path.IsName name) (hl : d.Leads p links here)
    (hl' : d'.Leads p links here) (hd : d.entryAt here = some .directory)
    (hd' : d'.entryAt here = some .directory)
    (he : d'.entryAt (here ++ [name]) = d.entryAt (here ++ [name])) :
    d'.find false (p.push name) = d.find false (p.push name) := by
  have hlocate : d'.locate false (p.push name) = d.locate false (p.push name) := by
    rcases checkPath_cases (p.push name) with hc | ⟨f, hc⟩
    · by_cases hlong : nameLimit < name.length
      · rw [locate_push_long hname hl hc hlong, locate_push_long hname hl' hc hlong]
      · rw [locate_push_place hname hl hd hc hlong (by simp),
          locate_push_place hname hl' hd' hc hlong (by simp), he]
    · rw [locate_of_check_error hc, locate_of_check_error hc]
  simp only [find, hlocate]

/-- What is found at a name lies in a directory that is led to. -/
theorem entry_of_find_push (hname : Path.IsName name) {fl : Bool} {r : Location × Entry}
    (h : d.find fl (p.push name) = .ok r) :
    ∃ links here, d.Leads p links here ∧ d.entryAt (here ++ [name]) ≠ none := by
  obtain ⟨spot, hspot, -, he, -⟩ := find_eq_ok_iff.mp h
  rcases checkPath_cases (p.push name) with hc | ⟨f, hc⟩
  · rw [locate_push fl hname hc] at hspot
    cases hdesc : d.descend linkLimit (d.startOf p) p.steps with
    | error f =>
      rw [hdesc] at hspot
      cases hspot
    | ok r =>
      rw [hdesc] at hspot
      exact ⟨r.1, r.2, leads_iff.mpr hdesc,
        entry_of_walk ⟨hname.ne_current, hname.ne_parent⟩ hspot he⟩
  · rw [locate_of_check_error hc] at hspot
    cases hspot

/-- Nothing lies at a path. -/
def Free (d : Disk) (p : Path) : Prop := ∀ r, d.find false p ≠ .ok r

theorem free_of_entry (hname : Path.IsName name) (hl : d.Leads p links here)
    (h : d.entryAt (here ++ [name]) = none) : d.Free (p.push name) := by
  intro r hr
  obtain ⟨links', here', hl', he⟩ := entry_of_find_push hname hr
  obtain ⟨-, rfl⟩ := hl.unique hl'
  exact he h

theorem Free.entry (h : d.Free (p.push name)) (hname : Path.IsName name) (hl : d.Leads p links here)
    (hd : d.entryAt here = some .directory) (hc : checkPath (p.push name) = .ok ())
    (hs : ¬nameLimit < name.length) : d.entryAt (here ++ [name]) = none := by
  cases he : d.entryAt (here ++ [name]) with
  | none => rfl
  | some e =>
    have hlocate : d.locate false (p.push name) = _ := locate_push_place hname hl hd hc hs (by simp)
    exact absurd (find_eq_ok_iff.mpr ⟨_, hlocate, rfl, he, by simp⟩) (h _)

/-! ### Links in a place -/

/-- The disk without a link at a location. -/
def unlinked (d : Disk) (l : Location) : Disk :=
  match d.entryAt l with
  | some (.link _) => d.erase l
  | _ => d

theorem entryAt_unlinked {l : Location} (hl : l ≠ []) (k : Location) :
    (d.unlinked l).entryAt k = d.entryAt k ∨
      k = l ∧ (d.unlinked l).entryAt k = none ∧ ∃ t, d.entryAt l = some (.link t) := by
  unfold unlinked
  split
  · rename_i t ht
    rw [entryAt_erase d hl]
    by_cases hk : k = l
    · exact .inr ⟨hk, by rw [if_pos hk], t, ht⟩
    · exact .inl (by rw [if_neg hk])
  · exact .inl rfl

theorem not_link_unlinked {l : Location} (hl : l ≠ []) (t : Path) :
    (d.unlinked l).entryAt l ≠ some (.link t) := by
  unfold unlinked
  split
  · rw [entryAt_erase d hl, if_pos rfl]
    simp
  · rename_i hno
    exact hno t

theorem home_unlinked (d : Disk) (l : Location) : (d.unlinked l).home = d.home := by
  unfold unlinked
  split <;> rfl

/-- All entries but those at some places are as they were. -/
structure SameBut (places : List Location) (d d' : Disk) : Prop where
  home : d'.home = d.home
  entry : ∀ l, l ∉ places → d'.entryAt l = d.entryAt l

/-- Whatever comes into the places of files and links, the ways that do not go through links there
stay. -/
theorem SameBut.keepsWays {a b : Location} (h : SameBut [a, b] d d') (ha : a ≠ []) (hb : b ≠ [])
    (hda : d.entryAt a = some .directory → d'.entryAt a = some .directory)
    (hdb : d.entryAt b = some .directory → d'.entryAt b = some .directory) :
    KeepsWays ((d.unlinked a).unlinked b) d' := by
  -- what is left without the two links is there with them
  have hpart : ∀ k e, ((d.unlinked a).unlinked b).entryAt k = some e →
      (d.unlinked a).entryAt k = some e ∧ d.entryAt k = some e := by
    intro k e he
    rcases entryAt_unlinked hb k with h1 | ⟨-, h1, -⟩ <;> rw [h1] at he
    · rcases entryAt_unlinked ha k with h2 | ⟨-, h2, -⟩ <;> rw [h2] at he
      · exact ⟨h2 ▸ he, he⟩
      · cases he
    · cases he
  refine ⟨?_, ?_, ?_⟩
  · rw [home_unlinked, home_unlinked, h.home]
  · intro k hk
    have hdk := (hpart k _ hk).2
    by_cases hka : k = a
    · exact hka ▸ hda (hka ▸ hdk)
    · by_cases hkb : k = b
      · exact hkb ▸ hdb (hkb ▸ hdk)
      · rw [h.entry k (by simp [hka, hkb]), hdk]
  · intro k t hk
    have hka : k ≠ a := by
      rintro rfl
      exact not_link_unlinked ha t (hpart k _ hk).1
    have hkb : k ≠ b := by
      rintro rfl
      exact not_link_unlinked hb t hk
    rw [h.entry k (by simp [hka, hkb]), (hpart k _ hk).2]

end Disk

open Disk

variable {d : Disk} {w : World} {p : Path} {links : Nat} {here : Location} {name : Octets}

/-! ### One file -/

theorem Job.run_ofStep_removeFile {path : Path} {d' : Disk} (h : w.disk.removeFile path = .ok d') :
    (Job.ofStep (.removeFile path)).run w = (.ok (), { w with disk := d' }) := by
  change w.change (w.disk.removeFile path) = _
  rw [h]
  rfl

/-- A file beside a place moves there unless a directory is in the way, and can be taken away again. -/
theorem Disk.rename_beside {x : Octets} (bytes : ByteArray) (hname : Path.IsName name)
    (hx : Path.IsName x) (hne : name ≠ x) (hl : d.Leads p links here)
    (hd : d.entryAt here = some .directory) (hc : checkPath (p.trimmed.push x) = .ok ())
    (hs : ¬nameLimit < x.length) (hshort : ¬nameLimit < name.length)
    (hnone : d.entryAt (here ++ [x]) = none) :
    (d.put (here ++ [x]) (.file bytes)).removeFile (p.trimmed.push x) = .ok d ∧
      (d.put (here ++ [x]) (.file bytes)).rename (p.trimmed.push x) (p.push name) =
        match checkPath (p.push name) with
        | .error f => .error f
        | .ok () =>
          if d.hasDir (here ++ [name]) then .error .isDirectory
          else .ok (d.put (here ++ [name]) (.file bytes)) := by
  have hplace : here ++ [name] ≠ here ++ [x] := fun h0 => hne (by simpa using h0)
  have hentry := entryAt_put d (l := here ++ [x]) (by simp) (.file bytes)
  have hkeep : KeepsWays d (d.put (here ++ [x]) (.file bytes)) :=
    .put_file (by simp) bytes (by simp [hnone]) (by simp [hnone])
  have hdir := hkeep.directory here hd
  have hat : (d.put (here ++ [x]) (.file bytes)).At (p.trimmed.push x) (here ++ [x]) :=
    at_push hx (hkeep.leads (leads_trimmed.mpr hl)) hdir hc hs (by simp [hentry])
  have hfile : (d.put (here ++ [x]) (.file bytes)).entryAt (here ++ [x]) = some (.file bytes) := by
    simp [hentry]
  refine ⟨by rw [hat.removeFile_file hfile, erase_put d (by simp) _ hnone], ?_⟩
  rcases checkPath_cases (p.push name) with htarget | ⟨f, hf⟩
  case inr => rw [hat.rename_error hfile (locate_of_check_error hf), hf]
  have hlocate : (d.put (here ++ [x]) (.file bytes)).locate false (p.push name) = _ :=
    locate_push_place hname (hkeep.leads hl) hdir htarget hshort (by simp)
  rw [hentry, if_neg hplace] at hlocate
  have hfound := hat.find_some hfile false
  rw [htarget]
  by_cases htaken : d.hasDir (here ++ [name]) = true
  · have hin := (hasDir_iff d _).mp htaken
    simp only [rename, hfound, hlocate, hin, htaken, if_true]
    rfl
  · have hkind : (d.entryAt (here ++ [name])).map Entry.kind ≠ some .directory := by
      intro h0
      obtain ⟨e, he, hk⟩ := Option.map_eq_some_iff.mp h0
      have hnot : d.entryAt (here ++ [name]) ≠ some .directory :=
        fun h1 => htaken ((hasDir_iff d _).mpr h1)
      cases e <;> simp_all [Entry.kind]
    simp only [rename, hfound, hlocate, Spot.kind?, Entry.kind, Bind.bind, Except.bind, htaken,
      reduceCtorEq, if_false, hkind, hplace, Bool.false_eq_true, erase_put d (by simp) _ hnone]
    rfl

/-- A file that is written in place is there with all its bytes, or the disk is as it was. -/
theorem run_writeInPlace_of_leads (bytes : ByteArray) (hname : Path.IsName name)
    (hl : w.disk.Leads p links here) (hd : w.disk.entryAt here = some .directory)
    (hfree : w.disk.Free (p.trimmed.push (temporaryName name ⟨w.process, w.clock⟩))) :
    (writeInPlace (p.push name) bytes).run.run w =
      match writeFault p name ⟨w.process, w.clock⟩ (w.disk.hasDir (here ++ [name])) with
      | some (q, f) => (.error (.ofFault q f), { w with clock := w.clock + 1 })
      | none =>
        (.ok (), { w with
          disk := w.disk.put (here ++ [name]) (.file bytes), clock := w.clock + 1 }) := by
  obtain ⟨d, process, clock, log⟩ := w
  dsimp only at hl hd hfree ⊢
  rw [run_writeInPlace (p.parent_push hname) (p.fileName_push hname)]
  dsimp only
  have htmp := isName_temporaryName hname ⟨process, clock⟩
  have htl : d.Leads p.trimmed links here := leads_trimmed.mpr hl
  have hne := (temporaryName_ne_self name ⟨process, clock⟩).symm
  have hsize := length_lt_temporaryName name ⟨process, clock⟩
  generalize hx : temporaryName name ⟨process, clock⟩ = x at *
  rcases checkPath_cases (p.trimmed.push x) with hc | ⟨f, hf⟩
  case inr =>
    rw [write_of_locate_error (locate_of_check_error hf)]
    simp only [writeFault, hx, hf]
  by_cases hlong : nameLimit < x.length
  case pos =>
    rw [write_of_locate_error (locate_push_long htmp htl hc hlong)]
    simp only [writeFault, hx, hc, hlong, if_true]
  have hnone := hfree.entry htmp htl hd hc hlong
  have hat : d.At (p.trimmed.push x) (here ++ [x]) :=
    at_push htmp htl hd hc hlong (by simp [hnone])
  obtain ⟨hback, hrename⟩ :=
    rename_beside bytes hname htmp hne hl hd hc hlong (by omega) hnone
  have hdiscard := Job.run_ofStep_removeFile
    (w := ⟨d.put (here ++ [x]) (.file bytes), process, clock + 1, log⟩) hback
  rw [hat.write_ok (by simp [hnone])]
  dsimp only
  rw [run_moveInPlace]
  dsimp only
  rw [hrename]
  simp only [writeFault, hx, hc, hlong, if_false]
  rcases checkPath_cases (p.push name) with htarget | ⟨f, hf⟩
  · rw [htarget]
    dsimp only
    by_cases htaken : d.hasDir (here ++ [name]) = true
    · rw [if_pos htaken, if_pos htaken, hdiscard]
    · rw [if_neg htaken, if_neg htaken]
  · rw [hf]
    dsimp only
    rw [hdiscard]

/-- Where no directory is led to, nothing is written. -/
theorem run_writeInPlace_of_lost (bytes : ByteArray) (hname : Path.IsName name) {f : DiskFault}
    (hl : w.disk.descend linkLimit (w.disk.startOf p) p.steps = .error f) :
    (writeInPlace (p.push name) bytes).run.run w =
      let temporary := p.trimmed.push (temporaryName name ⟨w.process, w.clock⟩)
      (.error (.ofFault temporary (match checkPath temporary with | .error g => g | .ok () => f)),
        { w with clock := w.clock + 1 }) := by
  have htmp := isName_temporaryName hname ⟨w.process, w.clock⟩
  rw [run_writeInPlace (p.parent_push hname) (p.fileName_push hname)]
  dsimp only
  rcases checkPath_cases (p.trimmed.push (temporaryName name ⟨w.process, w.clock⟩)) with
    hc | ⟨g, hc⟩
  · have hlocate := locate_push (d := w.disk) true htmp hc
    rw [startOf_trimmed, Path.steps_trimmed, hl] at hlocate
    rw [write_of_locate_error hlocate, hc]
  · rw [write_of_locate_error (locate_of_check_error hc), hc]

/-! ### Two files -/

theorem run_writePair (paths : ArtifactPaths) (dump metrics : ByteArray) (w : World) :
    (writePair paths dump metrics).run.run w =
      match (writeInPlace paths.metrics metrics).run.run w with
      | (.error e, w1) => (.error e, w1)
      | (.ok (), w1) =>
        match (writeInPlace paths.dump dump).run.run w1 with
        | (.ok (), w2) => (.ok (), w2)
        | (.error e, w2) => (.error e, ((discardOrphan paths.metrics).run w2).2) := by
  unfold writePair
  rw [Attempt.run_bind]
  rcases (writeInPlace paths.metrics metrics).run.run w with ⟨e | ⟨⟩, w1⟩
  · rfl
  · dsimp only
    rw [Attempt.run_tryCatch]
    rcases (writeInPlace paths.dump dump).run.run w1 with ⟨e | ⟨⟩, w2⟩
    · dsimp only
      rw [Attempt.run_bind, Attempt.run_ofJob]
      rfl
    · rfl

theorem run_discardOrphan_of_removed {path : Path} {d' : Disk}
    (h : w.disk.removeFile path = .ok d') :
    ((discardOrphan path).run w).2 = { w with disk := d' } := by
  unfold discardOrphan
  change (Job.run (Job.bind (Job.ofStep (.removeFile path)) _) w).2 = _
  rw [Job.run_bind, Job.run_ofStep_removeFile h]
  rfl

/-- A class whose path has no file name has no artifacts. -/
theorem run_writePair_of_nameless {path : Path} (h : path.fileName = none) :
    ∃ e, ∀ (dump metrics : ByteArray) (w : World),
      (writePair ⟨path, path⟩ dump metrics).run.run w = (.error e, w) ∧
        (writeInPlace path metrics).run.run w = (.error e, w) := by
  have herror : ∃ e, ∀ (bytes : ByteArray) (w : World),
      (writeInPlace path bytes).run.run w = (.error e, w) := by
    unfold writeInPlace
    rw [h]
    cases path.parent with
    | none => exact ⟨_, fun _ _ => rfl⟩
    | some dir => exact ⟨_, fun _ _ => rfl⟩
  obtain ⟨e, he⟩ := herror
  refine ⟨e, fun dump metrics w => ⟨?_, he metrics w⟩⟩
  rw [run_writePair]
  dsimp only
  rw [he]

/-- Nothing lies at the paths of the temporary files of a pair that is written at a time. -/
def Disk.FreeFor (d : Disk) (paths : ArtifactPaths) (process time : Nat) : Prop :=
  ∀ dir x y, paths.dump.parent = some dir → paths.dump.fileName = some x →
    paths.metrics.fileName = some y →
      d.Free (dir.push (temporaryName y ⟨process, time⟩)) ∧
        d.Free (dir.push (temporaryName x ⟨process, time + 1⟩))

theorem Disk.FreeFor.of_isOk {paths : ArtifactPaths} {process time : Nat} (dir : Path)
    (x y : Octets) (hdir : paths.dump.parent = some dir) (hx : paths.dump.fileName = some x)
    (hy : paths.metrics.fileName = some y)
    (hmetrics : (d.find false (dir.push (temporaryName y ⟨process, time⟩))).isOk = false)
    (hdump : (d.find false (dir.push (temporaryName x ⟨process, time + 1⟩))).isOk = false) :
    d.FreeFor paths process time := by
  intro dir' x' y' h1 h2 h3
  rw [hdir] at h1
  rw [hx] at h2
  rw [hy] at h3
  cases h1
  cases h2
  cases h3
  constructor
  · intro r hr
    rw [hr] at hmetrics
    cases hmetrics
  · intro r hr
    rw [hr] at hdump
    cases hdump

/-- The way to the directory of a pair does not go through a link in the place of one of the two files. -/
def Disk.Aside (d : Disk) (paths : ArtifactPaths) : Prop :=
  ∀ dir x y, paths.dump.parent = some dir → paths.dump.fileName = some x →
    paths.metrics.fileName = some y → ∀ links here, d.Leads dir links here →
      ((d.unlinked (here ++ [y])).unlinked (here ++ [x])).Leads dir links here

/-- What writing a pair comes to, by the results of writing its metrics file and of all of it. -/
inductive PairSettled (paths : ArtifactPaths) (dump metrics : ByteArray) (d : Disk) :
    Except CensusError Unit → Except CensusError Unit → Disk → Prop where
  /-- The metrics file could not be written: nothing has changed. -/
  | unwritten {e : CensusError} : PairSettled paths dump metrics d (.error e) (.error e) d
  /-- The dump could not be written: it is what it was, and the metrics file is gone. -/
  | withdrawn {e : CensusError} {d' : Disk} {a : Location}
      (place : d.locate false paths.metrics = .ok ⟨a, d.entryAt a, false⟩)
      (gone : d'.find false paths.metrics = .error .notFound)
      (same : d'.find false paths.dump = d.find false paths.dump)
      (others : SameBut [a] d d') : PairSettled paths dump metrics d (.ok ()) (.error e) d'
  /-- Both files are there. -/
  | written {d' : Disk} {a b : Location}
      (metrics_there : ∀ fl, d'.find fl paths.metrics = .ok (a, .file metrics))
      (dump_there : ∀ fl, d'.find fl paths.dump = .ok (b, .file dump))
      (others : SameBut [a, b] d d') : PairSettled paths dump metrics d (.ok ()) (.ok ()) d'

theorem Writable.name_short {stamp : Stamp} (h : Writable p name stamp) :
    ¬nameLimit < name.length := by
  have hs := h.short
  have hlt := length_lt_temporaryName name stamp
  omega

section Beside

variable {x y : Octets} (hxy : PairNames x y)

include hxy

theorem freeFor_push {process time : Nat} :
    d.FreeFor ⟨p.push x, p.push y⟩ process time ↔
      d.Free (p.trimmed.push (temporaryName y ⟨process, time⟩)) ∧
        d.Free (p.trimmed.push (temporaryName x ⟨process, time + 1⟩)) := by
  simp [FreeFor, p.parent_push hxy.dump, p.fileName_push hxy.dump, p.fileName_push hxy.metrics]

theorem aside_push :
    d.Aside ⟨p.push x, p.push y⟩ ↔ ∀ links here, d.Leads p links here →
      ((d.unlinked (here ++ [y])).unlinked (here ++ [x])).Leads p links here := by
  simp [Aside, p.parent_push hxy.dump, p.fileName_push hxy.dump, p.fileName_push hxy.metrics, leads_trimmed]

/-- Whatever comes into the places of a pair, what is free for its temporary files stays so. -/
theorem freeFor_of_sameBut {d' : Disk} {process time : Nat}
    (h : d.FreeFor ⟨p.push x, p.push y⟩ process time)
    (hs : SameBut [here ++ [y], here ++ [x]] d d') (hl : d.Leads p links here)
    (hl' : d'.Leads p links here) (hd : d.entryAt here = some .directory)
    (hd' : d'.entryAt here = some .directory) :
    d'.FreeFor ⟨p.push x, p.push y⟩ process time := by
  have hkeep : ∀ n stamp, d.Free (p.trimmed.push (temporaryName n stamp)) →
      Path.IsName n → d'.Free (p.trimmed.push (temporaryName n stamp)) := by
    intro n stamp hfree hn r
    rw [find_push_congr (isName_temporaryName hn stamp) (leads_trimmed.mpr hl)
      (leads_trimmed.mpr hl') hd hd' (hs.entry _ (by simp [hxy.dump_ne n stamp, hxy.metrics_ne n stamp]))]
    exact hfree r
  rw [freeFor_push hxy] at h ⊢
  exact ⟨hkeep y _ h.1 hxy.metrics, hkeep x _ h.2 hxy.dump⟩

section Ways

variable (haside : d.Aside ⟨p.push x, p.push y⟩) (hl : d.Leads p links here)
  (hd : d.entryAt here = some .directory) (hfreeY : d.entryAt (here ++ [y]) ≠ some .directory)

include haside hl hd hfreeY

theorem leads_of_sameBut {d' : Disk} (hs : SameBut [here ++ [y], here ++ [x]] d d')
    (hx : d.entryAt (here ++ [x]) = some .directory →
      d'.entryAt (here ++ [x]) = some .directory) :
    d'.Leads p links here ∧ d'.entryAt here = some .directory :=
  ⟨(hs.keepsWays (by simp) (by simp) (fun h0 => absurd h0 hfreeY) hx).leads
    ((aside_push hxy).mp haside links here hl), (hs.entry here (by simp)).trans hd⟩

theorem leads_of_metrics (metrics : ByteArray) :
    SameBut [here ++ [y], here ++ [x]] d (d.put (here ++ [y]) (.file metrics)) ∧
      (d.put (here ++ [y]) (.file metrics)).Leads p links here ∧
      (d.put (here ++ [y]) (.file metrics)).entryAt here = some .directory := by
  have hne : here ++ [x] ≠ here ++ [y] := fun h0 => hxy.ne (by simpa using h0)
  have hput := entryAt_put d (l := here ++ [y]) (by simp) (.file metrics)
  have hsame : SameBut [here ++ [y], here ++ [x]] d (d.put (here ++ [y]) (.file metrics)) := by
    refine ⟨rfl, fun l hl => ?_⟩
    simp only [List.mem_cons, List.not_mem_nil, or_false, not_or] at hl
    rw [hput, if_neg hl.1]
  exact ⟨hsame, leads_of_sameBut hxy haside hl hd hfreeY hsame fun h0 => by rw [hput, if_neg hne, h0]⟩

theorem settled_written (dump metrics : ByteArray) {s t : Stamp}
    (hfreeX : d.entryAt (here ++ [x]) ≠ some .directory) (hroomY : Writable p y s)
    (hroomX : Writable p x t) :
    let d' := (d.put (here ++ [y]) (.file metrics)).put (here ++ [x]) (.file dump)
    PairSettled ⟨p.push x, p.push y⟩ dump metrics d (.ok ()) (.ok ()) d' ∧
      SameBut [here ++ [y], here ++ [x]] d d' ∧ d'.Leads p links here := by
  intro d'
  have hne : here ++ [y] ≠ here ++ [x] := fun h0 => hxy.ne (by simpa using h0.symm)
  have hputY := entryAt_put d (l := here ++ [y]) (by simp) (.file metrics)
  have hputX : ∀ k, d'.entryAt k = _ :=
    entryAt_put (d.put (here ++ [y]) (.file metrics)) (l := here ++ [x]) (by simp) (.file dump)
  have hsame : SameBut [here ++ [y], here ++ [x]] d d' := by
    refine ⟨rfl, fun l hl => ?_⟩
    simp only [List.mem_cons, List.not_mem_nil, or_false, not_or] at hl
    rw [hputX, if_neg hl.2, hputY, if_neg hl.1]
  obtain ⟨hl', hd'⟩ := leads_of_sameBut hxy haside hl hd hfreeY hsame fun h0 => absurd h0 hfreeX
  have hfileX : d'.entryAt (here ++ [x]) = some (.file dump) := by rw [hputX, if_pos rfl]
  have hfileY : d'.entryAt (here ++ [y]) = some (.file metrics) := by
    rw [hputX, if_neg hne, hputY, if_pos rfl]
  have hatX := at_push hxy.dump hl' hd' hroomX.target hroomX.name_short (by simp [hfileX])
  have hatY := at_push hxy.metrics hl' hd' hroomY.target hroomY.name_short (by simp [hfileY])
  exact ⟨.written (hatY.find_some hfileY) (hatX.find_some hfileX) hsame, hsame, hl'⟩

/-- The dump could not be written, and the metrics file is taken away. -/
theorem settled_withdrawn (dump metrics : ByteArray) {s : Stamp} (hroomY : Writable p y s)
    (e : CensusError) :
    let d1 := d.put (here ++ [y]) (.file metrics)
    d1.removeFile (p.push y) = .ok (d1.erase (here ++ [y])) ∧
      PairSettled ⟨p.push x, p.push y⟩ dump metrics d (.ok ()) (.error e) (d1.erase (here ++ [y])) ∧
      SameBut [here ++ [y], here ++ [x]] d (d1.erase (here ++ [y])) ∧
      (d1.erase (here ++ [y])).Leads p links here := by
  intro d1
  have hne : here ++ [x] ≠ here ++ [y] := fun h0 => hxy.ne (by simpa using h0)
  have hput : ∀ k, d1.entryAt k = _ := entryAt_put d (l := here ++ [y]) (by simp) (.file metrics)
  have herase := entryAt_erase d1 (l := here ++ [y]) (by simp)
  obtain ⟨-, hl1, hd1⟩ := leads_of_metrics hxy haside hl hd hfreeY metrics
  have hfile : d1.entryAt (here ++ [y]) = some (.file metrics) := by rw [hput, if_pos rfl]
  have hat1 : d1.At (p.push y) (here ++ [y]) :=
    at_push hxy.metrics hl1 hd1 hroomY.target hroomY.name_short (by simp [hfile])
  have hsame : SameBut [here ++ [y]] d (d1.erase (here ++ [y])) := by
    refine ⟨rfl, fun l hl => ?_⟩
    simp only [List.mem_cons, List.not_mem_nil, or_false] at hl
    rw [herase, if_neg hl, hput, if_neg hl]
  have hsame2 : SameBut [here ++ [y], here ++ [x]] d (d1.erase (here ++ [y])) :=
    ⟨hsame.home, fun l hl => hsame.entry l (by simp at hl ⊢; exact hl.1)⟩
  have hsameX := hsame.entry (here ++ [x]) (by simpa using hne)
  obtain ⟨hl', hd'⟩ := leads_of_sameBut hxy haside hl hd hfreeY hsame2
    fun h0 => by rw [hsameX, h0]
  have hnone : (d1.erase (here ++ [y])).entryAt (here ++ [y]) = none := by rw [herase, if_pos rfl]
  have hat := at_push hxy.metrics hl' hd' hroomY.target hroomY.name_short (by simp [hnone])
  refine ⟨hat1.removeFile_file hfile, .withdrawn ?_ (hat.find_none hnone false) ?_ hsame, hsame2, hl'⟩
  · exact locate_push_place hxy.metrics hl hd hroomY.target hroomY.name_short (by simp)
  · exact find_push_congr hxy.dump hl hl' hd hd' hsameX

end Ways

/-- A pair is settled where its directory is led to. -/
theorem settled_of_leads (dump metrics : ByteArray)
    (hfree : w.disk.FreeFor ⟨p.push x, p.push y⟩ w.process w.clock)
    (haside : w.disk.Aside ⟨p.push x, p.push y⟩) (hl : w.disk.Leads p links here)
    (hd : w.disk.entryAt here = some .directory) :
    ∃ step w1 result w', (writeInPlace (p.push y) metrics).run.run w = (step, w1) ∧
      (writePair ⟨p.push x, p.push y⟩ dump metrics).run.run w = (result, w') ∧
      PairSettled ⟨p.push x, p.push y⟩ dump metrics w.disk step result w'.disk ∧
      SameBut [here ++ [y], here ++ [x]] w.disk w'.disk ∧ w'.disk.Leads p links here := by
  obtain ⟨d, process, clock, log⟩ := w
  dsimp only at hfree haside hl hd
  have hmetrics := run_writeInPlace_of_leads (w := ⟨d, process, clock, log⟩) metrics hxy.metrics hl hd
    ((freeFor_push hxy).mp hfree).1
  have hpair := run_writePair ⟨p.push x, p.push y⟩ dump metrics ⟨d, process, clock, log⟩
  dsimp only at hmetrics hpair
  rw [hmetrics] at hpair
  cases hfaultY : writeFault p y ⟨process, clock⟩ (d.hasDir (here ++ [y])) with
  | some qf =>
    rw [hfaultY] at hpair hmetrics
    exact ⟨_, _, _, _, hmetrics, hpair, .unwritten, ⟨rfl, fun _ _ => rfl⟩, hl⟩
  | none =>
    rw [hfaultY] at hpair hmetrics
    obtain ⟨hroomY, htaken⟩ := writeFault_eq_none.mp hfaultY
    have hfreeY : d.entryAt (here ++ [y]) ≠ some .directory := fun h0 => by
      simp [(hasDir_iff d _).mpr h0] at htaken
    obtain ⟨hsame1, hl1, hd1⟩ := leads_of_metrics hxy haside hl hd hfreeY metrics
    -- the way is the same with the metrics file in its place, so the dump goes to the same directory
    have hdump := run_writeInPlace_of_leads
      (w := ⟨d.put (here ++ [y]) (.file metrics), process, clock + 1, log⟩) dump hxy.dump hl1 hd1
      ((freeFor_push hxy).mp (freeFor_of_sameBut hxy hfree hsame1 hl hl1 hd hd1)).2
    dsimp only at hdump hpair hmetrics
    rw [hdump] at hpair
    cases hfaultX : writeFault p x ⟨process, clock + 1⟩
        ((d.put (here ++ [y]) (.file metrics)).hasDir (here ++ [x])) with
    | none =>
      rw [hfaultX] at hpair
      obtain ⟨hroomX, htaken⟩ := writeFault_eq_none.mp hfaultX
      have hfreeX : d.entryAt (here ++ [x]) ≠ some .directory := by
        intro h0
        have hne : here ++ [x] ≠ here ++ [y] := fun h0 => hxy.ne (by simpa using h0)
        have hput := entryAt_put d (l := here ++ [y]) (by simp) (.file metrics) (here ++ [x])
        rw [if_neg hne, h0] at hput
        simp [(hasDir_iff _ _).mpr hput] at htaken
      exact ⟨_, _, _, _, hmetrics, hpair,
        settled_written hxy haside hl hd hfreeY dump metrics hfreeX hroomY hroomX⟩
    | some qf =>
      rw [hfaultX] at hpair
      obtain ⟨hremove, hsettled⟩ := settled_withdrawn hxy haside hl hd hfreeY dump metrics hroomY
        (.ofFault qf.1 qf.2)
      have hgone := run_discardOrphan_of_removed
        (w := ⟨d.put (here ++ [y]) (.file metrics), process, clock + 1 + 1, log⟩) hremove
      dsimp only at hgone hpair
      rw [hgone] at hpair
      exact ⟨_, _, _, _, hmetrics, hpair, hsettled⟩

end Beside

/-! ### Plain disks -/

/-- Where no name begins with a dot, nothing is in the way of temporary files. -/
theorem Disk.Plain.freeFor (h : d.Plain) (paths : ArtifactPaths) (process time : Nat) :
    d.FreeFor paths process time := by
  have key : ∀ (dir : Path) (n : Octets) (stamp : Stamp), Path.IsName n →
      d.Free (dir.push (temporaryName n stamp)) := by
    intro dir n stamp hn r hfind
    have hname := isName_temporaryName hn stamp
    obtain ⟨spot, hspot, -, he, -⟩ := find_eq_ok_iff.mp hfind
    obtain ⟨here, hhere⟩ := location_of_endsIn ⟨hname.ne_current, hname.ne_parent⟩
      (fun here t => h.noLinks (by simp)) (endsIn_push dir hname) hspot
    have hentry := (walk_ok (locate_eq_ok_iff.mp hspot).2).1.trans he
    rw [hhere] at hentry
    have hdot := (h _ (mem_of_entryAt (by simp) hentry)).2 (temporaryName n stamp) (by simp)
    rw [octets_temporaryName] at hdot
    exact hdot rfl
  intro dir x y _ hx hy
  exact ⟨key dir y _ (isName_of_fileName hy), key dir x _ (isName_of_fileName hx)⟩

/-- Without links no way goes through one. -/
theorem Disk.Plain.aside (h : d.Plain) (paths : ArtifactPaths) : d.Aside paths := by
  have hsame : ∀ l, d.unlinked l = d := by
    intro l
    unfold unlinked
    split
    · rename_i t ht
      by_cases hl : l = []
      · subst hl
        cases ht
      · exact absurd ht (h.noLinks hl)
    · rfl
  intro dir x y _ _ _ links here hl
  rw [hsame, hsame]
  exact hl

/-! ### All or nothing -/

/-- A pair of a class is written all or nothing, and no temporary file of it remains. -/
theorem writePair_all_or_nothing (root : Path) (className : String) (dump metrics : ByteArray)
    (hd : w.disk.Sound)
    (hfree : w.disk.FreeFor (ArtifactPaths.ofClass root className) w.process w.clock)
    (haside : w.disk.Aside (ArtifactPaths.ofClass root className)) :
    ∃ step w1 result w',
      (writeInPlace (ArtifactPaths.ofClass root className).metrics metrics).run.run w = (step, w1) ∧
      (writePair (ArtifactPaths.ofClass root className) dump metrics).run.run w = (result, w') ∧
      PairSettled (ArtifactPaths.ofClass root className) dump metrics w.disk step result w'.disk ∧
      w'.disk.FreeFor (ArtifactPaths.ofClass root className) w.process w.clock := by
  rcases ArtifactPaths.ofClass_cases root className with
    ⟨hnone, heq⟩ | ⟨dir, -, x, y, -, -, hxy, heq⟩
  · rw [heq] at hfree ⊢
    obtain ⟨e, he⟩ := run_writePair_of_nameless hnone
    obtain ⟨hpair, hmetrics⟩ := he dump metrics w
    exact ⟨_, _, _, _, hmetrics, hpair, .unwritten, hfree⟩
  · rw [heq] at hfree haside ⊢
    cases hdesc : w.disk.descend linkLimit (w.disk.startOf dir) dir.steps with
    | error f =>
      have hmetrics := run_writeInPlace_of_lost metrics hxy.metrics hdesc
      have hpair := run_writePair ⟨dir.push x, dir.push y⟩ dump metrics w
      dsimp only at hmetrics hpair
      rw [hmetrics] at hpair
      exact ⟨_, _, _, _, hmetrics, hpair, .unwritten, hfree⟩
    | ok r =>
      obtain ⟨links, here⟩ := r
      have hl : w.disk.Leads dir links here := leads_iff.mpr hdesc
      have hdir := hd.directory_of_leads hl
      obtain ⟨step, w1, result, w', hmetrics, hpair, hsettled, hsame, hl'⟩ :=
        settled_of_leads hxy dump metrics hfree haside hl hdir
      exact ⟨step, w1, result, w', hmetrics, hpair, hsettled,
        freeFor_of_sameBut hxy hfree hsame hl hl' hdir
          ((hsame.entry here (by simp)).trans hdir)⟩

/-- A pair in a directory with an older dump. -/
theorem writePair_over_dump :
    let start : Disk := ⟨[(["out"], .directory), (["out", "X.ir"], .file ⟨#[1]⟩)], []⟩
    let paths := ArtifactPaths.ofClass ⟨"out"⟩ "X"
    start.Sound ∧ start.FreeFor paths 7 1 ∧ start.Aside paths ∧
      ∃ step w1 result w', (writeInPlace paths.metrics ⟨#[2]⟩).run.run ⟨start, 7, 1, []⟩ = (step, w1) ∧
        (writePair paths ⟨#[3]⟩ ⟨#[2]⟩).run.run ⟨start, 7, 1, []⟩ = (result, w') ∧
        PairSettled paths ⟨#[3]⟩ ⟨#[2]⟩ start step result w'.disk ∧ w'.disk.FreeFor paths 7 1 := by
  intro start paths
  have hsound : start.Sound := .of_entries (by decide +kernel) (by decide)
  have hplain : start.Plain := by decide +kernel
  exact ⟨hsound, hplain.freeFor paths 7 1, hplain.aside paths,
    writePair_all_or_nothing (w := ⟨start, 7, 1, []⟩) ⟨"out"⟩ "X" ⟨#[3]⟩ ⟨#[2]⟩ hsound
      (hplain.freeFor paths 7 1) (hplain.aside paths)⟩

/-- A pair is not written all or nothing where the way to its directory goes through a link in the place
of one of its files. A link in the place of the metrics file leads nowhere once that file is written, so
that the dump cannot be written and the metrics file stays. A link in the place of the dump leads
nowhere in the end, so that the metrics file is not found. -/
theorem writePair_by_halves :
    (let start : Disk := ⟨[(["out"], .directory), (["out", "q"], .directory),
        (["out", "p"], .link ⟨"q/X.json"⟩), (["out", "q", "X.json"], .link ⟨"."⟩)], []⟩
      let paths := ArtifactPaths.ofClass ⟨"out"⟩ "p.X"
      let out := (writePair paths ⟨#[3]⟩ ⟨#[2]⟩).run.run ⟨start, 7, 1, []⟩
      start.Sound ∧ start.FreeFor paths 7 1 ∧
        start.linkStatus paths.metrics = .ok .link ∧
        start.linkStatus ⟨"out/q/X.json"⟩ = .ok .link ∧
        out.1.isOk = false ∧ out.2.disk.read ⟨"out/q/X.json"⟩ = .ok ⟨#[2]⟩) ∧
    (let start : Disk := ⟨[(["out"], .directory), (["out", "q"], .directory),
        (["out", "p"], .link ⟨"q/X.ir"⟩), (["out", "q", "X.ir"], .link ⟨"."⟩)], []⟩
      let paths := ArtifactPaths.ofClass ⟨"out"⟩ "p.X"
      let out := (writePair paths ⟨#[3]⟩ ⟨#[2]⟩).run.run ⟨start, 7, 1, []⟩
      start.Sound ∧ start.FreeFor paths 7 1 ∧ out.1 = .ok () ∧
        out.2.disk.read paths.metrics = .error .notDirectory) := by
  refine ⟨?_, ?_⟩
  · intro start paths out
    have hfree : start.FreeFor paths 7 1 :=
      .of_isOk ⟨"out/p"⟩ "X.ir" "X.json" (by decide +kernel)
        (by decide +kernel) (by decide +kernel) (by decide +kernel) (by decide +kernel)
    exact ⟨.of_entries (by decide +kernel) (by decide), hfree, by decide +kernel,
      by decide +kernel, by decide +kernel, by decide +kernel⟩
  · intro start paths out
    have hfree : start.FreeFor paths 7 1 :=
      .of_isOk ⟨"out/p"⟩ "X.ir" "X.json" (by decide +kernel)
        (by decide +kernel) (by decide +kernel) (by decide +kernel) (by decide +kernel)
    exact ⟨.of_entries (by decide +kernel) (by decide), hfree, by decide +kernel,
      by decide +kernel⟩

end ClassCensus
