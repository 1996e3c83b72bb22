import ClassCensus.Proofs.Disk.Overlaid
import ClassCensus.Proofs.Generation.PairWriting
import ClassCensus.Proofs.Generation.TurnSteps

/-!
# Steady worlds

In a steady world nothing has the name of a temporary file of a time to come (`Steady`). A run that keeps
what is there goes on from steady worlds to steady worlds, over disks that overlay each other (`Onward`):
making the directory of a pair does so (`Steady.prepared_makeParent`), writing the pair
(`Steady.onward_writePair`), and so every turn (`Steady.onward_generateClass`) and every run over classes
(`Steady.onward_generateAll`), whatever the names of the classes are. A root that was reached once is made
again without a change (`Steady.reopened`).
-/

namespace ClassCensus

open Disk

/-- The name of a temporary file of a time to come. -/
def World.Awaits (w : World) (name : Octets) : Prop :=
  ∃ file time, w.clock ≤ time ∧ name = temporaryName file ⟨w.process, time⟩

theorem World.Awaits.dotted {w : World} {name : Octets} (h : w.Awaits name) : Octet.dot ∈ name := by
  obtain ⟨file, time, -, rfl⟩ := h
  rw [octets_temporaryName]
  exact List.mem_cons_self ..

/-- Nothing on the disk, and no step of the output root, has the name of a temporary file of a time to
come. -/
structure Steady (root : Path) (w : World) : Prop where
  sound : w.disk.Sound
  free : ∀ here name, w.Awaits name → w.disk.entryAt (here ++ [name]) = none
  root : ∀ name ∈ root.steps, ¬w.Awaits name

/-- A steady world later on, with directories where nothing was and files where nothing was or in the
places of files and links. -/
structure Onward (root : Path) (w w' : World) : Prop where
  process : w'.process = w.process
  clock : w.clock ≤ w'.clock
  overlaid : Overlaid w.disk w'.disk
  steady : Steady root w'

section Worlds

variable {root dir : Path} {n : String} {w w' w'' : World}

theorem World.Awaits.of_later {name : Octets} (hp : w'.process = w.process)
    (hc : w.clock ≤ w'.clock)
    (h : w'.Awaits name) : w.Awaits name := by
  obtain ⟨file, time, ht, rfl⟩ := h
  exact ⟨file, time, Nat.le_trans hc ht, by rw [hp]⟩

namespace Onward

theorem refl (h : Steady root w) : Onward root w w := ⟨rfl, Nat.le_refl _, .refl _, h⟩

theorem trans (h : Onward root w w') (h' : Onward root w' w'') : Onward root w w'' :=
  ⟨h'.process.trans h.process, Nat.le_trans h.clock h'.clock, h.overlaid.trans h'.overlaid, h'.steady⟩

theorem of_passes (h : Steady root w) (hp : w.Passes w') : Onward root w w' := by
  refine ⟨hp.process, hp.clock, hp.disk ▸ .refl _, ?_, ?_, ?_⟩
  · exact hp.disk ▸ h.sound
  · intro here name hname
    rw [hp.disk]
    exact h.free here name (hname.of_later hp.process hp.clock)
  · exact fun name hmem hname => h.root name hmem (hname.of_later hp.process hp.clock)

theorem awaits (h : Onward root w w') {name : Octets} (hname : w'.Awaits name) : w.Awaits name :=
  hname.of_later h.process h.clock

theorem put {here : Location} {name : Octets} {e : Entry} {process clock : Nat} {log : List Event}
    (h : Steady root w) (hprocess : process = w.process) (hclock : w.clock ≤ clock)
    (hhere : w.disk.entryAt here = some .directory) (hname : ¬w.Awaits name)
    (he : e = .directory ∧ w.disk.entryAt (here ++ [name]) = none ∨
      (∃ b, e = .file b) ∧ w.disk.entryAt (here ++ [name]) ≠ some .directory) :
    Onward root w ⟨w.disk.put (here ++ [name]) e, process, clock, log⟩ := by
  have hput := entryAt_put w.disk (l := here ++ [name]) (by simp) e
  have hoverlaid : Overlaid w.disk (w.disk.put (here ++ [name]) e) := by
    rcases he with ⟨rfl, hnone⟩ | ⟨⟨b, rfl⟩, hno⟩
    · have hadds : AddsDirs (fun _ => True) w.disk (w.disk.put (here ++ [name]) .directory) :=
        .put (by simp) hnone trivial
      exact .of_addsDirs hadds
    · exact .put_file (by simp) b hno
  refine ⟨hprocess, hclock, hoverlaid, ⟨?_, hoverlaid.directory _ h.sound.home⟩, ?_, ?_⟩
  · exact h.sound.tree.put hhere (he.imp (·.1) (·.2))
  · intro there other hother
    have hother : w.Awaits other := hother.of_later (w := w) hprocess hclock
    have hne : there ++ [other] ≠ here ++ [name] := by
      intro h0
      obtain ⟨-, h0⟩ := List.append_inj' h0 rfl
      exact hname (List.singleton_inj.mp h0 ▸ hother)
    rw [hput, if_neg hne]
    exact h.free there other hother
  · exact fun other hmem hother =>
      h.root other hmem (hother.of_later (w := w) hprocess hclock)

end Onward

/-! ### Directories -/

theorem Steady.onward_makeDirs (h : Steady root w) (hdir : ∀ name ∈ dir.steps, ¬w.Awaits name) :
    Onward root w ((makeDirs dir).run w).2 := by
  refine ((performs_makeDirs dir).ensures ?_ (Onward.refl h)).result
  rintro m s (hs | ⟨q, hq, rfl⟩) hm
  · exact hm.trans (.of_passes hm.steady (World.passes_perform hs))
  · refine hm.trans ?_
    change Onward root m (m.change (m.disk.makeDir q)).2
    cases hmade : m.disk.makeDir q with
    | error f => exact .refl hm.steady
    | ok d' =>
      obtain ⟨front, name, links, here, hsteps, -, -, -, hhere, hnone, rfl⟩ := makeDir_steps hmade
      have hmem : name ∈ dir.steps := hq.steps.subset (by simp [hsteps])
      exact .put hm.steady rfl (Nat.le_refl _) hhere (fun h0 => hdir name hmem (hm.awaits h0))
        (.inl ⟨rfl, hnone⟩)

theorem Steady.not_awaited_of_parent (h : Steady root w)
    (hdir : (ArtifactPaths.ofClass root n).parent = some dir) :
    ∀ name ∈ dir.steps, ¬w.Awaits name := by
  intro name hmem
  -- a name of the directory stands in the root, or it has no dot, which a temporary name begins with
  rcases ArtifactPaths.parent_cases hdir with h0 | ⟨names, hnames, hsteps⟩
  · simp [Path.steps_of_empty h0] at hmem
  · have hdotless : name ∈ names → ¬w.Awaits name :=
      fun hmem hname => (hnames name hmem).2 hname.dotted
    rcases hsteps with ⟨hsteps, -⟩ | hsteps
    · exact (List.mem_append.mp (hsteps.subset hmem)).elim (h.root name) hdotless
    · exact hdotless (hsteps.subset hmem)

theorem Steady.stuck_or_forward (h : Steady root w) (hroot : w.disk.Reached root)
    (hdir : (ArtifactPaths.ofClass root n).parent = some dir) :
    w.disk.Stuck dir ∨ w.disk.Forward dir := by
  rcases ArtifactPaths.parent_cases hdir with h0 | ⟨names, hnames, hsteps⟩
  · exact .inr (forward_of_no_back (by simp [Path.steps_of_empty h0]))
  · have hback : [Octet.dot, Octet.dot] ∉ names := fun hmem => (hnames _ hmem).1.ne_parent rfl
    rcases hsteps with ⟨hsteps, hhead⟩ | hsteps
    · exact hroot.stuck_or_forward h.sound.tree (h.sound.start root) hsteps hback (startOf_congr _ hhead)
    · exact .inr (forward_of_no_back fun hmem => hback (hsteps.subset hmem))

theorem Steady.makeDirs_of_reached {p : Path} (h : Steady root w) (hp : w.disk.Reached p) :
    ((makeDirs p).run w).2.disk = w.disk := by
  rcases hp.ready_or_stuck h.sound.tree (h.sound.start p) with h0 | hready | hstuck
  · exact (ensures_makeDirs p w h.sound.tree).result.2.1 h0
  · exact congrArg World.disk (ensures_of_ready hready _).result.2
  · exact congrArg World.disk (ensures_of_stuck hstuck _).result.2

theorem eq_ok_of_mapError {α : Type} {r : Except DiskFault α} {f : DiskFault → CensusError} {a : α}
    (h : r.mapError f = .ok a) : r = .ok a := by
  cases r with
  | ok b => exact congrArg _ (Except.ok.inj h)
  | error g => cases h

theorem Steady.leads_of_makeDirs {p : Path} (h : Steady root w)
    (hok : ((makeDirs p).run w).1 = .ok ()) :
    ∃ links here, ((makeDirs p).run w).2.disk.Leads p links here := by
  rcases (ensures_makeDirs p w h.sound.tree).result.2.2 hok with h0 | hready
  · exact ⟨_, _, leads_of_empty h0⟩
  · obtain ⟨links, here, hl, -⟩ := hready.arrives
    exact ⟨links, here, hl⟩

/-- Where the path of a class has no file name its parent lies above the root. -/
theorem reached_of_nameless {d : Disk} (hroot : d.Reached root)
    (hnone : (ArtifactPaths.base root n).fileName = none)
    (hdir : (ArtifactPaths.base root n).parent = some dir) : d.Reached dir := by
  rcases Path.steps_of_parent hdir with h0 | ⟨hhead, name, hsteps⟩
  · exact (leads_of_empty h0).reached
  obtain ⟨names, hnames, hbase⟩ := ArtifactPaths.base_cases root n
  rcases List.eq_nil_or_concat names with rfl | ⟨front, last, rfl⟩
  · rcases hbase with ⟨hbase, hbaseHead⟩ | hbase
    · rw [List.append_nil] at hbase
      exact hroot.above (hbase ▸ hsteps ▸ List.prefix_append ..) (startOf_congr d (hhead.trans hbaseHead))
    · rw [hbase] at hsteps
      simp at hsteps
  · have hlast := (hnames last (by simp)).1
    have hend : ∃ before, (ArtifactPaths.base root n).steps = before ++ [last] := by
      rcases hbase with ⟨hbase, -⟩ | hbase
      · exact ⟨root.steps ++ front, by rw [hbase, List.concat_eq_append, List.append_assoc]⟩
      · exact ⟨front, by rw [hbase, List.concat_eq_append]⟩
    obtain ⟨before, hbefore⟩ := hend
    rw [Path.fileName_of_steps (by simp [hbefore]) hlast.ne_parent] at hnone
    cases hnone

/-- The directory of the artifacts of a class has been made. -/
structure Prepared (root : Path) (n : String) (w w' : World) : Prop where
  onward : Onward root w w'
  clock : w'.clock = w.clock
  adds : AddsDirs (fun _ => True) w.disk w'.disk
  /-- Whatever is there the directory of a pair is empty, unless nothing has happened. -/
  vacant : w'.disk = w.disk ∨ ∃ dir x y, PairNames x y ∧
    ArtifactPaths.ofClass root n = ⟨dir.push x, dir.push y⟩ ∧ w'.disk.Vacant dir

/-- The directory of the pair of a class is led to. -/
def Disk.PairLed (d : Disk) (root : Path) (n : String) : Prop :=
  ∀ dir x y, PairNames x y → ArtifactPaths.ofClass root n = ⟨dir.push x, dir.push y⟩ →
    ∃ links here, d.Leads dir links here

/-- Whatever comes of it, no more than directories are made, and on success the directory of a pair is led
to. -/
theorem Steady.prepared_makeParent (h : Steady root w) (hroot : w.disk.Reached root)
    {r : Except CensusError Unit}
    (hrun : (makeParent (ArtifactPaths.ofClass root n)).run.run w = (r, w')) :
    Prepared root n w w' ∧ (r = .ok () → w'.disk.PairLed root n) := by
  unfold makeParent at hrun
  cases hdir : (ArtifactPaths.ofClass root n).parent with
  | none =>
    rw [hdir] at hrun
    cases hrun
    refine ⟨⟨.refl h, rfl, .refl _, .inl rfl⟩, fun _ dir x y hxy hof => ?_⟩
    rw [hof] at hdir
    cases (dir.parent_push hxy.dump).symm.trans hdir
  | some dir =>
    rw [hdir] at hrun
    dsimp only at hrun
    rw [Attempt.run_atPath] at hrun
    obtain ⟨hr, rfl⟩ := Prod.mk.inj hrun
    have hmade := (ensures_makeDirs dir w h.sound.tree).result
    refine ⟨⟨h.onward_makeDirs (h.not_awaited_of_parent hdir), hmade.1.clock, hmade.1.adds, ?_⟩, ?_⟩
    · -- a directory that has been made is empty, unless it is one above the root
      rcases h.stuck_or_forward hroot hdir with hstuck | hforward
      · exact .inl (congrArg World.disk (ensures_of_stuck hstuck _).result.2)
      rcases ArtifactPaths.ofClass_cases root n with ⟨hnone, hof⟩ | ⟨dir', -, x, y, -, -, hxy, hof⟩
      · rw [hof] at hdir
        exact .inl (h.makeDirs_of_reached (reached_of_nameless hroot hnone hdir))
      · rw [hof] at hdir
        obtain rfl := Option.some.inj ((dir'.parent_push hxy.dump).symm.trans hdir)
        refine (hmade.1.vacant hforward).imp_right fun hvacant => ⟨dir', x, y, hxy, hof, ?_⟩
        exact fun links here hl => hvacant links here (leads_trimmed.mpr hl)
    · rintro rfl dir' x y hxy hof
      rw [hof] at hdir
      obtain rfl := Option.some.inj ((dir'.parent_push hxy.dump).symm.trans hdir)
      obtain ⟨links, here, hl⟩ := h.leads_of_makeDirs (eq_ok_of_mapError hr)
      exact ⟨links, here, leads_trimmed.mp hl⟩

theorem Disk.Vacant.find_push {d : Disk} {name : Octets} (h : d.Vacant dir)
    (hname : Path.IsName name)
    {fl : Bool} (r : Location × Entry) : d.find fl (dir.push name) ≠ .ok r := by
  intro hr
  obtain ⟨links, here, hl, he⟩ := entry_of_find_push hname hr
  exact he (h links here hl [name] (by simp))

/-- Artifacts that are found when their directory has been made were found before. -/
theorem Prepared.find_eq (h : Prepared root n w w') {fl : Bool} {path : Path} {r : Location × Entry}
    (hpath : path = (ArtifactPaths.ofClass root n).dump ∨ path = (ArtifactPaths.ofClass root n).metrics)
    (hfind : w'.disk.find fl path = .ok r) : w.disk.find fl path = .ok r := by
  rcases h.vacant with hsame | ⟨dir, x, y, hxy, hof, hvacant⟩
  · exact hsame ▸ hfind
  · rw [hof] at hpath
    rcases hpath with rfl | rfl
    · exact absurd hfind (hvacant.find_push hxy.dump r)
    · exact absurd hfind (hvacant.find_push hxy.metrics r)

/-- Where a pair is about to be written: its directory is led to, and no directory is in the place of its
dump. -/
structure Disk.PairOpen (d : Disk) (root : Path) (n : String) : Prop where
  led : d.PairLed root n
  clear : d.status (ArtifactPaths.ofClass root n).dump ≠ .ok .directory

theorem Prepared.pairOpen (h : Prepared root n w w') (hled : w'.disk.PairLed root n)
    (hdump : ¬(w.disk.status (ArtifactPaths.ofClass root n).dump).isOk) : w'.disk.PairOpen root n := by
  refine ⟨hled, fun hdir => ?_⟩
  cases hfind : w'.disk.find true (ArtifactPaths.ofClass root n).dump with
  | error f =>
    simp only [status, hfind] at hdir
    cases hdir
  | ok r =>
    refine hdump ?_
    simp only [status, h.find_eq (.inl rfl) hfind]
    rfl

end Worlds

/-! ### Pairs -/

section Pairs

variable {w : World} {p : Path} {links : Nat} {here : Location} {x y : Octets}

theorem run_discardOrphan_of_fault {path : Path} {f : DiskFault}
    (h : w.disk.removeFile path = .error f) :
    ∃ log, ((discardOrphan path).run w).2 = { w with log := log } := by
  have hstep : (Job.ofStep (.removeFile path)).run w = (.error f, w) := by
    change w.change (w.disk.removeFile path) = _
    rw [h]
    rfl
  unfold discardOrphan
  change ∃ log, (Job.run (Job.bind (Job.ofStep (.removeFile path)) _) w).2 = { w with log := log }
  rw [Job.run_bind, hstep]
  cases f <;> exact ⟨_, rfl⟩

theorem removeFile_of_lost {d : Disk} {name : Octets} {f : DiskFault} (hname : Path.IsName name)
    (hcheck : checkPath (p.push name) = .ok ())
    (hlost : d.descend linkLimit (d.startOf p) p.steps = .error f) :
    d.removeFile (p.push name) = .error f := by
  have hlocate := locate_push (d := d) false hname hcheck
  rw [hlost] at hlocate
  simp only [removeFile, find, hlocate]
  rfl

/-- If the metrics file can be written, a directory in the place of the dump is found. -/
theorem PairNames.no_directory {d : Disk} {process time : Nat} (hxy : PairNames x y)
    (hl : d.Leads p links here) (hd : d.entryAt here = some .directory)
    (hroom : Writable p y ⟨process, time⟩) (hdump : d.status (p.push x) ≠ .ok .directory) :
    d.entryAt (here ++ [x]) ≠ some .directory := by
  intro h0
  have hroomX := hroom.of_shorter_name hxy.dump hxy.metrics hxy.shorter
  have hat := at_push hxy.dump hl hd hroomX.target hroomX.name_short (by simp [h0])
  refine hdump ?_
  simp only [status, hat.find_some h0 true]
  rfl

/-- A pair is written where its directory is led to, nothing is in the way of its temporary files and no
directory is in the place of the dump: the metrics file cannot be written, or it can and the dump too,
unless the metrics file has taken the place of a link on the way to the directory. -/
theorem run_writePair_of_leads (hxy : PairNames x y) (dump metrics : ByteArray)
    (hl : w.disk.Leads p links here) (hd : w.disk.entryAt here = some .directory)
    (hfreeY : w.disk.entryAt (here ++ [temporaryName y ⟨w.process, w.clock⟩]) = none)
    (hfreeX : w.disk.entryAt (here ++ [temporaryName x ⟨w.process, w.clock + 1⟩]) = none)
    (hdump : w.disk.status (p.push x) ≠ .ok .directory) :
    ∃ log, (writePair ⟨p.push x, p.push y⟩ dump metrics).run.run w =
      match writeFault p y ⟨w.process, w.clock⟩ (w.disk.hasDir (here ++ [y])) with
      | some (q, f) => (.error (.ofFault q f), ⟨w.disk, w.process, w.clock + 1, log⟩)
      | none =>
        let d := w.disk.put (here ++ [y]) (.file metrics)
        match d.descend linkLimit (d.startOf p) p.steps with
        | .error f =>
          (.error (.ofFault (p.trimmed.push (temporaryName x ⟨w.process, w.clock + 1⟩)) f),
            ⟨d, w.process, w.clock + 2, log⟩)
        | .ok _ =>
          (.ok (), ⟨d.put (here ++ [x]) (.file dump), w.process, w.clock + 2, log⟩) := by
  obtain ⟨d, process, clock, log⟩ := w
  dsimp only at hl hd hfreeY hfreeX hdump ⊢
  have hmetrics := run_writeInPlace_of_leads (w := ⟨d, process, clock, log⟩) metrics hxy.metrics hl hd
    (free_of_entry (isName_temporaryName hxy.metrics _) (leads_trimmed.mpr hl) hfreeY)
  rw [run_writePair]
  dsimp only at hmetrics ⊢
  rw [hmetrics]
  cases hfault : writeFault p y ⟨process, clock⟩ (d.hasDir (here ++ [y])) with
  | some qf => exact ⟨_, rfl⟩
  | none =>
    have hroomY := (writeFault_eq_none.mp hfault).1
    have hroomX : Writable p x ⟨process, clock + 1⟩ :=
      hroomY.of_shorter_name hxy.dump hxy.metrics hxy.shorter
    have hput := entryAt_put d (l := here ++ [y]) (by simp) (.file metrics)
    have hd1 : (d.put (here ++ [y]) (.file metrics)).entryAt here = some .directory := by
      rw [hput, if_neg (by simp), hd]
    have hback : KeepsWays (d.put (here ++ [y]) (.file metrics)) d := keepsWays_put_file (by simp) metrics
    generalize hd1' : d.put (here ++ [y]) (.file metrics) = d1 at hput hd1 hback ⊢
    dsimp only
    -- the metrics file may have come in the place of a link on the way to its own directory: then the
    -- dump is lost, and the metrics file is out of reach
    cases hdesc : d1.descend linkLimit (d1.startOf p) p.steps with
    | error f =>
      have hlost := run_writeInPlace_of_lost (w := ⟨d1, process, clock + 1, log⟩) dump hxy.dump hdesc
      dsimp only at hlost ⊢
      rw [hlost]
      obtain ⟨log', hlog⟩ := run_discardOrphan_of_fault (w := ⟨d1, process, clock + 1 + 1, log⟩)
        (removeFile_of_lost hxy.metrics hroomY.target hdesc)
      refine ⟨log', ?_⟩
      rw [hroomX.temporary]
      dsimp only
      rw [hlog]
    | ok r =>
      have hl1 : d1.Leads p links here := by
        obtain ⟨h1, h2⟩ := (hback.leads (leads_iff.mpr hdesc)).unique hl
        rw [leads_iff, hdesc, ← h1, ← h2]
      have htmp : d1.entryAt (here ++ [temporaryName x ⟨process, clock + 1⟩]) = none := by
        rw [hput, if_neg (fun h0 => hxy.metrics_ne x _ (by simpa using h0)), hfreeX]
      have hwrite := run_writeInPlace_of_leads (w := ⟨d1, process, clock + 1, log⟩) dump hxy.dump hl1 hd1
        (free_of_entry (isName_temporaryName hxy.dump _) (leads_trimmed.mpr hl1) htmp)
      have hnoX : d1.hasDir (here ++ [x]) = false := by
        by_contra h0
        rw [Bool.not_eq_false, hasDir_iff, hput, if_neg (fun h1 => hxy.ne (by simpa using h1))] at h0
        exact hxy.no_directory hl hd hroomY hdump h0
      dsimp only at hwrite ⊢
      rw [hwrite, writeFault_eq_none.mpr ⟨hroomX, hnoX⟩]
      exact ⟨log, rfl⟩

theorem Steady.onward_writePair {root : Path} {n : String} (h : Steady root w)
    (hopen : w.disk.PairOpen root n) (dump metrics : ByteArray) :
    Onward root w ((writePair (ArtifactPaths.ofClass root n) dump metrics).run.run w).2 := by
  rcases ArtifactPaths.ofClass_cases root n with ⟨hnone, hof⟩ | ⟨dir, -, x, y, -, -, hxy, hof⟩
  · rw [hof]
    obtain ⟨e, he⟩ := run_writePair_of_nameless hnone
    rw [(he dump metrics w).1]
    exact .refl h
  obtain ⟨links, here, hl⟩ := hopen.led dir x y hxy hof
  have hdir := hopen.clear
  rw [hof] at hdir ⊢
  have hd := h.sound.directory_of_leads hl
  obtain ⟨log, hrun⟩ := run_writePair_of_leads hxy dump metrics hl hd
    (h.free here _ ⟨y, w.clock, Nat.le_refl _, rfl⟩) (h.free here _ ⟨x, w.clock + 1, Nat.le_succ _, rfl⟩)
    hdir
  rw [hrun]
  have hmetrics : ¬w.Awaits y := fun ⟨file, time, _, hy⟩ => hxy.metrics_ne file _ hy.symm
  cases hfault : writeFault dir y ⟨w.process, w.clock⟩ (w.disk.hasDir (here ++ [y])) with
  | some qf => exact .of_passes h ⟨rfl, rfl, Nat.le_succ _⟩
  | none =>
    have hno : w.disk.entryAt (here ++ [y]) ≠ some .directory := fun h0 => by
      simpa [(hasDir_iff w.disk _).mpr h0] using (writeFault_eq_none.mp hfault).2
    -- the metrics file comes first, and the dump if its directory is still led to
    have hput : ∀ clock log, w.clock ≤ clock →
        Onward root w ⟨w.disk.put (here ++ [y]) (.file metrics), w.process, clock, log⟩ :=
      fun clock log hclock => .put h rfl hclock hd hmetrics (.inr ⟨⟨_, rfl⟩, hno⟩)
    dsimp only
    cases hdesc : (w.disk.put (here ++ [y]) (.file metrics)).descend linkLimit
        ((w.disk.put (here ++ [y]) (.file metrics)).startOf dir) dir.steps with
    | error f => exact hput _ _ (by omega)
    | ok r =>
      have h1 := hput (w.clock + 2) log (by omega)
      have hdump : ¬w.Awaits x := fun ⟨file, time, _, hx⟩ => hxy.dump_ne file _ hx.symm
      refine h1.trans (.put h1.steady rfl (Nat.le_refl _) (h1.overlaid.directory _ hd)
        (fun h0 => hdump (h1.awaits h0)) (.inr ⟨⟨_, rfl⟩, ?_⟩))
      rw [entryAt_put w.disk (by simp), if_neg (fun h0 => hxy.ne (by simpa using h0))]
      exact hxy.no_directory hl hd (writeFault_eq_none.mp hfault).1 hdir

end Pairs

/-! ### Turns -/

section Turns

variable {ε : Type} [ClassEngine ε] {p : Plan ε} {w : World}

theorem Steady.onward_generateArtifacts (h : Steady p.root w) (hroot : w.disk.Reached p.root)
    (hquiet : p.PrintsQuietly) (n : String) (hdump : ¬(w.disk.status (p.paths n).dump).isOk) :
    Onward p.root w
      ((generateArtifacts p.session p.isStack (p.paths n) n).run.run w).2 := by
  rw [p.run_generateArtifacts]
  rcases hparent : (makeParent (p.paths n)).run.run w with ⟨e | ⟨⟩, w1⟩
  · exact (h.prepared_makeParent hroot hparent).1.onward
  obtain ⟨hprepared, hled⟩ := h.prepared_makeParent hroot hparent
  have h1 := hprepared.onward
  dsimp only
  cases p.session.resolve n with
  | error e => exact h1
  | ok c =>
    have hpasses := ((hquiet c).ensures w1).result.2
    dsimp only
    generalize (ClassEngine.dump p.session.engine c).run w1 = printed at hpasses ⊢
    rcases printed with ⟨f | text, w2⟩
    · exact h1.trans (.of_passes h1.steady hpasses)
    have hopen := hprepared.pairOpen (hled rfl) hdump
    have htold := hpasses.trans
      ((Job.yields_tellAll (recordEvents c.name [] c.methods)).ensures w2).result.2
    dsimp only at htold ⊢
    generalize ((Job.tellAll (recordEvents c.name [] c.methods)).run w2).2 = w3 at htold ⊢
    have h3 := h1.trans (.of_passes h1.steady htold)
    have hwritten : Onward p.root w3 ((writePair (p.paths n) text.toUTF8
        (ClassRecord.ofClass p.isStack c).toText.toUTF8).run.run w3).2 :=
      h3.steady.onward_writePair (htold.disk ▸ hopen) _ _
    have h4 := h3.trans hwritten
    generalize (writePair (p.paths n) text.toUTF8
      (ClassRecord.ofClass p.isStack c).toText.toUTF8).run.run w3 = written at h4 ⊢
    rcases written with ⟨e | ⟨⟩, w4⟩
    · exact h4
    · exact h4.trans (.of_passes h4.steady (Plan.passes_tell _ _))

theorem Steady.onward_generateClass (h : Steady p.root w) (hroot : w.disk.Reached p.root)
    (hreplace : p.replace = false) (hquiet : p.PrintsQuietly) (n : String) :
    Onward p.root w ((p.generateClass n).run.run w).2 := by
  rw [p.run_generateClass]
  split
  · exact .of_passes h (Plan.passes_tell (.artifactsPresent n) w)
  · rename_i hdump
    have h1 := h.onward_generateArtifacts hroot hquiet n fun h0 => hdump ⟨hreplace, h0⟩
    generalize (generateArtifacts p.session p.isStack (p.paths n) n).run.run w = out at h1 ⊢
    rcases out with ⟨e | ⟨⟩, w1⟩ <;> exact h1

theorem Steady.onward_generateAll (h : Steady p.root w) (hroot : w.disk.Reached p.root)
    (hreplace : p.replace = false) (hquiet : p.PrintsQuietly) (names : List String)
    (report : GenerationReport) : Onward p.root w ((p.generateAll report names).run.run w).2 := by
  induction names generalizing w report with
  | nil => exact .refl h
  | cons n names ih =>
    have h1 := h.onward_generateClass hroot hreplace hquiet n
    rw [p.run_generateAll_cons]
    generalize (p.generateClass n).run.run w = out at h1 ⊢
    rcases out with ⟨e | o, w1⟩
    · have h2 : ∀ event, Onward p.root w ((Job.tell event).run w1).2 :=
        fun event => h1.trans (.of_passes h1.steady (Plan.passes_tell event w1))
      dsimp only
      split
      · exact (h2 _).trans (ih (h2 _).steady ((h2 _).overlaid.reached hroot) _)
      · exact h2 _
    · have hrest := fun report => h1.trans (ih h1.steady (h1.overlaid.reached hroot) report)
      cases o <;> exact hrest _

/-! ### Openings -/

omit [ClassEngine ε] in
theorem Plan.run_opening (hreplace : p.replace = false) (w : World) :
    p.opening.run.run w =
      (((makeDirs p.root).run w).1.mapError (.ofFault p.root), ((makeDirs p.root).run w).2) := by
  have hstep : p.opening = Attempt.atPath p.root (makeDirs p.root) := by
    rw [opening, hreplace]
    rfl
  rw [hstep, Attempt.run_atPath]

omit [ClassEngine ε] in
theorem Steady.opened (h : Steady p.root w) (hreplace : p.replace = false) {w1 : World}
    (hopen : p.opening.run.run w = (.ok (), w1)) :
    Onward p.root w w1 ∧ w1.clock = w.clock ∧ w1.disk.Reached p.root := by
  rw [p.run_opening hreplace] at hopen
  obtain ⟨hok, rfl⟩ := Prod.mk.inj hopen
  obtain ⟨links, here, hl⟩ := h.leads_of_makeDirs (eq_ok_of_mapError hok)
  exact ⟨h.onward_makeDirs h.root, (ensures_makeDirs p.root w h.sound.tree).result.1.clock, hl.reached⟩

omit [ClassEngine ε] in
/-- A root that is reached is opened without a change, or not at all. -/
theorem Steady.reopened (h : Steady p.root w) (hreplace : p.replace = false)
    (hroot : w.disk.Reached p.root) {w1 : World} (hopen : p.opening.run.run w = (.ok (), w1)) :
    w1.disk = w.disk := by
  rw [p.run_opening hreplace] at hopen
  obtain ⟨-, rfl⟩ := Prod.mk.inj hopen
  exact h.makeDirs_of_reached hroot

end Turns

end ClassCensus
