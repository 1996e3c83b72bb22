import ClassCensus.Proofs.Asking
import ClassCensus.Proofs.Disk.Retaining
import ClassCensus.Proofs.Generation.SameOpening
import ClassCensus.Proofs.Generation.Skips

/-!
# What a run without failures leaves

A turn without an error ends with an entry at the dump path of its class, whether the class was
skipped or generated, and takes no artifact away (`Plan.entry_of_turn`). So a run without failures ends
with an entry for each of its classes (`Plan.entries_of_run`), if no link has the name of an
artifact.
-/

namespace ClassCensus

open Disk
open Job (Asking OnlyAsks)

/-! ### Attempts that succeed -/

theorem Attempt.run_bind_ok {α β : Type} {job : Attempt α} {next : α → Attempt β} {w w' : World}
    {b : β} (h : (job >>= next).run.run w = (.ok b, w')) :
    ∃ a w1, job.run.run w = (.ok a, w1) ∧ (next a).run.run w1 = (.ok b, w') := by
  rw [Attempt.run_bind] at h
  rcases hrun : job.run.run w with ⟨r, w1⟩
  rw [hrun] at h
  cases r with
  | ok a => exact ⟨a, w1, rfl, h⟩
  | error e => cases h

/-- A job that only asks leaves the disk as it is. -/
theorem Job.Asking.disk_eq {α : Type} {P : α → Prop} {job : Job α} (h : job.Asking P) (w : World) :
    (job.run w).2.disk = w.disk :=
  ((h.ensures w).result).2.disk

/-! ### Directories -/

theorem addsDirs_makeDir {d d' : Disk} {p : Path} (h : d.makeDir p = .ok d') :
    AddsDirs (fun _ => True) d d' := by
  obtain ⟨-, here, name, hnone, -, rfl, -⟩ := makeDir_ok h
  exact .put (by simp) hnone trivial

theorem addsDirs_makeDirsWithin (steps : Nat) (p : Path) (w : World) :
    (makeDirsWithin steps p).Ensures w (fun _ => True) fun _ w1 =>
      AddsDirs (fun _ => True) w.disk w1.disk := by
  induction steps generalizing p with
  | zero => exact .done (.refl _)
  | succ steps ih =>
    refine ensures_makeDirsWithin trivial (fun _ => .refl _) (fun d' _ hd => ⟨trivial, ?_⟩)
      (fun _ _ _ _ _ => .refl _) (fun _ _ _ _ _ => .refl _) (fun _ _ _ _ => .refl _) ?_
    · exact addsDirs_makeDir hd
    · intro q _ _ _
      refine (ih q).post ?_
      intro r w1 hadds
      cases r with
      | error f => exact hadds
      | ok u =>
        exact ensures_ensureDir trivial (fun d' hd => ⟨trivial, hadds.trans (addsDirs_makeDir hd)⟩)
          (fun _ _ _ => hadds) (fun _ _ _ => hadds)

theorem addsDirs_makeDirs (p : Path) (w : World) :
    AddsDirs (fun _ => True) w.disk ((makeDirs p).run w).2.disk :=
  (addsDirs_makeDirsWithin _ p w).result

/-! ### Files put in place -/

theorem isName_of_fileName {p : Path} {name : Octets} (h : p.fileName = some name) :
    Path.IsName name := by
  obtain ⟨hlast, hback⟩ := Path.steps_of_fileName h
  obtain ⟨hs, hsays⟩ := List.mem_filter.mp (List.mem_of_getLast? hlast)
  refine ⟨?_, ?_, hback, Text.not_mem_of_mem_split Octet.slash hs⟩
  · rintro rfl
    simp [isIdle] at hsays
  · rintro rfl
    simp [isIdle] at hsays

theorem isTemporaryName_temporaryName (name : Octets) (stamp : Stamp) :
    IsTemporaryName (temporaryName name stamp) := by
  unfold IsTemporaryName temporaryName
  rw [Text.bytesOf_append]
  exact List.suffix_append _ _

variable {w w' : World} {bytes : ByteArray} {path : Path}

/-- A file that has been put in place is there, and no artifact is gone. -/
theorem retains_writeInPlace (hd : w.disk.LinksAside) (hpath : IsArtifactPath path)
    (h : (writeInPlace path bytes).run.run w = (.ok (), w')) :
    Retains w.disk w'.disk ∧ w'.disk.status path = .ok .file := by
  cases hdir : path.parent with
  | none =>
    simp only [writeInPlace, hdir] at h
    cases h
  | some dir =>
    cases hname : path.fileName with
    | none =>
      simp only [writeInPlace, hdir, hname] at h
      cases h
    | some name =>
      have hisName := isName_temporaryName (isName_of_fileName hname) ⟨w.process, w.clock⟩
      obtain ⟨last, hends, hartifact, -⟩ := hpath.resolve_left (by simp [hname])
      rw [run_writeInPlace hdir hname] at h
      dsimp only at h
      cases hwrite : w.disk.write (dir.push (temporaryName name ⟨w.process, w.clock⟩)) bytes with
      | error f =>
        rw [hwrite] at h
        cases h
      | ok d1 =>
        rw [hwrite] at h
        dsimp only at h
        rw [run_moveInPlace] at h
        dsimp only at h
        have hwritten := Retains.write hwrite
        cases hrename : d1.rename (dir.push (temporaryName name ⟨w.process, w.clock⟩)) path with
        | error f =>
          rw [hrename] at h
          cases h
        | ok d2 =>
          rw [hrename] at h
          cases h
          obtain ⟨hmoved, hfile⟩ := Retains.rename (hwritten.linksAside hd)
            (endsIn_push dir hisName) (isTemporaryName_temporaryName name _) hends hartifact hrename
          exact ⟨hwritten.trans hmoved, hfile⟩

variable {ε : Type} [ClassEngine ε] {p : Plan ε} {n : String}

namespace Plan

omit [ClassEngine ε] in
theorem isArtifactPath_dump (p : Plan ε) (n : String) : IsArtifactPath (p.paths n).dump := by
  simp only [paths, ArtifactPaths.ofClass]
  exact isArtifactPath_withExtension _ (by simp [ArtifactPaths.dumpExtension])

omit [ClassEngine ε] in
theorem isArtifactPath_metrics (p : Plan ε) (n : String) : IsArtifactPath (p.paths n).metrics := by
  simp only [paths, ArtifactPaths.ofClass]
  exact isArtifactPath_withExtension _ (by simp [ArtifactPaths.metricsExtension])

/-- The engine changes nothing while it prints. -/
def PrintsQuietly (p : Plan ε) : Prop := ∀ c, OnlyAsks (ClassEngine.dump p.session.engine c)

omit [ClassEngine ε] in
theorem retains_makeParent (h : (makeParent (p.paths n)).run.run w = (.ok (), w')) :
    Retains w.disk w'.disk := by
  unfold makeParent at h
  split at h
  · rename_i parent _
    rw [Attempt.run_atPath] at h
    rw [← (Prod.mk.inj h).2]
    exact .of_addsDirs (addsDirs_makeDirs parent w)
  · cases h
    exact .of_disk rfl

/-- Up to the dump no artifact is taken away. -/
theorem retains_upToDump {text : String} (hquiet : p.PrintsQuietly) (hd : w.disk.LinksAside)
    (h : (p.upToDump n).run.run w = (.ok text, w')) : Retains w.disk w'.disk := by
  obtain ⟨_, w1, h1, h⟩ := Attempt.run_bind_ok h
  obtain ⟨c, w2, h2, h⟩ := Attempt.run_bind_ok h
  obtain ⟨text', w3, h3, h⟩ := Attempt.run_bind_ok h
  obtain ⟨_, w4, h4, h⟩ := Attempt.run_bind_ok h
  obtain ⟨_, w5, h5, h⟩ := Attempt.run_bind_ok h
  have hw2 : w2 = w1 := (Prod.mk.inj h2).2.symm
  have hw3 : w3.disk = w2.disk := by
    rw [Attempt.run_atPath] at h3
    rw [← (Prod.mk.inj h3).2]
    exact (hquiet c).disk_eq w2
  have hw4 : w4.disk = w3.disk := by
    rw [Attempt.run_ofJob] at h4
    rw [← (Prod.mk.inj h4).2]
    exact Asking.disk_eq (.of_yields (Job.yields_tellAll _)) w3
  have hw' : w' = w5 := (Prod.mk.inj h).2.symm
  have hmade := retains_makeParent h1
  have hsame : w4.disk = w1.disk := by rw [hw4, hw3, hw2]
  have hwritten := retains_writeInPlace (hsame ▸ hmade.linksAside hd) (p.isArtifactPath_metrics n) h5
  rw [hsame] at hwritten
  rw [hw']
  exact hmade.trans hwritten.1

omit [ClassEngine ε] in
/-- A dump that has been put in place has not been withdrawn. -/
theorem writeInPlace_of_placeDump {text : String}
    (h : (p.placeDump n text).run.run w = (.ok (), w')) :
    (writeInPlace (p.paths n).dump text.toUTF8).run.run w = (.ok (), w') := by
  unfold placeDump at h
  rw [Attempt.run_tryCatch] at h
  rcases hrun : (writeInPlace (p.paths n).dump text.toUTF8).run.run w with ⟨r, w1⟩
  rw [hrun] at h
  cases r with
  | ok u => exact h
  | error e =>
    dsimp only at h
    obtain ⟨_, w2, -, hthrow⟩ := Attempt.run_bind_ok h
    cases hthrow

/-- A turn without an error ends with an entry at the dump path, and takes no artifact away. -/
theorem entry_of_turn {t : Turn} {o : ClassOutcome} (hquiet : p.PrintsQuietly)
    (hd : t.before.disk.LinksAside)
    (h : (p.generateClass t.className).run.run t.before = (t.result, t.after))
    (ho : t.result = .ok o) :
    Retains t.before.disk t.after.disk ∧
      ∃ kind, t.after.disk.status (p.paths t.className).dump = .ok kind := by
  cases o with
  | skipped =>
    obtain ⟨hskipped, hsame⟩ := skipped_iff h
    obtain ⟨-, kind, hkind⟩ := hskipped.mp ho
    exact ⟨.of_disk (hsame ho), kind, by rw [hsame ho, hkind]⟩
  | generated =>
    rw [run_generateClass, ho] at h
    split at h
    · cases (Prod.mk.inj h).1
    · rcases hrun : (generateArtifacts p.session p.isStack (p.paths t.className)
        t.className).run.run t.before with ⟨r, w'⟩
      rw [hrun] at h
      cases r with
      | error e => cases (Prod.mk.inj h).1
      | ok u =>
        obtain rfl : w' = t.after := (Prod.mk.inj h).2
        rw [p.generateArtifacts_eq] at hrun
        obtain ⟨text, w1, h1, hrun⟩ := Attempt.run_bind_ok hrun
        obtain ⟨_, w2, h2, hrun⟩ := Attempt.run_bind_ok hrun
        have hup := retains_upToDump hquiet hd h1
        have htold : t.after.disk = w2.disk := by
          rw [Attempt.run_ofJob] at hrun
          rw [← (Prod.mk.inj hrun).2]
          exact Asking.disk_eq (.of_yields (Job.yields_tell _)) w2
        obtain ⟨hdump, hfile⟩ := retains_writeInPlace (hup.linksAside hd)
          (p.isArtifactPath_dump t.className) (writeInPlace_of_placeDump h2)
        rw [htold]
        exact ⟨hup.trans hdump, .file, hfile⟩

/-- Turns without errors, one after the other, leave an entry at each of their dump paths. -/
theorem Follows.entries {ts : List Turn} (hquiet : p.PrintsQuietly) (h : p.Follows w ts w')
    (hok : ∀ t ∈ ts, ∃ o, t.result = .ok o) (hd : w.disk.LinksAside) :
    Retains w.disk w'.disk ∧
      ∀ t ∈ ts, ∃ kind, w'.disk.status (p.paths t.className).dump = .ok kind := by
  induction h with
  | nil w => exact ⟨.of_disk rfl, fun t ht => absurd ht List.not_mem_nil⟩
  | @cons n w w1 w2 w' r ts ran passes rest ih =>
    obtain ⟨o, ho⟩ := hok _ List.mem_cons_self
    obtain ⟨hturn, kind, hkind⟩ := entry_of_turn (t := ⟨n, w, r, w1⟩) hquiet hd ran ho
    have hd1 := hturn.linksAside hd
    obtain ⟨hrest, hentries⟩ :=
      ih (fun t ht => hok t (List.mem_cons_of_mem _ ht)) (passes.disk.symm ▸ hd1)
    rw [passes.disk] at hrest
    refine ⟨hturn.trans hrest, ?_⟩
    intro t ht
    rcases List.mem_cons.mp ht with rfl | ht
    · exact ⟨kind, hrest.status hd1 (p.isArtifactPath_dump n) hkind⟩
    · exact hentries t ht

end Plan

/-! ### Whole runs -/

/-- A timeless step makes no link. -/
theorem links_perform {s : Step} (h : s.Timeless) (w : World) {l : Location} {t : Path}
    (ht : (w.perform s).2.disk.entryAt l = some (.link t)) : w.disk.entryAt l = some (.link t) := by
  have hpart : ∀ {d : Disk}, Part d w.disk → d.entryAt l = some (.link t) →
      w.disk.entryAt l = some (.link t) := by
    intro d hpart h0
    rcases hpart.entry l with h1 | h1
    · rw [h0] at h1
      cases h1
    · rw [← h1, h0]
  cases s with
  | status path => exact ht
  | linkStatus path => exact ht
  | record event => exact ht
  | makeDir path =>
    simp only [World.perform] at ht
    cases hmade : w.disk.makeDir path with
    | error f =>
      rw [hmade] at ht
      exact ht
    | ok d =>
      rw [hmade] at ht
      exact (Retains.of_addsDirs (addsDirs_makeDir hmade)).links l t ht
  | removeFile path => exact hpart (part_removeFile w path) ht
  | removeTree path => exact hpart (part_removeTree w.disk path) ht
  | read path => exact h.elim
  | list path => exact h.elim
  | write path bytes => exact h.elim
  | rename path new => exact h.elim
  | stamp => exact h.elim

theorem linksAside_of_timeless {α : Type} {job : Job α} (hjob : job.Timeless)
    (hd : w.disk.LinksAside) : (job.run w).2.disk.LinksAside := by
  induction job generalizing w with
  | done a => exact hd
  | step s k ih =>
    refine ih _ (hjob.2 _) ?_
    intro here name t ht
    exact hd here name t (links_perform hjob.1 w ht)

namespace Plan

omit [ClassEngine ε] in
theorem timeless_opening (p : Plan ε) : Attempt.Timeless p.opening := by
  unfold opening
  have hmake : Attempt.Timeless (Attempt.atPath p.root (makeDirs p.root)) :=
    .atPath (timeless_makeDirsWithin _ _)
  cases p.replace with
  | false => exact hmake
  | true => exact .bind (timeless_removeOutputRoot p.root) fun _ => hmake

/-- A run without failures ends with an entry at the dump path of each of its classes, if no link had
the name of an artifact when it began. -/
theorem entries_of_run {names : List String} {report : GenerationReport} (hquiet : p.PrintsQuietly)
    (h : (p.generate names).run.run w = (.ok report, w')) (hok : report.failures = [])
    (hd : w.disk.LinksAside) :
    ∀ n ∈ names, ∃ kind, w'.disk.status (p.paths n).dump = .ok kind := by
  obtain ⟨w1, w2, hopening, hfollows, hpasses, hclasses, hreport⟩ := course_of_report h
  have hd1 : w1.disk.LinksAside := by
    have := linksAside_of_timeless p.timeless_opening hd
    rwa [hopening] at this
  have hturns : ∀ t ∈ p.course names w, ∃ o, t.result = .ok o := by
    intro t ht
    cases hr : t.result with
    | ok o => exact ⟨o, rfl⟩
    | error e =>
      have hmem : ⟨t.className, e⟩ ∈ report.failures :=
        hreport ▸ mem_failures_iff.mpr ⟨t, ht, hr, rfl⟩
      rw [hok] at hmem
      cases hmem
  obtain ⟨-, hentries⟩ := hfollows.entries hquiet hturns hd1
  intro n hn
  rw [← hclasses] at hn
  obtain ⟨t, ht, rfl⟩ := List.mem_map.mp hn
  rw [hpasses.disk]
  exact hentries t ht

end Plan

end ClassCensus
