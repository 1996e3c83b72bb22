import ClassCensus.Engine.Faulty
import ClassCensus.Proofs.Disk.Walks
import ClassCensus.Proofs.Generation.Steps

/-!
# What makes a run skip a class

A run that keeps artifacts skips a class when its dump path leads to something, and then it leads to
a file or a directory (`Plan.skipped_iff`, `Disk.status_ne_link`). A dump that could not be put in
place is no file afterwards, whatever the engine did while it printed (`Plan.Unplaced.after`).
-/

namespace ClassCensus

open Disk

variable {ε : Type} [ClassEngine ε]

namespace Plan

variable {p : Plan ε} {w w' : World}

/-- A turn skips its class just where artifacts are kept and the dump path leads to something; it
changes nothing then. -/
theorem skipped_iff {t : Turn}
    (h : (p.generateClass t.className).run.run t.before = (t.result, t.after)) :
    (t.result = .ok .skipped ↔
      p.replace = false ∧ ∃ kind, t.before.disk.status (p.paths t.className).dump = .ok kind) ∧
      (t.result = .ok .skipped → t.after.disk = t.before.disk) := by
  rw [run_generateClass] at h
  by_cases hpresent : p.replace = false ∧
      (t.before.disk.status (p.paths t.className).dump).isOk
  · rw [if_pos hpresent] at h
    obtain ⟨hr, hw⟩ := Prod.mk.inj h
    have hkind : ∃ kind, t.before.disk.status (p.paths t.className).dump = .ok kind := by
      cases hs : t.before.disk.status (p.paths t.className).dump with
      | ok kind => exact ⟨kind, rfl⟩
      | error f => simp [hs, Except.isOk, Except.toBool] at hpresent
    exact ⟨⟨fun _ => ⟨hpresent.1, hkind⟩, fun _ => hr.symm⟩, fun _ => by rw [← hw]⟩
  · rw [if_neg hpresent] at h
    have hne : t.result ≠ .ok .skipped := by
      intro hr
      rw [hr] at h
      rcases hg : (generateArtifacts p.session p.isStack (p.paths t.className) t.className).run.run
        t.before with ⟨r, w1⟩
      rw [hg] at h
      cases r <;> cases h
    refine ⟨⟨fun hr => absurd hr hne, ?_⟩, fun hr => absurd hr hne⟩
    rintro ⟨hrep, kind, hs⟩
    exact absurd ⟨hrep, by rw [hs]; rfl⟩ hpresent

/-- The turn of a class came to its dump, which was written beside its place and then could not be put
in place. -/
structure Unplaced (p : Plan ε) (t : Turn) (f : DiskFault) : Prop where
  ran : (p.generateClass t.className).run.run t.before = (t.result, t.after)
  attempted : t.result ≠ .ok .skipped
  renamed : ∃ text w1 dir name d,
    (p.upToDump t.className).run.run t.before = (.ok text, w1) ∧
    (p.paths t.className).dump.parent = some dir ∧
    (p.paths t.className).dump.fileName = some name ∧
    w1.disk.write (dir.push (temporaryName name ⟨w1.process, w1.clock⟩)) text.toUTF8 = .ok d ∧
    d.rename (dir.push (temporaryName name ⟨w1.process, w1.clock⟩)) (p.paths t.className).dump =
      .error f

/-- The fault with which the dump of a class cannot be put in place, if it comes to that. -/
def placingFault (p : Plan ε) (n : String) (w : World) : Option DiskFault :=
  match (p.upToDump n).run.run w, (p.paths n).dump.parent, (p.paths n).dump.fileName with
  | (.ok text, w1), some dir, some name =>
    let temporary := dir.push (temporaryName name ⟨w1.process, w1.clock⟩)
    match w1.disk.write temporary text.toUTF8 with
    | .ok d =>
      match d.rename temporary (p.paths n).dump with
      | .ok _ => none
      | .error f => some f
    | .error _ => none
  | _, _, _ => none

theorem unplaced_of_placingFault {t : Turn} {f : DiskFault}
    (ran : (p.generateClass t.className).run.run t.before = (t.result, t.after))
    (attempted : t.result ≠ .ok .skipped) (h : p.placingFault t.className t.before = some f) :
    p.Unplaced t f := by
  refine ⟨ran, attempted, ?_⟩
  unfold placingFault at h
  split at h
  · rename_i text w1 dir name hup hdir hname
    dsimp only at h
    split at h
    · rename_i d hwrite
      split at h
      · cases h
      · rename_i f' hrename
        obtain rfl := Option.some.inj h
        exact ⟨text, w1, dir, name, d, hup, hdir, hname, hwrite, hrename⟩
    · cases h
  · cases h

/-- A turn whose dump could not be put in place fails for that, and leaves no file at the dump path:
nothing, or a directory. -/
theorem Unplaced.after {t : Turn} {f : DiskFault} (h : p.Unplaced t f) :
    t.result = .error (.ofFault (p.paths t.className).dump f) ∧
      ∀ kind, t.after.disk.status (p.paths t.className).dump = .ok kind → kind = .directory := by
  obtain ⟨text, w1, dir, name, d, hup, hdir, hname, hwrite, hrename⟩ := h.renamed
  obtain ⟨w2, hplace, hpart⟩ := run_placeDump_of_rename_error hdir hname hwrite hrename
  have hartifacts : (generateArtifacts p.session p.isStack (p.paths t.className)
      t.className).run.run t.before = (.error (.ofFault (p.paths t.className).dump f), w2) := by
    rw [p.generateArtifacts_eq, Attempt.run_bind, hup]
    dsimp only
    rw [Attempt.run_bind, hplace]
  have hran := h.ran
  rw [run_generateClass, hartifacts] at hran
  split at hran
  · exact absurd (Prod.mk.inj hran).1.symm h.attempted
  · obtain ⟨hr, hw⟩ := Prod.mk.inj hran
    refine ⟨hr.symm, ?_⟩
    intro kind hs
    rw [← hw] at hs
    exact status_of_rename_error hwrite hrename (hpart.status hs)

/-! ### Runs that keep artifacts -/

/-- A class that is skipped has a file at its dump path when it is reached, unless a directory is
there. So a class whose dump could not be put in place by an earlier run, with artifacts replaced or
kept, is skipped for a directory only, or for a file that has been put there since. -/
theorem skips_only_for_files (p : Plan ε) (hkeep : p.replace = false) {names : List String}
    {report : GenerationReport} (h : (p.generate names).run.run w = (.ok report, w')) :
    (p.course names w).map Turn.className = names ∧
    (∀ n, n ∈ report.skipped ↔
      ∃ u ∈ p.course names w, u.result = .ok .skipped ∧ u.className = n) ∧
    (∀ u ∈ p.course names w,
      (u.result = .ok .skipped ↔
        ∃ kind, u.before.disk.status (p.paths u.className).dump = .ok kind) ∧
      (u.result = .ok .skipped →
        u.before.disk.status (p.paths u.className).dump ≠ .ok .directory →
          u.before.disk.status (p.paths u.className).dump = .ok .file)) ∧
    ∀ (q : Plan ε) (earlier : List String) (m m' : World) (first : GenerationReport),
      q.root = p.root → (q.generate earlier).run.run m = (.ok first, m') →
      ∀ t ∈ q.course earlier m, ∀ f, q.Unplaced t f →
        ⟨t.className, .ofFault (p.paths t.className).dump f⟩ ∈ first.failures ∧
        ∀ u ∈ p.course names w, u.className = t.className → u.result = .ok .skipped →
          u.before.disk.status (p.paths u.className).dump = .ok .directory ∨
            u.before.disk.status (p.paths u.className).dump = .ok .file ∧
              t.after.disk.status (p.paths t.className).dump ≠ .ok .file := by
  obtain ⟨w1, w2, -, hfollows, -, hclasses, hreport⟩ := course_of_report h
  have hskips : ∀ u ∈ p.course names w, u.result = .ok .skipped →
      u.before.disk.status (p.paths u.className).dump = .ok .directory ∨
        u.before.disk.status (p.paths u.className).dump = .ok .file := by
    intro u hu hr
    obtain ⟨-, kind, hkind⟩ := (skipped_iff (hfollows.ran hu)).1.mp hr
    cases kind with
    | directory => exact .inl hkind
    | file => exact .inr hkind
    | link => exact absurd hkind status_ne_link
  refine ⟨hclasses, fun n => hreport ▸ mem_skipped_iff, ?_, ?_⟩
  · intro u hu
    refine ⟨?_, fun hr hdir => (hskips u hu hr).resolve_left hdir⟩
    rw [(skipped_iff (hfollows.ran hu)).1, hkeep]
    simp only [true_and]
  · intro q earlier m m' first hroot hfirst t ht f hunplaced
    obtain ⟨m1, m2, -, -, -, -, hfailures⟩ := course_of_report hfirst
    obtain ⟨hresult, hafter⟩ := hunplaced.after
    have hpaths : q.paths = p.paths := by
      funext n
      simp only [paths, hroot]
    rw [hpaths] at hresult hafter
    refine ⟨?_, ?_⟩
    · rw [hfailures]
      exact mem_failures_iff.mpr ⟨t, ht, hresult, rfl⟩
    · intro u hu _ hr
      refine (hskips u hu hr).imp id fun hfile => ⟨hfile, ?_⟩
      intro hleft
      cases hafter _ hleft

/-- A run with an engine that makes a directory at the dump path of one of its two classes. -/
def blocked : Plan (FaultyEngine SnapshotEngine) :=
  let engine := SnapshotEngine.ofClasses [.named "X", .named "Y"]
  let faults := { resolve := [], dump := [], makeDirs := [("X", ⟨"out/X.ir"⟩)] }
  ⟨⟨⟨engine, faults⟩, ["X", "Y"], "none"⟩, syntheticName, ⟨"out"⟩, false⟩

/-- The turn of the first class comes to its dump and cannot put it in place. -/
theorem unplaced_blocked :
    ∃ t ∈ blocked.course ["X", "Y"] ⟨.blank ["home"], 7, 1, []⟩,
      t.className = "X" ∧ blocked.Unplaced t .isDirectory := by
  have hopened : (blocked.opening.run.run ⟨.blank ["home"], 7, 1, []⟩).1 = .ok () := rfl
  have hattempted : ((blocked.generateClass "X").run.run
      (blocked.opening.run.run ⟨.blank ["home"], 7, 1, []⟩).2).1 ≠ .ok .skipped := by
    decide +kernel
  have hfault : blocked.placingFault "X"
      (blocked.opening.run.run ⟨.blank ["home"], 7, 1, []⟩).2 = some .isDirectory := by
    decide +kernel
  rcases hopening : blocked.opening.run.run ⟨.blank ["home"], 7, 1, []⟩ with ⟨r, w⟩
  rw [hopening] at hopened hattempted hfault
  obtain rfl : r = .ok () := hopened
  have hcourse : blocked.course ["X", "Y"] ⟨.blank ["home"], 7, 1, []⟩ =
      blocked.turns ["X", "Y"] w := by rw [course, hopening]
  rw [hcourse]
  rcases hran : (blocked.generateClass "X").run.run w with ⟨r, w'⟩
  rw [hran] at hattempted
  have hmem : ⟨"X", w, r, w'⟩ ∈ blocked.turns ["X", "Y"] w := by
    rw [turns, hran]
    exact List.mem_cons_self
  exact ⟨⟨"X", w, r, w'⟩, hmem, rfl, unplaced_of_placingFault hran hattempted hfault⟩

/-- The class that fails for this directory is skipped for it by the next run, and the other one for
its dump. -/
theorem skips_only_for_files_and_directory :
    ∃ first w1 second w2,
      (blocked.generate ["X", "Y"]).run.run ⟨.blank ["home"], 7, 1, []⟩ = (.ok first, w1) ∧
      (blocked.generate ["X", "Y"]).run.run w1 = (.ok second, w2) ∧
      first.generated = ["Y"] ∧
      ⟨"X", .ofFault (blocked.paths "X").dump .isDirectory⟩ ∈ first.failures ∧
      second.skipped = ["X", "Y"] ∧
      w1.disk.status (blocked.paths "X").dump = .ok .directory ∧
      ∀ u ∈ blocked.course ["X", "Y"] w1, u.result = .ok .skipped →
        u.before.disk.status (blocked.paths u.className).dump ≠ .ok .directory →
          u.before.disk.status (blocked.paths u.className).dump = .ok .file := by
  have hgenerated : (((blocked.generate ["X", "Y"]).run.run
      ⟨.blank ["home"], 7, 1, []⟩).1.toOption.map (·.generated)) = some ["Y"] := by decide +kernel
  have hskipped : (((blocked.generate ["X", "Y"]).run.run
      ((blocked.generate ["X", "Y"]).run.run ⟨.blank ["home"], 7, 1, []⟩).2).1.toOption.map
        (·.skipped)) = some ["X", "Y"] := by decide +kernel
  have hthere : ((blocked.generate ["X", "Y"]).run.run ⟨.blank ["home"], 7, 1, []⟩).2.disk.status
      (blocked.paths "X").dump = .ok .directory := by decide +kernel
  rcases h1 : (blocked.generate ["X", "Y"]).run.run ⟨.blank ["home"], 7, 1, []⟩ with ⟨r1, w1⟩
  rw [h1] at hgenerated hskipped hthere
  rcases h2 : (blocked.generate ["X", "Y"]).run.run w1 with ⟨r2, w2⟩
  rw [h2] at hskipped
  cases r1 with
  | error e => cases hgenerated
  | ok first =>
    cases r2 with
    | error e => cases hskipped
    | ok second =>
      obtain ⟨-, -, hskips, hnext⟩ := skips_only_for_files blocked rfl h2
      obtain ⟨t, ht, hx, hunplaced⟩ := unplaced_blocked
      have hfailed := (hnext blocked _ _ _ _ rfl h1 t ht _ hunplaced).1
      rw [hx] at hfailed
      exact ⟨first, w1, second, w2, rfl, h2, Option.some.inj hgenerated, hfailed,
        Option.some.inj hskipped, hthere, fun u hu => (hskips u hu).2⟩

end Plan

end ClassCensus
