import ClassCensus.Proofs.Engine.Snapshot
import ClassCensus.Proofs.Generation.Lone

/-!
# The order of classes

Two runs that begin on one disk and are given the same classes in different orders leave the same disk,
and every class has the same outcome in both (`generate_in_any_order`).
-/

namespace ClassCensus

open Disk

/-- No links lie below the place that a path leads to, if it leads anywhere. -/
def Disk.LinkFree (d : Disk) (p : Path) : Prop :=
  ∀ k top, d.Leads p k top → ∀ rest, rest ≠ [] → ∀ t, d.entryAt (top ++ rest) ≠ some (.link t)

theorem Disk.Vacant.linkFree {d : Disk} {p : Path} (h : d.Vacant p) : d.LinkFree p := by
  intro k top hl rest hr t
  rw [h k top hl rest hr]
  simp

theorem Disk.Plain.linkFree {d : Disk} (h : d.Plain) (p : Path) : d.LinkFree p :=
  fun _ _ _ _ hr _ => h.noLinks (by simp [hr])

variable {ε : Type} [ClassEngine ε] {s : Setup ε} {links : Nat} {top : Location}
  {w w' w1 m m' m1 : World} {names names' : List String}

namespace Setup

/-- The world in which a run comes to its classes, or ends before it does. -/
def opened (s : Setup ε) (w : World) : World := (s.opening.run.run w).2

/-- A disk on which a run can begin: no links lie below the output root, nor below what the output root
leads to in the end if it goes back on its way, and the names of temporary files that the run is going to
write are not in use. -/
structure Startable (s : Setup ε) (w : World) : Prop where
  sound : w.disk.Sound
  linkFree : w.disk.LinkFree s.root
  linkFreeBack : [Octet.dot, Octet.dot] ∈ s.root.steps → (s.opened w).disk.LinkFree s.root
  fresh : ∀ k top, (s.opened w).disk.Leads s.root k top → Fresh top (s.opened w)

theorem Startable.of_plain (hw : w.disk.Sound) (h : w.disk.Plain) (ho : (s.opened w).disk.Plain) :
    s.Startable w :=
  ⟨hw, h.linkFree _, fun _ => ho.linkFree _, fun _ top _ => ho.fresh top⟩

/-- The outcomes of two runs over the same classes in different orders: the same error, or reports in
which each class has the same outcome. -/
def EndsAlike : Except CensusError GenerationReport → Except CensusError GenerationReport → Prop
  | .ok r, .ok r' => r.Reordered r'
  | .error e, .error e' => e = e'
  | _, _ => False

/-- There is nothing to open in the directory where the run is. -/
theorem opening_empty (hroot : s.root.octets = []) : s.opening.run.run w = (.ok (), w) := by
  have hcheck : checkPath s.root = .error .notFound := by
    simp [checkPath, hroot]
  have hstatus : w.perform (.linkStatus s.root) = (.error .notFound, w) := by
    simp [World.perform, linkStatus, find, locate_of_check_error hcheck, bind, Except.bind]
  have hopen : Attempt.Ensures s.opening w (fun _ => True) fun r w1 => r = .ok () ∧ w1 = w := by
    have hmake : Attempt.Ensures (Attempt.atPath s.root (makeDirs s.root)) w (fun _ => True)
        fun r w1 => r = .ok () ∧ w1 = w := by
      refine .atPath ?_
      simp only [makeDirs, makeDirsWithin, hroot, if_true]
      exact .done ⟨rfl, rfl⟩
    unfold opening
    cases s.replace with
    | false => exact hmake
    | true =>
      refine .bind (.bind (.ofJob (.ofStep trivial ?_)))
      rw [hstatus]
      exact .pure hmake
  exact Prod.ext hopen.result.1 hopen.result.2

/-- A run that can begin comes to its classes on a ground without temporary files. -/
theorem Startable.ground (h : s.Startable w) (hopen : s.opening.run.run w = (.ok (), w1)) :
    ∃ links top, Ground w1.disk s.root links top ∧ Fresh top w1 := by
  have hresult := (ensures_opening (s := s) h.sound.tree).result
  have hend : s.opened w = w1 := by rw [opened, hopen]
  have hback := h.linkFreeBack
  have hfresh := h.fresh
  rw [hend] at hback hfresh
  rw [hopen] at hresult
  obtain ⟨hopening, hopened, -⟩ := hresult
  have hlinks : w1.disk.LinkFree s.root := by
    by_cases hsteps : [Octet.dot, Octet.dot] ∈ s.root.steps
    · exact hback hsteps
    · rcases hopening.disk (goesForward_of_no_back hsteps) with h0 | h0
      · rw [h0]
        exact h.linkFree
      · exact h0.linkFree
  have harrives : w1.disk.Arrives s.root := by
    by_cases hroot : s.root.octets = []
    · rw [opening_empty hroot] at hopen
      obtain rfl : w = w1 := congrArg Prod.snd hopen
      exact ⟨_, _, leads_of_empty hroot, h.sound.start _⟩
    · exact ((hopened rfl).ready.resolve_left hroot).arrives
  obtain ⟨links, top, hl, hd⟩ := harrives
  exact ⟨links, top, ⟨hopening.tree, hl, hd, fun rest => hlinks links top hl rest⟩, hfresh links top hl⟩

end Setup

theorem generate_of_opening_error {e : CensusError}
    (hopen : s.opening.run.run w = (.error e, w1)) :
    (s.generate names).run.run w = (.error e, w1) := by
  rw [s.generate_eq, Attempt.run_bind, hopen]

/-- Two runs over the same classes in different orders, on one disk, end alike and leave one disk. -/
theorem generate_in_any_order {r r' : Except CensusError GenerationReport} (hw : s.Startable w)
    (hm : s.Startable m) (hsame : Same w.disk m.disk) (hn : ∀ n ∈ names, WellFormed n)
    (hd : names.Nodup) (hperm : names.Perm names')
    (hengine : ∀ n ∈ names, ∀ e, s.session.resolve n = .error e → e.isRecoverable = true)
    (hlengths : World.SameLengths w w' m m') (h : (s.generate names).run.run w = (r, w'))
    (h' : (s.generate names').run.run m = (r', m')) :
    Setup.EndsAlike r r' ∧ Same w'.disk m'.disk := by
  have hn' : ∀ n ∈ names', WellFormed n := fun n hmem => hn n (hperm.mem_iff.mpr hmem)
  rcases hopen : s.opening.run.run w with ⟨r1, w1⟩
  rcases hopen' : s.opening.run.run m with ⟨r1', m1⟩
  have hopenings := opening_same (s := s) hsame
  rw [hopen, hopen'] at hopenings
  obtain ⟨hresult, hsame1⟩ := hopenings
  obtain rfl : r1' = r1 := hresult
  cases r1' with
  | error e =>
    rw [generate_of_opening_error hopen] at h
    rw [generate_of_opening_error hopen'] at h'
    cases h
    cases h'
    exact ⟨rfl, hsame1⟩
  | ok u =>
    -- both runs come to their classes on the same ground, from where the courses can be compared
    obtain ⟨links, top, g, hf⟩ := hw.ground hopen
    have g' := hsame1.ground g
    have hf' : Fresh top m1 := by
      have hfresh := hm.fresh links top
      rw [Setup.opened, hopen'] at hfresh
      exact hfresh g'.leads
    obtain ⟨w2, hends, hpass⟩ := ends_of_generate hopen g hf hn (.inl hd) h
    obtain ⟨m2, hends', hpass'⟩ :=
      ends_of_generate hopen' g' hf' hn' (.inl (hperm.nodup_iff.mp hd)) h'
    cases hends with
    | aborted mem resolve fatal => rw [hengine _ mem _ resolve] at fatal; cases fatal
    | report course =>
      cases hends' with
      | aborted mem resolve fatal =>
        rw [hengine _ (hperm.mem_iff.mpr mem) _ resolve] at fatal
        cases fatal
      | report course' =>
        have hopening := (ensures_opening (s := s) hw.sound.tree).result.1
        have hopening' := (ensures_opening (s := s) hm.sound.tree).result.1
        rw [hopen] at hopening
        rw [hopen'] at hopening'
        have hbegin := Setup.begin_alike hopening hopening' g hsame1 hn hlengths course course'
          hpass hpass'
        refine ⟨course.reports_reordered hbegin course' hperm, ?_⟩
        rw [hpass.disk, hpass'.disk]
        exact course.same_end hbegin course' fun n => hperm.mem_iff

theorem recoverable_ofClasses {classes : List ClassDef} {root : Path} {replace : Bool} {n : String}
    {e : CensusError} (h : (Setup.ofClasses classes root replace).session.resolve n = .error e) :
    e.isRecoverable = true := by
  have hresolve : (SnapshotEngine.ofClasses classes).resolve n = .error e := h
  rw [SnapshotEngine.error_of_resolve hresolve]
  rfl

/-- A class is generated, another one is skipped, a file is in the way of a third one, and a fourth one is
not found. -/
theorem generate_in_any_order_of_four :
    ∃ (start : Disk) (r r' : GenerationReport) (w' m' : World),
      ((Setup.ofClasses [.named "a.B", .named "a.B.C"] ⟨"out"⟩ false).generate
        ["a.B", "Old", "a.B.C", "Gone"]).run.run ⟨start, 7, 1, []⟩ = (.ok r, w') ∧
      ((Setup.ofClasses [.named "a.B", .named "a.B.C"] ⟨"out"⟩ false).generate
        ["Gone", "a.B.C", "a.B", "Old"]).run.run ⟨start, 8, 2, []⟩ = (.ok r', m') ∧
      r.generated = ["a.B"] ∧ r.skipped = ["Old"] ∧
      r.failures.map (·.className) = ["a.B.C", "Gone"] ∧
      r'.failures.map (·.className) = ["Gone", "a.B.C"] ∧
      r.Reordered r' ∧ Same w'.disk m'.disk := by
  let start : Disk := ⟨[(["out"], .directory), (["out", "Old.ir"], .file .empty),
    (["out", "a"], .directory), (["out", "a", "B"], .file .empty)], []⟩
  have hsound : start.Sound := .of_entries (by decide +kernel) (by decide)
  obtain ⟨r, w', h, hgenerated, hskipped, hfailed, hclock⟩ := Setup.exists_of_ending (show
    (Setup.ofClasses [.named "a.B", .named "a.B.C"] ⟨"out"⟩ false).ending
      ["a.B", "Old", "a.B.C", "Gone"] ⟨start, 7, 1, []⟩ =
        (.ok (["a.B"], ["Old"], ["a.B.C", "Gone"]), 3) by decide +kernel)
  obtain ⟨r', m', h', -, -, hfailed', hclock'⟩ := Setup.exists_of_ending (show
    (Setup.ofClasses [.named "a.B", .named "a.B.C"] ⟨"out"⟩ false).ending
      ["Gone", "a.B.C", "a.B", "Old"] ⟨start, 8, 2, []⟩ =
        (.ok (["a.B"], ["Old"], ["Gone", "a.B.C"]), 4) by decide +kernel)
  have hlengths : World.SameLengths ⟨start, 7, 1, []⟩ w' ⟨start, 8, 2, []⟩ m' := by
    refine ⟨by decide, ?_, by decide, ?_⟩
    · rw [hclock]
      decide
    · rw [hclock']
      decide
  have hstart : (Setup.ofClasses [.named "a.B", .named "a.B.C"] ⟨"out"⟩ false).Startable
      ⟨start, 7, 1, []⟩ := .of_plain hsound (by decide +kernel) (by decide +kernel)
  have hstart' : (Setup.ofClasses [.named "a.B", .named "a.B.C"] ⟨"out"⟩ false).Startable
      ⟨start, 8, 2, []⟩ := .of_plain hsound (by decide +kernel) (by decide +kernel)
  obtain ⟨halike, hsame⟩ := generate_in_any_order hstart hstart' (.refl _) (by decide +kernel)
    (by decide) (by decide) (fun _ _ _ => recoverable_ofClasses) hlengths h h'
  exact ⟨start, r, r', w', m', h, h', hgenerated, hskipped, hfailed, hfailed', halike, hsame⟩

/-- The order of classes does matter in other cases. Links below what a root leads to that goes back
through a directory that is yet to be made let two classes have one file. A class with a long name is
generated or not, as the number of the process is short or long. A temporary file of a time to come is
lost in one order only. -/
theorem order_matters :
    (∃ start : Disk, start.Sound ∧ start.linkStatus ⟨"gone/../old"⟩ = .error .notFound ∧
      let s := Setup.ofClasses [.named "a.X", .named "b.X"] ⟨"gone/../old"⟩ false
      (s.shows ["a.X", "b.X"] ⟨start, 7, 1, []⟩).1 = .ok (["a.X"], []) ∧
      (s.shows ["b.X", "a.X"] ⟨start, 7, 1, []⟩).1 = .ok (["b.X"], [])) ∧
    (∃ n, WellFormed n ∧
      let s := Setup.ofClasses [.named n] ⟨"out"⟩ false
      (s.shows [n] ⟨.blank [], 7, 1, []⟩).1 = .ok ([n], []) ∧
      (s.shows [n] ⟨.blank [], 10, 1, []⟩).1 = .ok ([], [n])) ∧
    ∃ start : Disk, start.Sound ∧
      let s := Setup.ofClasses [.named "X", .named "Y"] ⟨"out"⟩ false
      let out := s.shows ["X", "Y"] ⟨start, 7, 1, []⟩
      let out' := s.shows ["Y", "X"] ⟨start, 7, 1, []⟩
      out.1 = .ok (["X", "Y"], []) ∧ out'.1 = .ok (["Y", "X"], []) ∧
        out.2.linkStatus ⟨"out/.X.json.7.1.tmp"⟩ = .error .notFound ∧
        out'.2.linkStatus ⟨"out/.X.json.7.1.tmp"⟩ = .ok .file := by
  refine ⟨?_, ?_, ?_⟩
  · let start : Disk := ⟨[(["old"], .directory), (["old", "a"], .link ⟨"b"⟩),
      (["old", "b"], .directory)], []⟩
    exact ⟨start, .of_entries (by decide +kernel) (by decide), by decide +kernel, by decide +kernel,
      by decide +kernel⟩
  · obtain ⟨n, hn, hshows⟩ := long_name_shows false
    exact ⟨n, hn, hshows 7, hshows 10⟩
  · let start : Disk :=
      ⟨[(["out"], .directory), (["out", ".X.json.7.1.tmp"], .file .empty)], []⟩
    exact ⟨start, .of_entries (by decide +kernel) (by decide), by decide +kernel, by decide +kernel,
      by decide +kernel, by decide +kernel⟩

end ClassCensus
