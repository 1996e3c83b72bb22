import ClassCensus.Proofs.Generation.RunEffect
import Mathlib.Data.List.Nodup

/-!
# The story of a run

A run that has a report has come to each of its classes (`Setup.Story`). It starts with them well where
the place of its output root is clear, or where everything below that has been removed
(`poised_of_clear`, `poised_of_vacant`).
-/

namespace ClassCensus

open Disk

variable {ε : Type} [ClassEngine ε]

/-- Every entry of a disk lies in a directory, and its home is one. -/
structure Disk.Sound (d : Disk) : Prop where
  tree : d.IsTree
  home : d.entryAt d.home = some .directory

theorem Disk.Sound.of_entries {d : Disk} (h : ∀ e ∈ d.entries, d.hasDir e.1.dropLast = true)
    (home : d.hasDir d.home = true) : d.Sound :=
  ⟨.of_entries h, (d.hasDir_iff _).mp home⟩

theorem Disk.Sound.start {d : Disk} (h : d.Sound) (p : Path) : d.entryAt (d.startOf p) = some .directory := by
  unfold startOf
  split
  · rfl
  · exact h.home

/-- No links, and no names that begin with a dot. -/
def Disk.Plain (d : Disk) : Prop :=
  ∀ e ∈ d.entries, e.2.kind ≠ .link ∧ ∀ x ∈ e.1.getLast?, x.head? ≠ some Octet.dot

instance (d : Disk) : Decidable d.Plain :=
  inferInstanceAs (Decidable (∀ e ∈ d.entries, _))

theorem Disk.Plain.noLinks {d : Disk} (h : d.Plain) {l : Location} {t : Path} (hl : l ≠ []) :
    d.entryAt l ≠ some (.link t) :=
  fun he => (h _ (mem_of_entryAt hl he)).1 rfl

theorem Disk.Plain.fresh {w : World} (h : w.disk.Plain) (top : Location) : Fresh top w := by
  intro n name t _
  rw [← Option.not_isSome_iff_eq_none]
  intro he
  obtain ⟨e, he⟩ := Option.isSome_iff_exists.mp he
  have hdot := (h _ (mem_of_entryAt temporaryPlace_ne_nil he)).2
    (temporaryName name ⟨w.process, t⟩) (by simp [temporaryPlace])
  rw [octets_temporaryName] at hdot
  exact hdot rfl

namespace Setup

variable (s : Setup ε)

/-- The world in which the directories of the output root have been made. -/
def made (w : World) : World := ((makeDirs s.root).run w).2

/-- No links lie below the place of the output root, once it is made, and no temporary files of a time
to come. -/
structure Clear (w : World) : Prop where
  noLinks : ∀ k top, (s.made w).disk.Leads s.root k top →
    ∀ rest, rest ≠ [] → ∀ t, (s.made w).disk.entryAt (top ++ rest) ≠ some (.link t)
  fresh : ∀ k top, (s.made w).disk.Leads s.root k top → Fresh top (s.made w)

theorem Clear.of_plain {s : Setup ε} {w : World} (h : (s.made w).disk.Plain) : s.Clear w :=
  ⟨fun _ _ _ _ hr _ => h.noLinks (by simp [hr]), fun _ top _ => h.fresh top⟩

/-- What becomes of the classes of a generation. -/
def trace (names : List String) (w : World) : List Visit :=
  s.visits names (s.opening.run.run w).2

end Setup

/-- The classes that a run says were generated, those that it says failed, and the disk that it
leaves. -/
def Setup.shows (s : Setup ε) (names : List String) (w : World) :
    Except CensusError (List String × List String) × Disk :=
  let out := (s.generate names).run.run w
  (out.1.map fun r => (r.generated, r.failures.map (·.className)), out.2.disk)

section Start

variable {s : Setup ε} {w w1 : World}

/-- A run that keeps artifacts comes to its classes poised. -/
theorem poised_of_clear (hw : w.disk.Sound) (hclear : s.Clear w) (hrep : s.replace = false)
    (h : s.opening.run.run w = (.ok (), w1)) :
    ∃ links top, s.Poised links top w1 ∧ Fresh top w1 := by
  have hopen := (ensures_opening (s := s) hw.tree).result
  rw [h] at hopen
  obtain ⟨hm, hopened, hmade⟩ := hopen
  obtain ⟨-, hempty, hw1⟩ := hmade hrep
  have hroot : ∃ links top, w1.disk.Leads s.root links top ∧
      w1.disk.entryAt top = some .directory := by
    by_cases h0 : s.root.octets = []
    · have hdisk := hempty h0
      refine ⟨_, _, leads_of_empty h0, ?_⟩
      rw [hdisk]
      exact hw.start _
    · exact ((hopened rfl).ready.resolve_left h0).arrives
  obtain ⟨links, top, hl, hd⟩ := hroot
  have hsame : w1 = s.made w := hw1
  have hl' := hl
  rw [hsame] at hl'
  have hlinks := hclear.noLinks links top hl'
  have hfresh := hclear.fresh links top hl'
  rw [← hsame] at hlinks hfresh
  refine ⟨links, top, ⟨⟨hm.tree, hl, hd, hlinks⟩, ?_, by simp [hrep]⟩, hfresh⟩
  intro n name t ht
  rw [hfresh n name t ht]
  simp

/-- A run that replaces artifacts comes to its classes with nothing below its root. -/
theorem poised_of_vacant (hw : w.disk.IsTree) (hrep : s.replace = true) (hne : s.root.octets ≠ [])
    (hback : s.GoesForward w.disk) (h : s.opening.run.run w = (.ok (), w1)) :
    ∃ links top, s.Poised links top w1 ∧ Fresh top w1 ∧
      ∀ rest, rest ≠ [] → w1.disk.entryAt (top ++ rest) = none := by
  have hopen := (ensures_opening (s := s) hw).result
  rw [h] at hopen
  obtain ⟨hm, hopened, -⟩ := hopen
  obtain ⟨links, top, hl, hd⟩ := ((hopened rfl).ready.resolve_left hne).arrives
  have hnone := (hopened rfl).vacant hrep hne hback links top hl
  have hbelow : ∀ (n : String) x, w1.disk.entryAt (top ++ packageOf n ++ [x]) = none := by
    intro n x
    rw [List.append_assoc]
    exact hnone _ (by simp)
  refine ⟨links, top, ⟨⟨hm.tree, hl, hd, ?_⟩, ?_, ?_⟩, ?_, hnone⟩
  · intro rest hr t
    rw [hnone rest hr]
    simp
  · intro n name t _
    rw [temporaryPlace, hbelow]
    simp
  · intro _ n
    rw [dumpPlace, hbelow]
    simp
  · intro n name t _
    exact hbelow n _

end Start

/-- The parts of a run that has a report. -/
theorem run_generate {s : Setup ε} {names : List String} {w w' : World}
    {report : GenerationReport} (h : (s.generate names).run.run w = (.ok report, w')) :
    ∃ w1 w2, s.opening.run.run w = (.ok (), w1) ∧
      (s.generateAll .empty names).run.run w1 = (.ok report, w2) ∧ w2.Passes w' := by
  rw [s.generate_eq, Attempt.run_bind] at h
  rcases h1 : s.opening.run.run w with ⟨r1, w1⟩
  rw [h1] at h
  cases r1 with
  | error e => cases h
  | ok u =>
    dsimp only at h
    rw [Attempt.run_bind] at h
    rcases h2 : (s.generateAll .empty names).run.run w1 with ⟨r2, w2⟩
    rw [h2] at h
    cases r2 with
    | error e => cases h
    | ok report' =>
      refine ⟨w1, w2, rfl, ?_, ?_⟩
      · cases h
        exact h2
      · cases h
        exact ⟨rfl, rfl, Nat.le_refl _⟩

/-- A run over classes that started well and has a report: its ground, its visits and its report. -/
structure Setup.Story (s : Setup ε) (names : List String) (links : Nat) (top : Location)
    (w w1 w2 w' : World) (report : GenerationReport) : Prop where
  opening : s.opening.run.run w = (.ok (), w1)
  fresh : Fresh top w1
  visited : s.Visited links top w1 (s.trace names w) w2
  classes : (s.trace names w).map Visit.className = names
  goOn : ∀ v ∈ s.trace names w, v.goesOn
  report : report = (s.trace names w).foldl .add .empty
  passes : w2.Passes w'

theorem story_of_generate {s : Setup ε} {names : List String} {w w' : World}
    {report : GenerationReport} (hn : ∀ n ∈ names, WellFormed n)
    {P : Nat → Location → World → Prop}
    (hstart : ∀ w1, s.opening.run.run w = (.ok (), w1) →
      ∃ links top, s.Poised links top w1 ∧ Fresh top w1 ∧ P links top w1)
    (h : (s.generate names).run.run w = (.ok report, w')) :
    ∃ links top w1 w2, s.Story names links top w w1 w2 w' report ∧ P links top w1 := by
  obtain ⟨w1, w2, h1, h2, hpass⟩ := run_generate h
  obtain ⟨links, top, hp, hf, hP⟩ := hstart w1 h1
  have hrun := (ensures_generateAll hp hn .empty).result
  have htrace : s.visits names w1 = s.trace names w := by
    rw [Setup.trace, h1]
  rw [h2, htrace] at hrun
  obtain ⟨hvisited, hcloses⟩ := hrun
  cases hcloses with
  | report classes all =>
    exact ⟨links, top, w1, w2, ⟨h1, hf, hvisited, classes, all, rfl, hpass⟩, hP⟩

/-! ### Reports -/

namespace Setup.Story

variable {s : Setup ε} {names : List String} {links : Nat} {top : Location} {w w1 w2 w' : World}
  {report : GenerationReport}

theorem report_eq (h : s.Story names links top w w1 w2 w' report) :
    report =
      { generated := (s.trace names w).filterMap Visit.generated?
        skipped := (s.trace names w).filterMap Visit.skipped?
        failures := (s.trace names w).filterMap Visit.failure? } := by
  rw [h.report, GenerationReport.foldl_add]
  rfl

theorem mem_generated (h : s.Story names links top w w1 w2 w' report) {n : String} :
    n ∈ report.generated ↔
      ∃ v ∈ s.trace names w, v.result = .ok .generated ∧ v.className = n := by
  rw [h.report_eq]
  simp only [List.mem_filterMap, Visit.generated?_eq_some]

theorem mem_skipped (h : s.Story names links top w w1 w2 w' report) {n : String} :
    n ∈ report.skipped ↔
      ∃ v ∈ s.trace names w, v.result = .ok .skipped ∧ v.className = n := by
  rw [h.report_eq]
  simp only [List.mem_filterMap, Visit.skipped?_eq_some]

theorem mem_failures (h : s.Story names links top w w1 w2 w' report) {f : GenerationFailure} :
    f ∈ report.failures ↔
      ∃ v ∈ s.trace names w, v.result = .error f.error ∧ v.className = f.className := by
  rw [h.report_eq]
  simp only [List.mem_filterMap, Visit.failure?_eq_some]

/-! ### The end of a run -/

variable {n : String} {v : Visit}

theorem ground_start (h : s.Story names links top w w1 w2 w' report) :
    Ground w1.disk s.root links top := h.visited.poised.ground

theorem ground_end (h : s.Story names links top w w1 w2 w' report) :
    Ground w'.disk s.root links top := by
  rw [h.passes.disk]
  exact h.visited.ground

theorem effects (h : s.Story names links top w w1 w2 w' report) :
    Visited.Effects top (s.trace names w) w1 w' := by
  have h1 := h.visited.effects h.fresh
  refine ⟨h.passes.process.trans h1.process, Nat.le_trans h1.clock h.passes.clock, ?_,
    h1.fresh.of_passes h.passes, ?_⟩
  · rw [h.passes.disk]
    exact h1.keeps
  · rw [h.passes.disk]
    exact h1.entry

/-- A class that was not generated has at its two places what it had there. -/
theorem entries_eq (h : s.Story names links top w w1 w2 w' report)
    (hn : ∀ v ∈ s.trace names w, v.className = n → v.result ≠ .ok .generated) :
    w'.disk.entryAt (dumpPlace top n) = w1.disk.entryAt (dumpPlace top n) ∧
      w'.disk.entryAt (metricsPlace top n) = w1.disk.entryAt (metricsPlace top n) := by
  constructor
  · rcases h.effects.entry (dumpPlace top n) with h0 | ⟨v, hv, hr, h0 | h0⟩ | ⟨-, -, v, hv, h0⟩
    · exact h0
    · exact absurd hr (hn v hv (dumpPlace_inj h0).symm)
    · exact absurd h0 dumpPlace_ne_metricsPlace
    · exact absurd h0 not_withinPackage_dumpPlace
  · rcases h.effects.entry (metricsPlace top n) with h0 | ⟨v, hv, hr, h0 | h0⟩ | ⟨-, -, v, hv, h0⟩
    · exact h0
    · exact absurd h0.symm dumpPlace_ne_metricsPlace
    · exact absurd hr (hn v hv (metricsPlace_inj h0).symm)
    · exact absurd h0 not_withinPackage_metricsPlace

theorem wellFormed (h : s.Story names links top w w1 w2 w' report)
    (hn : ∀ n ∈ names, WellFormed n) (hv : v ∈ s.trace names w) : WellFormed v.className := by
  refine hn _ ?_
  rw [← h.classes]
  exact List.mem_map_of_mem hv

theorem reached (h : s.Story names links top w w1 w2 w' report) (hv : v ∈ s.trace names w)
    (hr : v.result = .ok .skipped) : s.Present v.className v.before := by
  refine Visited.each (P := fun v _ => v.result = .ok .skipped → s.Present v.className v.before)
    ?_ (fun _ _ _ _ _ _ ih => ih) h.visited h.fresh v hv hr
  rintro n w r m hvis rfl
  exact hvis.of_skipped.1

/-- A class that failed was not generated at any of its visits. -/
theorem failed_not_generated (h : s.Story names links top w w1 w2 w' report)
    (hw : w.disk.IsTree) (hclock : s.replace = true → names.Nodup ∨
      (Nat.toDigits 10 w'.clock).length = (Nat.toDigits 10 w.clock).length)
    {e : CensusError} (hv : v ∈ s.trace names w) (hr : v.result = .error e) :
    ∀ u ∈ s.trace names w, u.className = v.className → u.result ≠ .ok .generated := by
  have hopen := (ensures_opening (s := s) hw).result
  rw [h.opening] at hopen
  intro u hu hc hgen
  by_cases hnodup : names.Nodup
  · rw [← h.classes] at hnodup
    obtain rfl := List.inj_on_of_nodup_map hnodup hu hv hc
    rw [hr] at hgen
    cases hgen
  · refine Visited.exclusive h.visited h.fresh (fun hrep => ?_) hu hv hc hgen hr
    rw [hopen.1.clock]
    have hlength := (hclock hrep).resolve_left hnodup
    have hsize : (toString w'.clock).utf8ByteSize = (toString w.clock).utf8ByteSize := by
      rw [size_toString, size_toString, hlength]
    exact Nat.le_trans (size_toString_mono h.passes.clock) (Nat.le_of_eq hsize)

/-- The dump of a class that failed is not found in the end. -/
theorem failed_dump (h : s.Story names links top w w1 w2 w' report) (hn : WellFormed v.className)
    (hsame : ∀ u ∈ s.trace names w, u.className = v.className → u.result ≠ .ok .generated)
    (hempty : s.replace = true → ∀ rest, rest ≠ [] → w1.disk.entryAt (top ++ rest) = none)
    {e : CensusError} (hv : v ∈ s.trace names w) (hr : v.result = .error e) {fl : Bool}
    {r : Location × Entry} : w'.disk.find fl (s.paths v.className).dump ≠ .ok r := by
  intro hfind
  obtain ⟨hc, hs, x, hx, -⟩ := (find_dump_iff h.ground_end hn).mp hfind
  have hx1 : w1.disk.entryAt (dumpPlace top v.className) = some x := by
    rw [← (h.entries_eq hsame).1]
    exact hx
  cases hrep : s.replace with
  | true =>
    rw [dumpPlace, List.append_assoc, hempty hrep _ (by simp)] at hx1
    cases hx1
  | false =>
    have hpres : s.Present v.className w1.disk :=
      .of_find hrep ((find_dump_iff h.ground_start hn).mpr ⟨hc, hs, x, hx1, rfl⟩)
    have hskip := Visited.skipped_of_present h.visited h.fresh hn hpres hv rfl
    rw [hr] at hskip
    cases hskip

end Setup.Story

end ClassCensus
