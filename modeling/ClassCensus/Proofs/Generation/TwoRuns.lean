import ClassCensus.Proofs.Disk.Same
import ClassCensus.Proofs.Generation.Course
import Mathlib.Data.List.Forall2
import Mathlib.Data.List.Perm.Basic

/-!
# Two runs

Two runs that begin on disks with the same entries and come to the same classes, in whatever order, leave
disks with the same entries, and every class has the same outcome in both (`Setup.Course.same_end`,
`Setup.Course.reports_alike`). Errors are told apart only by what they say beside the names of temporary
files, and the numbers in these names have to be of one length.
-/

namespace ClassCensus

open Disk

/-! ### Errors -/

/-- Two errors that say the same but for the numbers in the name of a temporary file. -/
inductive CensusError.Alike : CensusError → CensusError → Prop where
  | refl (e : CensusError) : Alike e e
  | temporary (dir : Path) (name : Octets) (stamp stamp' : Stamp) (f : DiskFault) :
      Alike (.ofFault (dir.push (temporaryName name stamp)) f)
        (.ofFault (dir.push (temporaryName name stamp')) f)

/-- Two outcomes of a class that are the same but for the numbers in the name of a temporary file. -/
def OutcomeAlike : Except CensusError ClassOutcome → Except CensusError ClassOutcome → Prop
  | .ok o, .ok o' => o = o'
  | .error e, .error e' => e.Alike e'
  | _, _ => False

/-- Two failures of one class. -/
structure GenerationFailure.Alike (f g : GenerationFailure) : Prop where
  className : f.className = g.className
  error : f.error.Alike g.error

/-- Two reports that are the same but for the numbers in the names of temporary files. -/
structure GenerationReport.Alike (r r' : GenerationReport) : Prop where
  generated : r.generated = r'.generated
  skipped : r.skipped = r'.skipped
  failures : List.Forall₂ GenerationFailure.Alike r.failures r'.failures

/-- Two reports that are alike when the classes of one of them are put into another order. -/
structure GenerationReport.Reordered (r r' : GenerationReport) : Prop where
  generated : r.generated.Perm r'.generated
  skipped : r.skipped.Perm r'.skipped
  failures : ∃ fs, List.Forall₂ GenerationFailure.Alike r.failures fs ∧ fs.Perm r'.failures

/-- Two fates that are the same but for the numbers in the name of a temporary file. -/
inductive Fate.Alike : Fate → Fate → Prop where
  | skipped : Alike .skipped .skipped
  | failed {e e' : CensusError} (error : e.Alike e') : Alike (.failed e) (.failed e')
  | withdrawn (e : CensusError) : Alike (.withdrawn e) (.withdrawn e)
  | generated (b : Contents) : Alike (.generated b) (.generated b)

theorem Fate.Alike.result {φ ψ : Fate} (h : φ.Alike ψ) : OutcomeAlike φ.result ψ.result := by
  cases h with
  | skipped => rfl
  | failed error => exact error
  | withdrawn e => exact .refl e
  | generated b => rfl

/-! ### Numbers of one length -/

/-- The number of decimal digits. -/
def digitCount (n : Nat) : Nat := (Nat.toDigits 10 n).length

theorem digitCount_mono {m n : Nat} (h : m ≤ n) : digitCount m ≤ digitCount n := by
  have hsize := size_toString_mono h
  rwa [size_toString, size_toString] at hsize

theorem digitCount_between {a b t : Nat} (h : digitCount b = digitCount a) (ha : a ≤ t) (hb : t ≤ b) :
    digitCount t = digitCount a := by
  have h1 := digitCount_mono ha
  have h2 := digitCount_mono hb
  omega

/-- The numbers of two runs are of one length: those of their processes, and those of their clocks at
the beginning and at the end. -/
structure World.SameLengths (w w' m m' : World) : Prop where
  process : digitCount w.process = digitCount m.process
  till : digitCount w'.clock = digitCount w.clock
  clock : digitCount m.clock = digitCount w.clock
  till' : digitCount m'.clock = digitCount w.clock

namespace World.SameLengths

variable {w w' m m' : World}

theorem symm (h : SameLengths w w' m m') : SameLengths m m' w w' :=
  ⟨h.process.symm, h.till'.trans h.clock.symm, h.clock.symm, h.till.trans h.clock.symm⟩

/-- The lengths stay the same for parts of the runs. -/
theorem part {w1 w2 m1 m2 : World} (h : SameLengths w w' m m') (hw1 : w.Later w1)
    (hw2 : w1.Later w2) (hw3 : w2.Later w') (hm1 : m.Later m1) (hm2 : m1.Later m2)
    (hm3 : m2.Later m') : SameLengths w1 w2 m1 m2 := by
  have hend := hw2.clock
  have hend' := hm2.clock
  have h1 := digitCount_between h.till hw1.clock (Nat.le_trans hend hw3.clock)
  have h2 := digitCount_between h.till (Nat.le_trans hw1.clock hend) hw3.clock
  have hm := h.till'.trans h.clock.symm
  have h3 := digitCount_between hm hm1.clock (Nat.le_trans hend' hm3.clock)
  have h4 := digitCount_between hm (Nat.le_trans hm1.clock hend') hm3.clock
  refine ⟨?_, h2.trans h1.symm, ?_, ?_⟩
  · rw [hw1.process, hm1.process, h.process]
  · rw [h3, h1, h.clock]
  · rw [h4, h1, h.clock]

end World.SameLengths

/-- Two stamps of one length. -/
structure Stamp.SameLength (a b : Stamp) : Prop where
  process : digitCount a.process = digitCount b.process
  time : digitCount a.time = digitCount b.time

theorem World.SameLengths.stamp {w w' m m' : World} (h : SameLengths w w' m m') :
    Stamp.SameLength ⟨w.process, w.clock⟩ ⟨m.process, m.clock⟩ :=
  ⟨h.process, h.clock.symm⟩

theorem Stamp.SameLength.size {a b : Stamp} (h : a.SameLength b) (name : Octets) :
    (temporaryName name a).length = (temporaryName name b).length := by
  have h1 : (Nat.toDigits 10 a.process).length = (Nat.toDigits 10 b.process).length := h.process
  have h2 : (Nat.toDigits 10 a.time).length = (Nat.toDigits 10 b.time).length := h.time
  simp only [size_temporaryName, size_toString]
  omega

theorem checkPath_push_congr (p : Path) {m n : Octets} (hm : Path.IsName m) (hn : Path.IsName n)
    (hz : Octet.nul ∈ m ↔ Octet.nul ∈ n) (hs : m.length = n.length) :
    checkPath (p.push m) = checkPath (p.push n) := by
  have hzero : (p.push m).octets.contains Octet.nul = (p.push n).octets.contains Octet.nul := by
    rw [Bool.eq_iff_iff, List.contains_iff_mem, List.contains_iff_mem, Path.octets_push p hm,
      Path.octets_push p hn, List.mem_append, List.mem_append, hz]
  have hsize : (p.push m).octets.length = (p.push n).octets.length := by
    rw [p.size_push hm, p.size_push hn, hs]
  simp only [checkPath, hzero, p.octets_push_ne hm, p.octets_push_ne hn, hsize, if_false]

/-- Stamps of one length make the same difference to whether a file can be written. -/
theorem writeFault_alike (p : Path) {name : Octets} (hn : Path.IsName name) {a b : Stamp}
    (h : a.SameLength b) (taken : Bool) :
    (writeFault p name a taken = none ∧ writeFault p name b taken = none) ∨
      ∃ q q' f, writeFault p name a taken = some (q, f) ∧ writeFault p name b taken = some (q', f) ∧
        CensusError.Alike (.ofFault q f) (.ofFault q' f) := by
  have hcheck : checkPath (p.trimmed.push (temporaryName name a)) =
      checkPath (p.trimmed.push (temporaryName name b)) :=
    checkPath_push_congr _ (isName_temporaryName hn a) (isName_temporaryName hn b)
      (nul_mem_temporaryName_iff.trans nul_mem_temporaryName_iff.symm) (h.size name)
  have hsize := h.size name
  rcases checkPath_cases (p.trimmed.push (temporaryName name b)) with hc | ⟨f, hc⟩
  · rw [hc] at hcheck
    by_cases hlong : nameLimit < (temporaryName name b).length
    · refine .inr ⟨_, _, .nameTooLong, ?_, ?_, .temporary p.trimmed name a b _⟩
      · simp only [writeFault, hcheck, hsize, hlong, if_true]
      · simp only [writeFault, hc, hlong, if_true]
    · have hsame : writeFault p name a taken = writeFault p name b taken := by
        simp only [writeFault, hcheck, hc, hsize, hlong, if_false]
      rw [hsame]
      cases hw : writeFault p name b taken with
      | none => exact .inl ⟨rfl, rfl⟩
      | some r => exact .inr ⟨r.1, r.1, r.2, rfl, rfl, .refl _⟩
  · rw [hc] at hcheck
    refine .inr ⟨_, _, f, ?_, ?_, .temporary p.trimmed name a b f⟩
    · simp only [writeFault, hcheck]
    · simp only [writeFault, hc]

/-! ### Visits -/

/-- Two visits of one class with the same outcome. -/
structure TimedVisit.Alike (v u : TimedVisit) : Prop where
  className : v.className = u.className
  result : OutcomeAlike v.result u.result

theorem forall₂_of_mem {α β : Type} {R Q : α → β → Prop} {as : List α} {bs : List β}
    (h : List.Forall₂ R as bs) (hq : ∀ a ∈ as, ∀ b ∈ bs, R a b → Q a b) : List.Forall₂ Q as bs := by
  induction h with
  | nil => exact .nil
  | cons hr hrest ih =>
    refine .cons (hq _ (List.mem_cons_self ..) _ (List.mem_cons_self ..) hr) (ih ?_)
    intro a ha b hb
    exact hq a (List.mem_cons_of_mem _ ha) b (List.mem_cons_of_mem _ hb)

theorem Visit.kinds_alike {v u : Visit} (hc : v.className = u.className)
    (hr : OutcomeAlike v.result u.result) :
    v.generated? = u.generated? ∧ v.skipped? = u.skipped? ∧
      Option.Rel GenerationFailure.Alike v.failure? u.failure? := by
  unfold Visit.generated? Visit.skipped? Visit.failure?
  cases hv : v.result with
  | ok o =>
    cases hu : u.result with
    | ok o' =>
      rw [hv, hu] at hr
      obtain rfl : o = o' := hr
      rw [hc]
      exact ⟨rfl, rfl, .none⟩
    | error e =>
      rw [hv, hu] at hr
      exact hr.elim
  | error e =>
    cases hu : u.result with
    | ok o =>
      rw [hv, hu] at hr
      exact hr.elim
    | error e' =>
      rw [hv, hu] at hr
      exact ⟨rfl, rfl, .some ⟨hc, hr⟩⟩

theorem filterMap_alike {α β : Type} {R : α → α → Prop} {f : α → Option β} {as bs : List α}
    (h : List.Forall₂ R as bs) (hf : ∀ a b, R a b → f a = f b) :
    as.filterMap f = bs.filterMap f := by
  induction h with
  | nil => rfl
  | @cons a b as bs hab hrest ih => rw [List.filterMap_cons, List.filterMap_cons, hf a b hab, ih]

theorem Setup.reportOf_alike {vs us : List TimedVisit} (h : List.Forall₂ TimedVisit.Alike vs us) :
    (reportOf .empty vs).Alike (reportOf .empty us) := by
  have hvisits : List.Forall₂ (fun v u : Visit => v.className = u.className ∧
      OutcomeAlike v.result u.result) (vs.map TimedVisit.toVisit) (us.map TimedVisit.toVisit) := by
    rw [List.forall₂_map_left_iff, List.forall₂_map_right_iff]
    exact h.imp fun _ _ hvu => ⟨hvu.className, hvu.result⟩
  simp only [reportOf, GenerationReport.foldl_add, GenerationReport.empty, List.nil_append]
  refine ⟨?_, ?_, ?_⟩
  · exact filterMap_alike hvisits fun v u hvu => (Visit.kinds_alike hvu.1 hvu.2).1
  · exact filterMap_alike hvisits fun v u hvu => (Visit.kinds_alike hvu.1 hvu.2).2.1
  · exact List.rel_filterMap (fun _ _ hvu => (Visit.kinds_alike hvu.1 hvu.2).2.2) hvisits

/-! ### Fates -/

variable {ε : Type} [ClassEngine ε] {s : Setup ε} {links : Nat} {top : Location} {n : String}
  {d : Disk} {w w' m m' : World} {names names' : List String} {vs us : List TimedVisit}

namespace Setup

theorem fate_alike (s : Setup ε) (top : Location) (d : Disk) (hn : WellFormed n) {a b : Stamp}
    (h : a.SameLength b) : (s.fate top a d n).Alike (s.fate top b d n) := by
  unfold fate
  split
  · exact .skipped
  · split
    · exact .failed (.refl _)
    · split
      · exact .failed (.refl _)
      · split
        · exact .failed (.refl _)
        · rcases writeFault_alike (s.root.pushAll (packageOf n)) hn.metricsName h
            (d.hasDir (metricsPlace top n)) with ⟨h1, h2⟩ | ⟨q, q', f, h1, h2, halike⟩
          · simp only [metricsFault, h1, h2]
            split
            · exact .withdrawn _
            · exact .generated _
          · simp only [metricsFault, h1, h2]
            exact .failed halike

theorem Leaves.alike {φ ψ : Fate} {l : Location} {x : Option Entry} (h : φ.Alike ψ)
    (hx : s.Leaves top n d φ l x) : s.Leaves top n d ψ l x := by
  have htried : φ ≠ .skipped → ψ ≠ .skipped := by
    rintro hne rfl
    cases h
    exact hne rfl
  cases hx with
  | directory tried within => exact .directory (htried tried) within
  | dump =>
    cases h
    exact .dump
  | metrics =>
    cases h
    exact .metrics
  | nothing =>
    cases h
    exact .nothing

/-! ### Courses -/

/-- Two runs that begin alike: with the same entries on the disk and the same classes, and with numbers
of one length. -/
structure BeginAlike (s : Setup ε) (links : Nat) (top : Location) (names : List String)
    (w w' m m' : World) : Prop where
  ground : Ground w.disk s.root links top
  same : Same w.disk m.disk
  wellFormed : ∀ n ∈ names, WellFormed n
  lengths : World.SameLengths w w' m m'

theorem BeginAlike.ground' (hb : s.BeginAlike links top names w w' m m') :
    Ground m.disk s.root links top :=
  hb.same.ground hb.ground

theorem BeginAlike.symm (hb : s.BeginAlike links top names w w' m m')
    (hn : ∀ n ∈ names', WellFormed n) : s.BeginAlike links top names' m m' w w' :=
  ⟨hb.ground', hb.same.symm, hn, hb.lengths.symm⟩

/-- Two runs whose openings leave the same entries come to their classes alike. -/
theorem begin_alike {w1 w2 m1 m2 : World} (ho : s.Opening w w1) (ho' : s.Opening m m1)
    (g : Ground w1.disk s.root links top) (hs : Same w1.disk m1.disk)
    (hn : ∀ n ∈ names, WellFormed n) (hl : World.SameLengths w w' m m')
    (h : s.Course links top names w1 w2 vs) (h' : s.Course links top names' m1 m2 us)
    (hp : w2.Passes w') (hp' : m2.Passes m') : s.BeginAlike links top names w1 w2 m1 m2 :=
  ⟨g, hs, hn, hl.part ⟨ho.process, Nat.le_of_eq ho.clock.symm⟩ ⟨h.process, h.clock⟩ ⟨hp.process, hp.clock⟩
    ⟨ho'.process, Nat.le_of_eq ho'.clock.symm⟩ ⟨h'.process, h'.clock⟩ ⟨hp'.process, hp'.clock⟩⟩

namespace Course

variable (hb : s.BeginAlike links top names w w' m m') (h : s.Course links top names w w' vs)
  (h' : s.Course links top names' m m' us)

theorem className_mem (h : s.Course links top names w w' vs) {v : TimedVisit} (hv : v ∈ vs) :
    v.className ∈ names := by
  rw [← h.classes]
  exact List.mem_map_of_mem hv

theorem exists_visit (h : s.Course links top names w w' vs) (hn : n ∈ names) :
    ∃ v ∈ vs, v.className = n := by
  rw [← h.classes] at hn
  exact List.mem_map.mp hn

include hb h h'

theorem sameLength {v u : TimedVisit} (hv : v ∈ vs) (hu : u ∈ us) :
    Stamp.SameLength ⟨w.process, v.time⟩ ⟨m.process, u.time⟩ := by
  refine ⟨hb.lengths.process, ?_⟩
  have h1 := digitCount_between hb.lengths.till (h.since v hv) (h.till v hv)
  have h2 := digitCount_between (hb.lengths.till'.trans hb.lengths.clock.symm) (h'.since u hu)
    (h'.till u hu)
  have h3 := hb.lengths.clock
  dsimp only
  omega

theorem fates_alike {v u : TimedVisit} (hv : v ∈ vs) (hu : u ∈ us)
    (hc : v.className = u.className) :
    (s.fateAt top w.process w.disk v).Alike (s.fateAt top m.process m.disk u) := by
  have hn := hb.wellFormed _ (h.className_mem hv)
  have hsame : s.Indistinct top v.className w.disk m.disk := .of_same hb.same.entry
  rw [fateAt, fateAt, ← hc, hsame.fate_eq hb.ground hb.ground' hn]
  exact s.fate_alike top w.disk hn (sameLength hb h h' hv hu)

theorem outcomes_alike {v u : TimedVisit} (hv : v ∈ vs) (hu : u ∈ us)
    (hc : v.className = u.className) : OutcomeAlike v.result u.result := by
  rw [h.result v hv, h'.result u hu]
  exact (fates_alike hb h h' hv hu hc).result

theorem leaves_of_leaves (hnames : ∀ n ∈ names, n ∈ names') {l : Location} {x : Option Entry}
    (hx : s.AllLeave top w.process w.disk vs l x) : s.AllLeave top m.process m.disk us l x := by
  obtain ⟨v, hv, hx⟩ := hx
  obtain ⟨u, hu, hc⟩ := h'.exists_visit (hnames _ (h.className_mem hv))
  refine ⟨u, hu, ?_⟩
  have halike := hx.alike (fates_alike hb h h' hv hu hc.symm)
  rw [hc]
  exact (Indistinct.of_same hb.same.entry).leaves_iff.mpr halike

/-- Both runs leave the same entries. -/
theorem same_end (hnames : ∀ n, n ∈ names ↔ n ∈ names') : Same w'.disk m'.disk := by
  have hb' : s.BeginAlike links top names' m m' w w' :=
    hb.symm fun n hn => hb.wellFormed n ((hnames n).mpr hn)
  have hthere : ∀ {l x}, s.AllLeave top w.process w.disk vs l x →
      s.AllLeave top m.process m.disk us l x := leaves_of_leaves hb h h' fun n => (hnames n).mp
  have hback : ∀ {l x}, s.AllLeave top m.process m.disk us l x →
      s.AllLeave top w.process w.disk vs l x := leaves_of_leaves hb' h' h fun n => (hnames n).mpr
  refine ⟨?_, fun l => ?_⟩
  · rw [h'.leaves.home, h.leaves.home, hb.same.home]
  · by_cases hl : ∃ x, s.AllLeave top w.process w.disk vs l x
    · obtain ⟨x, hx⟩ := hl
      rw [h.leaves.mark l x hx, h'.leaves.mark l x (hthere hx)]
    · rw [h.leaves.other l fun x hx => hl ⟨x, hx⟩,
        h'.leaves.other l fun x hx => hl ⟨x, hback hx⟩, hb.same.entry]

theorem visits_alike {us' : List TimedVisit}
    (hus : List.Forall₂ (fun n u => u.className = n) names us') (hmem : ∀ u ∈ us', u ∈ us) :
    List.Forall₂ TimedVisit.Alike vs us' := by
  have hclasses := hus
  rw [← h.classes, List.forall₂_map_left_iff] at hclasses
  refine forall₂_of_mem hclasses ?_
  intro v hv u hu hc
  exact ⟨hc.symm, outcomes_alike hb h h' hv (hmem u hu) hc.symm⟩

/-- Runs over the same classes in the same order have the same report. -/
theorem reports_alike (hnames : names = names') :
    (reportOf .empty vs).Alike (reportOf .empty us) := by
  have hus : List.Forall₂ (fun n u => u.className = n) names us := by
    rw [hnames, ← h'.classes]
    exact List.forall₂_map_left_iff.mpr (List.forall₂_same.mpr fun _ _ => rfl)
  exact reportOf_alike (visits_alike hb h h' hus fun _ hu => hu)

/-- Runs over the same classes in another order have reports with the same outcomes. -/
theorem reports_reordered (hnames : names.Perm names') :
    (reportOf .empty vs).Reordered (reportOf .empty us) := by
  have hus : List.Forall₂ (fun n u => u.className = n) names' us := by
    rw [← h'.classes]
    exact List.forall₂_map_left_iff.mpr (List.forall₂_same.mpr fun _ _ => rfl)
  obtain ⟨us', hus', hperm⟩ := List.perm_comp_forall₂ hnames hus
  have halike := reportOf_alike (visits_alike hb h h' hus' fun u hu => hperm.subset hu)
  have hlists := hperm.map TimedVisit.toVisit
  have hreport : ∀ vs : List TimedVisit, reportOf .empty vs =
      { generated := (vs.map TimedVisit.toVisit).filterMap Visit.generated?
        skipped := (vs.map TimedVisit.toVisit).filterMap Visit.skipped?
        failures := (vs.map TimedVisit.toVisit).filterMap Visit.failure? } :=
    fun vs => GenerationReport.foldl_add .empty _
  refine ⟨?_, ?_, _, halike.failures, ?_⟩
  · rw [halike.generated, hreport us', hreport us]
    exact hlists.filterMap _
  · rw [halike.skipped, hreport us', hreport us]
    exact hlists.filterMap _
  · rw [hreport us', hreport us]
    exact hlists.filterMap _

end Course

/-! ### How runs end -/

/-- What a run tells in the end: the classes of each kind, and the clock. -/
def ending (s : Setup ε) (names : List String) (w : World) :
    Except CensusError (List String × List String × List String) × Nat :=
  let out := (s.generate names).run.run w
  (out.1.map fun r => (r.generated, r.skipped, r.failures.map (·.className)), out.2.clock)

theorem exists_of_ending {generated skipped failed : List String} {t : Nat}
    (h : s.ending names w = (.ok (generated, skipped, failed), t)) :
    ∃ r w', (s.generate names).run.run w = (.ok r, w') ∧ r.generated = generated ∧
      r.skipped = skipped ∧ r.failures.map (·.className) = failed ∧ w'.clock = t := by
  unfold ending at h
  rcases hrun : (s.generate names).run.run w with ⟨r, w'⟩
  rw [hrun] at h
  cases r with
  | error e => cases h
  | ok r =>
    cases h
    exact ⟨r, w', rfl, rfl, rfl, rfl, rfl⟩

end Setup

end ClassCensus
