import ClassCensus.Proofs.Generation.Fate

/-!
# The course of a run

No class has an influence on the fate of another one (`Setup.Met.fate_eq`): what it leaves are
directories, which stand in nobody's way, and its own two files. So the outcome of every class of a run
and all that the run leaves can be read off the disk on which it begins (`ensures_course`).
-/

namespace ClassCensus

open Disk

variable {ε : Type} [ClassEngine ε] {s : Setup ε} {links : Nat} {top : Location} {n k : String}
  {d d' : Disk} {stamp stamp' : Stamp} {w m w' : World}

namespace Setup

/-! ### What a fate depends on -/

theorem present_congr (g : Ground d s.root links top) (g' : Ground d' s.root links top)
    (hn : WellFormed n)
    (h : s.replace = false → d'.entryAt (dumpPlace top n) = d.entryAt (dumpPlace top n)) :
    s.Present n d' ↔ s.Present n d := by
  have hstep : ∀ {d d' : Disk}, Ground d s.root links top → Ground d' s.root links top →
      (s.replace = false → d'.entryAt (dumpPlace top n) = d.entryAt (dumpPlace top n)) →
      s.Present n d → s.Present n d' := by
    rintro d d' g g' h ⟨hrep, kind, hk⟩
    obtain ⟨r, hfind, -⟩ := find_of_status hk
    obtain ⟨hc, hs, e, he, -⟩ := (find_dump_iff g hn).mp hfind
    rw [← h hrep] at he
    exact .of_find hrep ((find_dump_iff g' hn).mpr ⟨hc, hs, e, he, rfl⟩)
  exact ⟨hstep g' g fun hrep => (h hrep).symm, hstep g g' h⟩

/-- Two disks between which the fate of a class cannot tell. -/
structure Indistinct (s : Setup ε) (top : Location) (n : String) (d d' : Disk) : Prop where
  blocks : ∀ part, part ≠ [] → part <+: packageOf n → d'.blocks (top ++ part) = d.blocks (top ++ part)
  dump : s.replace = false → d'.entryAt (dumpPlace top n) = d.entryAt (dumpPlace top n)
  dumpDirectory : d'.hasDir (dumpPlace top n) = d.hasDir (dumpPlace top n)
  metricsDirectory : d'.hasDir (metricsPlace top n) = d.hasDir (metricsPlace top n)

namespace Indistinct

theorem of_same (h : ∀ l, d'.entryAt l = d.entryAt l) : s.Indistinct top n d d' := by
  refine ⟨fun part _ _ => blocks_congr (h _), fun _ => h _, ?_, ?_⟩
  · simp only [hasDir, h]
  · simp only [hasDir, h]

variable (h : s.Indistinct top n d d')

include h

theorem fate_eq (g : Ground d s.root links top) (g' : Ground d' s.root links top)
    (hn : WellFormed n) : s.fate top stamp d' n = s.fate top stamp d n := by
  have hfault : packageFault d' s.root top (packageOf n) = packageFault d s.root top (packageOf n) :=
    (packageFault_congr h.blocks).1
  have hmetrics : s.metricsFault top stamp d' n = s.metricsFault top stamp d n := by
    simp only [metricsFault, h.metricsDirectory]
  simp only [fate, hfault, hmetrics, h.dumpDirectory, present_congr g g' hn h.dump]

theorem leaves_iff {fate : Fate} {l : Location} {x : Option Entry} :
    s.Leaves top n d' fate l x ↔ s.Leaves top n d fate l x := by
  have hpavable : pavable d' s.root top (packageOf n) = pavable d s.root top (packageOf n) :=
    (packageFault_congr h.blocks).2
  constructor
  · rintro (⟨tried, within⟩ | _ | _ | _)
    · exact .directory tried (hpavable ▸ within)
    · exact .dump
    · exact .metrics
    · exact .nothing
  · rintro (⟨tried, within⟩ | _ | _ | _)
    · exact .directory tried (hpavable.symm ▸ within)
    · exact .dump
    · exact .metrics
    · exact .nothing

end Indistinct

/-! ### What a fate tells of the disk -/

/-- The ways to a fate. -/
inductive Comes (s : Setup ε) (top : Location) (stamp : Stamp) (d : Disk) (n : String) : Fate → Prop where
  | skipped (present : s.Present n d) : Comes s top stamp d n .skipped
  | barred {f : DiskFault} (fault : packageFault d s.root top (packageOf n) = some f) :
      Comes s top stamp d n (.failed (.ofFault (s.directory n) f))
  | unresolved {e : CensusError} (resolve : s.session.resolve n = .error e) :
      Comes s top stamp d n (.failed e)
  | unprinted {c : ClassDef} {f : DiskFault} (printed : s.printed c = .error f) :
      Comes s top stamp d n (.failed (.ofFault (s.paths n).dump f))
  | unwritten {p : Path} {f : DiskFault} (fault : s.metricsFault top stamp d n = some (p, f)) :
      Comes s top stamp d n (.failed (.ofFault p f))
  | withdrawn (clear : s.metricsFault top stamp d n = none)
      (taken : d.hasDir (dumpPlace top n) = true) :
      Comes s top stamp d n (.withdrawn (.ofFault (s.paths n).dump .isDirectory))
  | generated {b : Contents} (contents : s.contents n = some b)
      (clear : s.metricsFault top stamp d n = none) (free : d.hasDir (dumpPlace top n) = false) :
      Comes s top stamp d n (.generated b)

theorem comes_to_fate : s.Comes top stamp d n (s.fate top stamp d n) := by
  unfold fate
  by_cases hpresent : s.Present n d
  · simp only [hpresent, if_true]
    exact .skipped hpresent
  · simp only [hpresent, if_false]
    cases hfault : packageFault d s.root top (packageOf n) with
    | some f => exact .barred hfault
    | none =>
      cases hc : s.session.resolve n with
      | error e => exact .unresolved hc
      | ok c =>
        cases ht : s.printed c with
        | error f =>
          simp only [ht]
          exact .unprinted ht
        | ok text =>
          cases hmetrics : s.metricsFault top stamp d n with
          | some r =>
            simp only [ht]
            exact .unwritten hmetrics
          | none =>
            simp only [ht]
            cases htaken : d.hasDir (dumpPlace top n) with
            | true => exact .withdrawn hmetrics htaken
            | false => exact .generated (s.contents_of_printed hc ht) hmetrics htaken

theorem fate_generated {b : Contents} (h : s.fate top stamp d n = .generated b) :
    s.contents n = some b ∧ d.hasDir (dumpPlace top n) = false ∧
      d.hasDir (metricsPlace top n) = false := by
  have hcomes : s.Comes top stamp d n (s.fate top stamp d n) := comes_to_fate
  rw [h] at hcomes
  cases hcomes with
  | generated contents clear free => exact ⟨contents, free, (writeFault_eq_none.mp clear).2⟩

theorem fate_withdrawn {e : CensusError} (h : s.fate top stamp d n = .withdrawn e) :
    d.hasDir (dumpPlace top n) = true ∧ d.hasDir (metricsPlace top n) = false := by
  have hcomes : s.Comes top stamp d n (s.fate top stamp d n) := comes_to_fate
  rw [h] at hcomes
  cases hcomes with
  | withdrawn clear taken => exact ⟨taken, (writeFault_eq_none.mp clear).2⟩

theorem fate_skipped (h : s.fate top stamp d n = .skipped) : s.Present n d := by
  have hcomes : s.Comes top stamp d n (s.fate top stamp d n) := comes_to_fate
  rw [h] at hcomes
  cases hcomes with
  | skipped present => exact present

theorem fate_error {e : CensusError} (h : (s.fate top stamp d n).result = .error e) :
    e.isRecoverable = true ∨ s.session.resolve n = .error e := by
  have hcomes : s.Comes top stamp d n (s.fate top stamp d n) := comes_to_fate
  generalize s.fate top stamp d n = fate at h hcomes
  cases hcomes with
  | skipped => cases h
  | barred => cases h; exact .inl rfl
  | unresolved resolve => cases h; exact .inr resolve
  | unprinted => cases h; exact .inl rfl
  | unwritten => cases h; exact .inl rfl
  | withdrawn => cases h; exact .inl rfl
  | generated => cases h

/-- What a class leaves is a directory where nothing stood in its way, or something else at one of its
own two places, where no directory was. -/
theorem Leaves.cases {l : Location} {x : Option Entry}
    (h : s.Leaves top n d (s.fate top stamp d n) l x) :
    (x = some .directory ∧ WithinPackage top (packageOf n) l ∧ d.blocks l = false) ∨
      (x ≠ some .directory ∧ (l = dumpPlace top n ∨ l = metricsPlace top n) ∧
        d.hasDir l = false) := by
  generalize hfate : s.fate top stamp d n = fate at h
  cases h with
  | directory tried within =>
    refine .inl ⟨rfl, within.mono (pavable_isPrefix ..), ?_⟩
    obtain ⟨part, hne, hpre, rfl⟩ := within
    unfold pavable at hpre
    split at hpre
    · exact absurd (List.prefix_nil.mp hpre) hne
    · exact blocks_of_passable hne hpre
  | dump => exact .inr ⟨by simp, .inl rfl, (fate_generated hfate).2.1⟩
  | metrics => exact .inr ⟨by simp, .inr rfl, (fate_generated hfate).2.2⟩
  | nothing => exact .inr ⟨by simp, .inr rfl, (fate_withdrawn hfate).2⟩

theorem Leaves.within_package {l : Location} {x : Option Entry}
    (h : s.Leaves top n d (s.fate top stamp d n) l x) (hl : WithinPackage top (packageOf k) l) :
    x = some .directory := by
  rcases h.cases with ⟨hx, -⟩ | ⟨-, rfl | rfl, -⟩
  · exact hx
  · exact absurd hl not_withinPackage_dumpPlace
  · exact absurd hl not_withinPackage_metricsPlace

theorem Leaves.at_dump {x : Option Entry}
    (h : s.Leaves top n d (s.fate top stamp d n) (dumpPlace top k) x) :
    ∃ b, s.contents k = some b ∧ x = some (.file b.dump) := by
  generalize hfate : s.fate top stamp d n = fate at h
  generalize hl : dumpPlace top k = l at h
  cases h with
  | directory tried within =>
    rw [← hl] at within
    exact absurd (within.mono (pavable_isPrefix ..)) not_withinPackage_dumpPlace
  | dump =>
    rw [dumpPlace_inj hl]
    exact ⟨_, (fate_generated hfate).1, rfl⟩
  | metrics => exact absurd hl dumpPlace_ne_metricsPlace
  | nothing => exact absurd hl dumpPlace_ne_metricsPlace

theorem Leaves.at_metrics {x : Option Entry}
    (h : s.Leaves top n d (s.fate top stamp d n) (metricsPlace top k) x) :
    if d.hasDir (dumpPlace top k) then x = none
    else ∃ b, s.contents k = some b ∧ x = some (.file b.metrics) := by
  generalize hfate : s.fate top stamp d n = fate at h
  generalize hl : metricsPlace top k = l at h
  cases h with
  | directory tried within =>
    rw [← hl] at within
    exact absurd (within.mono (pavable_isPrefix ..)) not_withinPackage_metricsPlace
  | dump => exact absurd hl.symm dumpPlace_ne_metricsPlace
  | metrics =>
    obtain ⟨hcontents, hfree, -⟩ := fate_generated hfate
    rw [metricsPlace_inj hl, hfree]
    exact ⟨_, hcontents, rfl⟩
  | nothing =>
    rw [metricsPlace_inj hl, (fate_withdrawn hfate).1]
    rfl

/-- Two classes do not leave different things at one place. -/
theorem Leaves.unique {l : Location} {x y : Option Entry}
    (hx : s.Leaves top n d (s.fate top stamp d n) l x)
    (hy : s.Leaves top k d (s.fate top stamp' d k) l y) : x = y := by
  rcases hx.cases with ⟨rfl, hwithin, -⟩ | ⟨-, rfl | rfl, -⟩
  · exact (hy.within_package hwithin).symm
  · obtain ⟨b, hb, rfl⟩ := hx.at_dump
    obtain ⟨b', hb', rfl⟩ := hy.at_dump
    obtain rfl : b = b' := Option.some.inj (hb.symm.trans hb')
    rfl
  · have hxm := hx.at_metrics
    have hym := hy.at_metrics
    split at hxm
    · rename_i htaken
      rw [if_pos htaken] at hym
      rw [hxm, hym]
    · rename_i hfree
      rw [if_neg hfree] at hym
      obtain ⟨b, hb, rfl⟩ := hxm
      obtain ⟨b', hb', rfl⟩ := hym
      obtain rfl : b = b' := Option.some.inj (hb.symm.trans hb')
      rfl

/-! ### One class after another -/

/-- The fate of a class is not changed by another one, nor by itself if artifacts are replaced. -/
theorem Met.indistinct {r : Except CensusError ClassOutcome} {t : Nat}
    (h : s.Met top links k w r m t) (hk : n ≠ k ∨ s.replace = true) :
    s.Indistinct top n w.disk m.disk := by
  have hdirs : ∀ l, ¬WithinPackage top (packageOf k) l →
      m.disk.hasDir l = w.disk.hasDir l := by
    intro l hl
    by_cases hmark : ∃ x, s.Leaves top k w.disk (s.fate top ⟨w.process, t⟩ w.disk k) l x
    · obtain ⟨x, hx⟩ := hmark
      rcases hx.cases with ⟨-, hwithin, -⟩ | ⟨hne, -, hfree⟩
      · exact absurd hwithin hl
      · rw [hfree, Bool.eq_false_iff]
        intro h0
        rw [hasDir_iff, h.leaves.mark l x hx] at h0
        exact hne h0
    · have hsame := h.leaves.other l fun x hx => hmark ⟨x, hx⟩
      simp only [hasDir, hsame]
  refine ⟨?_, ?_, hdirs _ not_withinPackage_dumpPlace, hdirs _ not_withinPackage_metricsPlace⟩
  · intro part hne hpre
    have hwithin : WithinPackage top (packageOf n) (top ++ part) := ⟨part, hne, hpre, rfl⟩
    by_cases hmark : ∃ x, s.Leaves top k w.disk (s.fate top ⟨w.process, t⟩ w.disk k) (top ++ part) x
    · obtain ⟨x, hx⟩ := hmark
      rcases hx.cases with ⟨rfl, -, hfree⟩ | ⟨-, hl | hl, -⟩
      · rw [hfree, blocks_eq_false.mpr (.inr (h.leaves.mark _ _ hx))]
      · rw [hl] at hwithin
        exact absurd hwithin not_withinPackage_dumpPlace
      · rw [hl] at hwithin
        exact absurd hwithin not_withinPackage_metricsPlace
    · exact blocks_congr (h.leaves.other _ fun x hx => hmark ⟨x, hx⟩)
  · intro hrep
    have hne : n ≠ k := hk.resolve_right (by simp [hrep])
    refine h.leaves.other _ fun x hx => ?_
    rcases hx.cases with ⟨-, hwithin, -⟩ | ⟨-, hl | hl, -⟩
    · exact not_withinPackage_dumpPlace hwithin
    · exact hne (dumpPlace_inj hl)
    · exact dumpPlace_ne_metricsPlace hl

theorem Met.fresh {r : Except CensusError ClassOutcome} {t : Nat} (h : s.Met top links k w r m t)
    (hk : WellFormed k) (hf : Fresh top w) : Fresh top m := by
  refine Fresh.of_entry hf h.process (Nat.le_trans h.since h.till) fun j name stamp => ?_
  refine h.leaves.other _ fun x hx => ?_
  rcases hx.cases with ⟨-, hwithin, -⟩ | ⟨-, hl | hl, -⟩
  · exact not_withinPackage_temporaryPlace hwithin
  · exact temporaryPlace_ne_dumpPlace hk hl
  · exact temporaryPlace_ne_metricsPlace hk hl

end Setup

/-! ### All classes -/

/-- A visit with the time at which a metrics file was or might have been written. -/
structure TimedVisit extends Visit where
  time : Nat

namespace Setup

/-- The fate of a visited class on a disk. -/
def fateAt (s : Setup ε) (top : Location) (process : Nat) (d : Disk) (v : TimedVisit) : Fate :=
  s.fate top ⟨process, v.time⟩ d v.className

/-- What the classes of a run leave at a place. -/
def AllLeave (s : Setup ε) (top : Location) (process : Nat) (d : Disk) (vs : List TimedVisit)
    (l : Location) (x : Option Entry) : Prop :=
  ∃ v ∈ vs, s.Leaves top v.className d (s.fateAt top process d v) l x

/-- Visits in which each class comes to the fate that it has at the beginning. -/
structure Course (s : Setup ε) (links : Nat) (top : Location) (names : List String) (w w' : World)
    (vs : List TimedVisit) : Prop where
  ground : Ground w'.disk s.root links top
  process : w'.process = w.process
  clock : w.clock ≤ w'.clock
  classes : vs.map (·.className) = names
  since : ∀ v ∈ vs, w.clock ≤ v.time
  till : ∀ v ∈ vs, v.time ≤ w'.clock
  spaced : vs.Pairwise fun v u => v.result = .ok .generated → v.time < u.time
  prompt : s.Prompt → ∀ v ∈ vs.head?, v.time = w.clock
  result : ∀ v ∈ vs, v.result = (s.fateAt top w.process w.disk v).result
  leaves : Changed (s.AllLeave top w.process w.disk vs) w.disk w'.disk

/-- The report of visits. -/
def reportOf (report : GenerationReport) (vs : List TimedVisit) : GenerationReport :=
  (vs.map TimedVisit.toVisit).foldl .add report

/-- How a run over classes ends: with a report of its visits, or with an error of the engine. -/
inductive Ends (s : Setup ε) (links : Nat) (top : Location) (names : List String)
    (report : GenerationReport) (w : World) :
    Except CensusError GenerationReport → World → Prop where
  | report {w' : World} {vs : List TimedVisit} (course : s.Course links top names w w' vs) :
      Ends s links top names report w (.ok (reportOf report vs)) w'
  | aborted {w' : World} {name : String} {e : CensusError} (mem : name ∈ names)
      (resolve : s.session.resolve name = .error e) (fatal : e.isRecoverable = false) :
      Ends s links top names report w (.error e) w'

theorem Course.nil (g : Ground w.disk s.root links top) : s.Course links top [] w w [] := by
  refine ⟨g, rfl, Nat.le_refl _, rfl, by simp, by simp, .nil, by simp, by simp, rfl, ?_,
    fun _ _ => rfl⟩
  rintro l x ⟨v, hv, -⟩
  cases hv

/-- A class comes to its fate, and then the others come to theirs. -/
theorem Course.cons {r : Except CensusError ClassOutcome} {t : Nat} {names : List String}
    {vs : List TimedVisit} (h : s.Met top links n w r m t) (g : Ground w.disk s.root links top)
    (hn : ∀ k ∈ names, WellFormed k) (hd : n ∉ names ∨ s.replace = true)
    (hrest : s.Course links top names m w' vs) :
    s.Course links top (n :: names) w w' (⟨⟨n, w.disk, r⟩, t⟩ :: vs) := by
  have hname : ∀ v ∈ vs, v.className ∈ names := by
    intro v hv
    rw [← hrest.classes]
    exact List.mem_map_of_mem hv
  have hsame : ∀ v ∈ vs, s.Indistinct top v.className w.disk m.disk := by
    intro v hv
    refine h.indistinct (hd.imp (fun h0 hc => h0 ?_) id)
    rw [← hc]
    exact hname v hv
  have hfate : ∀ v ∈ vs, s.fateAt top m.process m.disk v = s.fateAt top w.process w.disk v := by
    intro v hv
    rw [fateAt, fateAt, h.process]
    exact (hsame v hv).fate_eq g h.ground (hn _ (hname v hv))
  have hmarks : ∀ l x, s.AllLeave top m.process m.disk vs l x ↔
      s.AllLeave top w.process w.disk vs l x := by
    intro l x
    refine exists_congr fun v => and_congr_right fun hv => ?_
    rw [hfate v hv]
    exact (hsame v hv).leaves_iff
  have hclock : w.clock ≤ m.clock := Nat.le_trans h.since h.till
  have hleaves : Changed (s.AllLeave top w.process w.disk (⟨⟨n, w.disk, r⟩, t⟩ :: vs)) w.disk
      w'.disk := by
    refine (h.leaves.trans hrest.leaves fun l x y hx hy => ?_).congr fun l x => ?_
    · obtain ⟨v, -, hv⟩ := (hmarks l y).mp hy
      exact Leaves.unique hx hv
    · rw [hmarks]
      simp only [AllLeave, fateAt, List.mem_cons, or_and_right, exists_or, exists_eq_left]
  exact
    { ground := hrest.ground
      process := hrest.process.trans h.process
      clock := Nat.le_trans hclock hrest.clock
      classes := by rw [List.map_cons, hrest.classes]
      since := List.forall_mem_cons.mpr
        ⟨h.since, fun v hv => Nat.le_trans hclock (hrest.since v hv)⟩
      till := List.forall_mem_cons.mpr ⟨Nat.le_trans h.till hrest.clock, hrest.till⟩
      spaced := List.pairwise_cons.mpr
        ⟨fun v hv hr => Nat.lt_of_lt_of_le (h.spent hr) (hrest.since v hv), hrest.spaced⟩
      prompt := fun hp v hv => Option.some.inj hv ▸ h.prompt hp
      result := List.forall_mem_cons.mpr
        ⟨h.result, fun v hv => by rw [hrest.result v hv, hfate v hv]⟩
      leaves := hleaves }

theorem Ends.cons {r : Except CensusError ClassOutcome} {t : Nat} {names : List String}
    {report : GenerationReport} {result : Except CensusError GenerationReport}
    (h : s.Met top links n w r m t) (g : Ground w.disk s.root links top)
    (hn : ∀ k ∈ names, WellFormed k) (hd : n ∉ names ∨ s.replace = true)
    (hrest : s.Ends links top names (report.add ⟨n, w.disk, r⟩) m result w') :
    s.Ends links top (n :: names) report w result w' := by
  cases hrest with
  | report course => exact .report (course.cons h g hn hd)
  | aborted mem resolve fatal => exact .aborted (List.mem_cons_of_mem _ mem) resolve fatal

end Setup

/-- A run over classes of which none is named twice, unless artifacts are replaced, takes the course
that can be read off its start. -/
theorem ensures_course {names : List String} (g : Ground w.disk s.root links top)
    (hf : Fresh top w) (hn : ∀ n ∈ names, WellFormed n) (hd : names.Nodup ∨ s.replace = true)
    (report : GenerationReport) :
    Attempt.Ensures (s.generateAll report names) w (fun _ => True) (s.Ends links top names report w) := by
  -- the fates of the rest are those at the start, since the first class is indistinct to them
  induction names generalizing w report with
  | nil => exact .pure (.report (.nil g))
  | cons n rest ih =>
    have hwf : WellFormed n := hn n (List.mem_cons_self ..)
    have hrest : ∀ x ∈ rest, WellFormed x := fun x hx => hn x (List.mem_cons_of_mem _ hx)
    have hnext : rest.Nodup ∨ s.replace = true := hd.imp (fun h0 => (List.nodup_cons.mp h0).2) id
    have hfirst : n ∉ rest ∨ s.replace = true := hd.imp (fun h0 => (List.nodup_cons.mp h0).1) id
    unfold Setup.generateAll ClassCensus.generateAll
    refine .bind (.ofJob ((ensures_fate g hwf hf).post ?_))
    rintro r w1 ⟨t, hmet⟩
    have hgo : ∀ {m : World}, w1.Passes m →
        Attempt.Ensures (s.generateAll (report.add ⟨n, w.disk, r⟩) rest) m (fun _ => True)
          (s.Ends links top (n :: rest) report w) := by
      intro m hm
      have hmet' : s.Met top links n w r m t := by
        refine ⟨hm.process.trans hmet.process, hmet.since, Nat.le_trans hmet.till hm.clock,
          fun hr => Nat.lt_of_lt_of_le (hmet.spent hr) hm.clock, hmet.prompt, ?_, hmet.result, ?_⟩
        · rw [hm.disk]
          exact hmet.ground
        · rw [hm.disk]
          exact hmet.leaves
      exact (ih hmet'.ground (hmet'.fresh hwf hf) hrest hnext _).post
        fun _ _ h => h.cons hmet' g hrest hfirst
    cases r with
    | ok o =>
      cases o with
      | generated => exact hgo (.refl w1)
      | skipped => exact hgo (.refl w1)
    | error e =>
      have hpass : ∀ event, w1.Passes ((Job.tell event).run w1).2 := fun event =>
        ((Job.yields_tell event).ensures w1).result.2
      cases he : e.isRecoverable with
      | true =>
        simp only [he, if_true]
        exact .bind (.ofJob (.ofStep trivial (hgo (hpass (.generationFailed n e)))))
      | false =>
        simp only [he]
        refine .bind (.ofJob (.ofStep trivial (.throw ?_)))
        have hresolve := (Setup.fate_error hmet.result.symm).resolve_left (by simp [he])
        exact .aborted (List.mem_cons_self ..) hresolve he

/-- A run that gets past its opening ends as its classes do. -/
theorem ends_of_generate {names : List String} {w1 : World}
    {r : Except CensusError GenerationReport} (hopen : s.opening.run.run w = (.ok (), w1))
    (g : Ground w1.disk s.root links top) (hf : Fresh top w1) (hn : ∀ n ∈ names, WellFormed n)
    (hd : names.Nodup ∨ s.replace = true) (h : (s.generate names).run.run w = (r, w')) :
    ∃ w2, s.Ends links top names .empty w1 r w2 ∧ w2.Passes w' := by
  have hends := (ensures_course g hf hn hd .empty).result
  rw [s.generate_eq, Attempt.run_bind, hopen] at h
  dsimp only at h
  rw [Attempt.run_bind] at h
  rcases hrun : (s.generateAll .empty names).run.run w1 with ⟨r2, w2⟩
  rw [hrun] at h hends
  cases r2 with
  | error e =>
    cases h
    exact ⟨_, hends, .refl _⟩
  | ok report =>
    cases h
    exact ⟨w2, hends, rfl, rfl, Nat.le_refl _⟩

end ClassCensus
