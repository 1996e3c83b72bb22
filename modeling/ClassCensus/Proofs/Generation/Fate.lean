import ClassCensus.Proofs.Generation.Lasting

/-!
# The fate of a class

What becomes of a class can be read off the disk on which its generation begins: `Setup.fate` gives the
outcome, and `Setup.Leaves` what lies afterwards at each place that is concerned. `ensures_fate` tells
that the generation of a class comes to its fate.
-/

namespace ClassCensus

open Disk

variable {ε : Type} [ClassEngine ε]

/-- What becomes of a class. -/
inductive Fate where
  | skipped
  | failed (error : CensusError)
  /-- The metrics file was written, and removed again because the dump could not be written. -/
  | withdrawn (error : CensusError)
  | generated (contents : Contents)

/-- The outcome that a fate is for a run. -/
def Fate.result : Fate → Except CensusError ClassOutcome
  | .skipped => .ok .skipped
  | .failed e => .error e
  | .withdrawn e => .error e
  | .generated _ => .ok .generated

/-- Between two disks some places get new contents, and all others keep theirs. -/
structure Disk.Changed (marks : Location → Option Entry → Prop) (d d' : Disk) : Prop where
  home : d'.home = d.home
  mark : ∀ l x, marks l x → d'.entryAt l = x
  other : ∀ l, (∀ x, ¬marks l x) → d'.entryAt l = d.entryAt l

theorem Disk.Changed.congr {marks marks' : Location → Option Entry → Prop} {d d' : Disk}
    (h : Changed marks d d') (hm : ∀ l x, marks l x ↔ marks' l x) : Changed marks' d d' :=
  ⟨h.home, fun l x hx => h.mark l x ((hm l x).mpr hx),
    fun l hl => h.other l fun x hx => hl x ((hm l x).mp hx)⟩

/-- Of two changes that agree where they meet, both are left in the end. -/
theorem Disk.Changed.trans {marks marks' : Location → Option Entry → Prop} {d d1 d2 : Disk}
    (h : Changed marks d d1) (h' : Changed marks' d1 d2)
    (hagree : ∀ l x y, marks l x → marks' l y → x = y) :
    Changed (fun l x => marks l x ∨ marks' l x) d d2 := by
  refine ⟨h'.home.trans h.home, ?_, ?_⟩
  · rintro l x (hx | hx)
    · by_cases hagain : ∃ y, marks' l y
      · obtain ⟨y, hy⟩ := hagain
        rw [h'.mark l y hy, hagree l x y hx hy]
      · rw [h'.other l fun y hy => hagain ⟨y, hy⟩]
        exact h.mark l x hx
    · exact h'.mark l x hx
  · intro l hl
    rw [h'.other l fun x hx => hl x (.inr hx), h.other l fun x hx => hl x (.inl hx)]

theorem Disk.settle_of_fresh {d : Disk} {temporary place : Location} {bytes : ByteArray}
    (hne : temporary ≠ []) (h : d.entryAt temporary = none) :
    d.settle temporary place bytes = d.put place (.file bytes) := by
  rw [Disk.settle, erase_put d hne _ h]

namespace Setup

variable (s : Setup ε) (top : Location)

instance (n : String) (d : Disk) : Decidable (s.Present n d) :=
  decidable_of_iff (s.replace = false ∧ (d.status (s.paths n).dump).isOk = true) <| by
    refine and_congr_right fun _ => ?_
    cases h : d.status (s.paths n).dump <;> simp [Except.isOk, Except.toBool]

/-- The fault that keeps the metrics file of a class from being written. -/
def metricsFault (stamp : Stamp) (d : Disk) (n : String) : Option (Path × DiskFault) :=
  writeFault (s.root.pushAll (packageOf n)) (metricsName n) stamp (d.hasDir (metricsPlace top n))

/-- What becomes of a class whose metrics file is written at some time, on a disk below a top. -/
def fate (stamp : Stamp) (d : Disk) (n : String) : Fate :=
  if s.Present n d then .skipped
  else
    match packageFault d s.root top (packageOf n) with
    | some f => .failed (.ofFault (s.directory n) f)
    | none =>
      match s.session.resolve n with
      | .error e => .failed e
      | .ok c =>
        match s.printed c with
        | .error f => .failed (.ofFault (s.paths n).dump f)
        | .ok text =>
          match s.metricsFault top stamp d n with
          | some (p, f) => .failed (.ofFault p f)
          | none =>
            if d.hasDir (dumpPlace top n) then .withdrawn (.ofFault (s.paths n).dump .isDirectory)
            else .generated ⟨text.toUTF8, (ClassRecord.ofClass s.isStack c).toText.toUTF8⟩

/-- What the fate of a class leaves at a place. -/
inductive Leaves (n : String) (d : Disk) : Fate → Location → Option Entry → Prop where
  | directory {fate : Fate} {l : Location} (tried : fate ≠ .skipped)
      (within : WithinPackage top (pavable d s.root top (packageOf n)) l) :
      Leaves n d fate l (some .directory)
  | dump {b : Contents} : Leaves n d (.generated b) (dumpPlace top n) (some (.file b.dump))
  | metrics {b : Contents} :
      Leaves n d (.generated b) (metricsPlace top n) (some (.file b.metrics))
  | nothing {e : CensusError} : Leaves n d (.withdrawn e) (metricsPlace top n) none

/-- Printing a class takes no reading of the clock. -/
def Prompt : Prop :=
  ∀ c w, ((ClassEngine.dump s.session.engine c).run w).2.clock = w.clock

/-- A class has come to its fate. -/
structure Met (links : Nat) (n : String) (w : World) (r : Except CensusError ClassOutcome)
    (w' : World) (t : Nat) : Prop where
  process : w'.process = w.process
  since : w.clock ≤ t
  till : t ≤ w'.clock
  spent : r = .ok .generated → t < w'.clock
  prompt : s.Prompt → t = w.clock
  ground : Ground w'.disk s.root links top
  result : r = (s.fate top ⟨w.process, t⟩ w.disk n).result
  leaves : Changed (s.Leaves top n w.disk (s.fate top ⟨w.process, t⟩ w.disk n)) w.disk w'.disk

end Setup

/-! ### The pair of files -/

section Pair

variable {s : Setup ε} {w : World} {links : Nat} {top : Location} {n : String}

/-- What the attempt to write two files comes to. -/
inductive PairWritten (s : Setup ε) (top : Location) (n : String) (b : Contents) (stamp : Stamp)
    (d : Disk) : Except CensusError Unit → Disk → Prop where
  | failed {p : Path} {f : DiskFault} (fault : s.metricsFault top stamp d n = some (p, f)) :
      PairWritten s top n b stamp d (.error (.ofFault p f)) d
  | withdrawn (room : s.metricsFault top stamp d n = none)
      (taken : d.hasDir (dumpPlace top n) = true) :
      PairWritten s top n b stamp d (.error (.ofFault (s.paths n).dump .isDirectory))
        ((d.put (metricsPlace top n) (.file b.metrics)).erase (metricsPlace top n))
  | written (room : s.metricsFault top stamp d n = none)
      (free : d.hasDir (dumpPlace top n) = false) :
      PairWritten s top n b stamp d (.ok ())
        ((d.put (metricsPlace top n) (.file b.metrics)).put (dumpPlace top n) (.file b.dump))

theorem Fresh.later {m : World} {d : Disk} (hf : Fresh top w) (hp : m.process = w.process)
    (hc : w.clock ≤ m.clock) (hd : m.disk = d)
    (h : ∀ k name stamp, d.entryAt (temporaryPlace top k name stamp) =
      w.disk.entryAt (temporaryPlace top k name stamp)) : Fresh top m :=
  Setup.Fresh.of_entry hf hp hc fun k name stamp => by rw [hd, h]

/-- A metrics file that is there is removed when it is left without its dump. -/
theorem ensures_discardOrphan (g : Ground w.disk s.root links top) (hn : WellFormed n)
    (hname : Nameable s.root n) {b : ByteArray}
    (he : w.disk.entryAt (metricsPlace top n) = some (.file b)) :
    (discardOrphan (s.paths n).metrics).Ensures w (fun _ => True) fun _ w' =>
      w' = { w with disk := w.disk.erase (metricsPlace top n) } := by
  have hfind := find_metrics g hn hname he false
  have hremove : w.disk.removeFile (s.paths n).metrics =
      .ok (w.disk.erase (metricsPlace top n)) := by
    simp [removeFile, hfind, bind, Except.bind, pure, Except.pure]
  have hperf : w.perform (.removeFile (s.paths n).metrics) =
      w.change (w.disk.removeFile (s.paths n).metrics) := rfl
  rw [hremove] at hperf
  refine Job.Ensures.bind (.ofStep trivial ?_)
  rw [hperf]
  exact .done rfl

/-- What the attempt to write one file comes to. -/
inductive FileWritten (p : Path) (name : Octets) (stamp : Stamp) (place : Location)
    (bytes : ByteArray) (d : Disk) : Except CensusError Unit → Disk → Prop where
  | failed {q : Path} {f : DiskFault} (fault : writeFault p name stamp (d.hasDir place) = some (q, f)) :
      FileWritten p name stamp place bytes d (.error (.ofFault q f)) d
  | written (clear : writeFault p name stamp (d.hasDir place) = none) :
      FileWritten p name stamp place bytes d (.ok ()) (d.put place (.file bytes))

/-- In a directory without temporary files a file is written at once, or the disk is left as it is. -/
theorem ensures_writeInPlace_fresh {name : Octets} (bytes : ByteArray) {place : Location}
    (hplace : place = top ++ packageOf n ++ [name]) (g : Ground w.disk s.root links top)
    (hname : Path.IsName name) (hl : w.disk.Leads (s.root.pushAll (packageOf n)) links (top ++ packageOf n))
    (hd : w.disk.entryAt (top ++ packageOf n) = some .directory) (hf : Fresh top w) :
    Attempt.Ensures (writeInPlace ((s.root.pushAll (packageOf n)).push name) bytes) w
      (fun _ => True) fun r w' => w'.process = w.process ∧ w'.clock = w.clock + 1 ∧
        FileWritten (s.root.pushAll (packageOf n)) name ⟨w.process, w.clock⟩ place bytes w.disk r
          w'.disk := by
  subst hplace
  have hnone := hf n name w.clock (Nat.le_refl _)
  have htemp : w.disk.entryAt (temporaryPlace top n name ⟨w.process, w.clock⟩) ≠
      some .directory := by
    rw [hnone]
    simp
  refine (ensures_writeInPlace bytes hname hl hd (fun _ _ => g.noLinkAt) rfl htemp).mono
    (fun _ _ => trivial) ?_
  rintro r w1 ⟨hp1, hc1, hr⟩
  refine ⟨hp1, hc1, ?_⟩
  cases r with
  | error e =>
    obtain ⟨⟨q, f, rfl, hfault⟩, hdisk⟩ := hr
    have hsame : w1.disk = w.disk := by
      rcases hdisk with h0 | h0
      · exact h0
      · rw [h0]
        exact erase_put w.disk temporaryPlace_ne_nil _ hnone
    rw [hsame]
    exact .failed hfault
  | ok u =>
    obtain ⟨room, hfree, hdisk⟩ := hr
    have hput : w1.disk = w.disk.put (top ++ packageOf n ++ [name]) (.file bytes) := by
      rw [hdisk]
      exact settle_of_fresh temporaryPlace_ne_nil hnone
    rw [hput]
    refine .written (writeFault_eq_none.mpr ⟨room, ?_⟩)
    rw [Bool.eq_false_iff]
    exact fun h0 => hfree ((hasDir_iff _ _).mp h0)

/-- In a directory that is ready and free of temporary files, a pair is written, or what is in its way
is a want of room, a directory in the place of the metrics file, or one in the place of the dump. -/
theorem ensures_writePair_fresh (g : Ground w.disk s.root links top) (hn : WellFormed n)
    (hr : w.disk.Ready (s.directory n)) (hf : Fresh top w) (b : Contents) :
    Attempt.Ensures (writePair (s.paths n) b.dump b.metrics) w (fun _ => True) fun r w' =>
      w'.process = w.process ∧ w.clock < w'.clock ∧
        PairWritten s top n b ⟨w.process, w.clock⟩ w.disk r w'.disk := by
  obtain ⟨hl, hd⟩ := arrives_directory g hn hr
  have hplace : metricsPlace top n = top ++ packageOf n ++ [metricsName n] := rfl
  simp only [writePair, paths_eq s hn]
  refine .bind ((ensures_writeInPlace_fresh b.metrics hplace g hn.metricsName hl hd hf).post ?_)
  rintro r w1 ⟨hp1, hc1, hr1⟩
  generalize hdisk1 : w1.disk = d1 at hr1 ⊢
  cases hr1 with
  | failed fault => exact ⟨hp1, by omega, .failed fault⟩
  | written clear =>
    obtain ⟨room, hhas⟩ := writeFault_eq_none.mp clear
    have hfree : w.disk.entryAt (metricsPlace top n) ≠ some .directory := by
      intro h0
      rw [(hasDir_iff _ _).mpr h0] at hhas
      cases hhas
    have hne : metricsPlace top n ≠ [] := metricsPlace_ne_nil
    have hentry := entryAt_put w.disk hne (.file b.metrics)
    have hfresh1 : Fresh top w1 := by
      refine hf.later hp1 (by omega) hdisk1 fun k name stamp => ?_
      rw [hentry, if_neg (temporaryPlace_ne_metricsPlace hn)]
    have hways : KeepsWays w.disk w1.disk := by
      rw [hdisk1]
      exact .put_file hne b.metrics hfree fun _ => g.noLinkAt
    have g1 : Ground w1.disk s.root links top := by
      rw [hdisk1]
      exact g.put_file hd hfree
    -- the metrics file is not where the dump goes, and leaves room for it
    have hdump : w1.disk.hasDir (dumpPlace top n) = w.disk.hasDir (dumpPlace top n) := by
      simp only [hasDir, hdisk1, hentry, dumpPlace_ne_metricsPlace, if_false]
    have hroom1 : Writable (s.root.pushAll (packageOf n)) (dumpName n) ⟨w1.process, w1.clock⟩ := by
      rw [hp1, hc1]
      exact Writable.dump_of_metrics hn room
    have hplace1 : dumpPlace top n = top ++ packageOf n ++ [dumpName n] := rfl
    refine .tryCatch ((ensures_writeInPlace_fresh b.dump hplace1 g1 hn.dumpName (hways.leads hl)
      (hways.directory _ hd) hfresh1).post ?_)
    rintro r w2 ⟨hp2, hc2, hr2⟩
    generalize hdisk2 : w2.disk = d2 at hr2
    cases hr2 with
    | written clear2 =>
      refine ⟨hp2.trans hp1, by omega, ?_⟩
      rw [hdisk1]
      exact .written clear (hdump ▸ (writeFault_eq_none.mp clear2).2)
    | @failed q f fault =>
      -- there is room, so that it is a directory that is in the way
      rw [writeFault_of_writable hroom1, hdump] at fault
      cases htaken : w.disk.hasDir (dumpPlace top n) with
      | false =>
        rw [htaken] at fault
        cases fault
      | true =>
        rw [htaken] at fault
        cases fault
        have hfile : w2.disk.entryAt (metricsPlace top n) = some (.file b.metrics) := by
          rw [hdisk2, hdisk1, hentry, if_pos rfl]
        have g2 : Ground w2.disk s.root links top := by
          rw [hdisk2]
          exact g1
        have hdiscard := ensures_discardOrphan g2 hn (Setup.Room.nameable g hn hr room) hfile
        rw [metricsPath_eq s hn] at hdiscard
        refine .bind (.ofJob (hdiscard.post ?_))
        rintro u w3 rfl
        refine .throw ⟨hp2.trans hp1, by dsimp only; omega, ?_⟩
        dsimp only
        rw [hdisk2, hdisk1, ← dumpPath_eq s hn]
        exact .withdrawn clear htaken

theorem PairWritten.ground {d d' : Disk} {b : Contents} {stamp : Stamp} {r : Except CensusError Unit}
    (h : PairWritten s top n b stamp d r d') (g : Ground d s.root links top)
    (hd : d.entryAt (top ++ packageOf n) = some .directory) : Ground d' s.root links top := by
  have hfree : ∀ {stamp}, s.metricsFault top stamp d n = none →
      d.entryAt (metricsPlace top n) ≠ some .directory := by
    intro stamp room h0
    have hhas := (writeFault_eq_none.mp room).2
    rw [(hasDir_iff _ _).mpr h0] at hhas
    cases hhas
  have hplace : metricsPlace top n ≠ [] := metricsPlace_ne_nil
  have hentry := entryAt_put d hplace (.file b.metrics)
  have hmetrics : ∀ {stamp}, s.metricsFault top stamp d n = none →
      Ground (d.put (metricsPlace top n) (.file b.metrics)) s.root links top :=
    fun room => g.put_file hd (hfree room)
  cases h with
  | failed fault => exact g
  | withdrawn room taken =>
    refine (hmetrics room).erase_file metricsPlace_ne_nil (b := b.metrics) ?_
    rw [hentry, if_pos rfl]
  | written room free =>
    refine (hmetrics room).put_file ?_ ?_
    · exact (KeepsWays.put_file metricsPlace_ne_nil b.metrics (hfree room)
        fun _ => g.noLinkAt).directory _ hd
    · intro h0
      rw [← dumpPlace, hentry, if_neg dumpPlace_ne_metricsPlace, ← hasDir_iff] at h0
      rw [h0] at free
      cases free

end Pair

/-! ### Directories and files -/

section Marks

variable {s : Setup ε} {top : Location} {n : String} {d d1 d' : Disk}

theorem WithinPackage.mono {package package' : List Octets} {l : Location}
    (h : WithinPackage top package l) (hp : package <+: package') : WithinPackage top package' l := by
  obtain ⟨part, hne, hpre, rfl⟩ := h
  exact ⟨part, hne, hpre.trans hp, rfl⟩

namespace Paved

variable (h : Paved s.root top (packageOf n) d d1)

include h

theorem entry_eq {l : Location} (hl : ¬WithinPackage top (packageOf n) l) :
    d1.entryAt l = d.entryAt l :=
  h.other l fun h0 => hl (h0.mono (pavable_isPrefix ..))

theorem metricsFault_eq (stamp : Stamp) :
    s.metricsFault top stamp d1 n = s.metricsFault top stamp d n := by
  have hhas : d1.hasDir (metricsPlace top n) = d.hasDir (metricsPlace top n) := by
    simp only [hasDir, h.entry_eq not_withinPackage_metricsPlace]
  simp only [Setup.metricsFault, hhas]

theorem hasDir_dump : d1.hasDir (dumpPlace top n) = d.hasDir (dumpPlace top n) := by
  simp only [hasDir, h.entry_eq not_withinPackage_dumpPlace]

/-- Directories are left where they have been made, and the rest of what a class leaves is what has
been put there since. -/
theorem changed {fate : Fate} (tried : fate ≠ .skipped) (home : d'.home = d1.home)
    (inside : ∀ l, WithinPackage top (packageOf n) l → d'.entryAt l = d1.entryAt l)
    (mark : ∀ l x, s.Leaves top n d fate l x → ¬WithinPackage top (packageOf n) l →
      d'.entryAt l = x)
    (other : ∀ l, (∀ x, ¬s.Leaves top n d fate l x) → d'.entryAt l = d1.entryAt l) :
    Changed (s.Leaves top n d fate) d d' := by
  refine ⟨home.trans h.home, ?_, ?_⟩
  · intro l x hx
    by_cases hl : WithinPackage top (packageOf n) l
    · rw [inside l hl]
      cases hx with
      | directory _ within => exact h.directory l within
      | dump => exact absurd hl not_withinPackage_dumpPlace
      | metrics => exact absurd hl not_withinPackage_metricsPlace
      | nothing => exact absurd hl not_withinPackage_metricsPlace
    · exact mark l x hx hl
  · intro l hl
    rw [other l hl]
    exact h.other l fun h0 => hl _ (.directory tried h0)

theorem changed_failed (e : CensusError) : Changed (s.Leaves top n d (.failed e)) d d1 := by
  refine h.changed (by simp) rfl (fun _ _ => rfl) ?_ fun _ _ => rfl
  intro l x hx hl
  cases hx with
  | directory _ within => exact absurd (within.mono (pavable_isPrefix ..)) hl

theorem changed_withdrawn (b : Contents) (e : CensusError) :
    Changed (s.Leaves top n d (.withdrawn e)) d
      ((d1.put (metricsPlace top n) (.file b.metrics)).erase (metricsPlace top n)) := by
  have hplace : metricsPlace top n ≠ [] := metricsPlace_ne_nil
  have hentry := entryAt_discarded d1 hplace b.metrics
  refine h.changed (by simp) rfl ?_ ?_ ?_
  · intro l hl
    rw [hentry, if_neg]
    rintro rfl
    exact not_withinPackage_metricsPlace hl
  · intro l x hx hl
    cases hx with
    | directory _ within => exact absurd (within.mono (pavable_isPrefix ..)) hl
    | nothing => rw [hentry, if_pos rfl]
  · intro l hl
    rw [hentry, if_neg]
    rintro rfl
    exact hl none .nothing

theorem changed_generated (b : Contents) :
    Changed (s.Leaves top n d (.generated b)) d
      ((d1.put (metricsPlace top n) (.file b.metrics)).put (dumpPlace top n) (.file b.dump)) := by
  have hentry : ∀ l, ((d1.put (metricsPlace top n) (.file b.metrics)).put (dumpPlace top n)
      (.file b.dump)).entryAt l =
        if l = dumpPlace top n then some (.file b.dump)
        else if l = metricsPlace top n then some (.file b.metrics) else d1.entryAt l := by
    intro l
    rw [entryAt_put _ dumpPlace_ne_nil, entryAt_put _ metricsPlace_ne_nil]
  refine h.changed (by simp) rfl ?_ ?_ ?_
  · intro l hl
    rw [hentry, if_neg, if_neg]
    · rintro rfl
      exact not_withinPackage_metricsPlace hl
    · rintro rfl
      exact not_withinPackage_dumpPlace hl
  · intro l x hx hl
    cases hx with
    | directory _ within => exact absurd (within.mono (pavable_isPrefix ..)) hl
    | dump => rw [hentry, if_pos rfl]
    | metrics => rw [hentry, if_neg dumpPlace_ne_metricsPlace.symm, if_pos rfl]
  · intro l hl
    rw [hentry, if_neg, if_neg]
    · rintro rfl
      exact hl _ .metrics
    · rintro rfl
      exact hl _ .dump

end Paved

end Marks

/-! ### One class -/

section OneClass

variable {s : Setup ε} {w : World} {links : Nat} {top : Location} {n : String}

theorem PairWritten.met {d d1 d' : Disk} {c : ClassDef} {text : String} {stamp : Stamp}
    {r : Except CensusError Unit}
    (h : PairWritten s top n ⟨text.toUTF8, (ClassRecord.ofClass s.isStack c).toText.toUTF8⟩ stamp d1
      r d')
    (hp : Paved s.root top (packageOf n) d d1) (absent : ¬s.Present n d)
    (clear : packageFault d s.root top (packageOf n) = none)
    (hc : s.session.resolve n = .ok c) (ht : s.printed c = .ok text) :
    (r.map fun _ => ClassOutcome.generated) = (s.fate top stamp d n).result ∧
      Changed (s.Leaves top n d (s.fate top stamp d n)) d d' := by
  cases h with
  | @failed q f fault =>
    rw [hp.metricsFault_eq] at fault
    have hfate : s.fate top stamp d n = .failed (.ofFault q f) := by
      simp only [Setup.fate, absent, if_false, clear, hc, ht, fault]
    rw [hfate]
    exact ⟨rfl, hp.changed_failed _⟩
  | withdrawn room taken =>
    rw [hp.metricsFault_eq] at room
    rw [hp.hasDir_dump] at taken
    have hfate : s.fate top stamp d n =
        .withdrawn (.ofFault (s.paths n).dump .isDirectory) := by
      simp only [Setup.fate, absent, if_false, clear, hc, ht, room, taken, if_true]
    rw [hfate]
    exact ⟨rfl, hp.changed_withdrawn _ _⟩
  | written room free =>
    rw [hp.metricsFault_eq] at room
    rw [hp.hasDir_dump] at free
    have hfate : s.fate top stamp d n =
        .generated ⟨text.toUTF8, (ClassRecord.ofClass s.isStack c).toText.toUTF8⟩ := by
      simp only [Setup.fate, absent, if_false, clear, hc, ht, room, free, Bool.false_eq_true]
    rw [hfate]
    exact ⟨rfl, hp.changed_generated _⟩

/-- A class that has been printed comes to its fate with the writing of its files. -/
theorem ensures_files_fate {m : World} {c : ClassDef} {text : String}
    (g : Ground m.disk s.root links top) (hn : WellFormed n) (hr : m.disk.Ready (s.directory n))
    (hf : Fresh top m) (hprocess : m.process = w.process) (hclock : w.clock ≤ m.clock)
    (hprompt : s.Prompt → m.clock = w.clock)
    (hp : Paved s.root top (packageOf n) w.disk m.disk) (absent : ¬s.Present n w.disk)
    (clear : packageFault w.disk s.root top (packageOf n) = none)
    (hc : s.session.resolve n = .ok c) (ht : s.printed c = .ok text) (event : Event) :
    Attempt.Ensures
      (do
        writePair (s.paths n) text.toUTF8 (ClassRecord.ofClass s.isStack c).toText.toUTF8
        Attempt.ofJob (Job.tell event))
      m (fun _ => True) fun r w' => ∃ t, s.Met top links n w (r.map fun _ => .generated) w' t := by
  have hwritten := ensures_writePair_fresh g hn hr hf
    ⟨text.toUTF8, (ClassRecord.ofClass s.isStack c).toText.toUTF8⟩
  refine .bind (Job.Ensures.post hwritten ?_)
  rintro r w1 ⟨hp1, hc1, hpair⟩
  have g1 := hpair.ground g (arrives_directory g hn hr).2
  rw [hprocess] at hpair
  obtain ⟨hresult, hchanged⟩ := hpair.met hp absent clear hc ht
  have hmet : ∀ {m1 : World}, w1.Passes m1 →
      s.Met top links n w (r.map fun _ => .generated) m1 m.clock := by
    intro m1 hm1
    have hspent : m.clock < m1.clock := Nat.lt_of_lt_of_le hc1 hm1.clock
    refine ⟨hm1.process.trans (hp1.trans hprocess), hclock, Nat.le_of_lt hspent, fun _ => hspent,
      hprompt, ?_, hresult, ?_⟩
    · rw [hm1.disk]
      exact g1
    · rw [hm1.disk]
      exact hchanged
  cases r with
  | error e => exact ⟨_, hmet (.refl w1)⟩
  | ok u =>
    refine .ofJob (((Job.yields_tell _).ensures w1).mono (fun _ _ => trivial) ?_)
    rintro - w2 ⟨-, hp2⟩
    exact ⟨_, hmet hp2⟩

/-- A class that is not present, or is to be replaced, comes to its fate. -/
theorem ensures_artifacts_fate (g : Ground w.disk s.root links top) (hn : WellFormed n)
    (hf : Fresh top w) (absent : ¬s.Present n w.disk) :
    Attempt.Ensures (generateArtifacts s.session s.isStack (s.paths n) n) w (fun _ => True)
      fun r w' => ∃ t, s.Met top links n w (r.map fun _ => .generated) w' t := by
  have hnames : ∀ x ∈ packageOf n, Path.IsName x := fun _ hx => hn.package hx
  refine .bind ((ensures_makeParent g hn).mono (fun _ _ => trivial) ?_)
  rintro r w1 ⟨hgrown, hgrows, hr⟩
  have g1 := hgrown.ground g
  have hclock1 : w.clock ≤ w1.clock := Nat.le_of_eq hgrown.clock.symm
  have hpaved : Paved s.root top (packageOf n) w.disk w1.disk := by
    refine hgrown.paved g hnames (fun h0 => hgrows.same (.inr h0)) ?_
    cases r with
    | ok u => exact .inl hr
    | error e => exact .inr hr.1
  have hfailed : ∀ {m : World} {e : CensusError}, w1.Passes m →
      s.fate top ⟨w.process, w.clock⟩ w.disk n = .failed e →
      ∃ t, s.Met top links n w (.error e) m t := by
    intro m e hpass hfate
    refine ⟨w.clock, hpass.process.trans hgrown.process, Nat.le_refl _,
      Nat.le_trans hclock1 hpass.clock, by simp, fun _ => rfl, ?_, ?_, ?_⟩
    · rw [hpass.disk]
      exact g1
    · rw [hfate]
      rfl
    · rw [hfate, hpass.disk]
      exact hpaved.changed_failed e
  cases r with
  | error e =>
    obtain ⟨-, f, rfl, hfault⟩ := hr
    refine hfailed (.refl w1) ?_
    simp only [Setup.fate, absent, if_false, hfault]
  | ok u =>
    dsimp only at hr ⊢
    have hclear : packageFault w.disk s.root top (packageOf n) = none := by
      rw [← (packageFault_congr fun part _ _ => hgrown.adds.blocks_eq (top ++ part)).1]
      exact (g1.no_fault_of_ready hnames hr).1
    refine .bind (.ofExcept ?_)
    cases hc : s.session.resolve n with
    | error e =>
      refine hfailed (.refl w1) ?_
      simp only [Setup.fate, absent, if_false, hclear, hc]
    | ok c =>
      dsimp only
      refine .bind (.atPath (((s.quiet c).ensures w1).self.mono (fun _ _ => trivial) ?_))
      rintro r w2 ⟨⟨rfl, hp2⟩, hprinted⟩
      cases ht : s.printed c with
      | error f =>
        refine hfailed hp2 ?_
        simp only [Setup.fate, absent, if_false, hclear, hc, ht]
      | ok text =>
        dsimp only [Except.mapError]
        refine .bind (.ofJob (((Job.yields_tellAll _).ensures w2).self.mono (fun _ _ => trivial) ?_))
        rintro u w3 ⟨⟨-, hp3⟩, htold⟩
        have hpass : w1.Passes w3 := hp2.trans hp3
        have hprocess3 : w3.process = w.process := hpass.process.trans hgrown.process
        have hclock3 : w.clock ≤ w3.clock := Nat.le_trans hclock1 hpass.clock
        have hprompt : s.Prompt → w3.clock = w.clock := by
          intro hs
          have h2 := hs c w1
          have h3 := Job.clock_tellAll (recordEvents c.name [] c.methods) w2
          rw [hprinted] at h2
          rw [htold] at h3
          exact h3.trans (h2.trans hgrown.clock)
        have hf3 : Fresh top w3 := hf.later hprocess3 hclock3 hpass.disk fun k name stamp =>
          hgrows.entry_eq not_withinPackage_temporaryPlace
        have g3 : Ground w3.disk s.root links top := by
          rw [hpass.disk]
          exact g1
        have hr3 : w3.disk.Ready (s.directory n) := by
          rw [hpass.disk]
          exact hr
        have hpaved3 : Paved s.root top (packageOf n) w.disk w3.disk := by
          rw [hpass.disk]
          exact hpaved
        exact ensures_files_fate g3 hn hr3 hf3 hprocess3 hclock3 hprompt hpaved3 absent hclear hc ht _

/-- The generation of a class comes to its fate. -/
theorem ensures_fate (g : Ground w.disk s.root links top) (hn : WellFormed n) (hf : Fresh top w) :
    Attempt.Ensures (s.generateClass n) w (fun _ => True) fun r w' =>
      ∃ t, s.Met top links n w r w' t := by
  refine .bind (ensures_isPresent trivial ?_ ?_)
  · intro hp
    have hfate : s.fate top ⟨w.process, w.clock⟩ w.disk n = .skipped := by
      simp only [Setup.fate, hp, if_true]
    refine .bind (.ofJob (((Job.yields_tell _).ensures w).mono (fun _ _ => trivial) ?_))
    rintro - w1 ⟨-, hp1⟩
    refine .pure ⟨w.clock, hp1.process, Nat.le_refl _, hp1.clock, by simp, fun _ => rfl, ?_, ?_, ?_⟩
    · rw [hp1.disk]
      exact g
    · rw [hfate]
      rfl
    · rw [hfate, hp1.disk]
      refine ⟨rfl, ?_, fun _ _ => rfl⟩
      intro l x hx
      cases hx with
      | directory tried _ => exact absurd rfl tried
  · intro ha
    refine .bind ((ensures_artifacts_fate g hn hf ha).post ?_)
    intro r w1 hr
    cases r with
    | ok u => exact .pure hr
    | error e => exact hr

end OneClass

end ClassCensus
