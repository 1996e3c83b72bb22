import ClassCensus.Proofs.Generation.ClassChange

/-!
# The run of one class

What the generation of one class does from a ground on (`ensures_generateClass`): a class whose dump
is present is skipped, and any other one is generated with both files in place or fails for a
reason that lasts (`Setup.Refused`). A failure leaves no more behind than directories.
-/

namespace ClassCensus

open Disk

variable {ε : Type} [ClassEngine ε]

namespace Setup

variable (s : Setup ε) (top : Location) (n : String)

/-- The generation of one class. -/
def generateClass : Attempt ClassOutcome :=
  ClassCensus.generateClass s.session s.isStack s.root s.replace n

/-- Whether the dump of a class is there and is to stay. -/
def Present (d : Disk) : Prop := s.replace = false ∧ ∃ kind, d.status (s.paths n).dump = .ok kind

/-- Whether there is room for the metrics file of a class at a time. -/
def Room (stamp : Stamp) : Prop :=
  Writable (s.root.pushAll (packageOf n)) (metricsName n) stamp

/-- Why a class cannot be generated on a disk from a time on. -/
inductive Refused (stamp : Stamp) (d : Disk) : CensusError → Prop where
  | stuck (stuck : d.Stuck (s.directory n)) (f : DiskFault) :
      Refused stamp d (.ofFault (s.directory n) f)
  | unresolved (ready : d.Ready (s.directory n)) {e : CensusError}
      (resolve : s.session.resolve n = .error e) : Refused stamp d e
  | unprinted (ready : d.Ready (s.directory n)) {c : ClassDef} {f : DiskFault}
      (resolve : s.session.resolve n = .ok c) (printed : s.printed c = .error f) :
      Refused stamp d (.ofFault (s.paths n).dump f)
  | unwritten (ready : d.Ready (s.directory n)) {b : Contents} (contents : s.contents n = some b)
      (way : ¬s.Room n stamp ∨ d.entryAt (metricsPlace top n) = some .directory)
      (p : Path) (f : DiskFault) : Refused stamp d (.ofFault p f)

/-- A disk with the directories for a class that could be made. -/
structure Grows (d d1 : Disk) : Prop where
  adds : AddsDirs (WithinPackage top (packageOf n)) d d1
  tree : d1.IsTree
  same : d.Ready (s.directory n) ∨ d.Stuck (s.directory n) → d1 = d

variable {s top n}

theorem Grows.entry_eq {d d1 : Disk} (h : s.Grows top n d d1) {l : Location}
    (hl : ¬WithinPackage top (packageOf n) l) : d1.entryAt l = d.entryAt l := by
  rcases h.adds.entry l with h0 | ⟨-, -, h0⟩
  · exact h0
  · exact absurd h0 hl

variable (s top n)

/-- What a class can come to. -/
inductive Outcome (w : World) : Except CensusError ClassOutcome → World → Prop where
  | skipped {w' : World} (present : s.Present n w.disk) (passes : w.Passes w') :
      Outcome w (.ok .skipped) w'
  | generated {w' : World} {d1 : Disk} {t : Nat} {b : Contents} (absent : ¬s.Present n w.disk)
      (grows : s.Grows top n w.disk d1) (ready : d1.Ready (s.directory n))
      (contents : s.contents n = some b) (room : s.Room n ⟨w.process, t⟩)
      (freeMetrics : d1.entryAt (metricsPlace top n) ≠ some .directory)
      (process : w'.process = w.process) (since : w.clock ≤ t) (till : t + 2 ≤ w'.clock)
      (disk : w'.disk =
        (d1.settle (temporaryPlace top n (metricsName n) ⟨w.process, t⟩) (metricsPlace top n)
          b.metrics).settle (temporaryPlace top n (dumpName n) ⟨w.process, t + 1⟩)
          (dumpPlace top n) b.dump) :
      Outcome w (.ok .generated) w'
  | failed {w' : World} {d1 : Disk} {e : CensusError}
      (absent : ¬s.Present n w.disk) (grows : s.Grows top n w.disk d1)
      (refused : s.Refused top n ⟨w.process, w'.clock⟩ d1 e) (process : w'.process = w.process)
      (clock : w.clock ≤ w'.clock)
      (disk : w'.disk = d1 ∨ ∃ t bytes, w.clock ≤ t ∧ w'.disk =
        (d1.put (temporaryPlace top n (metricsName n) ⟨w.process, t⟩) (.file bytes)).erase
          (temporaryPlace top n (metricsName n) ⟨w.process, t⟩)) :
      Outcome w (.error e) w'

end Setup

/-! ### Places as seen by paths -/

section Places

variable {s : Setup ε} {d d1 : Disk} {links : Nat} {top : Location} {n : String}

theorem arrives_directory (g : Ground d s.root links top) (hn : WellFormed n)
    (h : d.Ready (s.directory n)) :
    d.Leads (s.root.pushAll (packageOf n)) links (top ++ packageOf n) ∧
      d.entryAt (top ++ packageOf n) = some .directory := by
  refine g.leads_of_arrives (fun _ hx => hn.package hx) ?_
  obtain ⟨k, l, hl, hd⟩ := h.arrives
  exact ⟨k, l, leads_trimmed.mp hl, hd⟩

theorem paths_eq (s : Setup ε) (hn : WellFormed n) :
    s.paths n =
      { dump := (s.root.pushAll (packageOf n)).push (dumpName n)
        metrics := (s.root.pushAll (packageOf n)).push (metricsName n) } :=
  artifactPaths_eq hn s.root

/-- Where a class has a directory and there is room, its files can be asked for. -/
theorem Setup.Room.nameable (g : Ground d s.root links top) (hn : WellFormed n)
    (hr : d.Ready (s.directory n)) {stamp : Stamp} (h : s.Room n stamp) : Nameable s.root n := by
  obtain ⟨-, -, -, hshort⟩ :=
    g.leads_pushAll (fun _ hx => hn.package hx) (arrives_directory g hn hr).1
  refine ⟨Writable.target h, ?_⟩
  intro x hx
  rcases List.mem_append.mp hx with h0 | h0
  · exact hshort x h0
  · have h1 := Writable.short h
    have hlt := length_lt_temporaryName (metricsName n) stamp
    rw [List.mem_singleton.mp h0]
    omega

theorem dumpPath_eq (s : Setup ε) (hn : WellFormed n) :
    (s.paths n).dump = (s.root.pushAll (packageOf n)).push (dumpName n) := by rw [paths_eq s hn]

theorem metricsPath_eq (s : Setup ε) (hn : WellFormed n) :
    (s.paths n).metrics = (s.root.pushAll (packageOf n)).push (metricsName n) := by
  rw [paths_eq s hn]

/-- What is found of a dump is what lies at its place. -/
theorem find_dump_iff (g : Ground d s.root links top) (hn : WellFormed n) {fl : Bool}
    {r : Location × Entry} :
    d.find fl (s.paths n).dump = .ok r ↔
      checkPath (s.paths n).dump = .ok () ∧
        (∀ x ∈ packageOf n ++ [dumpName n], ¬nameLimit < x.length) ∧
        ∃ e, d.entryAt (dumpPlace top n) = some e ∧ r = (dumpPlace top n, e) := by
  rw [dumpPath_eq s hn]
  exact g.find_push_iff (fun _ hx => hn.package hx) hn.dumpName

theorem find_metrics_iff (g : Ground d s.root links top) (hn : WellFormed n) {fl : Bool}
    {r : Location × Entry} :
    d.find fl (s.paths n).metrics = .ok r ↔
      checkPath (s.paths n).metrics = .ok () ∧
        (∀ x ∈ packageOf n ++ [metricsName n], ¬nameLimit < x.length) ∧
        ∃ e, d.entryAt (metricsPlace top n) = some e ∧ r = (metricsPlace top n, e) := by
  rw [metricsPath_eq s hn]
  exact g.find_push_iff (fun _ hx => hn.package hx) hn.metricsName

/-- What lies at the place of a dump is found by its path. -/
theorem find_dump (g : Ground d s.root links top) (hn : WellFormed n) (h : Nameable s.root n)
    {e : Entry} (he : d.entryAt (dumpPlace top n) = some e) (fl : Bool) :
    d.find fl (s.paths n).dump = .ok (dumpPlace top n, e) := by
  obtain ⟨hc, hshort⟩ := h.dump hn
  rw [← dumpPath_eq s hn] at hc
  exact (find_dump_iff g hn).mpr ⟨hc, hshort, e, he, rfl⟩

theorem find_metrics (g : Ground d s.root links top) (hn : WellFormed n) (h : Nameable s.root n)
    {e : Entry} (he : d.entryAt (metricsPlace top n) = some e) (fl : Bool) :
    d.find fl (s.paths n).metrics = .ok (metricsPlace top n, e) := by
  have hc := h.path
  rw [← metricsPath_eq s hn] at hc
  exact (find_metrics_iff g hn).mpr ⟨hc, h.short, e, he, rfl⟩

/-- Where there is room for the metrics file of a class whose dump is not present, nothing lies at
the place of the dump. -/
theorem dump_absent (g : Ground d s.root links top) (hn : WellFormed n)
    (hg : s.Grows top n d d1) (hr : d1.Ready (s.directory n)) {stamp : Stamp}
    (room : s.Room n stamp) (hp : ∀ kind, d.status (s.paths n).dump ≠ .ok kind) :
    d1.entryAt (dumpPlace top n) = none := by
  rw [hg.entry_eq not_withinPackage_dumpPlace]
  apply Option.eq_none_iff_forall_ne_some.mpr
  intro e he
  have hname := room.nameable (g.addsDirs hg.adds hg.tree) hn hr
  exact hp e.kind (status_of_find (find_dump g hn hname he true))

end Places

/-! ### The stages of a class -/

section Stages

variable {s : Setup ε} {w : World} {links : Nat} {top : Location} {n : String}

theorem ensures_isPresent {inv : World → Prop} {post : Except CensusError Bool → World → Prop}
    (hi : inv w) (hp : s.Present n w.disk → post (.ok true) w)
    (ha : ¬s.Present n w.disk → post (.ok false) w) :
    Attempt.Ensures (isPresent s.replace (s.paths n)) w inv post := by
  cases hr : s.replace with
  | true => exact .pure (ha fun h => by simpa [hr] using h.1)
  | false =>
    have hperf : w.perform (.status (s.paths n).dump) = (w.disk.status (s.paths n).dump, w) := rfl
    refine .ofJob (.bind (.ofStep hi ?_))
    rw [hperf]
    cases hs : w.disk.status (s.paths n).dump with
    | ok kind => exact .done (hp ⟨hr, kind, hs⟩)
    | error f =>
      refine .done (ha ?_)
      rintro ⟨-, kind, h⟩
      rw [hs] at h
      cases h

/-- Making the directory of a class. -/
theorem ensures_makeParent (g : Ground w.disk s.root links top) (hn : WellFormed n) :
    Attempt.Ensures (makeParent (s.paths n)) w (Grown top (packageOf n) w) fun r w' =>
      Grown top (packageOf n) w w' ∧ s.Grows top n w.disk w'.disk ∧
        match r with
        | .ok () => w'.disk.Ready (s.directory n)
        | .error e => w'.disk.Stuck (s.directory n) ∧ ∃ f, e = .ofFault (s.directory n) f ∧
            packageFault w.disk s.root top (packageOf n) = some f := by
  have hparent : (s.paths n).parent = some (s.directory n) := by
    rw [paths_eq s hn]
    exact Path.parent_push _ hn.dumpName
  simp only [makeParent, hparent]
  refine .atPath ((ensures_makeDirs_below g _ fun _ hx => hn.package hx).post ?_)
  rintro r w' ⟨hg, hsame, hr⟩
  refine ⟨hg, ⟨hg.adds, hg.tree, fun h => by rw [hsame h]⟩, ?_⟩
  cases r with
  | ok u => exact hr
  | error f => exact ⟨hr.1, f, rfl, hr.2⟩

/-- What holds at every moment of the generation of a class. -/
structure Moment (s : Setup ε) (top : Location) (n : String) (w m : World) : Prop where
  process : m.process = w.process
  clock : w.clock ≤ m.clock
  changes : ClassChanges s top n w.disk m.disk

namespace Moment

theorem of_grown {m : World} (h : Grown top (packageOf n) w m) : Moment s top n w m :=
  ⟨h.process, Nat.le_of_eq h.clock.symm, .single (.directories h.adds h.tree)⟩

theorem refl (w : World) : Moment s top n w w := ⟨rfl, Nat.le_refl _, .refl⟩

theorem trans {a b c : World} (h1 : Moment s top n a b) (h2 : Moment s top n b c) :
    Moment s top n a c :=
  ⟨h2.process.trans h1.process, Nat.le_trans h1.clock h2.clock, h1.changes.trans h2.changes⟩

theorem of_passes {m : World} (h : w.Passes m) : Moment s top n w m :=
  ⟨h.process, h.clock, by rw [h.disk]⟩

end Moment

/-- Where a temporary file may be put: no directory lies at its place. -/
def FreeOfDirectories (top : Location) (n : String) (w : World) : Prop :=
  ∀ name t, w.clock ≤ t →
    w.disk.entryAt (temporaryPlace top n name ⟨w.process, t⟩) ≠ some .directory

theorem entryAt_settle (d : Disk) {t l : Location} (ht : t ≠ []) (hl : l ≠ [])
    (bytes : ByteArray) (k : Location) :
    (d.settle t l bytes).entryAt k =
      if k = l then some (.file bytes) else if k = t then none else d.entryAt k := by
  rw [Disk.settle, entryAt_put _ hl, entryAt_discarded d ht]

/-- A settled file leaves the ways open if neither its place nor the temporary one was on a way. -/
theorem keepsWays_settle {d : Disk} {t l : Location} (ht : t ≠ []) (hl : l ≠ [])
    (bytes : ByteArray) (htd : d.entryAt t ≠ some .directory)
    (htk : ∀ x, d.entryAt t ≠ some (.link x)) (hld : d.entryAt l ≠ some .directory)
    (hlk : ∀ x, d.entryAt l ≠ some (.link x)) : KeepsWays d (d.settle t l bytes) := by
  have hfile : (d.put t (.file bytes)).entryAt t = some (.file bytes) := by
    rw [entryAt_put d ht, if_pos rfl]
  have hgone : KeepsWays d ((d.put t (.file bytes)).erase t) :=
    (KeepsWays.put_file ht bytes htd htk).trans (.erase_file ht hfile)
  refine hgone.trans (.put_file hl bytes ?_ ?_)
  · rw [entryAt_discarded d ht]
    split
    · simp
    · exact hld
  · intro x
    rw [entryAt_discarded d ht]
    split
    · simp
    · exact hlk x

/-- Where there is room for the dump of a class and its metrics file is there, it is written. -/
theorem ensures_writeDump (g : Ground w.disk s.root links top) (hn : WellFormed n)
    (hr : w.disk.Ready (s.directory n))
    (ht : w.disk.entryAt (temporaryPlace top n (dumpName n) ⟨w.process, w.clock⟩) ≠
      some .directory) {b : Contents} (hb : s.contents n = some b)
    (room : Writable (s.root.pushAll (packageOf n)) (dumpName n) ⟨w.process, w.clock⟩)
    (nameable : Nameable s.root n) (free : w.disk.entryAt (dumpPlace top n) ≠ some .directory)
    (pair : w.disk.entryAt (metricsPlace top n) = some (.file b.metrics)) :
    Attempt.Ensures (writeInPlace ((s.root.pushAll (packageOf n)).push (dumpName n)) b.dump) w
      (Moment s top n w) fun r w' =>
        r = .ok () ∧ w'.process = w.process ∧ w'.clock = w.clock + 1 ∧
          w'.disk = w.disk.settle (temporaryPlace top n (dumpName n) ⟨w.process, w.clock⟩)
            (dumpPlace top n) b.dump := by
  obtain ⟨hl, hd⟩ := arrives_directory g hn hr
  have h := ensures_writeInPlace b.dump hn.dumpName hl hd (fun _ _ => g.noLinkAt) rfl ht
  refine h.mono ?_ ?_
  · rintro m ⟨hp, hc, hw⟩
    exact ⟨hp, hc, changes_of_writing_dump hn hb hd ht nameable pair hw⟩
  · rintro r w' ⟨hp, hc, hr'⟩
    cases r with
    | ok u => exact ⟨rfl, hp, hc, hr'.2.2⟩
    | error e =>
      obtain ⟨⟨q, f, -, hfault⟩, -⟩ := hr'
      rcases not_writable_of_writeFault hfault with h0 | h0
      · exact absurd room h0
      · exact absurd h0 free

/-- What writing the two files of a class comes to, in a directory that is ready. -/
theorem ensures_writePair (g : Ground w.disk s.root links top) (hn : WellFormed n)
    (hr : w.disk.Ready (s.directory n)) (hfree : FreeOfDirectories top n w) {b : Contents}
    (hb : s.contents n = some b)
    (hdump : s.Room n ⟨w.process, w.clock⟩ → w.disk.entryAt (dumpPlace top n) ≠ some .directory)
    (habsent : s.Room n ⟨w.process, w.clock⟩ → s.replace = false →
      w.disk.entryAt (dumpPlace top n) = none) :
    Attempt.Ensures (writePair (s.paths n) b.dump b.metrics) w (Moment s top n w) fun r w' =>
      w'.process = w.process ∧ w.clock < w'.clock ∧
        match r with
        | .ok () =>
          s.Room n ⟨w.process, w.clock⟩ ∧
            w.disk.entryAt (metricsPlace top n) ≠ some .directory ∧ w'.clock = w.clock + 2 ∧
            w'.disk =
              (w.disk.settle (temporaryPlace top n (metricsName n) ⟨w.process, w.clock⟩)
                (metricsPlace top n) b.metrics).settle
                (temporaryPlace top n (dumpName n) ⟨w.process, w.clock + 1⟩)
                (dumpPlace top n) b.dump
        | .error e =>
          (∃ q f, e = .ofFault q f) ∧
            (¬s.Room n ⟨w.process, w.clock⟩ ∨
              w.disk.entryAt (metricsPlace top n) = some .directory) ∧
            (w'.disk = w.disk ∨ w'.disk =
              (w.disk.put (temporaryPlace top n (metricsName n) ⟨w.process, w.clock⟩)
                (.file b.metrics)).erase
                (temporaryPlace top n (metricsName n) ⟨w.process, w.clock⟩)) := by
  obtain ⟨hl, hd⟩ := arrives_directory g hn hr
  have hkeys : ∀ x t, w.disk.entryAt (top ++ packageOf n ++ [x]) ≠ some (.link t) :=
    fun x t => g.noLinkAt
  simp only [writePair, paths_eq s hn]
  have hmetrics := ensures_writeInPlace b.metrics hn.metricsName hl hd hkeys rfl
    (hfree (metricsName n) w.clock (Nat.le_refl _))
  have hmoment : ∀ m : World, m.process = w.process ∧ w.clock ≤ m.clock ∧
      Writing (s.root.pushAll (packageOf n)) (metricsName n) ⟨w.process, w.clock⟩
        (metricsPlace top n) b.metrics w.disk
        (temporaryPlace top n (metricsName n) ⟨w.process, w.clock⟩) m.disk →
      Moment s top n w m := by
    rintro m ⟨hp, hc, hw⟩
    exact ⟨hp, hc, changes_of_writing_metrics hn hb hd (hfree _ _ (Nat.le_refl _)) habsent hw⟩
  refine .bind (hmetrics.mono hmoment ?_)
  rintro r w1 ⟨hp1, hc1, hr1⟩
  cases r with
  | error e =>
    obtain ⟨⟨q, f, he, hfault⟩, hdisk⟩ := hr1
    exact ⟨hp1, by omega, ⟨q, f, he⟩, not_writable_of_writeFault hfault, hdisk⟩
  | ok u =>
    obtain ⟨room, hfreeM, hdisk1⟩ := hr1
    have hstage : Moment s top n w w1 := by
      refine hmoment w1 ⟨hp1, by omega, ?_⟩
      rw [hdisk1]
      exact .settled room hfreeM
    have hentry : ∀ k, w1.disk.entryAt k =
        if k = metricsPlace top n then some (.file b.metrics)
        else if k = temporaryPlace top n (metricsName n) ⟨w.process, w.clock⟩ then none
        else w.disk.entryAt k := by
      intro k
      rw [hdisk1]
      exact entryAt_settle w.disk temporaryPlace_ne_nil metricsPlace_ne_nil b.metrics k
    have hdirs : ∀ l, w.disk.entryAt l ≠ some .directory → w1.disk.entryAt l ≠ some .directory := by
      intro l h0
      rw [hentry]
      split
      · simp
      · split
        · simp
        · exact h0
    have g1 : Ground w1.disk s.root links top := hstage.changes.ground g
    have hways : KeepsWays w.disk w1.disk := by
      rw [hdisk1]
      exact keepsWays_settle temporaryPlace_ne_nil metricsPlace_ne_nil b.metrics
        (hfree _ _ (Nat.le_refl _)) (hkeys _) hfreeM (hkeys _)
    have hpair : w1.disk.entryAt (metricsPlace top n) = some (.file b.metrics) := by
      rw [hentry, if_pos rfl]
    have hroom : Writable (s.root.pushAll (packageOf n)) (dumpName n) ⟨w1.process, w1.clock⟩ := by
      rw [hp1, hc1]
      exact Writable.dump_of_metrics hn room
    have htemp : w1.disk.entryAt (temporaryPlace top n (dumpName n) ⟨w1.process, w1.clock⟩) ≠
        some .directory := by
      rw [hp1, hc1]
      exact hdirs _ (hfree _ _ (Nat.le_succ _))
    have hdumped := ensures_writeDump g1 hn (hways.ready hr) htemp hb hroom
      (Setup.Room.nameable g hn hr room)
      (hdirs _ (hdump room)) hpair
    refine .tryCatch (hdumped.mono (fun m hm => hstage.trans hm) ?_)
    rintro r w' ⟨rfl, hp2, hc2, hdisk2⟩
    refine ⟨hp2.trans hp1, by omega, room, hfreeM, by omega, ?_⟩
    rw [hdisk2, hdisk1, hp1, hc1]
    rfl

/-- What the generation of the artifacts of a class comes to that are not present or are to be
replaced. -/
theorem ensures_generateArtifacts (g : Ground w.disk s.root links top) (hn : WellFormed n)
    (hfree : FreeOfDirectories top n w)
    (hdir : s.replace = true → w.disk.entryAt (dumpPlace top n) ≠ some .directory)
    (habsent : ¬s.Present n w.disk) :
    Attempt.Ensures (generateArtifacts s.session s.isStack (s.paths n) n) w (Moment s top n w)
      fun r w' => s.Outcome top n w (r.map fun _ => .generated) w' := by
  refine .bind ((ensures_makeParent g hn).mono (fun m hm => .of_grown hm) ?_)
  rintro r w1 ⟨hgrown, hgrows, hr⟩
  have hstage : Moment s top n w w1 := .of_grown hgrown
  cases r with
  | error e =>
    obtain ⟨hstuck, f, rfl, -⟩ := hr
    exact .failed habsent hgrows (.stuck hstuck f) hgrown.process hstage.clock (.inl rfl)
  | ok u =>
    dsimp only at hr ⊢
    refine .bind (.ofExcept ?_)
    cases hc : s.session.resolve n with
    | error e =>
      exact .failed habsent hgrows (.unresolved hr hc) hgrown.process hstage.clock (.inl rfl)
    | ok c =>
      dsimp only
      refine .bind (.atPath (((s.quiet c).ensures w1).mono
        (fun m hm => hstage.trans (.of_passes hm)) ?_))
      rintro r w2 ⟨rfl, hp2⟩
      have hstage2 := hstage.trans (.of_passes hp2)
      cases ht : s.printed c with
      | error f =>
        refine .failed habsent hgrows (.unprinted hr hc ht) hstage2.process hstage2.clock (.inl ?_)
        rw [hp2.disk]
      | ok text =>
        have hb := s.contents_of_printed hc ht
        dsimp only [Except.mapError]
        refine .bind (.ofJob (((Job.yields_tellAll _).ensures w2).mono
          (fun m hm => hstage2.trans (.of_passes hm)) ?_))
        rintro - w3 ⟨-, hp3⟩
        have hpass : w1.Passes w3 := hp2.trans hp3
        have hstage3 := hstage.trans (.of_passes hpass)
        have hkept : ∀ {l}, ¬WithinPackage top (packageOf n) l →
            w1.disk.entryAt l = w.disk.entryAt l := fun hl => hgrows.entry_eq hl
        have hfree3 : FreeOfDirectories top n w3 := by
          intro name t ht
          rw [hpass.disk, hstage3.process, hkept not_withinPackage_temporaryPlace]
          exact hfree name t (Nat.le_trans hstage3.clock ht)
        have hnone : s.Room n ⟨w3.process, w3.clock⟩ → s.replace = false →
            w1.disk.entryAt (dumpPlace top n) = none := by
          intro room hrep
          exact dump_absent g hn hgrows hr room fun kind hk => habsent ⟨hrep, kind, hk⟩
        have hnodir : s.Room n ⟨w3.process, w3.clock⟩ →
            w1.disk.entryAt (dumpPlace top n) ≠ some .directory := by
          intro room
          cases hrep : s.replace with
          | true =>
            rw [hkept not_withinPackage_dumpPlace]
            exact hdir hrep
          | false =>
            rw [hnone room hrep]
            simp
        have g3 : Ground w3.disk s.root links top := hstage3.changes.ground g
        rw [← hpass.disk] at hr hnone hnodir
        have hpair := ensures_writePair g3 hn hr hfree3 hb hnodir hnone
        refine .bind ((hpair.last (.refl w3)).mono (fun m hm => hstage3.trans hm) ?_)
        rintro r w4 ⟨⟨hp4, hc4, hr4⟩, hm4⟩
        have hclock4 : w.clock ≤ w4.clock := Nat.le_trans hstage3.clock (Nat.le_of_lt hc4)
        rw [hpass.disk, hstage3.process] at hr4
        cases r with
        | error e =>
          obtain ⟨⟨q, f, rfl⟩, hway, hdisk⟩ := hr4
          rw [hpass.disk] at hr
          refine .failed habsent hgrows (.unwritten hr hb ?_ q f) (hp4.trans hstage3.process)
            hclock4 ?_
          · refine hway.imp ?_ id
            intro h0 room
            exact h0 (Writable.of_shorter hn.metricsName
              (size_toString_mono (Nat.le_of_lt hc4)) room)
          · exact hdisk.imp id fun h0 => ⟨_, _, hstage3.clock, h0⟩
        | ok u =>
          obtain ⟨room, hfreeM, hclock, hdisk⟩ := hr4
          rw [hpass.disk] at hr
          refine .ofJob (((Job.yields_tell _).ensures w4).mono
            (fun m hm => (hstage3.trans hm4).trans (.of_passes hm)) ?_)
          rintro - w5 ⟨-, hp5⟩
          refine .generated habsent hgrows hr hb room hfreeM
            (hp5.process.trans (hp4.trans hstage3.process)) hstage3.clock ?_ ?_
          · have := hp5.clock
            omega
          · rw [hp5.disk, hdisk]

/-- A class is skipped, generated or has failed, and every moment on the way is a number of changes
away from the start. -/
theorem ensures_generateClass (g : Ground w.disk s.root links top) (hn : WellFormed n)
    (hfree : FreeOfDirectories top n w)
    (hdir : s.replace = true → w.disk.entryAt (dumpPlace top n) ≠ some .directory) :
    Attempt.Ensures (s.generateClass n) w (Moment s top n w) (s.Outcome top n w) := by
  refine .bind (ensures_isPresent (.refl w) ?_ ?_)
  · intro hp
    refine .bind (.ofJob (((Job.yields_tell _).ensures w).mono (fun m hm => .of_passes hm) ?_))
    rintro - w1 ⟨-, hp1⟩
    exact .pure (.skipped hp hp1)
  · intro ha
    refine .bind ((ensures_generateArtifacts g hn hfree hdir ha).post ?_)
    intro r w1 hr
    cases r with
    | ok u => exact .pure hr
    | error e => exact hr

end Stages

end ClassCensus
