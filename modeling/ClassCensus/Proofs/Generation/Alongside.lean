import ClassCensus.Proofs.Generation.Recovery
import ClassCensus.Proofs.Generation.SameOpening
import ClassCensus.Proofs.Generation.Steady
import ClassCensus.Proofs.Generation.TwoRuns

/-!
# Steady worlds side by side

Two runs over the same classes that begin in steady worlds with the same entries on their disks come to the
same: every turn has the same outcome in both (`Alongside.generateClass`), and so has every run over classes
(`Alongside.generateAll`). Errors are told apart by what they say beside the names of temporary files, and
the numbers in these names have to be of one length.
-/

namespace ClassCensus

open Disk

/-- Two results that are related, or two errors that say the same. -/
def BothAlike {α : Type} (R : α → α → Prop) : Except CensusError α → Except CensusError α → Prop
  | .ok a, .ok b => R a b
  | .error e, .error e' => e.Alike e'
  | _, _ => False

theorem BothAlike.of_eq {α : Type} {r r' : Except CensusError α} (h : r' = r) : BothAlike Eq r r' := by
  subst h
  cases r' with
  | ok a => exact (rfl : a = a)
  | error e => exact CensusError.Alike.refl e

theorem CensusError.Alike.isRecoverable {e e' : CensusError} (h : e.Alike e') :
    e'.isRecoverable = e.isRecoverable := by
  cases h <;> rfl

namespace GenerationReport.Alike

variable {r r' : GenerationReport}

theorem addGenerated (h : r.Alike r') (n : String) : (r.addGenerated n).Alike (r'.addGenerated n) :=
  ⟨congrArg (· ++ [n]) h.generated, h.skipped, h.failures⟩

theorem addSkipped (h : r.Alike r') (n : String) : (r.addSkipped n).Alike (r'.addSkipped n) :=
  ⟨h.generated, congrArg (· ++ [n]) h.skipped, h.failures⟩

theorem addFailure (h : r.Alike r') (n : String) {e e' : CensusError} (he : e.Alike e') :
    (r.addFailure n e).Alike (r'.addFailure n e') :=
  ⟨h.generated, h.skipped, List.rel_append h.failures (.cons ⟨rfl, he⟩ .nil)⟩

end GenerationReport.Alike

/-- Two steady worlds with the same entries on their disks. -/
structure Alongside (root : Path) (w m : World) : Prop where
  same : Same w.disk m.disk
  left : Steady root w
  right : Steady root m

namespace Plan

variable {ε : Type} [ClassEngine ε]

/-- The engine changes nothing while it prints, and what it prints depends on the entries of the disk. -/
structure PrintsSteadily (p : Plan ε) : Prop where
  quiet : p.PrintsQuietly
  same : ∀ c {w m : World}, Same w.disk m.disk →
    ((ClassEngine.dump p.session.engine c).run m).1 = ((ClassEngine.dump p.session.engine c).run w).1

end Plan

/-- The first part of an attempt ends before all of it does. -/
theorem later_of_bind {α β : Type} {job : Attempt α} {next : α → Attempt β} {w w1 w' : World}
    {s : Except CensusError α} {r : Except CensusError β} (h : (job >>= next).run.run w = (r, w'))
    (hs : job.run.run w = (s, w1)) : w1.Later w' := by
  rw [Attempt.run_bind, hs] at h
  cases s with
  | ok a => exact Attempt.later_run h
  | error e =>
    cases h
    exact .refl _

/-- Two runs of an attempt come to the same if its first parts do, and then its second parts. -/
theorem alike_of_bind {α β : Type} {R : β → β → Prop} {job : Attempt α} {next : α → Attempt β}
    {w w' m m' : World} {r r' : Except CensusError β} (hw : (job >>= next).run.run w = (r, w'))
    (hm : (job >>= next).run.run m = (r', m'))
    (hjob : ∀ {s s' w1 m1}, job.run.run w = (s, w1) → job.run.run m = (s', m1) →
      w1.Later w' → m1.Later m' → BothAlike Eq s s' ∧ Same w1.disk m1.disk)
    (hnext : ∀ {a w1 m1}, job.run.run w = (.ok a, w1) → job.run.run m = (.ok a, m1) →
      Same w1.disk m1.disk → (next a).run.run w1 = (r, w') → (next a).run.run m1 = (r', m') →
        BothAlike R r r' ∧ Same w'.disk m'.disk) :
    BothAlike R r r' ∧ Same w'.disk m'.disk := by
  rcases h : job.run.run w with ⟨s, w1⟩
  rcases h' : job.run.run m with ⟨s', m1⟩
  obtain ⟨halike, hsame⟩ := hjob h h' (later_of_bind hw h) (later_of_bind hm h')
  rw [Attempt.run_bind, h] at hw
  rw [Attempt.run_bind, h'] at hm
  cases s with
  | ok a =>
    cases s' with
    | ok b =>
      obtain rfl : a = b := halike
      exact hnext h h' hsame hw hm
    | error e => exact halike.elim
  | error e =>
    cases s' with
    | ok b => exact halike.elim
    | error e' =>
      cases hw
      cases hm
      exact ⟨halike, hsame⟩

namespace Alongside

section Pairs

variable {root : Path} {n : String} {w m : World}

theorem pairOpen (h : Alongside root w m) (hopen : w.disk.PairOpen root n) : m.disk.PairOpen root n := by
  refine ⟨fun dir x y hxy hof => ?_, ?_⟩
  · obtain ⟨links, here, hl⟩ := hopen.led dir x y hxy hof
    exact ⟨links, here, h.same.keepsWays.leads hl⟩
  · rw [h.same.status]
    exact hopen.clear

theorem writePair (h : Alongside root w m) (hopen : w.disk.PairOpen root n) {dump metrics : ByteArray}
    {r r' : Except CensusError Unit} {w' m' : World}
    (hw : (ClassCensus.writePair (ArtifactPaths.ofClass root n) dump metrics).run.run w = (r, w'))
    (hm : (ClassCensus.writePair (ArtifactPaths.ofClass root n) dump metrics).run.run m = (r', m'))
    (hlength : World.SameLengths w w' m m') : BothAlike Eq r r' ∧ Same w'.disk m'.disk := by
  have hopen' := h.pairOpen hopen
  rcases ArtifactPaths.ofClass_cases root n with ⟨hnone, hof⟩ | ⟨dir, -, x, y, -, -, hxy, hof⟩
  · rw [hof] at hw hm
    obtain ⟨e, he⟩ := run_writePair_of_nameless hnone
    cases (he dump metrics w).1.symm.trans hw
    cases (he dump metrics m).1.symm.trans hm
    exact ⟨.of_eq rfl, h.same⟩
  obtain ⟨links, here, hl⟩ := hopen.led dir x y hxy hof
  have hdir := hopen.clear
  have hdir' := hopen'.clear
  rw [hof] at hdir hdir' hw hm
  have hl' := h.same.keepsWays.leads hl
  obtain ⟨log, hrun⟩ := run_writePair_of_leads hxy dump metrics hl (h.left.sound.directory_of_leads hl)
    (h.left.free here _ ⟨y, w.clock, Nat.le_refl _, rfl⟩)
    (h.left.free here _ ⟨x, w.clock + 1, Nat.le_succ _, rfl⟩) hdir
  obtain ⟨log', hrun'⟩ := run_writePair_of_leads hxy dump metrics hl'
    (h.right.sound.directory_of_leads hl')
    (h.right.free here _ ⟨y, m.clock, Nat.le_refl _, rfl⟩)
    (h.right.free here _ ⟨x, m.clock + 1, Nat.le_succ _, rfl⟩) hdir'
  rw [hrun] at hw
  rw [hrun', h.same.hasDir] at hm
  rcases writeFault_alike dir hxy.metrics hlength.stamp (w.disk.hasDir (here ++ [y])) with
    ⟨h1, h2⟩ | ⟨q, q', f, h1, h2, halike⟩
  · have hput := h.same.put (l := here ++ [y]) (by simp) (.file metrics)
    rw [h1] at hw
    rw [h2] at hm
    dsimp only at hw hm
    rw [hput.descend, hput.startOf] at hm
    cases hdesc : (w.disk.put (here ++ [y]) (.file metrics)).descend linkLimit
        ((w.disk.put (here ++ [y]) (.file metrics)).startOf dir) dir.steps with
    | error f =>
      rw [hdesc] at hw hm
      cases hw
      cases hm
      exact ⟨.temporary .., hput⟩
    | ok r =>
      rw [hdesc] at hw hm
      cases hw
      cases hm
      exact ⟨.of_eq rfl, hput.put (by simp) _⟩
  · rw [h1] at hw
    rw [h2] at hm
    cases hw
    cases hm
    exact ⟨halike, h.same⟩

end Pairs

/-! ### Turns -/

section Turns

variable {ε : Type} [ClassEngine ε] {p : Plan ε} {root : Path} {n : String} {w w' m m' : World}

theorem timeless_makeParent (paths : ArtifactPaths) : Attempt.Timeless (makeParent paths) := by
  unfold makeParent
  cases paths.parent with
  | none => exact trivial
  | some dir => exact .atPath (timeless_makeDirsWithin _ _)

theorem makeParent_same (paths : ArtifactPaths) (h : Same w.disk m.disk) :
    ((makeParent paths).run.run m).1 = ((makeParent paths).run.run w).1 ∧
      Same ((makeParent paths).run.run w).2.disk ((makeParent paths).run.run m).2.disk :=
  (timeless_makeParent paths).run_same h

theorem generateArtifacts (h : Alongside p.root w m) (hroot : w.disk.Reached p.root)
    (hprint : p.PrintsSteadily) (hdump : ¬(w.disk.status (p.paths n).dump).isOk)
    {r r' : Except CensusError Unit}
    (hw : (ClassCensus.generateArtifacts p.session p.isStack (p.paths n) n).run.run w = (r, w'))
    (hm : (ClassCensus.generateArtifacts p.session p.isStack (p.paths n) n).run.run m = (r', m'))
    (hlength : World.SameLengths w w' m m') : BothAlike Eq r r' ∧ Same w'.disk m'.disk := by
  have hroot' : m.disk.Reached p.root := (Overlaid.of_same h.same).reached hroot
  -- the directory is made in both worlds, or in none
  refine alike_of_bind hw hm (fun hs hs' _ _ => ?_) ?_
  · have hmade := makeParent_same (p.paths n) h.same
    rw [hs, hs'] at hmade
    exact ⟨.of_eq hmade.1, hmade.2⟩
  intro _ w1 m1 hparent hparent' hsame hw hm
  obtain ⟨hprepared, hled⟩ := h.left.prepared_makeParent hroot hparent
  obtain ⟨hprepared', -⟩ := h.right.prepared_makeParent hroot' hparent'
  have hopen := hprepared.pairOpen (hled rfl) hdump
  refine alike_of_bind hw hm (fun hs hs' _ _ => ?_) ?_
  · cases hs
    cases hs'
    exact ⟨.of_eq rfl, hsame⟩
  intro c w2 m2 hc hc' hsame hw hm
  obtain ⟨-, rfl⟩ := Prod.mk.inj hc
  obtain ⟨-, rfl⟩ := Prod.mk.inj hc'
  -- the class is printed
  have hpasses := ((hprint.quiet c).ensures w1).result.2
  have hpasses' := ((hprint.quiet c).ensures m1).result.2
  refine alike_of_bind hw hm (fun hs hs' _ _ => ?_) ?_
  · rw [Attempt.run_atPath] at hs hs'
    obtain ⟨rfl, rfl⟩ := Prod.mk.inj hs
    obtain ⟨rfl, rfl⟩ := Prod.mk.inj hs'
    rw [hprint.same c hsame, hpasses.disk, hpasses'.disk]
    exact ⟨.of_eq rfl, hsame⟩
  intro text w2 m2 htext htext' _ hw hm
  rw [Attempt.run_atPath] at htext htext'
  obtain ⟨-, rfl⟩ := Prod.mk.inj htext
  obtain ⟨-, rfl⟩ := Prod.mk.inj htext'
  -- events are told
  rw [Attempt.run_bind, Attempt.run_ofJob] at hw hm
  dsimp only at hw hm
  have htold := hpasses.trans (((Job.yields_tellAll (recordEvents c.name [] c.methods)).ensures _).result.2)
  have htold' := hpasses'.trans
    (((Job.yields_tellAll (recordEvents c.name [] c.methods)).ensures _).result.2)
  generalize ((Job.tellAll (recordEvents c.name [] c.methods)).run
    ((ClassEngine.dump p.session.engine c).run w1).2).2 = w3 at hw htold
  generalize ((Job.tellAll (recordEvents c.name [] c.methods)).run
    ((ClassEngine.dump p.session.engine c).run m1).2).2 = m3 at hm htold'
  -- the pair is written
  have honward := hprepared.onward.trans (.of_passes hprepared.onward.steady htold)
  have honward' := hprepared'.onward.trans (.of_passes hprepared'.onward.steady htold')
  have h3 : Alongside p.root w3 m3 :=
    ⟨by rwa [htold.disk, htold'.disk], honward.steady, honward'.steady⟩
  have hopen3 : w3.disk.PairOpen p.root n := htold.disk ▸ hopen
  refine alike_of_bind hw hm (fun hs hs' hlater hlater' => h3.writePair hopen3 hs hs' ?_) ?_
  · exact hlength.part ⟨honward.process, honward.clock⟩ (Attempt.later_run hs) hlater
      ⟨honward'.process, honward'.clock⟩ (Attempt.later_run hs') hlater'
  intro _ w4 m4 _ _ hsame4 hw hm
  rw [Attempt.run_ofJob] at hw hm
  cases hw
  cases hm
  exact ⟨.of_eq rfl, hsame4⟩

theorem generateClass (h : Alongside p.root w m) (hroot : w.disk.Reached p.root)
    (hreplace : p.replace = false) (hprint : p.PrintsSteadily) {r r' : Except CensusError ClassOutcome}
    (hw : (p.generateClass n).run.run w = (r, w')) (hm : (p.generateClass n).run.run m = (r', m'))
    (hlength : World.SameLengths w w' m m') : BothAlike Eq r r' ∧ Same w'.disk m'.disk := by
  rw [p.run_generateClass] at hw hm
  rw [h.same.status] at hm
  split at hw
  · rename_i hpresent
    rw [if_pos hpresent] at hm
    cases hw
    cases hm
    exact ⟨.of_eq rfl, h.same⟩
  · rename_i hpresent
    rw [if_neg hpresent] at hm
    rcases hrun : (ClassCensus.generateArtifacts p.session p.isStack (p.paths n) n).run.run w with
      ⟨s, w1⟩
    rcases hrun' : (ClassCensus.generateArtifacts p.session p.isStack (p.paths n) n).run.run m with
      ⟨s', m1⟩
    rw [hrun] at hw
    rw [hrun'] at hm
    have hends : w1 = w' ∧ m1 = m' := by
      constructor
      · cases s <;> cases hw <;> rfl
      · cases s' <;> cases hm <;> rfl
    obtain ⟨rfl, rfl⟩ := hends
    obtain ⟨halike, hsame⟩ := h.generateArtifacts hroot hprint (fun h0 => hpresent ⟨hreplace, h0⟩)
      hrun hrun' hlength
    refine ⟨?_, hsame⟩
    rcases s with e | ⟨⟩ <;> rcases s' with e' | ⟨⟩ <;> cases hw <;> cases hm
    · exact halike
    · exact halike.elim
    · exact halike.elim
    · exact .of_eq rfl

/-! ### Runs -/

theorem tell (h : Alongside root w m) (event event' : Event) :
    Alongside root ((Job.tell event).run w).2 ((Job.tell event').run m).2 :=
  ⟨h.same, (Onward.of_passes h.left (Plan.passes_tell event w)).steady,
    (Onward.of_passes h.right (Plan.passes_tell event' m)).steady⟩

omit [ClassEngine ε] in
theorem opening (h : Alongside p.root w m) (hreplace : p.replace = false) {w1 m1 : World}
    {r r' : Except CensusError Unit} (hw : p.opening.run.run w = (r, w1))
    (hm : p.opening.run.run m = (r', m1)) : r' = r ∧ Same w1.disk m1.disk := by
  obtain ⟨hmade, hsame⟩ :=
    (timeless_makeDirsWithin (p.root.octets.length + 1) p.root).run_same h.same
  rw [p.run_opening hreplace] at hw hm
  obtain ⟨rfl, rfl⟩ := Prod.mk.inj hw
  obtain ⟨rfl, rfl⟩ := Prod.mk.inj hm
  exact ⟨congrArg _ hmade, hsame⟩

theorem later_of_turn {report : GenerationReport} {names : List String} {w1 : World}
    {s : Except CensusError ClassOutcome} {r : Except CensusError GenerationReport}
    (hs : (p.generateClass n).run.run w = (s, w1))
    (h : (p.generateAll report (n :: names)).run.run w = (r, w')) : w1.Later w' := by
  rw [p.run_generateAll_cons, hs] at h
  rcases s with e | ⟨⟨⟩⟩
  · have htold : ∀ event, w1.Later ((Job.tell event).run w1).2 := fun event => Job.later_run _ w1
    dsimp only at h
    split at h
    · exact (htold _).trans (Attempt.later_run h)
    · cases h
      exact htold _
  · exact Attempt.later_run h
  · exact Attempt.later_run h

theorem generateAll {names : List String} {report report' : GenerationReport}
    (h : Alongside p.root w m) (hroot : w.disk.Reached p.root) (hreplace : p.replace = false)
    (hprint : p.PrintsSteadily) (hreport : report.Alike report')
    {r r' : Except CensusError GenerationReport}
    (hw : (p.generateAll report names).run.run w = (r, w'))
    (hm : (p.generateAll report' names).run.run m = (r', m'))
    (hlength : World.SameLengths w w' m m') :
    BothAlike GenerationReport.Alike r r' ∧ Same w'.disk m'.disk := by
  induction names generalizing w m report report' with
  | nil =>
    cases hw
    cases hm
    exact ⟨hreport, h.same⟩
  | cons n names ih =>
    rcases hturn : (p.generateClass n).run.run w with ⟨s, w1⟩
    rcases hturn' : (p.generateClass n).run.run m with ⟨s', m1⟩
    have hlater := later_of_turn hturn hw
    have hlater' := later_of_turn hturn' hm
    obtain ⟨halike, hsame⟩ := h.generateClass hroot hreplace hprint hturn hturn'
      (hlength.part (.refl w) (Attempt.later_run hturn) hlater (.refl m) (Attempt.later_run hturn') hlater')
    have hroot' : m.disk.Reached p.root := (Overlaid.of_same h.same).reached hroot
    have honward := h.left.onward_generateClass hroot hreplace hprint.quiet n
    have honward' := h.right.onward_generateClass hroot' hreplace hprint.quiet n
    rw [hturn] at honward
    rw [hturn'] at honward'
    have h1 : Alongside p.root w1 m1 := ⟨hsame, honward.steady, honward'.steady⟩
    have hroot1 := honward.overlaid.reached hroot
    have hlength1 := hlength.part (Attempt.later_run hturn) hlater (.refl w') (Attempt.later_run hturn')
      hlater' (.refl m')
    rw [p.run_generateAll_cons, hturn] at hw
    rw [p.run_generateAll_cons, hturn'] at hm
    cases s with
    | ok o =>
      cases s' with
      | error e => exact halike.elim
      | ok o' =>
        obtain rfl : o = o' := halike
        cases o with
        | generated => exact ih h1 hroot1 (hreport.addGenerated n) hw hm hlength1
        | skipped => exact ih h1 hroot1 (hreport.addSkipped n) hw hm hlength1
    | error e =>
      cases s' with
      | ok o => exact halike.elim
      | error e' =>
        have halike : e.Alike e' := halike
        dsimp only at hw hm
        rw [halike.isRecoverable] at hm
        by_cases hrecovers : e.isRecoverable = true
        · rw [if_pos hrecovers] at hw hm
          exact ih (h1.tell _ _) hroot1 (hreport.addFailure n halike) hw hm
            ⟨hlength1.process, hlength1.till, hlength1.clock, hlength1.till'⟩
        · rw [if_neg hrecovers] at hw hm
          cases hw
          cases hm
          exact ⟨halike, hsame⟩

end Turns

end Alongside

end ClassCensus
