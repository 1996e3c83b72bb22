import ClassCensus.Engine.Faulty
import ClassCensus.Proofs.Generation.Alongside
import ClassCensus.Proofs.Generation.Lone

/-!
# Runs in parts

A run over classes is the run over the first of them and then the one over the others
(`Plan.run_generateAll_append`), and its report is the reports of the two one after the other
(`Plan.run_generateAll_report`). So classes may be generated in two runs instead of one
(`Plan.generate_append`). A class whose error ends the run does so after the classes before it
(`Plan.generate_abort`), and leaves no more than its directory (`Plan.aborts_of_turn`). Both together are
the main statement (`generate_in_parts`).
-/

namespace ClassCensus

open Disk

/-! ### Reports -/

namespace GenerationReport

/-- One report and then another one. -/
def append (r r' : GenerationReport) : GenerationReport :=
  ⟨r.generated ++ r'.generated, r.skipped ++ r'.skipped, r.failures ++ r'.failures⟩

theorem append_empty (r : GenerationReport) : r.append .empty = r := by
  simp [append, empty]

theorem append_addGenerated (r r' : GenerationReport) (n : String) :
    (r.append r').addGenerated n = r.append (r'.addGenerated n) := by
  simp [append, addGenerated]

theorem append_addSkipped (r r' : GenerationReport) (n : String) :
    (r.append r').addSkipped n = r.append (r'.addSkipped n) := by
  simp [append, addSkipped]

theorem append_addFailure (r r' : GenerationReport) (n : String) (e : CensusError) :
    (r.append r').addFailure n e = r.append (r'.addFailure n e) := by
  simp [append, addFailure]

theorem Alike.refl (r : GenerationReport) : r.Alike r :=
  ⟨rfl, rfl, List.forall₂_same.mpr fun f _ => ⟨rfl, .refl f.error⟩⟩

theorem Alike.append {r r' s s' : GenerationReport} (h : r.Alike r') (hs : s.Alike s') :
    (r.append s).Alike (r'.append s') :=
  ⟨by simp [GenerationReport.append, h.generated, hs.generated],
    by simp [GenerationReport.append, h.skipped, hs.skipped], List.rel_append h.failures hs.failures⟩

end GenerationReport

/-! ### Runs over classes -/

variable {ε : Type} [ClassEngine ε] {p : Plan ε}

namespace Plan

theorem run_generateAll_append (first second : List String) (report : GenerationReport) (w : World) :
    (p.generateAll report (first ++ second)).run.run w =
      match (p.generateAll report first).run.run w with
      | (.ok r, w1) => (p.generateAll r second).run.run w1
      | (.error e, w1) => (.error e, w1) := by
  induction first generalizing report w with
  | nil => rfl
  | cons n first ih =>
    rw [List.cons_append, run_generateAll_cons, run_generateAll_cons]
    rcases (p.generateClass n).run.run w with ⟨e | ⟨⟨⟩⟩, w1⟩
    · dsimp only
      split
      · exact ih ..
      · rfl
    · exact ih ..
    · exact ih ..

/-- What a run over classes adds to its report depends on the classes only. -/
theorem run_generateAll_report (base report : GenerationReport) (names : List String) (w : World) :
    (p.generateAll (base.append report) names).run.run w =
      (((p.generateAll report names).run.run w).1.map base.append,
        ((p.generateAll report names).run.run w).2) := by
  induction names generalizing report w with
  | nil => rfl
  | cons n names ih =>
    rw [run_generateAll_cons, run_generateAll_cons]
    rcases (p.generateClass n).run.run w with ⟨e | ⟨⟨⟩⟩, w1⟩
    · dsimp only
      split
      · rw [GenerationReport.append_addFailure]
        exact ih ..
      · rfl
    · rw [GenerationReport.append_addGenerated]
      exact ih ..
    · rw [GenerationReport.append_addSkipped]
      exact ih ..

theorem run_generateAll_in_two {first second : List String} {r : GenerationReport}
    {s : Except CensusError GenerationReport} {w w1 w2 : World}
    (hfirst : (p.generateAll .empty first).run.run w = (.ok r, w1))
    (hsecond : (p.generateAll .empty second).run.run w1 = (s, w2)) :
    (p.generateAll .empty (first ++ second)).run.run w = (s.map r.append, w2) := by
  have hrest := run_generateAll_report (p := p) r .empty second w1
  rw [GenerationReport.append_empty, hsecond] at hrest
  rw [run_generateAll_append, hfirst]
  exact hrest

theorem run_generate (names : List String) (w : World) :
    (p.generate names).run.run w =
      match p.opening.run.run w with
      | (.error e, w1) => (.error e, w1)
      | (.ok (), w1) =>
        match (p.generateAll .empty names).run.run w1 with
        | (.error e, w2) => (.error e, w2)
        | (.ok r, w2) =>
          (.ok r, ((Job.tell (.generationFinished r.total r.generated.length r.skipped.length
            r.failures.length p.root)).run w2).2) := by
  rw [p.generate_eq, Attempt.run_bind]
  rcases p.opening.run.run w with ⟨e | ⟨⟩, w1⟩
  · rfl
  dsimp only
  rw [Attempt.run_bind]
  rcases (p.generateAll .empty names).run.run w1 with ⟨e | r, w2⟩ <;> rfl

theorem runs_of_generate {names : List String} {r : GenerationReport} {w w' : World}
    (h : (p.generate names).run.run w = (.ok r, w')) :
    ∃ w1 w2 log, p.opening.run.run w = (.ok (), w1) ∧
      (p.generateAll .empty names).run.run w1 = (.ok r, w2) ∧ w' = { w2 with log := log } := by
  rw [run_generate] at h
  rcases hopen : p.opening.run.run w with ⟨e | ⟨⟩, w1⟩ <;> rw [hopen] at h
  · cases h
  dsimp only at h
  rcases hall : (p.generateAll .empty names).run.run w1 with ⟨e | r', w2⟩ <;> rw [hall] at h
  · cases h
  · obtain ⟨hr, rfl⟩ := Prod.mk.inj h
    cases hr
    exact ⟨w1, w2, _, rfl, hall, rfl⟩

theorem generate_of_runs {names : List String} {r : GenerationReport} {w w1 w2 : World}
    (hopen : p.opening.run.run w = (.ok (), w1))
    (h : (p.generateAll .empty names).run.run w1 = (.ok r, w2)) :
    ∃ log, (p.generate names).run.run w = (.ok r, { w2 with log := log }) := by
  rw [run_generate, hopen]
  dsimp only
  rw [h]
  exact ⟨_, rfl⟩

theorem later_of_append {first second : List String} {report : GenerationReport} {w w1 w' : World}
    {s r : Except CensusError GenerationReport}
    (hs : (p.generateAll report first).run.run w = (s, w1))
    (h : (p.generateAll report (first ++ second)).run.run w = (r, w')) : w1.Later w' := by
  rw [run_generateAll_append, hs] at h
  cases s with
  | ok report => exact Attempt.later_run h
  | error e =>
    cases h
    exact .refl _

theorem later_of_generate {names : List String} {w w1 w2 w' : World}
    {s r : Except CensusError GenerationReport} (hopen : p.opening.run.run w = (.ok (), w1))
    (hs : (p.generateAll .empty names).run.run w1 = (s, w2))
    (h : (p.generate names).run.run w = (r, w')) : w2.Later w' := by
  rw [run_generate, hopen] at h
  dsimp only at h
  rw [hs] at h
  cases s with
  | ok report =>
    cases h
    exact Job.later_run _ w2
  | error e =>
    cases h
    exact .refl _

/-! ### Two runs instead of one -/

variable {first second : List String} {r1 r2 : GenerationReport}
  {result : Except CensusError GenerationReport} {w w1 v v' m m' : World}

/-- Two runs, one after the other, leave the same entries as one run over the classes of both, and report
the same. -/
theorem generate_append (hreplace : p.replace = false) (hprint : p.PrintsSteadily)
    (hw : Steady p.root w) (hv : Steady p.root v) (hm : Steady p.root m)
    (hfirst : (p.generate first).run.run w = (.ok r1, w1)) (hbetween : Same w1.disk v.disk)
    (hsecond : (p.generate second).run.run v = (.ok r2, v')) (hbegin : Same w.disk m.disk)
    (hboth : (p.generate (first ++ second)).run.run m = (result, m'))
    (hlength1 : World.SameLengths w w1 m m') (hlength2 : World.SameLengths v v' m m') :
    ∃ r, result = .ok r ∧ (r1.append r2).Alike r ∧ Same v'.disk m'.disk := by
  obtain ⟨wo, wa, log, hopen, hall, rfl⟩ := runs_of_generate hfirst
  obtain ⟨vo, va, log', hopenV, hallV, rfl⟩ := runs_of_generate hsecond
  obtain ⟨honward, -, hroot⟩ := hw.opened hreplace hopen
  -- the one run opens as the first of the two does
  rcases hopenM : p.opening.run.run m with ⟨s, mo⟩
  obtain ⟨rfl, hsame⟩ := Alongside.opening ⟨hbegin, hw, hm⟩ hreplace hopen hopenM
  obtain ⟨honwardM, -, -⟩ := hm.opened hreplace hopenM
  have halong : Alongside p.root wo mo := ⟨hsame, honward.steady, honwardM.steady⟩
  rcases hallM : (p.generateAll .empty (first ++ second)).run.run mo with ⟨t, mb⟩
  rcases hfirstM : (p.generateAll .empty first).run.run mo with ⟨s, ma⟩
  have hlast := later_of_generate hopenM hallM hboth
  -- it comes to the first classes alike
  obtain ⟨halike, hsameA⟩ := halong.generateAll hroot hreplace hprint (.refl _) hall hfirstM
    (hlength1.part ⟨honward.process, honward.clock⟩ (Attempt.later_run hall) ⟨rfl, Nat.le_refl _⟩
      ⟨honwardM.process, honwardM.clock⟩ (Attempt.later_run hfirstM)
      ((later_of_append hfirstM hallM).trans hlast))
  cases s with
  | error e => exact halike.elim
  | ok r1' =>
  have halike : r1.Alike r1' := halike
  -- the second run opens without a change
  have hdone := honward.steady.onward_generateAll hroot hreplace hprint.quiet first .empty
  have hdoneM := honwardM.steady.onward_generateAll ((Overlaid.of_same hsame).reached hroot) hreplace
    hprint.quiet first .empty
  rw [hall] at hdone
  rw [hfirstM] at hdoneM
  have hrootV : v.disk.Reached p.root :=
    (Overlaid.of_same hbetween).reached (hdone.overlaid.reached hroot)
  have hreopen := hv.reopened hreplace hrootV hopenV
  obtain ⟨honwardV, -, -⟩ := hv.opened hreplace hopenV
  -- and comes to the other classes alike
  have halongV : Alongside p.root vo ma :=
    ⟨hreopen ▸ hbetween.symm.trans hsameA, honwardV.steady, hdoneM.steady⟩
  rcases hsecondM : (p.generateAll .empty second).run.run ma with ⟨s, mc⟩
  have hparts := run_generateAll_in_two hfirstM hsecondM
  obtain ⟨rfl, rfl⟩ := Prod.mk.inj (hparts.symm.trans hallM)
  obtain ⟨halikeV, hsameV⟩ := halongV.generateAll (hreopen ▸ hrootV) hreplace hprint (.refl _) hallV
    hsecondM (hlength2.part ⟨honwardV.process, honwardV.clock⟩ (Attempt.later_run hallV)
      ⟨rfl, Nat.le_refl _⟩ (.trans ⟨honwardM.process, honwardM.clock⟩ (Attempt.later_run hfirstM))
      (Attempt.later_run hsecondM) hlast)
  cases s with
  | error e => exact halikeV.elim
  | ok r2' =>
    rw [run_generate, hopenM] at hboth
    dsimp only at hboth
    rw [hparts] at hboth
    cases hboth
    exact ⟨_, rfl, halike.append halikeV, hsameV⟩

/-! ### Runs that are aborted -/

/-- A class ends a run that has come to it: the session has its error, and no more was done for the class
than that its directory was made. -/
structure Aborts (p : Plan ε) (n : String) (w : World) (e : CensusError) (d : Disk) : Prop where
  resolve : p.session.resolve n = .error e
  fatal : e.isRecoverable = false
  disk : d = ((makeParent (p.paths n)).run.run w).2.disk
  adds : AddsDirs (fun _ => True) w.disk d
  artifacts : ∀ {fl path r}, path = (p.paths n).dump ∨ path = (p.paths n).metrics →
    d.find fl path = .ok r → w.disk.find fl path = .ok r

theorem aborts_of_turn {n : String} {e : CensusError} (hw : Steady p.root w)
    (hroot : w.disk.Reached p.root) (hturn : (p.generateClass n).run.run w = (.error e, w'))
    (hfatal : e.isRecoverable = false) : p.Aborts n w e w'.disk := by
  -- whatever fails but the engine concerns this class only, so the error is the one of the engine
  have hcannot : ¬e.isRecoverable = true := by simp [hfatal]
  have hparents := failsAs_makeParent (P := (·.isRecoverable = true)) (fun _ _ => rfl)
  have hpairs := failsAs_writePair (P := (·.isRecoverable = true)) (fun _ _ => rfl)
  rw [run_generateClass] at hturn
  split at hturn
  · cases hturn
  rcases hrun : (generateArtifacts p.session p.isStack (p.paths n) n).run.run w with ⟨e' | ⟨⟩, w1⟩ <;>
    rw [hrun] at hturn
  case ok => cases hturn
  cases hturn
  rw [run_generateArtifacts] at hrun
  rcases hparent : (makeParent (p.paths n)).run.run w with ⟨e' | ⟨⟩, w1⟩ <;> rw [hparent] at hrun
  · cases hrun
    exact absurd (hparents _ _ _ _ hparent) hcannot
  have hprepared := (hw.prepared_makeParent hroot hparent).1
  dsimp only at hrun
  cases hresolve : p.session.resolve n with
  | error e' =>
    rw [hresolve] at hrun
    cases hrun
    exact ⟨hresolve, hfatal, by rw [hparent], hprepared.adds, hprepared.find_eq⟩
  | ok c =>
    rw [hresolve] at hrun
    dsimp only at hrun
    split at hrun
    · cases hrun
      exact absurd rfl hcannot
    · split at hrun
      · rename_i hpair
        cases hrun
        exact absurd (hpairs _ _ _ _ _ _ hpair) hcannot
      · cases hrun

theorem run_generateAll_abort {before : List String} {n : String} {report r : GenerationReport}
    {e : CensusError} {w2 : World} (hbefore : (p.generateAll report before).run.run w = (.ok r, w1))
    (hturn : (p.generateClass n).run.run w1 = (.error e, w2)) (hfatal : e.isRecoverable = false)
    (after : List String) :
    (p.generateAll report (before ++ n :: after)).run.run w =
      (.error e, ((Job.tell (.generationAborted n e)).run w2).2) := by
  rw [run_generateAll_append, hbefore]
  dsimp only
  rw [run_generateAll_cons, hturn]
  simp only [hfatal, Bool.false_eq_true, if_false]

/-- A run over classes that has an error was aborted by one of them, after those before it. -/
theorem exists_abort {names : List String} {report : GenerationReport} {e : CensusError}
    (h : (p.generateAll report names).run.run w = (.error e, w')) :
    ∃ before n after r w1 w2, names = before ++ n :: after ∧
      (p.generateAll report before).run.run w = (.ok r, w1) ∧
      (p.generateClass n).run.run w1 = (.error e, w2) ∧ e.isRecoverable = false ∧
      w'.disk = w2.disk := by
  induction names generalizing report w with
  | nil => cases h
  | cons n names ih =>
    rw [run_generateAll_cons] at h
    -- a later class aborts, and the turn of this one comes before
    have hlater : ∀ {report' : GenerationReport} {m : World},
        (p.generateAll report' names).run.run m = (.error e, w') →
        (∀ before, (p.generateAll report (n :: before)).run.run w =
          (p.generateAll report' before).run.run m) →
        ∃ before n' after r w1 w2, n :: names = before ++ n' :: after ∧
          (p.generateAll report before).run.run w = (.ok r, w1) ∧
          (p.generateClass n').run.run w1 = (.error e, w2) ∧ e.isRecoverable = false ∧
          w'.disk = w2.disk := by
      intro report' m hrest hfirst
      obtain ⟨before, n', after, r, w1, w2, rfl, hbefore, hturn⟩ := ih hrest
      exact ⟨n :: before, n', after, r, w1, w2, rfl, (hfirst before).trans hbefore, hturn⟩
    rcases hturn : (p.generateClass n).run.run w with ⟨e' | ⟨⟨⟩⟩, w1⟩ <;> rw [hturn] at h
    · dsimp only at h
      split at h
      · rename_i hrecovers
        refine hlater h fun before => ?_
        rw [run_generateAll_cons, hturn]
        simp only [hrecovers, if_true]
      · rename_i hfatal
        cases h
        exact ⟨[], n, names, report, w, w1, rfl, rfl, hturn, by simpa using hfatal, rfl⟩
    · exact hlater h fun before => by rw [run_generateAll_cons, hturn]
    · exact hlater h fun before => by rw [run_generateAll_cons, hturn]

theorem run_generateClass_log {n : String} {s : Except CensusError ClassOutcome} (log : List Event)
    (h : (p.generateClass n).run.run w = (s, w')) :
    ∃ log', (p.generateClass n).run.run { w with log := log } = (s, { w' with log := log' }) := by
  obtain ⟨hresult, log', hworld⟩ := Job.run_log (p.generateClass n).run w log
  rw [h] at hresult hworld
  exact ⟨log', Prod.ext hresult hworld⟩

theorem steady_of_generate (hreplace : p.replace = false) (hquiet : p.PrintsQuietly)
    (hw : Steady p.root w) {names : List String} {r : GenerationReport}
    (h : (p.generate names).run.run w = (.ok r, w')) :
    Onward p.root w w' ∧ w'.disk.Reached p.root := by
  obtain ⟨wo, wa, log, hopen, hall, rfl⟩ := runs_of_generate h
  obtain ⟨honward, -, hroot⟩ := hw.opened hreplace hopen
  have hdone := honward.steady.onward_generateAll hroot hreplace hquiet names .empty
  rw [hall] at hdone
  exact ⟨honward.trans (hdone.trans (.of_passes hdone.steady ⟨rfl, rfl, Nat.le_refl _⟩)),
    hdone.overlaid.reached hroot⟩

/-- A class with an error that ends a run does so after the classes before it. -/
theorem generate_abort (hreplace : p.replace = false) (hquiet : p.PrintsQuietly)
    (hw : Steady p.root w) {before : List String} {n : String} {r : GenerationReport} {e : CensusError}
    {w2 : World} (hbefore : (p.generate before).run.run w = (.ok r, w1))
    (hturn : (p.generateClass n).run.run w1 = (.error e, w2)) (hfatal : e.isRecoverable = false)
    (after : List String) :
    ∃ w', (p.generate (before ++ n :: after)).run.run w = (.error e, w') ∧ p.Aborts n w1 e w'.disk := by
  obtain ⟨honward, hroot⟩ := steady_of_generate hreplace hquiet hw hbefore
  have haborts := aborts_of_turn honward.steady hroot hturn hfatal
  obtain ⟨wo, wa, log, hopen, hall, rfl⟩ := runs_of_generate hbefore
  obtain ⟨log', hturn⟩ := run_generateClass_log wa.log hturn
  refine ⟨((Job.tell (.generationAborted n e)).run { w2 with log := log' }).2, ?_, haborts⟩
  rw [run_generate, hopen]
  dsimp only
  rw [run_generateAll_abort hall hturn hfatal]

/-- A generation that has an error was not opened, or it was aborted by a class. -/
theorem aborts_of_generate (hreplace : p.replace = false) (hquiet : p.PrintsQuietly)
    (hw : Steady p.root w) {names : List String} {e : CensusError}
    (h : (p.generate names).run.run w = (.error e, w')) :
    (∃ w1, p.opening.run.run w = (.error e, w1)) ∨
      ∃ before n after r w1, names = before ++ n :: after ∧
        (p.generate before).run.run w = (.ok r, w1) ∧ p.Aborts n w1 e w'.disk := by
  rw [run_generate] at h
  rcases hopen : p.opening.run.run w with ⟨e' | ⟨⟩, wo⟩ <;> rw [hopen] at h
  · cases h
    exact .inl ⟨_, rfl⟩
  refine .inr ?_
  dsimp only at h
  rcases hall : (p.generateAll .empty names).run.run wo with ⟨e' | r, wa⟩ <;> rw [hall] at h
  case ok => cases h
  cases h
  obtain ⟨before, n, after, r, wb, w2, rfl, hbefore, hturn, hfatal, hdisk⟩ := exists_abort hall
  obtain ⟨log, hgenerate⟩ := generate_of_runs hopen hbefore
  obtain ⟨honward, hroot⟩ := steady_of_generate hreplace hquiet hw hgenerate
  obtain ⟨log', hturn⟩ := run_generateClass_log log hturn
  have haborts := aborts_of_turn honward.steady hroot hturn hfatal
  exact ⟨before, n, after, r, _, rfl, hgenerate, hdisk ▸ haborts⟩

/-- From a world classes can be generated in two runs instead of one, and a run is aborted by the first
class with an error that concerns more than this class. -/
structure Divides (p : Plan ε) (w : World) : Prop where
  /-- Two runs over classes do as one run over all of them, begun on the same disk by any process. -/
  append : ∀ {first second r1 w1 v r2 v' m result m'}, (p.generate first).run.run w = (.ok r1, w1) →
    Same w1.disk v.disk → Steady p.root v → (p.generate second).run.run v = (.ok r2, v') →
      Same w.disk m.disk → Steady p.root m →
        (p.generate (first ++ second)).run.run m = (result, m') →
          World.SameLengths w w1 m m' → World.SameLengths v v' m m' →
            ∃ r, result = .ok r ∧ (r1.append r2).Alike r ∧ Same v'.disk m'.disk
  /-- A class that comes to such an error after others ends the run with it. -/
  abort : ∀ {before n r w1 e w2}, (p.generate before).run.run w = (.ok r, w1) →
    (p.generateClass n).run.run w1 = (.error e, w2) → e.isRecoverable = false → ∀ after,
      ∃ w', (p.generate (before ++ n :: after)).run.run w = (.error e, w') ∧ p.Aborts n w1 e w'.disk
  /-- No run ends with an error in another way, once its root has been made. -/
  aborted : ∀ {names e w'}, (p.generate names).run.run w = (.error e, w') →
    (∃ w1, p.opening.run.run w = (.error e, w1)) ∨
      ∃ before n after r w1, names = before ++ n :: after ∧
        (p.generate before).run.run w = (.ok r, w1) ∧ p.Aborts n w1 e w'.disk

end Plan

/-- Runs that keep what is there can be made in parts, and are aborted cleanly. -/
theorem generate_in_parts (hreplace : p.replace = false) (hprint : p.PrintsSteadily)
    (hw : Steady p.root w) : p.Divides w where
  append hfirst hbetween hv hsecond hbegin hm hboth hlength1 hlength2 :=
    Plan.generate_append hreplace hprint hw hv hm hfirst hbetween hsecond hbegin hboth hlength1 hlength2
  abort hbefore hturn hfatal after :=
    Plan.generate_abort hreplace hprint.quiet hw hbefore hturn hfatal after
  aborted h := Plan.aborts_of_generate hreplace hprint.quiet hw h

/-- On a plain disk, and with a root without such names, no name begins with a dot. -/
theorem Steady.of_plain {root : Path} {w : World} (hd : w.disk.Sound) (hplain : w.disk.Plain)
    (hroot : ∀ name ∈ root.steps, name.head? ≠ some Octet.dot) : Steady root w := by
  have hhead : ∀ name, w.Awaits name → name.head? = some Octet.dot := by
    rintro name ⟨file, time, -, rfl⟩
    rw [octets_temporaryName]
    rfl
  refine ⟨hd, fun here name hname => ?_, fun name hmem hname => hroot name hmem (hhead name hname)⟩
  cases he : w.disk.entryAt (here ++ [name]) with
  | none => rfl
  | some e => exact absurd (hhead name hname) ((hplain _ (mem_of_entryAt (by simp) he)).2 name (by simp))

/-- A generation for classes that are given, with an engine that stops at another one. -/
def stopping (classes : List ClassDef) (bad : String) (root : Path) :
    Plan (FaultyEngine SnapshotEngine) :=
  let engine : FaultyEngine SnapshotEngine := ⟨.ofClasses classes, ⟨[(bad, .internal "stopped")], [], []⟩⟩
  ⟨⟨engine, classes.map (·.name), "none"⟩, syntheticName, root, false⟩

theorem printsSteadily_stopping (classes : List ClassDef) (bad : String) (root : Path) :
    (stopping classes bad root).PrintsSteadily :=
  ⟨fun _ => .done trivial, fun _ _ _ _ => rfl⟩

theorem exists_of_generated (names generated : List String) {t : Nat}
    (h : ((p.generate names).run.run w).1.toOption.map (·.generated) = some generated)
    (ht : ((p.generate names).run.run w).2.clock = t) :
    ∃ r w', (p.generate names).run.run w = (.ok r, w') ∧ r.generated = generated ∧ w'.clock = t := by
  rcases hrun : (p.generate names).run.run w with ⟨e | r, w'⟩ <;> rw [hrun] at h ht
  · cases h
  · exact ⟨r, w', rfl, Option.some.inj h, ht⟩

theorem World.SameLengths.of_early (hprocess : w.process = m.process) (hw : w.clock < 10)
    (hw' : w1.clock < 10) (hm : m.clock < 10) (hm' : m'.clock < 10) : World.SameLengths w w1 m m' := by
  have hone : ∀ t < 10, digitCount t = 1 := by decide +kernel
  exact ⟨by rw [hprocess], by rw [hone _ hw, hone _ hw'], by rw [hone _ hw, hone _ hm],
    by rw [hone _ hw, hone _ hm']⟩

/-- Two classes in two runs and in one, and a third class between them at which the engine stops. -/
theorem generate_in_parts_of_two :
    let p := stopping [.named "p.X", .named "p.Y"] "Bad" ⟨"out"⟩
    let start : World := ⟨⟨[(["keep"], .file ⟨#[1]⟩)], []⟩, 7, 1, []⟩
    p.replace = false ∧ p.PrintsSteadily ∧ Steady p.root start ∧
      ∃ r1 w1, (p.generate ["p.X"]).run.run start = (.ok r1, w1) ∧ r1.generated = ["p.X"] ∧
        (∃ r2 v' r m', (p.generate ["p.Y"]).run.run w1 = (.ok r2, v') ∧ r2.generated = ["p.Y"] ∧
          (p.generate (["p.X"] ++ ["p.Y"])).run.run start = (.ok r, m') ∧
          (r1.append r2).Alike r ∧ Same v'.disk m'.disk) ∧
        ∃ w', (p.generate (["p.X"] ++ "Bad" :: ["p.Y"])).run.run start =
            (.error (.internal "stopped"), w') ∧
          p.Aborts "Bad" w1 (.internal "stopped") w'.disk := by
  intro p start
  have hreplace : p.replace = false := rfl
  have hprint : p.PrintsSteadily := printsSteadily_stopping _ _ _
  have hsteady : Steady p.root start :=
    .of_plain (.of_entries (by decide +kernel) (by decide)) (by decide +kernel) (by decide +kernel)
  have hdivides : p.Divides start := generate_in_parts hreplace hprint hsteady
  -- the two runs, the one, and the turn of the third class
  obtain ⟨r1, w1, hfirst, hgenerated1, hclock1⟩ :=
    exists_of_generated (p := p) (w := start) (t := 3) ["p.X"] ["p.X"] (by decide +kernel)
      (by decide +kernel)
  have hw1 : w1 = ((p.generate ["p.X"]).run.run start).2 := by rw [hfirst]
  obtain ⟨r2, v', hsecond, hgenerated2, hclock2⟩ :=
    exists_of_generated (p := p) (w := w1) (t := 5) ["p.Y"] ["p.Y"] (by rw [hw1]; decide +kernel)
      (by rw [hw1]; decide +kernel)
  have hend : ((p.generate (["p.X"] ++ ["p.Y"])).run.run start).2.clock = 5 := by decide +kernel
  have hbad : ((p.generateClass "Bad").run.run w1).1 = .error (.internal "stopped") := by
    rw [hw1]
    decide +kernel
  have hstart : start.clock = 1 := rfl
  clear_value p start
  rcases hboth : (p.generate (["p.X"] ++ ["p.Y"])).run.run start with ⟨result, m'⟩
  replace hend : m'.clock = 5 := by rwa [hboth] at hend
  have honward := (Plan.steady_of_generate hreplace hprint.quiet hsteady hfirst).1
  obtain ⟨r, rfl, halike, hsame⟩ := hdivides.append hfirst (.refl _) honward.steady hsecond (.refl _)
    hsteady hboth (.of_early rfl (by omega) (by omega) (by omega) (by omega))
    (.of_early honward.process (by omega) (by omega) (by omega) (by omega))
  rcases hturn : (p.generateClass "Bad").run.run w1 with ⟨s, w2⟩
  obtain rfl : s = .error (.internal "stopped") := by rwa [hturn] at hbad
  obtain ⟨w', habort, haborts⟩ := hdivides.abort hfirst hturn rfl ["p.Y"]
  exact ⟨hreplace, hprint, hsteady, r1, w1, hfirst, hgenerated1,
    ⟨r2, v', r, m', hsecond, hgenerated2, rfl, halike, hsame⟩, w', habort, haborts⟩

/-- An engine that knows every name, and prints the time instead of a dump. -/
structure TimeEngine where
  name : String

instance : ClassEngine TimeEngine where
  name := TimeEngine.name
  classNames _ := []
  resolve _ className := .ok (.named className)
  edit e _ _ := .ok e
  dump _ _ := (Job.ofStep .stamp).bind fun stamp => .done (.ok (toString stamp.time))
  reset e := e

theorem printsQuietly_time {q : Plan TimeEngine} : q.PrintsQuietly := fun _ =>
  .step trivial fun _ => .done trivial

/-- One run may differ from two in other cases. Where an entry has the name of a temporary file of a time
to come, a class that replaces the output root may take it away, and the second run makes it again. Where
the root has such a name, a class that comes to this time fails. A class with a long name is generated or
not, as the number of the process is short or long. An artifact that was not found before the run may be
found after a class has been aborted, if the root goes back through a directory that is yet to be made. And
an engine that prints what does not depend on the disk writes other artifacts at another time. -/
theorem parts_differ :
    (∃ start : Disk, start.Sound ∧
      let s := Setup.ofClasses [.named ""] ⟨"X.json"⟩ false
      let first := s.shows [""] ⟨start, 7, 1, []⟩
      let second := s.shows [] ⟨first.2, 7, 3, []⟩
      let both := s.shows ([""] ++ []) ⟨start, 7, 1, []⟩
      first.1 = .ok ([], [""]) ∧ second.1 = .ok ([], []) ∧ both.1 = .ok ([], [""]) ∧
        second.2.status ⟨"X.json"⟩ = .ok .directory ∧
        both.2.status ⟨"X.json"⟩ = .error .notFound) ∧
    (let s := Setup.ofClasses [.named "/X"] ⟨"/.X.ir.7.2.tmp"⟩ false
      let first := s.shows [] ⟨.blank [], 7, 1, []⟩
      first.1 = .ok ([], []) ∧ (s.shows ["/X"] ⟨first.2, 7, 3, []⟩).1 = .ok (["/X"], []) ∧
        (s.shows ([] ++ ["/X"]) ⟨.blank [], 7, 1, []⟩).1 = .ok ([], ["/X"])) ∧
    (∃ n, WellFormed n ∧
      let s := Setup.ofClasses [.named n] ⟨"out"⟩ false
      let first := s.shows [] ⟨.blank [], 7, 1, []⟩
      first.1 = .ok ([], []) ∧ (s.shows [n] ⟨first.2, 7, 1, []⟩).1 = .ok ([n], []) ∧
        (s.shows ([] ++ [n]) ⟨.blank [], 10, 1, []⟩).1 = .ok ([], [n])) ∧
    (∃ start : Disk, start.Sound ∧
      let p := stopping [] "X" ⟨"gone/../old"⟩
      let out := (p.generate ["X"]).run.run ⟨start, 7, 1, []⟩
      out.1 = .error (.internal "stopped") ∧
        start.linkStatus (p.paths "X").metrics = .error .notFound ∧
        out.2.disk.linkStatus (p.paths "X").metrics = .ok .file) ∧
    ∃ p : Plan TimeEngine, p.PrintsQuietly ∧
      let first := (p.generate []).run.run ⟨.blank [], 7, 1, []⟩
      let second := (p.generate ["X"]).run.run ⟨first.2.disk, 7, 2, []⟩
      let both := (p.generate ([] ++ ["X"])).run.run ⟨.blank [], 7, 1, []⟩
      second.2.disk.read (p.paths "X").dump = .ok "2".toUTF8 ∧
        both.2.disk.read (p.paths "X").dump = .ok "1".toUTF8 := by
  refine ⟨?_, ⟨by decide +kernel, by decide +kernel, by decide +kernel⟩, ?_, ?_, ?_⟩
  · let start : Disk :=
      ⟨[(["e"], .directory), (["X.json"], .link ⟨"e"⟩), ([".X.ir.7.2.tmp"], .directory)], []⟩
    exact ⟨start, .of_entries (by decide +kernel) (by decide), by decide +kernel, by decide +kernel,
      by decide +kernel, by decide +kernel, by decide +kernel⟩
  · obtain ⟨n, hn, hfirst, hparts, hshows⟩ := long_name_shows_in_parts
    exact ⟨n, hn, hfirst, hparts 7, hshows 10⟩
  · let start : Disk := ⟨[(["old"], .directory), (["old", "X.json"], .file .empty)], []⟩
    exact ⟨start, .of_entries (by decide +kernel) (by decide), by decide +kernel, by decide +kernel,
      by decide +kernel⟩
  · exact ⟨⟨⟨⟨"times"⟩, [], "none"⟩, syntheticName, ⟨"out"⟩, false⟩, printsQuietly_time, by decide +kernel,
      by decide +kernel⟩

end ClassCensus
