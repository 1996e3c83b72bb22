import ClassCensus.Proofs.Generation.Story

/-!
# A second run changes nothing

A run that keeps artifacts leaves each of its classes present or refused. So when it is made again it
skips the ones, fails for the others as before, and leaves the disk exactly as it is
(`generate_idempotent`).
-/

namespace ClassCensus

open Disk

/-! ### Variants of errors -/

/-- The variants of errors, without what is told in them. -/
inductive ErrorVariant where
  | configuration
  | resolution
  | file
  | bodyUnavailable
  | snapshot
  | serialization
  | internal
deriving DecidableEq

def CensusError.variant : CensusError → ErrorVariant
  | .configuration _ _ => .configuration
  | .resolution _ _ => .resolution
  | .file _ _ => .file
  | .bodyUnavailable _ => .bodyUnavailable
  | .snapshot _ _ => .snapshot
  | .serialization _ _ => .serialization
  | .internal _ => .internal

theorem CensusError.isRecoverable_of_variant {e e' : CensusError} (h : e.variant = e'.variant) :
    e.isRecoverable = e'.isRecoverable := by
  cases e <;> cases e' <;> first | rfl | cases h

theorem variant_ofFault (p : Path) (f : DiskFault) : (CensusError.ofFault p f).variant = .file :=
  rfl

variable {ε : Type} [ClassEngine ε] {s : Setup ε} {links : Nat} {top : Location} {n : String}
  {w w' m : World} {vs : List Visit} {names : List String} {e : CensusError}

namespace Setup

/-- A class is refused because its name is not resolved, or with a fault of the disk. -/
theorem Refused.reason {stamp : Stamp} {d : Disk} (h : s.Refused top n stamp d e) :
    (d.Ready (s.directory n) ∧ s.session.resolve n = .error e) ∨
      (e.variant = .file ∧ (d.Stuck (s.directory n) ∨ ∃ c, s.session.resolve n = .ok c)) := by
  cases h with
  | stuck stuck f => exact .inr ⟨variant_ofFault _ _, .inl stuck⟩
  | unresolved ready resolve => exact .inl ⟨ready, resolve⟩
  | unprinted ready resolve printed =>
    exact .inr ⟨variant_ofFault _ _, .inr ⟨_, resolve⟩⟩
  | unwritten ready contents way p f =>
    obtain ⟨c, text, hc, -⟩ := s.printed_of_contents contents
    exact .inr ⟨variant_ofFault _ _, .inr ⟨c, hc⟩⟩

/-- On one disk a class is refused with errors of one variant. -/
theorem Refused.variant_eq {stamp stamp' : Stamp} {d : Disk} {e' : CensusError}
    (h : s.Refused top n stamp d e) (h' : s.Refused top n stamp' d e') :
    e'.variant = e.variant := by
  have mixed : ∀ {x : CensusError}, d.Ready (s.directory n) → s.session.resolve n = .error x →
      (d.Stuck (s.directory n) ∨ ∃ c, s.session.resolve n = .ok c) → False := by
    rintro x ready hx (stuck | ⟨c, hc⟩)
    · exact ready.not_stuck stuck
    · rw [hc] at hx
      cases hx
  rcases h.reason with ⟨ready, he⟩ | ⟨hv, hs⟩
  · rcases h'.reason with ⟨-, he'⟩ | ⟨-, hs'⟩
    · rw [he] at he'
      rw [Except.error.inj he']
    · exact absurd hs' (mixed ready he)
  · rcases h'.reason with ⟨ready', he'⟩ | ⟨hv', -⟩
    · exact absurd hs (mixed ready' he')
    · rw [hv, hv']

theorem Refused.ready_or_stuck {stamp : Stamp} {d : Disk} (h : s.Refused top n stamp d e) :
    d.Ready (s.directory n) ∨ d.Stuck (s.directory n) := by
  cases h with
  | stuck stuck => exact .inr stuck
  | unresolved ready => exact .inl ready
  | unprinted ready => exact .inl ready
  | unwritten ready => exact .inl ready

/-! ### Classes that are done with -/

/-- A class is not present, and it is refused. -/
structure Barred (s : Setup ε) (top : Location) (n : String) (w : World) (e : CensusError) :
    Prop where
  absent : ¬s.Present n w.disk
  refused : ∃ t, t ≤ w.clock ∧ s.Refused top n ⟨w.process, t⟩ w.disk e

/-- A class that a run cannot do anything for. -/
def Done (s : Setup ε) (top : Location) (n : String) (w : World) : Prop :=
  s.Present n w.disk ∨ ∃ e, Barred s top n w e

theorem Barred.later (h : Barred s top n w e) (hd : m.disk = w.disk)
    (hp : m.process = w.process) (hc : w.clock ≤ m.clock) : Barred s top n m e := by
  obtain ⟨t, ht, hr⟩ := h.refused
  refine ⟨?_, t, Nat.le_trans ht hc, ?_⟩
  · rw [hd]
    exact h.absent
  · rw [hd, hp]
    exact hr

/-- A class that is barred fails, with an error of the same variant, and changes nothing. -/
theorem Barred.visit {r : Except CensusError ClassOutcome} (h : Barred s top n w e)
    (hv : s.Visiting links top n w r m) :
    m.disk = w.disk ∧ ∃ e', r = .error e' ∧ e'.variant = e.variant := by
  obtain ⟨t, ht, hr⟩ := h.refused
  cases r with
  | error e' =>
    obtain ⟨-, grows, refused⟩ := hv.of_error
    have hsame : m.disk = w.disk := grows.same hr.ready_or_stuck
    rw [hsame] at refused
    exact ⟨hsame, e', rfl, hr.variant_eq refused⟩
  | ok o =>
    exfalso
    cases o with
    | skipped => exact h.absent hv.of_skipped.1
    | generated =>
      obtain ⟨w1, ho, -⟩ := hv.outcome
      exact hr.not_generated hv.wellFormed ht ho

theorem Done.visit {r : Except CensusError ClassOutcome} (h : Done s top n w)
    (hv : s.Visiting links top n w r m) : m.disk = w.disk := by
  rcases h with hp | ⟨e, hb⟩
  · cases r with
    | error e => exact absurd hp hv.of_error.1
    | ok o =>
      cases o with
      | skipped => exact hv.of_skipped.2
      | generated => exact absurd hp hv.of_generated.1
  · exact (hb.visit hv).1

/-- A run over classes that are done with changes nothing, and fails for those that are barred. -/
theorem Visited.of_done (h : s.Visited links top w vs w') (hf : Fresh top w)
    (hdone : ∀ v ∈ vs, Done s top v.className w) :
    w'.disk = w.disk ∧ ∀ v ∈ vs, ∀ e, Barred s top v.className w e →
      ∃ e', v.result = .error e' ∧ e'.variant = e.variant := by
  refine rule (Q := fun w vs w' => (∀ v ∈ vs, Done s top v.className w) →
    w'.disk = w.disk ∧ ∀ v ∈ vs, ∀ e, Barred s top v.className w e →
      ∃ e', v.result = .error e' ∧ e'.variant = e.variant) ?_ ?_ h hf hdone
  · exact fun _ _ => ⟨rfl, fun v hv => by cases hv⟩
  · intro n w r m vs w' hvis rest hfm ih hdone
    have heff := hvis.effect
    have hsame : m.disk = w.disk := (hdone _ (List.mem_cons_self ..)).visit hvis
    obtain ⟨hd, hfail⟩ := ih fun v hv => by
      refine (hdone v (List.mem_cons_of_mem _ hv)).imp (fun h0 => ?_) ?_
      · rwa [hsame]
      · rintro ⟨e, hb⟩
        exact ⟨e, hb.later hsame heff.process heff.clock⟩
    refine ⟨hd.trans hsame, ?_⟩
    intro v hv e hb
    rcases List.mem_cons.mp hv with rfl | hv
    · exact (hb.visit hvis).2
    · exact hfail v hv e (hb.later hsame heff.process heff.clock)

/-- In the end each class of a run that keeps artifacts is present or barred, according to its
visits. -/
theorem Story.settled {w1 w2 : World} {report : GenerationReport} (hrep : s.replace = false)
    (h : s.Story names links top w w1 w2 w' report) (hw : w.disk.IsTree)
    (hn : ∀ n ∈ names, WellFormed n) {v : Visit} (hv : v ∈ s.trace names w) :
    (∀ o, v.result = .ok o → s.Present v.className w'.disk) ∧
      ∀ e, v.result = .error e → Barred s top v.className w' e := by
  constructor
  · intro o hr
    rw [h.passes.disk]
    exact h.visited.present hrep h.fresh hv hr
  · intro e hr
    have hwf := h.wellFormed hn hv
    have hnot := h.failed_not_generated hw (by simp [hrep]) hv hr
    refine ⟨?_, w2.clock, h.passes.clock, ?_⟩
    · rintro ⟨-, kind, hk⟩
      obtain ⟨r, hfind, -⟩ := find_of_status hk
      exact h.failed_dump hwf hnot (by simp [hrep]) hv hr hfind
    · rw [h.passes.disk, h.passes.process]
      exact h.visited.refused h.fresh hv hr

/-! ### The second run -/

theorem mem_of_mem_visits {v : Visit} (hv : v ∈ s.visits names w) : v.className ∈ names := by
  induction names generalizing w with
  | nil => cases hv
  | cons n rest ih =>
    rcases hrun : (s.generateClass n).run.run w with ⟨r, w1⟩
    simp only [visits, hrun] at hv
    rcases List.mem_cons.mp hv with rfl | hv
    · exact List.mem_cons_self ..
    · refine List.mem_cons_of_mem _ ?_
      cases r with
      | ok o => exact ih hv
      | error e =>
        dsimp only at hv
        split at hv
        · exact ih hv
        · cases hv

theorem opening_of_ready (hrep : s.replace = false) (h : w.disk.Ready s.root) :
    s.opening.run.run w = (.ok (), w) := by
  have hopen : Attempt.Ensures s.opening w (· = w) fun r w1 => r = .ok () ∧ w1 = w := by
    rw [opening, hrep]
    refine .atPath ((ensures_of_ready h _).post ?_)
    rintro r w1 ⟨rfl, rfl⟩
    exact ⟨rfl, rfl⟩
  exact Prod.ext hopen.result.1 hopen.result.2

theorem Story.ready {w1 w2 : World} {report : GenerationReport}
    (h : s.Story names links top w w1 w2 w' report) (hw : w.disk.IsTree) :
    w'.disk.Ready s.root := by
  have hopen := (ensures_opening (s := s) hw).result
  rw [h.opening] at hopen
  refine ⟨?_, links, top, h.ground_end.leads, h.ground_end.directory⟩
  rcases (hopen.2.1 rfl).ready with h0 | h0
  · exact .inl h0
  · exact h0.check

theorem generate_of_runs {w1 w2 : World} {report : GenerationReport}
    (h1 : s.opening.run.run w = (.ok (), w1))
    (h2 : (s.generateAll .empty names).run.run w1 = (.ok report, w2)) :
    ∃ w', (s.generate names).run.run w = (.ok report, w') ∧ w2.Passes w' := by
  refine ⟨((s.finished report).run.run w2).2, ?_, rfl, rfl, Nat.le_refl _⟩
  rw [s.generate_eq, Attempt.run_bind, h1]
  dsimp only
  rw [Attempt.run_bind, h2]
  rfl

/-- What a second visit of a class makes of it after a first one. -/
structure Again (v u : Visit) : Prop where
  skips : ∀ o, v.result = .ok o → u.result = .ok .skipped
  fails : ∀ e, v.result = .error e → ∃ e', u.result = .error e' ∧ e'.variant = e.variant

/-- A run that is made where a first one ended changes nothing. -/
theorem Story.revisited {w1 w2 m' : World} {report : GenerationReport} {us : List Visit}
    (hrep : s.replace = false) (h : s.Story names links top w w1 w2 w' report)
    (hw : w.disk.IsTree) (hn : ∀ n ∈ names, WellFormed n) (hm : w'.Passes m)
    (hus : s.Visited links top m us m') (hclasses : ∀ u ∈ us, u.className ∈ names) :
    m'.disk = w'.disk ∧
      ∀ v ∈ s.trace names w, ∀ u ∈ us, u.className = v.className → Again v u := by
  have hfresh : Fresh top m := h.effects.fresh.of_passes hm
  have hpresent : ∀ v ∈ s.trace names w, ∀ o, v.result = .ok o → s.Present v.className m.disk := by
    intro v hv o hr
    rw [hm.disk]
    exact (h.settled hrep hw hn hv).1 o hr
  have hbarred : ∀ v ∈ s.trace names w, ∀ e, v.result = .error e → Barred s top v.className m e :=
    fun v hv e hr => ((h.settled hrep hw hn hv).2 e hr).later hm.disk hm.process hm.clock
  have hdone : ∀ u ∈ us, Done s top u.className m := by
    intro u hu
    have hmem := hclasses u hu
    rw [← h.classes] at hmem
    obtain ⟨v, hv, hc⟩ := List.mem_map.mp hmem
    rw [← hc]
    cases hr : v.result with
    | ok o => exact .inl (hpresent v hv o hr)
    | error e => exact .inr ⟨e, hbarred v hv e hr⟩
  obtain ⟨hdisk, hfails⟩ := Visited.of_done hus hfresh hdone
  refine ⟨hdisk.trans hm.disk, ?_⟩
  intro v hv u hu hc
  constructor
  · intro o hr
    exact Visited.skipped_of_present hus hfresh (h.wellFormed hn hv) (hpresent v hv o hr) hu hc
  · intro e hr
    refine hfails u hu e ?_
    rw [hc]
    exact hbarred v hv e hr

/-- The failures of two runs are alike, class by class and in order. -/
def SameFailures (fs gs : List GenerationFailure) : Prop :=
  List.Forall₂ (fun f g => g.className = f.className ∧ g.error.variant = f.error.variant) fs gs

theorem sameFailures_visits {us : List Visit} (classes : us.map Visit.className = vs.map Visit.className)
    (hagain : ∀ v ∈ vs, ∀ u ∈ us, u.className = v.className → Again v u) :
    SameFailures (vs.filterMap Visit.failure?) (us.filterMap Visit.failure?) := by
  induction vs generalizing us with
  | nil =>
    rw [List.map_eq_nil_iff.mp classes]
    exact .nil
  | cons v vs ih =>
    cases us with
    | nil => cases classes
    | cons u us =>
      obtain ⟨hc, classes⟩ := List.cons.inj classes
      have hrest : SameFailures (vs.filterMap Visit.failure?) (us.filterMap Visit.failure?) :=
        ih classes fun v hv u hu =>
          hagain v (List.mem_cons_of_mem _ hv) u (List.mem_cons_of_mem _ hu)
      have hvu := hagain v (List.mem_cons_self ..) u (List.mem_cons_self ..) hc
      cases hr : v.result with
      | ok o =>
        rw [List.filterMap_cons_none (by simp [Visit.failure?, hr]),
          List.filterMap_cons_none (by simp [Visit.failure?, hvu.skips o hr])]
        exact hrest
      | error e =>
        obtain ⟨e', hr', hvar⟩ := hvu.fails e hr
        rw [List.filterMap_cons_some (Visit.failure?_eq_some (f := ⟨v.className, e⟩).mpr ⟨hr, rfl⟩),
          List.filterMap_cons_some (Visit.failure?_eq_some (f := ⟨u.className, e'⟩).mpr ⟨hr', rfl⟩)]
        exact .cons ⟨hc, hvar⟩ hrest

/-- The report of a second run says that nothing was left to do. -/
structure Repeats (first second : GenerationReport) : Prop where
  generated : second.generated = []
  skipped : ∀ n, n ∈ first.generated ∨ n ∈ first.skipped → n ∈ second.skipped
  failures : SameFailures first.failures second.failures

theorem Story.repeats {w1 w2 m1 m2 m' : World} {links' : Nat} {top' : Location}
    {r r' : GenerationReport} (h : s.Story names links top w w1 w2 w' r)
    (h' : s.Story names links' top' m m1 m2 m' r')
    (hagain : ∀ v ∈ s.trace names w, ∀ u ∈ s.trace names m, u.className = v.className → Again v u) :
    Repeats r r' := by
  have hclasses : (s.trace names m).map Visit.className = (s.trace names w).map Visit.className := by
    rw [h.classes, h'.classes]
  refine ⟨?_, ?_, ?_⟩
  · refine List.eq_nil_iff_forall_not_mem.mpr ?_
    intro n hmem
    obtain ⟨u, hu, hr', rfl⟩ := h'.mem_generated.mp hmem
    have hfirst := List.mem_map_of_mem (f := Visit.className) hu
    rw [hclasses] at hfirst
    obtain ⟨v, hv, hc⟩ := List.mem_map.mp hfirst
    have hvu := hagain v hv u hu hc.symm
    cases hr : v.result with
    | ok o =>
      rw [hvu.skips o hr] at hr'
      cases hr'
    | error e =>
      obtain ⟨e', he', -⟩ := hvu.fails e hr
      rw [he'] at hr'
      cases hr'
  · intro n hmem
    obtain ⟨v, hv, o, hr, rfl⟩ : ∃ v ∈ s.trace names w, ∃ o, v.result = .ok o ∧ v.className = n := by
      rcases hmem with h0 | h0
      · obtain ⟨v, hv, hr, hc⟩ := h.mem_generated.mp h0
        exact ⟨v, hv, _, hr, hc⟩
      · obtain ⟨v, hv, hr, hc⟩ := h.mem_skipped.mp h0
        exact ⟨v, hv, _, hr, hc⟩
    have hsecond := List.mem_map_of_mem (f := Visit.className) hv
    rw [← hclasses] at hsecond
    obtain ⟨u, hu, hc⟩ := List.mem_map.mp hsecond
    exact h'.mem_skipped.mpr ⟨u, hu, (hagain v hv u hu hc).skips o hr, hc⟩
  · rw [h.report_eq, h'.report_eq]
    exact sameFailures_visits hclasses hagain

/-- A second run has a report. -/
theorem Story.second {w1 w2 : World} {r : GenerationReport} (hrep : s.replace = false)
    (h : s.Story names links top w w1 w2 w' r) (hw : w.disk.IsTree)
    (hn : ∀ n ∈ names, WellFormed n) (hm : w'.Passes m) :
    ∃ r' m2 m', (s.generate names).run.run m = (.ok r', m') ∧ s.Story names links top m m m2 m' r' ∧
      m'.disk = w'.disk ∧
        ∀ v ∈ s.trace names w, ∀ u ∈ s.trace names m, u.className = v.className → Again v u := by
  have hfresh : Fresh top m := h.effects.fresh.of_passes hm
  have hopen : s.opening.run.run m = (.ok (), m) := by
    refine opening_of_ready hrep ?_
    rw [hm.disk]
    exact h.ready hw
  have hpoised : s.Poised links top m := by
    refine ⟨?_, ?_, by simp [hrep]⟩
    · rw [hm.disk]
      exact h.ground_end
    · intro n name t ht
      rw [hfresh n name t ht]
      simp
  have htrace : s.trace names m = s.visits names m := by
    rw [trace, hopen]
  have hall := (ensures_generateAll hpoised hn .empty).result
  rcases hrun : (s.generateAll .empty names).run.run m with ⟨r2, m2⟩
  rw [hrun, ← htrace] at hall
  obtain ⟨hvisited, hcloses⟩ := hall
  have hmem : ∀ u ∈ s.trace names m, u.className ∈ names := by
    rw [htrace]
    exact fun u hu => mem_of_mem_visits hu
  obtain ⟨hdisk, hagain⟩ := h.revisited hrep hw hn hm hvisited hmem
  cases hcloses with
  | report classes all =>
    obtain ⟨m', hgen, hpass⟩ := generate_of_runs hopen hrun
    exact ⟨_, m2, m', hgen, ⟨hopen, hfresh, hvisited, classes, all, rfl, hpass⟩,
      hpass.disk.trans hdisk, hagain⟩
  | @aborted u hu e' hr' fatal =>
    -- the first run went on after an error of this variant
    exfalso
    have hname := hmem u hu
    rw [← h.classes] at hname
    obtain ⟨v, hv, hc⟩ := List.mem_map.mp hname
    have hvu := hagain v hv u hu hc.symm
    cases hr : v.result with
    | ok o =>
      rw [hvu.skips o hr] at hr'
      cases hr'
    | error e =>
      obtain ⟨e2, hr2, hvar⟩ := hvu.fails e hr
      rw [hr'] at hr2
      obtain rfl := Except.error.inj hr2
      rw [CensusError.isRecoverable_of_variant hvar, h.goOn v hv e hr] at fatal
      cases fatal

end Setup

/-- A run that keeps artifacts, made again in the world that it left, has a report that repeats the
first one, and leaves the disk as it is. -/
theorem generate_idempotent {r : GenerationReport} (hw : w.disk.Sound) (hclear : s.Clear w)
    (hrep : s.replace = false) (hn : ∀ n ∈ names, WellFormed n)
    (h : (s.generate names).run.run w = (.ok r, w')) (hm : w'.Passes m) :
    ∃ r' m', (s.generate names).run.run m = (.ok r', m') ∧ Setup.Repeats r r' ∧
      m'.disk = w'.disk := by
  obtain ⟨links, top, w1, w2, story, -⟩ := story_of_generate hn (P := fun _ _ _ => True)
    (fun w1 h1 => by
      obtain ⟨links, top, hp, hf⟩ := poised_of_clear hw hclear hrep h1
      exact ⟨links, top, hp, hf, trivial⟩) h
  obtain ⟨r', m2, m', hgen, story', hdisk, hagain⟩ := story.second hrep hw.tree hn hm
  exact ⟨r', m', hgen, story.repeats story' hagain, hdisk⟩

/-- A class is found once, and another one never. -/
theorem generate_idempotent_found_and_missing :
    ∃ r w' r' m',
      ((Setup.ofClasses [.named "p.X"] ⟨"out"⟩ false).generate ["p.X", "Gone", "p.X"]).run.run
        ⟨.blank ["home"], 7, 1, []⟩ = (.ok r, w') ∧
      ((Setup.ofClasses [.named "p.X"] ⟨"out"⟩ false).generate ["p.X", "Gone", "p.X"]).run.run
        w' = (.ok r', m') ∧
      r.generated = ["p.X"] ∧ Setup.Repeats r r' ∧ m'.disk = w'.disk := by
  have hgenerated : ((((Setup.ofClasses [.named "p.X"] ⟨"out"⟩ false).generate
      ["p.X", "Gone", "p.X"]).run.run ⟨.blank ["home"], 7, 1, []⟩).1.toOption.map
        (·.generated)) = some ["p.X"] := by decide +kernel
  rcases hrun : ((Setup.ofClasses [.named "p.X"] ⟨"out"⟩ false).generate
    ["p.X", "Gone", "p.X"]).run.run ⟨.blank ["home"], 7, 1, []⟩ with ⟨r, w'⟩
  rw [hrun] at hgenerated
  cases r with
  | error e => cases hgenerated
  | ok r =>
    obtain ⟨r', m', hsecond, hrepeats, hdisk⟩ :=
      generate_idempotent (.of_entries (by decide +kernel) (by decide +kernel))
        (.of_plain (by decide +kernel)) rfl (by decide +kernel) hrun (.refl w')
    exact ⟨r, w', r', m', rfl, hsecond, Option.some.inj hgenerated, hrepeats, hdisk⟩

/-- A second run does differ where the place of the root is not clear. Links below what a root leads to
that goes back through a directory that is yet to be made are replaced by artifacts, so that a class
that was generated through them fails. A directory that has the name of a temporary file stands in the
way of the first run only. -/
theorem generate_not_idempotent :
    (∃ start : Disk, start.Sound ∧ start.linkStatus ⟨"gone/../old"⟩ = .error .notFound ∧
      let s := Setup.ofClasses [.named "p.X", .named "a"] ⟨"gone/../old"⟩ false
      let first := (s.generate ["p.X", "a"]).run.run ⟨start, 7, 1, []⟩
      (s.shows ["p.X", "a"] ⟨start, 7, 1, []⟩).1 = .ok (["p.X", "a"], []) ∧
        (s.shows ["p.X", "a"] first.2).1 = .ok ([], ["p.X"])) ∧
    ∃ start : Disk, start.Sound ∧
      let s := Setup.ofClasses [.named "X"] ⟨"out"⟩ false
      let first := (s.generate ["X"]).run.run ⟨start, 7, 1, []⟩
      start.linkStatus ⟨"out/.X.json.7.1.tmp"⟩ = .ok .directory ∧
        (s.shows ["X"] ⟨start, 7, 1, []⟩).1 = .ok ([], ["X"]) ∧
        (s.shows ["X"] first.2).1 = .ok (["X"], []) := by
  refine ⟨?_, ?_⟩
  · let start : Disk := ⟨[(["d"], .directory), (["old"], .directory),
      (["old", "p"], .link ⟨"a.json"⟩), (["old", "a.json"], .link ⟨"../d"⟩)], []⟩
    exact ⟨start, .of_entries (by decide +kernel) (by decide), by decide +kernel, by decide +kernel,
      by decide +kernel⟩
  · let start : Disk :=
      ⟨[(["out"], .directory), (["out", ".X.json.7.1.tmp"], .directory)], []⟩
    exact ⟨start, .of_entries (by decide +kernel) (by decide), by decide +kernel, by decide +kernel,
      by decide +kernel⟩

end ClassCensus
