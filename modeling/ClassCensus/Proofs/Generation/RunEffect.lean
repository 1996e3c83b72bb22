import ClassCensus.Proofs.Generation.Lasting

/-!
# What a run over classes leaves behind

What holds of a class when its visit ends goes on to hold until the run ends (`Visited.each`). So a
run changes the places of the classes that it generated and no others (`Visited.effects`), and no
class is both generated and failed (`Visited.exclusive`).
-/

namespace ClassCensus

open Disk

variable {ε : Type} [ClassEngine ε] {s : Setup ε} {links : Nat} {top : Location} {n : String}
  {w w' m : World} {vs : List Visit} {e : CensusError}

theorem Fresh.of_passes (h : Fresh top w) (hp : w.Passes m) : Fresh top m :=
  Setup.Fresh.of_entry h hp.process hp.clock fun _ _ _ => by rw [hp.disk]

namespace Setup

/-- A visit from beginning to end: the world that it found, its result, and the world that it left. -/
structure Visiting (s : Setup ε) (links : Nat) (top : Location) (n : String) (w : World)
    (r : Except CensusError ClassOutcome) (m : World) : Prop where
  wellFormed : WellFormed n
  poised : s.Poised links top w
  fresh : Fresh top w
  outcome : ∃ w1, s.Outcome top n w r w1 ∧ w1.Passes m
  next : s.Poised links top m

namespace Visiting

variable {r : Except CensusError ClassOutcome}

theorem effect (h : s.Visiting links top n w r m) : Effect s top n w r m := by
  obtain ⟨w1, ho, hp⟩ := h.outcome
  have heff := ho.effect h.wellFormed h.poised h.fresh
  refine ⟨hp.process.trans heff.process, Nat.le_trans heff.clock hp.clock, ?_,
    heff.fresh.of_passes hp, ?_⟩
  · rw [hp.disk]
    exact heff.keeps
  · rw [hp.disk]
    exact heff.entry

theorem of_error (h : s.Visiting links top n w (.error e) m) :
    ¬s.Present n w.disk ∧ s.Grows top n w.disk m.disk ∧
      s.Refused top n ⟨m.process, m.clock⟩ m.disk e := by
  obtain ⟨w1, ho, hp⟩ := h.outcome
  obtain ⟨absent, grows, refused, process, -⟩ := ho.of_error h.fresh
  rw [hp.disk, hp.process, process]
  exact ⟨absent, grows, refused.later h.wellFormed (.refl _) hp.clock⟩

theorem of_generated (h : s.Visiting links top n w (.ok .generated) m) :
    ¬s.Present n w.disk ∧ ∃ b t, w.clock ≤ t ∧ Standing s top n b ⟨m.process, t⟩ m.disk := by
  obtain ⟨w1, ho, hp⟩ := h.outcome
  obtain ⟨d, b, t, hw⟩ := ho.of_generated h.wellFormed h.fresh
  have hs := hw.standing h.wellFormed h.poised
  rw [hp.disk, hp.process, hw.process]
  exact ⟨hw.absent, b, t, hw.since, hs⟩

theorem of_skipped (h : s.Visiting links top n w (.ok .skipped) m) :
    s.Present n w.disk ∧ m.disk = w.disk := by
  obtain ⟨w1, ho, hp⟩ := h.outcome
  cases ho with
  | skipped present passes => exact ⟨present, hp.disk.trans passes.disk⟩

theorem standing {k : String} {b : Contents} {stamp : Stamp} (h : s.Visiting links top n w r m)
    (hs : Standing s top k b stamp w.disk) : Standing s top k b stamp m.disk := by
  obtain ⟨w1, ho, hp⟩ := h.outcome
  rw [hp.disk]
  exact hs.step ho h.wellFormed h.poised h.fresh

theorem refused {k : String} (h : s.Visiting links top n w r m) (hk : WellFormed k)
    (hr : s.Refused top k ⟨w.process, w.clock⟩ w.disk e) :
    s.Refused top k ⟨m.process, m.clock⟩ m.disk e := by
  have heff := h.effect
  rw [heff.process]
  exact hr.later hk heff.keeps heff.clock

theorem present {k : String} (h : s.Visiting links top n w r m) (hk : WellFormed k)
    (hp : s.Present k w.disk) : s.Present k m.disk :=
  hp.later h.poised.ground h.next.ground hk h.effect.keeps

end Visiting

namespace Visited

theorem poised (h : s.Visited links top w vs w') : s.Poised links top w := by
  cases h with
  | nil poised => exact poised
  | cons hn poised outcome passes rest => exact poised

/-- A rule for runs: the first visit, and then the others. -/
theorem rule {Q : World → List Visit → World → Prop} (nil : ∀ w, Q w [] w)
    (cons : ∀ n w r m vs w', s.Visiting links top n w r m → s.Visited links top m vs w' →
      Fresh top m → Q m vs w' → Q w (⟨n, w.disk, r⟩ :: vs) w')
    (h : s.Visited links top w vs w') (hf : Fresh top w) : Q w vs w' := by
  induction h with
  | nil poised => exact nil _
  | cons hn poised outcome passes rest ih =>
    have hv : s.Visiting links top _ _ _ _ :=
      ⟨hn, poised, hf, ⟨_, outcome, passes⟩, rest.poised⟩
    have hfresh := hv.effect.fresh
    exact cons _ _ _ _ _ _ hv rest hfresh (ih hfresh)

/-- What every visit preserves holds in the end. -/
theorem preserves {Q : World → Prop}
    (step : ∀ n w r m, s.Visiting links top n w r m → Q w → Q m)
    (h : s.Visited links top w vs w') (hf : Fresh top w) (hw : Q w) : Q w' := by
  refine rule (Q := fun w _ w' => Q w → Q w') (fun _ h0 => h0) ?_ h hf hw
  intro n w r m vs w' hv _ _ ih h0
  exact ih (step n w r m hv h0)

/-- What holds of a visit when it ends, and is preserved by every other one, holds in the end. -/
theorem each {P : Visit → World → Prop}
    (first : ∀ n w r m, s.Visiting links top n w r m → P ⟨n, w.disk, r⟩ m)
    (step : ∀ v n w r m, s.Visiting links top n w r m → P v w → P v m)
    (h : s.Visited links top w vs w') (hf : Fresh top w) : ∀ v ∈ vs, P v w' := by
  refine rule (Q := fun _ vs w' => ∀ v ∈ vs, P v w') (fun _ v hv => by cases hv) ?_ h hf
  intro n w r m vs w' hv rest hfm ih v hmem
  rcases List.mem_cons.mp hmem with rfl | hmem
  · exact preserves (step _) rest hfm (first n w r m hv)
  · exact ih v hmem

/-- The ground is there when the run ends. -/
theorem ground (h : s.Visited links top w vs w') : Ground w'.disk s.root links top := by
  induction h with
  | nil poised => exact poised.ground
  | cons hn poised outcome passes rest ih => exact ih

/-- What a run changes on the disk. -/
structure Effects (top : Location) (vs : List Visit) (w w' : World) : Prop where
  process : w'.process = w.process
  clock : w.clock ≤ w'.clock
  keeps : Keeps w.disk w'.disk
  fresh : Fresh top w'
  entry : ∀ l, w'.disk.entryAt l = w.disk.entryAt l ∨
    (∃ v ∈ vs, v.result = .ok .generated ∧
      (l = dumpPlace top v.className ∨ l = metricsPlace top v.className)) ∨
    (w.disk.entryAt l = none ∧ w'.disk.entryAt l = some .directory ∧
      ∃ v ∈ vs, WithinPackage top (packageOf v.className) l)

theorem effects (h : s.Visited links top w vs w') (hf : Fresh top w) : Effects top vs w w' := by
  refine rule (Q := fun w vs w' => Fresh top w → Effects top vs w w') ?_ ?_ h hf hf
  · exact fun w hf => ⟨rfl, Nat.le_refl _, .refl _, hf, fun _ => .inl rfl⟩
  · intro n w r m vs w' hv _ hfm ih _
    have h1 := hv.effect
    have h2 := ih hfm
    refine ⟨h2.process.trans h1.process, Nat.le_trans h1.clock h2.clock, h1.keeps.trans h2.keeps,
      h2.fresh, ?_⟩
    intro l
    rcases h2.entry l with e2 | ⟨v, hmem, hr, hl⟩ | ⟨n2, e2, v, hmem, hl⟩
    · rcases h1.entry l with e1 | ⟨rfl, hl⟩ | ⟨n1, e1, hl⟩
      · exact .inl (e2.trans e1)
      · exact .inr (.inl ⟨_, List.mem_cons_self .., rfl, hl⟩)
      · exact .inr (.inr ⟨n1, e2.trans e1, _, List.mem_cons_self .., hl⟩)
    · exact .inr (.inl ⟨v, List.mem_cons_of_mem _ hmem, hr, hl⟩)
    · rcases h1.entry l with e1 | ⟨rfl, hl⟩ | ⟨-, e1, -⟩
      · exact .inr (.inr ⟨e1 ▸ n2, e2, v, List.mem_cons_of_mem _ hmem, hl⟩)
      · exact .inr (.inl ⟨_, List.mem_cons_self .., rfl, hl⟩)
      · rw [n2] at e1
        cases e1

/-! ### Each class -/

/-- A class that was generated has its pair standing in the end. -/
theorem standing (h : s.Visited links top w vs w') (hf : Fresh top w) {v : Visit} (hv : v ∈ vs)
    (hr : v.result = .ok .generated) :
    ∃ b stamp, Standing s top v.className b stamp w'.disk := by
  refine each (P := fun v m => v.result = .ok .generated →
    ∃ b stamp, Standing s top v.className b stamp m.disk) ?_ ?_ h hf v hv hr
  · rintro n w r m hv rfl
    obtain ⟨-, b, t, -, hs⟩ := hv.of_generated
    exact ⟨b, _, hs⟩
  · intro v n w r m hv ih hr
    obtain ⟨b, stamp, hs⟩ := ih hr
    exact ⟨b, stamp, hv.standing hs⟩

/-- A class that failed is refused in the end. -/
theorem refused (h : s.Visited links top w vs w') (hf : Fresh top w) {v : Visit} (hv : v ∈ vs)
    (hr : v.result = .error e) :
    s.Refused top v.className ⟨w'.process, w'.clock⟩ w'.disk e := by
  refine (each (P := fun v m => WellFormed v.className ∧ ∀ e, v.result = .error e →
    s.Refused top v.className ⟨m.process, m.clock⟩ m.disk e) ?_ ?_ h hf v hv).2 e hr
  · intro n w r m hv
    refine ⟨hv.wellFormed, ?_⟩
    rintro e rfl
    exact hv.of_error.2.2
  · intro v n w r m hv ih
    exact ⟨ih.1, fun e hr => hv.refused ih.1 (ih.2 e hr)⟩

/-- Where artifacts are kept, a class that did not fail is present in the end. -/
theorem present (hrep : s.replace = false) (h : s.Visited links top w vs w') (hf : Fresh top w)
    {v : Visit} (hv : v ∈ vs) {o : ClassOutcome} (hr : v.result = .ok o) :
    s.Present v.className w'.disk := by
  refine (each (P := fun v m => WellFormed v.className ∧ ∀ o, v.result = .ok o →
    s.Present v.className m.disk) ?_ ?_ h hf v hv).2 o hr
  · intro n w r m hv
    refine ⟨hv.wellFormed, ?_⟩
    rintro o rfl
    cases o with
    | skipped =>
      obtain ⟨hp, hd⟩ := hv.of_skipped
      rwa [hd]
    | generated =>
      obtain ⟨-, b, t, -, hs⟩ := hv.of_generated
      exact hs.present hrep hv.next.ground hv.wellFormed
  · intro v n w r m hv ih
    exact ⟨ih.1, fun o hr => hv.present ih.1 (ih.2 o hr)⟩

/-- A class that is present is skipped whenever the run comes to it. -/
theorem skipped_of_present (h : s.Visited links top w vs w') (hf : Fresh top w)
    (hn : WellFormed n) (hp : s.Present n w.disk) {v : Visit} (hv : v ∈ vs)
    (hc : v.className = n) : v.result = .ok .skipped := by
  refine rule (Q := fun w vs _ => s.Present n w.disk → ∀ v ∈ vs, v.className = n →
    v.result = .ok .skipped) (fun _ _ v hv => by cases hv) ?_ h hf hp v hv hc
  intro k w r m vs w' hvis rest _ ih hp v hv hc
  rcases List.mem_cons.mp hv with rfl | hv
  · dsimp only at hc ⊢
    subst hc
    cases r with
    | error e => exact absurd hp hvis.of_error.1
    | ok o =>
      cases o with
      | skipped => rfl
      | generated => exact absurd hp hvis.of_generated.1
  · exact ih (hvis.present hn hp) v hv hc

/-- A class that is refused is not generated. -/
theorem not_generated_of_refused (h : s.Visited links top w vs w') (hf : Fresh top w)
    (hn : WellFormed n) (hr : s.Refused top n ⟨w.process, w.clock⟩ w.disk e) {v : Visit}
    (hv : v ∈ vs) (hc : v.className = n) : v.result ≠ .ok .generated := by
  refine rule (Q := fun w vs _ => s.Refused top n ⟨w.process, w.clock⟩ w.disk e →
    ∀ v ∈ vs, v.className = n → v.result ≠ .ok .generated) (fun _ _ v hv => by cases hv) ?_ h hf hr
    v hv hc
  intro k w r m vs w' hvis rest _ ih hr v hv hc
  rcases List.mem_cons.mp hv with rfl | hv
  · dsimp only at hc ⊢
    subst hc
    rintro rfl
    obtain ⟨w1, ho, -⟩ := hvis.outcome
    exact hr.not_generated hn (Nat.le_refl _) ho
  · exact ih (hvis.refused hn hr) v hv hc

/-- A class whose pair stands does not fail, unless it is replaced when the time has become
longer. -/
theorem not_failed_of_standing {b : Contents} {t : Nat} (h : s.Visited links top w vs w')
    (hf : Fresh top w) (hn : WellFormed n) (hs : Standing s top n b ⟨w.process, t⟩ w.disk)
    (hsize : s.replace = true → (toString w'.clock).utf8ByteSize ≤ (toString t).utf8ByteSize)
    {v : Visit} (hv : v ∈ vs) (hc : v.className = n) : v.result ≠ .error e := by
  refine rule (Q := fun w vs w' => Fresh top w → Standing s top n b ⟨w.process, t⟩ w.disk →
    (s.replace = true → (toString w'.clock).utf8ByteSize ≤ (toString t).utf8ByteSize) →
    ∀ v ∈ vs, v.className = n → v.result ≠ .error e) (fun _ _ _ _ v hv => by cases hv) ?_ h hf hf hs
    hsize v hv hc
  intro k w r m vs w' hvis rest hfm ih _ hs hsize v hv hc
  have hstay : Standing s top n b ⟨m.process, t⟩ m.disk := by
    rw [hvis.effect.process]
    exact hvis.standing hs
  rcases List.mem_cons.mp hv with rfl | hv
  · dsimp only at hc ⊢
    subst hc
    rintro rfl
    obtain ⟨absent, -, refused⟩ := hvis.of_error
    cases hrep : s.replace with
    | false => exact absent (hs.present hrep hvis.poised.ground hn)
    | true =>
      refine hstay.not_refused hn refused (Nat.le_trans (size_toString_mono ?_) (hsize hrep))
      exact (rest.effects hfm).clock
  · exact ih hfm hstay hsize v hv hc

/-- No class is generated at one visit and fails at another, if the times of the run are all of one
length or nothing is replaced. -/
theorem exclusive (h : s.Visited links top w vs w') (hf : Fresh top w)
    (hsize : s.replace = true →
      (toString w'.clock).utf8ByteSize ≤ (toString w.clock).utf8ByteSize)
    {u v : Visit} (hu : u ∈ vs) (hv : v ∈ vs) (hc : u.className = v.className)
    (hr : u.result = .ok .generated) : v.result ≠ .error e := by
  refine rule (Q := fun w vs w' =>
    (s.replace = true → (toString w'.clock).utf8ByteSize ≤ (toString w.clock).utf8ByteSize) →
    ∀ u ∈ vs, ∀ v ∈ vs, u.className = v.className → u.result = .ok .generated →
      v.result ≠ .error e) (fun _ _ u hu => by cases hu) ?_ h hf hsize u hu v hv hc hr
  intro k w r m vs w' hvis rest hfm ih hsize u hu v hv hc hr
  have hlater : s.replace = true →
      (toString w'.clock).utf8ByteSize ≤ (toString m.clock).utf8ByteSize := fun hrep =>
    Nat.le_trans (hsize hrep) (size_toString_mono hvis.effect.clock)
  rcases List.mem_cons.mp hu with rfl | hu1
  · dsimp only at hc hr
    subst hr
    rcases List.mem_cons.mp hv with rfl | hv1
    · rintro h0
      cases h0
    · obtain ⟨-, b, t, ht, hs⟩ := hvis.of_generated
      refine not_failed_of_standing rest hfm hvis.wellFormed hs (fun hrep => ?_) hv1 hc.symm
      exact Nat.le_trans (hsize hrep) (size_toString_mono ht)
  · rcases List.mem_cons.mp hv with rfl | hv1
    · dsimp only at hc ⊢
      rintro rfl
      exact not_generated_of_refused rest hfm hvis.wellFormed hvis.of_error.2.2 hu1 hc hr
    · exact ih hlater u hu1 v hv1 hc hr

end Visited

end Setup

end ClassCensus
