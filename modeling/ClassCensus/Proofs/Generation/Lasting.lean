import ClassCensus.Proofs.Generation.WholeRun

/-!
# What lasts during a run

The outcome of a class changes little (`Setup.Outcome.effect`), so that what one class has come to is
not undone by another one: a pair that has been written stands (`Setup.Standing.step`), and what stood in
the way of a class stands in its way later on (`Setup.Refused.later`).
-/

namespace ClassCensus

open Disk

variable {ε : Type} [ClassEngine ε]

/-- No temporary file of the process lies where one may be put at a time to come. -/
def Fresh (top : Location) (w : World) : Prop :=
  ∀ n name t, w.clock ≤ t → w.disk.entryAt (temporaryPlace top n name ⟨w.process, t⟩) = none

namespace Setup

section Outcomes

variable {s : Setup ε} {links : Nat} {top : Location} {n : String} {w w' : World}
  {e : CensusError}

/-- A class that failed has left nothing but directories, and is refused from now on. -/
theorem Outcome.of_error (hf : Fresh top w) (h : s.Outcome top n w (.error e) w') :
    ¬s.Present n w.disk ∧ s.Grows top n w.disk w'.disk ∧
      s.Refused top n ⟨w.process, w'.clock⟩ w'.disk e ∧ w'.process = w.process ∧
      w.clock ≤ w'.clock := by
  cases h with
  | @failed _ d1 _ absent grows refused process clock disk =>
    have hdisk : w'.disk = d1 := by
      rcases disk with h0 | ⟨t, bytes, ht, h0⟩
      · exact h0
      · have hnone : d1.entryAt (temporaryPlace top n (metricsName n) ⟨w.process, t⟩) = none := by
          rw [grows.entry_eq not_withinPackage_temporaryPlace]
          exact hf n _ t ht
        rw [h0, erase_put d1 temporaryPlace_ne_nil _ hnone]
    rw [hdisk]
    exact ⟨absent, grows, refused, process, clock⟩

/-- What is known of a class that was generated: the disk `d` with its directories, its contents
`b`, and the time `t` at which its metrics file was written. -/
structure Written (s : Setup ε) (top : Location) (n : String) (w w' : World) (d : Disk)
    (b : Contents) (t : Nat) : Prop where
  absent : ¬s.Present n w.disk
  grows : s.Grows top n w.disk d
  ready : d.Ready (s.directory n)
  contents : s.contents n = some b
  room : s.Room n ⟨w.process, t⟩
  freeMetrics : d.entryAt (metricsPlace top n) ≠ some .directory
  process : w'.process = w.process
  since : w.clock ≤ t
  till : t + 2 ≤ w'.clock
  home : w'.disk.home = w.disk.home
  entry : ∀ l, w'.disk.entryAt l =
    if l = dumpPlace top n then some (.file b.dump)
    else if l = metricsPlace top n then some (.file b.metrics)
    else d.entryAt l

theorem Outcome.of_generated (hn : WellFormed n) (hf : Fresh top w)
    (h : s.Outcome top n w (.ok .generated) w') : ∃ d b t, Written s top n w w' d b t := by
  cases h with
  | @generated _ d t b absent grows ready contents room freeMetrics process since till disk =>
    refine ⟨d, b, t, absent, grows, ready, contents, room, freeMetrics, process, since, till, ?_, ?_⟩
    · rw [disk]
      exact grows.adds.home
    · intro l
      have htemp : ∀ name k, w.clock ≤ k →
          d.entryAt (temporaryPlace top n name ⟨w.process, k⟩) = none := by
        intro name k hk
        rw [grows.entry_eq not_withinPackage_temporaryPlace]
        exact hf n name k hk
      rw [disk, entryAt_settle _ temporaryPlace_ne_nil dumpPlace_ne_nil,
        entryAt_settle _ temporaryPlace_ne_nil metricsPlace_ne_nil]
      by_cases h1 : l = dumpPlace top n
      · rw [if_pos h1, if_pos h1]
      · rw [if_neg h1, if_neg h1]
        by_cases h2 : l = metricsPlace top n
        · have h3 : l ≠ temporaryPlace top n (dumpName n) ⟨w.process, t + 1⟩ := by
            rw [h2]
            exact (temporaryPlace_ne_metricsPlace hn).symm
          rw [if_neg h3, if_pos h2, if_pos h2]
        · rw [if_neg h2, if_neg h2]
          split
          · rename_i h3
            rw [h3, htemp _ _ (by omega)]
          · split
            · rename_i h3
              rw [h3, htemp _ _ since]
            · rfl

/-- What the outcome of a class changes. -/
structure Effect (s : Setup ε) (top : Location) (n : String) (w : World)
    (r : Except CensusError ClassOutcome) (w' : World) : Prop where
  process : w'.process = w.process
  clock : w.clock ≤ w'.clock
  keeps : Keeps w.disk w'.disk
  fresh : Fresh top w'
  entry : ∀ l, w'.disk.entryAt l = w.disk.entryAt l ∨
    (r = .ok .generated ∧ (l = dumpPlace top n ∨ l = metricsPlace top n)) ∨
    (w.disk.entryAt l = none ∧ w'.disk.entryAt l = some .directory ∧
      WithinPackage top (packageOf n) l)

theorem Fresh.of_entry {m : World} (hf : Fresh top w) (process : m.process = w.process)
    (clock : w.clock ≤ m.clock)
    (h : ∀ n name stamp, m.disk.entryAt (temporaryPlace top n name stamp) =
      w.disk.entryAt (temporaryPlace top n name stamp)) : Fresh top m := by
  intro n name t ht
  rw [process, h]
  exact hf n name t (Nat.le_trans clock ht)

theorem Grows.effect {r : Except CensusError ClassOutcome} (h : s.Grows top n w.disk w'.disk)
    (hf : Fresh top w) (process : w'.process = w.process) (clock : w.clock ≤ w'.clock) :
    Effect s top n w r w' :=
  ⟨process, clock, h.adds.keeps,
    Fresh.of_entry hf process clock fun _ _ _ => h.entry_eq not_withinPackage_temporaryPlace,
    fun l => (h.adds.entry l).imp id .inr⟩

theorem Written.keeps {d : Disk} {b : Contents} {t : Nat} (h : Written s top n w w' d b t)
    (hn : WellFormed n) (hp : s.Poised links top w) : Keeps d w'.disk := by
  have g : Ground d s.root links top := hp.ground.addsDirs h.grows.adds h.grows.tree
  have hdump : d.entryAt (dumpPlace top n) ≠ some .directory := by
    cases hrep : s.replace with
    | true =>
      rw [h.grows.entry_eq not_withinPackage_dumpPlace]
      exact hp.dump hrep n
    | false =>
      rw [dump_absent hp.ground hn h.grows h.ready h.room fun kind hk => h.absent ⟨hrep, kind, hk⟩]
      simp
  -- what lay at one of the two places was a file
  have halike : ∀ {x : Octets} {e : Entry} (bytes : ByteArray),
      d.entryAt (top ++ packageOf n ++ [x]) ≠ some .directory →
      d.entryAt (top ++ packageOf n ++ [x]) = some e → e.Alike (.file bytes) := by
    intro x e bytes hdir he
    cases e with
    | directory => exact absurd he hdir
    | file b => trivial
    | link t => exact absurd he g.noLinkAt
  refine ⟨h.home.trans h.grows.adds.home.symm, ?_⟩
  intro l e he
  rw [h.entry]
  split
  · rename_i h0
    subst h0
    exact ⟨_, rfl, halike _ hdump he⟩
  · split
    · rename_i h0
      subst h0
      exact ⟨_, rfl, halike _ h.freeMetrics he⟩
    · exact ⟨e, he, .refl e⟩

theorem Written.effect {d : Disk} {b : Contents} {t : Nat} (h : Written s top n w w' d b t)
    (hn : WellFormed n) (hp : s.Poised links top w) (hf : Fresh top w) :
    Effect s top n w (.ok .generated) w' := by
  have hclock : w.clock ≤ w'.clock := by
    have h1 := h.since
    have h2 := h.till
    omega
  refine ⟨h.process, hclock, h.grows.adds.keeps.trans (h.keeps hn hp), ?_, ?_⟩
  · refine Fresh.of_entry hf h.process hclock fun m name stamp => ?_
    rw [h.entry, if_neg (temporaryPlace_ne_dumpPlace hn), if_neg (temporaryPlace_ne_metricsPlace hn),
      h.grows.entry_eq not_withinPackage_temporaryPlace]
  · intro l
    rw [h.entry]
    split
    · rename_i h0
      exact .inr (.inl ⟨rfl, .inl h0⟩)
    · split
      · rename_i h0
        exact .inr (.inl ⟨rfl, .inr h0⟩)
      · exact (h.grows.adds.entry l).imp id .inr

theorem Outcome.effect {r : Except CensusError ClassOutcome} (h : s.Outcome top n w r w')
    (hn : WellFormed n) (hp : s.Poised links top w) (hf : Fresh top w) : Effect s top n w r w' := by
  cases r with
  | error e =>
    obtain ⟨-, grows, -, process, clock⟩ := h.of_error hf
    exact grows.effect hf process clock
  | ok o =>
    cases o with
    | skipped =>
      obtain ⟨-, passes⟩ := h
      have hsame : s.Grows top n w.disk w'.disk := by
        rw [passes.disk]
        exact ⟨.refl _, hp.ground.tree, fun _ => rfl⟩
      exact hsame.effect hf passes.process passes.clock
    | generated =>
      obtain ⟨d, b, t, hw⟩ := h.of_generated hn hf
      exact hw.effect hn hp hf

/-- Only the generation of a class touches the places of its artifacts. -/
theorem Effect.dump_eq {r : Except CensusError ClassOutcome} {m : String}
    (h : Effect s top m w r w') (hne : r = .ok .generated → m ≠ n) :
    w'.disk.entryAt (dumpPlace top n) = w.disk.entryAt (dumpPlace top n) := by
  rcases h.entry (dumpPlace top n) with h0 | ⟨hr, h0 | h0⟩ | ⟨-, -, h0⟩
  · exact h0
  · exact absurd (dumpPlace_inj h0).symm (hne hr)
  · exact absurd h0 dumpPlace_ne_metricsPlace
  · exact absurd h0 not_withinPackage_dumpPlace

theorem Effect.metrics_eq {r : Except CensusError ClassOutcome} {m : String}
    (h : Effect s top m w r w') (hne : r = .ok .generated → m ≠ n) :
    w'.disk.entryAt (metricsPlace top n) = w.disk.entryAt (metricsPlace top n) := by
  rcases h.entry (metricsPlace top n) with h0 | ⟨hr, h0 | h0⟩ | ⟨-, -, h0⟩
  · exact h0
  · exact absurd h0.symm dumpPlace_ne_metricsPlace
  · exact absurd (metricsPlace_inj h0).symm (hne hr)
  · exact absurd h0 not_withinPackage_metricsPlace

/-! ### Pairs that stand -/

/-- Both artifacts of a class are in place; there was room for them at a time. -/
structure Standing (s : Setup ε) (top : Location) (n : String) (b : Contents) (stamp : Stamp)
    (d : Disk) : Prop where
  contents : s.contents n = some b
  ready : d.Ready (s.directory n)
  room : s.Room n stamp
  nameable : Nameable s.root n
  dump : d.entryAt (dumpPlace top n) = some (.file b.dump)
  metrics : d.entryAt (metricsPlace top n) = some (.file b.metrics)

theorem Written.standing {d : Disk} {b : Contents} {t : Nat} (h : Written s top n w w' d b t)
    (hn : WellFormed n) (hp : s.Poised links top w) :
    Standing s top n b ⟨w.process, t⟩ w'.disk := by
  have g : Ground d s.root links top := hp.ground.addsDirs h.grows.adds h.grows.tree
  refine ⟨h.contents, (h.keeps hn hp).ways.ready h.ready, h.room, h.room.nameable g hn h.ready, ?_, ?_⟩
  · rw [h.entry, if_pos rfl]
  · rw [h.entry, if_neg dumpPlace_ne_metricsPlace.symm, if_pos rfl]

/-- A pair that stands goes on to stand, whatever class is next. -/
theorem Standing.step {m : String} {b : Contents} {stamp : Stamp}
    {r : Except CensusError ClassOutcome} (h : Standing s top n b stamp w.disk)
    (ho : s.Outcome top m w r w') (hm : WellFormed m) (hp : s.Poised links top w)
    (hf : Fresh top w) : Standing s top n b stamp w'.disk := by
  have heff := ho.effect hm hp hf
  by_cases hmn : r = .ok .generated ∧ m = n
  · obtain ⟨rfl, rfl⟩ := hmn
    obtain ⟨d, b', t, hw⟩ := ho.of_generated hm hf
    have hnew := hw.standing hm hp
    obtain rfl : b' = b := Option.some.inj (hnew.contents.symm.trans h.contents)
    exact ⟨h.contents, hnew.ready, h.room, h.nameable, hnew.dump, hnew.metrics⟩
  · have hne : r = .ok .generated → m ≠ n := fun h1 h2 => hmn ⟨h1, h2⟩
    refine ⟨h.contents, heff.keeps.ways.ready h.ready, h.room, h.nameable, ?_, ?_⟩
    · rw [heff.dump_eq hne, h.dump]
    · rw [heff.metrics_eq hne, h.metrics]

/-! ### Refusals -/

/-- What stands in the way of a class does so later on. -/
theorem Refused.later {p t t' : Nat} {d d' : Disk} (hn : WellFormed n)
    (h : s.Refused top n ⟨p, t⟩ d e) (hk : Keeps d d') (ht : t ≤ t') :
    s.Refused top n ⟨p, t'⟩ d' e := by
  cases h with
  | stuck stuck f => exact .stuck (hk.stuck stuck) f
  | unresolved ready resolve => exact .unresolved (hk.ways.ready ready) resolve
  | unprinted ready resolve printed => exact .unprinted (hk.ways.ready ready) resolve printed
  | unwritten ready contents way q f =>
    refine .unwritten (hk.ways.ready ready) contents (way.imp ?_ hk.directory) q f
    intro hroom h0
    exact hroom (Writable.of_shorter hn.metricsName (size_toString_mono ht) h0)

/-- A class that is refused is not generated later on. -/
theorem Refused.not_generated {t : Nat} (hn : WellFormed n)
    (h : s.Refused top n ⟨w.process, t⟩ w.disk e) (ht : t ≤ w.clock)
    (ho : s.Outcome top n w (.ok .generated) w') : False := by
  cases ho with
  | @generated _ d t' b absent grows ready contents room freeMetrics process since till disk =>
    obtain ⟨c, text, hres, hprint, -⟩ := s.printed_of_contents contents
    cases h with
    | stuck stuck f =>
      rw [grows.same (.inr stuck)] at ready
      exact ready.not_stuck stuck
    | unresolved _ resolve =>
      rw [hres] at resolve
      cases resolve
    | unprinted _ resolve printed =>
      rw [hres] at resolve
      cases resolve
      rw [hprint] at printed
      cases printed
    | unwritten _ _ way =>
      rcases way with h0 | h0
      · exact h0 (Writable.of_shorter hn.metricsName
          (size_toString_mono (Nat.le_trans ht since)) room)
      · exact freeMetrics (grows.adds.keeps.directory h0)

/-- A class whose pair stands is not refused, unless the time has become longer. -/
theorem Standing.not_refused {b : Contents} {p t t' : Nat} {d : Disk} (hn : WellFormed n)
    (h : Standing s top n b ⟨p, t⟩ d) (hr : s.Refused top n ⟨p, t'⟩ d e)
    (hsize : (toString t').utf8ByteSize ≤ (toString t).utf8ByteSize) : False := by
  obtain ⟨c, text, hres, hprint, -⟩ := s.printed_of_contents h.contents
  cases hr with
  | stuck stuck f => exact h.ready.not_stuck stuck
  | unresolved _ resolve =>
    rw [hres] at resolve
    cases resolve
  | unprinted _ resolve printed =>
    rw [hres] at resolve
    cases resolve
    rw [hprint] at printed
    cases printed
  | unwritten _ _ way =>
    rcases way with h0 | h0
    · exact h0 (Writable.of_shorter hn.metricsName hsize h.room)
    · rw [h.metrics] at h0
      cases h0

/-! ### Dumps that are found -/

/-- A dump is found as long as there is an entry at its place. -/
theorem find_dump_later {d d' : Disk} (g : Ground d s.root links top)
    (g' : Ground d' s.root links top) (hn : WellFormed n) {fl : Bool} {r : Location × Entry}
    (h : d.find fl (s.paths n).dump = .ok r)
    (hk : ∀ e, d.entryAt (dumpPlace top n) = some e → ∃ e', d'.entryAt (dumpPlace top n) = some e') :
    ∃ r', d'.find fl (s.paths n).dump = .ok r' := by
  obtain ⟨hc, hs, e, he, -⟩ := (find_dump_iff g hn).mp h
  obtain ⟨e', he'⟩ := hk e he
  exact ⟨_, (find_dump_iff g' hn).mpr ⟨hc, hs, e', he', rfl⟩⟩

theorem Present.of_find {d : Disk} (hrep : s.replace = false) {r : Location × Entry}
    (h : d.find true (s.paths n).dump = .ok r) : s.Present n d :=
  ⟨hrep, r.2.kind, status_of_find h⟩

/-- What is present goes on to be present. -/
theorem Present.later {d d' : Disk} (g : Ground d s.root links top)
    (g' : Ground d' s.root links top) (hn : WellFormed n) (h : s.Present n d) (hk : Keeps d d') :
    s.Present n d' := by
  obtain ⟨hrep, kind, hs⟩ := h
  obtain ⟨r, hr, -⟩ := find_of_status hs
  obtain ⟨r', hr'⟩ := find_dump_later g g' hn hr fun e he => by
    obtain ⟨e', he', -⟩ := hk.entry _ e he
    exact ⟨e', he'⟩
  exact .of_find hrep hr'

theorem Standing.present {b : Contents} {stamp : Stamp} {d : Disk} (hrep : s.replace = false)
    (g : Ground d s.root links top) (hn : WellFormed n) (h : Standing s top n b stamp d) :
    s.Present n d :=
  .of_find hrep (find_dump g hn h.nameable h.dump true)

end Outcomes

end Setup

end ClassCensus
