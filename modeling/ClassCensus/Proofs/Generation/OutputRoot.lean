import ClassCensus.Proofs.Generation.Directory

/-!
# The output root

Removing the output root empties it or leaves the disk alone (`ensures_removeOutputRoot`). Making it
afterwards gives an empty directory, if the root has a name and its path goes back from directories only.
-/

namespace ClassCensus

open Disk

/-- Between two worlds nothing happens but that the place of a path is vacated. No ways are lost but those
that are lost when a tree is removed there. -/
structure Vacated (p : Path) (w m : World) : Prop where
  process : m.process = w.process
  clock : m.clock = w.clock
  part : Part m.disk w.disk
  tree : m.disk.IsTree
  disk : m.disk = w.disk ∨ m.disk.Vacant p
  ways : KeepsWays (w.disk.removeTree p).2 m.disk

namespace Vacated

variable {p : Path} {w m : World}

theorem refl (ht : w.disk.IsTree) : Vacated p w w :=
  ⟨rfl, rfl, .refl _, ht, .inl rfl, (part_removeTree w.disk p).keeps.ways⟩

theorem of_removeTree {l : Location} (ht : w.disk.IsTree)
    (h : w.disk.find false p = .ok (l, .directory)) :
    Vacated p w { w with disk := (w.disk.removeTree p).2 } := by
  obtain ⟨htree, -, hvacant⟩ := vacant_of_removeTree ht h
  exact ⟨rfl, rfl, part_removeTree .., htree, .inr hvacant, (Keeps.refl _).ways⟩

theorem of_removeFile {d : Disk} (ht : w.disk.IsTree) (h : w.disk.removeFile p = .ok d) :
    Vacated p w { w with disk := d } := by
  obtain ⟨htree, -, hvacant⟩ := vacant_of_removeFile ht h
  refine ⟨rfl, rfl, ?_, htree, .inr hvacant, keepsWays_removeFile h⟩
  obtain ⟨l, e, -, -, rfl⟩ := removeFile_ok h
  exact .erase ..

theorem tell (h : Vacated p w m) (event : Event) :
    Vacated p w { m with log := event :: m.log } :=
  ⟨h.process, h.clock, h.part, h.tree, h.disk, h.ways⟩

end Vacated

/-- An output root that is removed is vacant. -/
theorem ensures_removeOutputRoot (root : Path) (w : World) (ht : w.disk.IsTree) :
    Attempt.Ensures (removeOutputRoot root) w (Vacated root w) fun r w' =>
      Vacated root w w' ∧ (r = .ok () → root.octets ≠ [] → w'.disk.Vacant root) := by
  have hw : Vacated root w w := .refl ht
  have hperf : w.perform (.linkStatus root) = (w.disk.linkStatus root, w) := rfl
  refine .bind (.ofJob (.ofStep ?_ ?_))
  · rw [hperf]
    exact hw
  rw [hperf]
  cases hs : w.disk.linkStatus root with
  | error f =>
    by_cases hf : f = .notFound
    · subst hf
      exact .pure ⟨hw, fun _ hp => vacant_of_linkStatus ht hp hs⟩
    · have hrest : Attempt.Ensures
          (MonadExcept.throw (CensusError.ofFault root f) : Attempt Unit) w (Vacated root w)
          fun r w' => Vacated root w w' ∧ (r = .ok () → root.octets ≠ [] → w'.disk.Vacant root) :=
        .throw ⟨hw, by simp⟩
      cases f with
      | notFound => exact absurd rfl hf
      | _ => exact hrest
  | ok kind =>
    have hdone : ∀ {m : World}, Vacated root w m → m.disk.Vacant root →
        Attempt.Ensures (Attempt.ofJob (Job.tell (.artifactsRemoved root))) m (Vacated root w)
          fun r w' => Vacated root w w' ∧ (r = .ok () → root.octets ≠ [] → w'.disk.Vacant root) :=
      fun hm hv => .ofJob (.ofStep (hm.tell _) ⟨hm.tell _, fun _ _ => hv⟩)
    obtain ⟨⟨l, e⟩, hfind, rfl⟩ := find_of_linkStatus hs
    by_cases hk : e = .directory
    · subst hk
      have hv := vacant_of_removeTree ht hfind
      have hm : Vacated root w { w with disk := (w.disk.removeTree root).2 } := .of_removeTree ht hfind
      have hperf2 : w.perform (.removeTree root) =
          ((w.disk.removeTree root).1, { w with disk := (w.disk.removeTree root).2 }) := rfl
      refine .bind (.atPath (.ofStep ?_ ?_))
      · rw [hperf2]
        exact hm
      · rw [hperf2]
        cases (w.disk.removeTree root).1 with
        | ok u => exact hdone hm hv.2.2
        | error f => exact ⟨hm, by simp⟩
    · have hkind : e.kind ≠ .directory := by
        cases e <;> simp_all [Entry.kind]
      have hperf2 : w.perform (.removeFile root) = w.change (w.disk.removeFile root) := rfl
      simp only [hkind, if_false]
      refine .bind (.atPath (.ofStep ?_ ?_))
      · rw [hperf2]
        cases hr : w.disk.removeFile root with
        | ok d' => exact .of_removeFile ht hr
        | error f => exact hw
      · rw [hperf2]
        cases hr : w.disk.removeFile root with
        | ok d' =>
          exact hdone (.of_removeFile ht hr) (vacant_of_removeFile ht hr).2.2
        | error f => exact ⟨hw, by simp [World.change]⟩

end ClassCensus
