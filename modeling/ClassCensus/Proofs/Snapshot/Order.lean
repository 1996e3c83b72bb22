import ClassCensus.Proofs.Disk.Ground
import ClassCensus.Proofs.Sorting
import ClassCensus.Snapshot.Scan

/-!
# The order of snapshots

Paths are in the order of their components. Of two paths with different names below a common one,
one is before the other (`before_or_before`), and sorted paths do not depend on the order in which
they were found (`sortPaths_eq_of_perm`).
-/

namespace ClassCensus

/-! ### Components -/

namespace Component

variable {a b c : Component}

theorem before_iff :
    a.before b = true ↔ a.rank < b.rank ∨ ∃ s t, a = .name s ∧ b = .name t ∧ s < t := by
  cases a with
  | name s =>
    cases b with
    | name t =>
      show decide (s < t) = true ↔ _
      simp [rank]
    | _ => simp [before, rank]
  | _ => cases b <;> simp [before, rank]

theorem before_irrefl (a : Component) : a.before a = false := by
  rw [← Bool.not_eq_true, before_iff]
  rintro (h | ⟨s, t, rfl, ht, h⟩)
  · exact Nat.lt_irrefl _ h
  · cases ht
    exact List.lt_irrefl s h

theorem before_trans (hab : a.before b = true) (hbc : b.before c = true) :
    a.before c = true := by
  rw [before_iff] at *
  rcases hab with hab | ⟨s, t, rfl, rfl, hab⟩
  · rcases hbc with hbc | ⟨t, u, rfl, rfl, hbc⟩
    · exact .inl (Nat.lt_trans hab hbc)
    · exact .inl hab
  · rcases hbc with hbc | ⟨t', u, ht, rfl, hbc⟩
    · exact .inl hbc
    · cases ht
      exact .inr ⟨s, u, rfl, rfl, List.lt_trans hab hbc⟩

theorem before_or_eq (a b : Component) : a.before b = true ∨ a = b ∨ b.before a = true := by
  rw [before_iff, before_iff]
  rcases Nat.lt_trichotomy a.rank b.rank with h | h | h
  · exact .inl (.inl h)
  · cases a with
    | name s =>
      cases b with
      | name t =>
        rcases Std.lt_trichotomy s t with h | rfl | h
        · exact .inl (.inr ⟨s, t, rfl, rfl, h⟩)
        · exact .inr (.inl rfl)
        · exact .inr (.inr (.inr ⟨t, s, rfl, rfl, h⟩))
      | _ => simp [rank] at h
    | _ => cases b <;> simp_all [rank]
  · exact .inr (.inr (.inl h))

end Component

namespace Path

/-! ### The order of paths -/

theorem componentsBefore_irrefl (as : List Component) : componentsBefore as as = false := by
  induction as with
  | nil => rfl
  | cons a as ih => rw [componentsBefore, if_pos rfl, ih]

theorem componentsBefore_trans {as bs cs : List Component} (hab : componentsBefore as bs = true)
    (hbc : componentsBefore bs cs = true) : componentsBefore as cs = true := by
  induction as generalizing bs cs with
  | nil =>
    cases cs with
    | nil => cases bs <;> simp [componentsBefore] at hbc
    | cons c cs => rfl
  | cons a as ih =>
    cases bs with
    | nil => simp [componentsBefore] at hab
    | cons b bs =>
      cases cs with
      | nil => simp [componentsBefore] at hbc
      | cons c cs =>
        rw [componentsBefore] at hab hbc ⊢
        by_cases h1 : a = b
        · subst h1
          rw [if_pos rfl] at hab
          by_cases h2 : a = c
          · rw [if_pos h2] at hbc ⊢
            exact ih hab hbc
          · rwa [if_neg h2] at hbc ⊢
        · rw [if_neg h1] at hab
          by_cases h2 : b = c
          · subst h2
            rwa [if_neg h1]
          · rw [if_neg h2] at hbc
            have hac := Component.before_trans hab hbc
            rw [if_neg, hac]
            rintro rfl
            rw [Component.before_irrefl] at hac
            cases hac

theorem componentsBefore_or_eq (as bs : List Component) :
    componentsBefore as bs = true ∨ as = bs ∨ componentsBefore bs as = true := by
  induction as generalizing bs with
  | nil => cases bs <;> simp [componentsBefore]
  | cons a as ih =>
    cases bs with
    | nil => exact .inr (.inr rfl)
    | cons b bs =>
      rw [componentsBefore, componentsBefore]
      by_cases h : a = b
      · subst h
        rw [if_pos rfl, if_pos rfl]
        exact (ih bs).imp id fun h => h.imp (congrArg _) id
      · rw [if_neg h, if_neg (Ne.symm h)]
        rcases Component.before_or_eq a b with h1 | h1 | h1
        · exact .inl h1
        · exact absurd h1 h
        · exact .inr (.inr h1)

/-- A path is before another one in the order of paths, component by component. -/
def Before (p q : Path) : Prop := componentsBefore p.components q.components = true

instance (p q : Path) : Decidable (p.Before q) :=
  inferInstanceAs (Decidable (componentsBefore p.components q.components = true))

theorem pushAll_inj {p : Path} {names others : List Octets} (hn : ∀ n ∈ names, IsName n)
    (ho : ∀ n ∈ others, IsName n)
    (h : (p.pushAll names).components = (p.pushAll others).components) : names = others := by
  rw [components_pushAll p hn, components_pushAll p ho] at h
  have hmap : names.map Component.name = others.map Component.name := List.append_cancel_left h
  exact List.map_injective_iff.mpr (fun _ _ h => Component.name.inj h) hmap

/-- Different names lead to paths one of which is before the other. -/
theorem before_or_before {p : Path} {names others : List Octets} (hn : ∀ n ∈ names, IsName n)
    (ho : ∀ n ∈ others, IsName n) (hne : names ≠ others) :
    (p.pushAll names).Before (p.pushAll others) ∨ (p.pushAll others).Before (p.pushAll names) := by
  rcases componentsBefore_or_eq (p.pushAll names).components (p.pushAll others).components with
    h | h | h
  · exact .inl h
  · exact absurd (pushAll_inj hn ho h) hne
  · exact .inr h

end Path

/-! ### Sorted paths -/

/-- Whether a path is not after another one, both with their components. -/
def pathLe (a b : List Component × Path) : Bool := !Path.componentsBefore b.1 a.1

instance : Std.Total fun a b => pathLe a b = true where
  total a b := by
    unfold pathLe
    cases h : Path.componentsBefore b.1 a.1 with
    | false => exact .inl rfl
    | true =>
      refine .inr ?_
      cases h' : Path.componentsBefore a.1 b.1 with
      | false => rfl
      | true =>
        have hloop := Path.componentsBefore_trans h h'
        rw [Path.componentsBefore_irrefl] at hloop
        cases hloop

instance : IsTrans (List Component × Path) fun a b => pathLe a b = true where
  trans a b c hab hbc := by
    unfold pathLe at *
    rw [Bool.not_eq_true'] at *
    by_contra hca
    rw [Bool.not_eq_false] at hca
    rcases Path.componentsBefore_or_eq a.1 b.1 with h | h | h
    · rw [Path.componentsBefore_trans hca h] at hbc
      cases hbc
    · rw [← h, hca] at hbc
      cases hbc
    · rw [h] at hab
      cases hab

theorem sortPaths_perm (paths : List Path) : (sortPaths paths).Perm paths := by
  have h := (List.perm_insertionSort (fun a b => pathLe a b = true)
    (paths.map fun p => (p.components, p))).map (·.2)
  rw [List.map_map, ← Sorting.sort_eq_insertionSort] at h
  have hid : paths.map ((·.2) ∘ fun p => (p.components, p)) = paths := List.map_id _
  rwa [hid] at h

/-- No path in a sorted list is before an earlier one. -/
theorem pairwise_sortPaths (paths : List Path) :
    (sortPaths paths).Pairwise fun p q => ¬q.Before p := by
  show ((Sorting.sort pathLe _).map (·.2)).Pairwise _
  rw [List.pairwise_map, Sorting.sort_eq_insertionSort]
  refine (List.pairwise_insertionSort _ _).imp_of_mem ?_
  intro a b ha hb hab
  obtain ⟨p, _, rfl⟩ := List.mem_map.mp ((List.mem_insertionSort _).mp ha)
  obtain ⟨q, _, rfl⟩ := List.mem_map.mp ((List.mem_insertionSort _).mp hb)
  unfold pathLe at hab
  rw [Bool.not_eq_true'] at hab
  unfold Path.Before
  rw [hab]
  exact Bool.false_ne_true

/-- Paths with different components are sorted alike, in whatever order they were found. -/
theorem sortPaths_eq_of_perm {paths others : List Path} (h : paths.Perm others)
    (hdistinct : ∀ p ∈ paths, ∀ q ∈ paths, p.components = q.components → p = q) :
    sortPaths paths = sortPaths others := by
  have hsort : Sorting.sort pathLe (paths.map fun p => (p.components, p)) =
      Sorting.sort pathLe (others.map fun p => (p.components, p)) := by
    apply Sorting.sort_eq_of_perm (h.map _)
    intro a ha b hb hab hba
    obtain ⟨p, hp, rfl⟩ := List.mem_map.mp ha
    obtain ⟨q, hq, rfl⟩ := List.mem_map.mp hb
    unfold pathLe at hab hba
    rw [Bool.not_eq_true'] at hab hba
    have heq : p.components = q.components := by
      rcases Path.componentsBefore_or_eq p.components q.components with h1 | h1 | h1
      · rw [h1] at hba
        cases hba
      · exact h1
      · rw [h1] at hab
        cases hab
    rw [hdistinct p hp q hq heq]
  show (Sorting.sort pathLe _).map (·.2) = (Sorting.sort pathLe _).map (·.2)
  rw [hsort]

end ClassCensus
