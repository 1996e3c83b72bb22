import ClassCensus.Entries
import Mathlib.Data.List.Nodup

/-!
# Entries and their keys

Where no key occurs twice, a search for a key finds exactly the entries (`mem_iff_find?`). Entries
can be left out by their keys (`find?_filter`), and a new key is put behind the others
(`put_of_notMem`).
-/

namespace ClassCensus.Entries

variable {κ α : Type} [DecidableEq κ] {key : κ} {value : α} {es : List (κ × α)}

theorem mem_of_find? (h : find? key es = some value) : (key, value) ∈ es := by
  induction es with
  | nil => cases h
  | cons entry rest ih =>
    unfold find? at h
    split at h
    · rename_i hkey
      obtain rfl := Option.some.inj h
      exact hkey ▸ List.mem_cons_self ..
    · exact List.mem_cons_of_mem _ (ih h)

theorem find?_of_mem (hnodup : (es.map (·.1)).Nodup) (hmem : (key, value) ∈ es) :
    find? key es = some value := by
  induction es with
  | nil => simp at hmem
  | cons entry rest ih =>
    rw [List.map_cons, List.nodup_cons] at hnodup
    unfold find?
    rcases List.mem_cons.mp hmem with heq | hrest
    · rw [← heq, if_pos rfl]
    · have hkey : key ∈ rest.map (·.1) := List.mem_map.mpr ⟨_, hrest, rfl⟩
      have hne : entry.1 ≠ key := by
        intro e
        exact hnodup.1 (e ▸ hkey)
      rw [if_neg hne]
      exact ih hnodup.2 hrest

theorem mem_iff_find? (hnodup : (es.map (·.1)).Nodup) :
    (key, value) ∈ es ↔ find? key es = some value :=
  ⟨find?_of_mem hnodup, mem_of_find?⟩

theorem notMem_of_find?_eq_none (h : find? key es = none) : key ∉ es.map (·.1) := by
  induction es with
  | nil => exact List.not_mem_nil
  | cons entry rest ih =>
    unfold find? at h
    split at h
    · cases h
    · rename_i hkey
      rw [List.map_cons, List.mem_cons, not_or]
      exact ⟨Ne.symm hkey, ih h⟩

theorem find?_filter (p : κ → Bool) (k : κ) (es : List (κ × α)) :
    find? k (es.filter fun e => p e.1) = if p k then find? k es else none := by
  induction es with
  | nil => simp [find?]
  | cons e rest ih =>
    by_cases hp : p e.1 <;> by_cases he : e.1 = k
    · subst he
      simp [hp, find?]
    · simp [hp, he, ih, find?]
    · subst he
      simp [hp, ih]
    · simp [hp, he, ih, find?]

/-- A new key is put behind the others. -/
theorem put_of_notMem (h : key ∉ es.map (·.1)) : put key value es = es ++ [(key, value)] := by
  induction es with
  | nil => rfl
  | cons e rest ih =>
    rw [List.map_cons, List.mem_cons, not_or] at h
    rw [put, if_neg (Ne.symm h.1), ih h.2, List.cons_append]

end ClassCensus.Entries
