/-!
# Lists of entries

Lists of keys with values that are changed one key at a time. A key that is given another value
keeps its place, and a new key comes last.
-/

namespace ClassCensus.Entries

variable {κ α : Type} [DecidableEq κ]

/-- The entries after `key` has been given `value`: at its old place, or at the end. -/
def put (key : κ) (value : α) : List (κ × α) → List (κ × α)
  | [] => [(key, value)]
  | entry :: rest =>
    if entry.1 = key then (key, value) :: rest else entry :: put key value rest

/-- The value of the first entry with this key. -/
def find? (key : κ) : List (κ × α) → Option α
  | [] => none
  | entry :: rest => if entry.1 = key then some entry.2 else find? key rest

theorem map_fst_put (key : κ) (value : α) (es : List (κ × α)) :
    (put key value es).map (·.1) =
      if key ∈ es.map (·.1) then es.map (·.1) else es.map (·.1) ++ [key] := by
  induction es with
  | nil => simp [put]
  | cons entry rest ih =>
    by_cases h : entry.1 = key
    · simp [put, h]
    · have h' : key ≠ entry.1 := fun e => h e.symm
      simp only [put, h, if_false, List.map_cons, ih, List.mem_cons, h', false_or]
      split <;> simp

theorem nodup_put (key : κ) (value : α) (es : List (κ × α)) (h : (es.map (·.1)).Nodup) :
    ((put key value es).map (·.1)).Nodup := by
  rw [map_fst_put]
  split
  · exact h
  · rename_i hk
    rw [List.nodup_append]
    refine ⟨h, by simp, ?_⟩
    intro a ha b hb e
    simp only [List.mem_singleton] at hb
    exact hk (hb ▸ e ▸ ha)

theorem find?_put (key : κ) (value : α) (es : List (κ × α)) (k : κ) :
    find? k (put key value es) = if k = key then some value else find? k es := by
  induction es with
  | nil => by_cases h : key = k <;> simp [put, find?, h, eq_comm]
  | cons entry rest ih =>
    by_cases h : entry.1 = key
    · by_cases hk : key = k
      · simp [put, find?, h, hk]
      · simp [put, find?, h, hk, Ne.symm hk]
    · by_cases hk : entry.1 = k
      · have : k ≠ key := fun e => h (hk.trans e)
        simp [put, find?, hk, this]
      · simp [put, find?, h, hk, ih]

end ClassCensus.Entries
