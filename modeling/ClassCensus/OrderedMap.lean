import ClassCensus.Entries

/-!
# Maps and sets in insertion order

A map from strings that keeps its keys in the order of their first insertion, and a set of
strings of the same kind. Inserting a key again replaces the value and leaves the key at its
place. That no key occurs twice is part of the types.
-/

namespace ClassCensus

/-! ### Maps -/

/-- A map from strings that keeps the order of first insertion. -/
structure OrderedMap (α : Type) where
  /-- The keys with their values, in order. -/
  entries : List (String × α)
  /-- No key occurs twice. -/
  nodup : (entries.map (·.1)).Nodup
deriving DecidableEq

namespace OrderedMap

variable {α : Type}

@[ext]
theorem ext {m n : OrderedMap α} (h : m.entries = n.entries) : m = n := by
  cases m; cases n; cases h; rfl

/-- The map without entries. -/
def empty : OrderedMap α := ⟨[], by simp⟩

instance : EmptyCollection (OrderedMap α) := ⟨empty⟩

instance : Inhabited (OrderedMap α) := ⟨empty⟩

/-- The keys in order of first insertion. -/
def keys (m : OrderedMap α) : List String := m.entries.map (·.1)

/-- The values in the order of their keys. -/
def values (m : OrderedMap α) : List α := m.entries.map (·.2)

/-- The number of keys. -/
def size (m : OrderedMap α) : Nat := m.entries.length

/-- The value at a key. -/
def get? (m : OrderedMap α) (key : String) : Option α := Entries.find? key m.entries

/-- Whether a key has a value. -/
def contains (m : OrderedMap α) (key : String) : Bool := (m.get? key).isSome

/-- Gives `key` the value `value`; a key that is there already keeps its place. -/
def insert (m : OrderedMap α) (key : String) (value : α) : OrderedMap α :=
  ⟨Entries.put key value m.entries, Entries.nodup_put key value m.entries m.nodup⟩

/-- The map that results from inserting the pairs one after another. -/
def ofList (pairs : List (String × α)) : OrderedMap α :=
  pairs.foldl (fun m pair => m.insert pair.1 pair.2) empty

theorem keys_insert (m : OrderedMap α) (key : String) (value : α) :
    (m.insert key value).keys = if key ∈ m.keys then m.keys else m.keys ++ [key] :=
  Entries.map_fst_put key value m.entries

theorem get?_insert (m : OrderedMap α) (key : String) (value : α) (k : String) :
    (m.insert key value).get? k = if k = key then some value else m.get? k :=
  Entries.find?_put key value m.entries k

end OrderedMap

/-! ### Sets -/

/-- A set of strings in the order of first insertion. -/
structure OrderedSet where
  /-- The elements in order. -/
  toList : List String
  /-- No element occurs twice. -/
  nodup : toList.Nodup
deriving DecidableEq

namespace OrderedSet

/-- The set without elements. -/
def empty : OrderedSet := ⟨[], by simp⟩

instance : EmptyCollection OrderedSet := ⟨empty⟩

instance : Inhabited OrderedSet := ⟨empty⟩

instance : Membership String OrderedSet := ⟨fun s x => x ∈ s.toList⟩

/-- The number of elements. -/
def size (s : OrderedSet) : Nat := s.toList.length

/-- The set with `x`; an element that is there already keeps its place. -/
def insert (s : OrderedSet) (x : String) : OrderedSet :=
  if h : x ∈ s.toList then s
  else
    ⟨s.toList ++ [x], by
      rw [List.nodup_append]
      refine ⟨s.nodup, by simp, ?_⟩
      intro a ha b hb e
      simp only [List.mem_singleton] at hb
      exact h (hb ▸ e ▸ ha)⟩

/-- The set with all elements of a list, inserted one after another. -/
def insertAll (s : OrderedSet) (xs : List String) : OrderedSet := xs.foldl insert s

/-- The first occurrences of the elements of a list. -/
def ofList (xs : List String) : OrderedSet := empty.insertAll xs

theorem toList_insert (s : OrderedSet) (x : String) :
    (s.insert x).toList = if x ∈ s.toList then s.toList else s.toList ++ [x] := by
  unfold insert
  split <;> simp_all

end OrderedSet

end ClassCensus
