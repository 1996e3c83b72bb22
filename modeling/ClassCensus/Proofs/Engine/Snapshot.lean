import ClassCensus.Engine.Snapshot

/-!
# Lookups and edits of a list of classes

In an engine whose index belongs to its classes, a name leads to the first class of that name
(`place?_eq`), and an edit changes what that one name resolves to (`resolve_edit`).
-/

namespace ClassCensus.SnapshotEngine

/-- The index of an engine is that of its classes as they were given. -/
structure Indexed (e : SnapshotEngine) : Prop where
  index : e.index = indexFrom 0 e.pristine
  length : e.classes.length = e.pristine.length

theorem indexed_reset (e : SnapshotEngine) : e.reset.Indexed := ⟨rfl, rfl⟩

theorem find_indexFrom (n : String) (place : Nat) (cs : List ClassDef) :
    ((indexFrom place cs).find? fun row => row.1 = n).map (·.2) =
      (cs.findIdx? fun c => c.name = n).map (place + ·) := by
  induction cs generalizing place with
  | nil => rfl
  | cons c rest ih =>
    simp only [indexFrom, List.find?_cons, List.findIdx?_cons]
    by_cases h : c.name = n
    · simp [h]
    · simp only [h, decide_false, ih, Bool.false_eq_true, if_false, Option.map_map]
      congr 1
      funext i
      simp only [Function.comp]
      omega

variable {e : SnapshotEngine}

theorem place?_eq (he : e.Indexed) (n : String) :
    e.place? n = e.pristine.findIdx? fun c => c.name = n := by
  rw [place?, he.index, find_indexFrom]
  simp

theorem name_of_place (he : e.Indexed) {n : String} {i : Nat} (h : e.place? n = some i) :
    ∃ hi : i < e.pristine.length, e.pristine[i].name = n := by
  rw [place?_eq he, List.findIdx?_eq_some_iff_getElem] at h
  obtain ⟨hi, hn, _⟩ := h
  exact ⟨hi, by simpa using hn⟩

theorem lt_of_place (he : e.Indexed) {n : String} {i : Nat} (h : e.place? n = some i) :
    i < e.classes.length := by
  rw [he.length]
  exact (name_of_place he h).1

theorem resolve_of_place (he : e.Indexed) {n : String} {i : Nat} (h : e.place? n = some i) :
    ∃ c, e.classes[i]? = some c ∧ e.resolve n = .ok c := by
  have hget := List.getElem?_eq_getElem (lt_of_place he h)
  exact ⟨_, hget, by simp [resolve, h, hget]⟩

theorem resolve_of_no_place {n : String} (h : e.place? n = none) :
    e.resolve n = .error (absent n) := by
  simp [resolve, h]

/-- A class that does not resolve is not there. -/
theorem error_of_resolve {n : String} {error : CensusError} (h : e.resolve n = .error error) :
    error = absent n := by
  unfold resolve at h
  split at h
  · cases h
  · exact (Except.error.inj h).symm

/-- Every name of a class resolves. -/
theorem resolve_of_mem (he : e.Indexed) {n : String} (hn : n ∈ e.pristine.map (·.name)) :
    ∃ c, e.resolve n = .ok c := by
  cases hp : e.place? n with
  | some i =>
    obtain ⟨c, _, hc⟩ := resolve_of_place he hp
    exact ⟨c, hc⟩
  | none =>
    rw [place?_eq he, List.findIdx?_eq_none_iff] at hp
    obtain ⟨c, hc, rfl⟩ := List.mem_map.mp hn
    simpa using hp c hc

/-- What does not resolve has no name of a class. -/
theorem resolve_of_not_mem (he : e.Indexed) {n : String} (hn : n ∉ e.pristine.map (·.name)) :
    e.resolve n = .error (absent n) := by
  refine resolve_of_no_place ?_
  rw [place?_eq he, List.findIdx?_eq_none_iff]
  intro c hc
  have : c.name ≠ n := fun h => hn (h ▸ List.mem_map_of_mem hc)
  simpa using this

/-- An edit of a class that resolves changes this class and no other one. -/
theorem resolve_edit (he : e.Indexed) {n : String} {c : ClassDef} (hn : e.resolve n = .ok c)
    (f : ClassDef → ClassDef) :
    ∃ e', e.edit n f = .ok e' ∧ e'.Indexed ∧ e'.pristine = e.pristine ∧
      ∀ m, e'.resolve m = if m = n then (e.resolve m).map f else e.resolve m := by
  cases hp : e.place? n with
  | none =>
    rw [resolve_of_no_place hp] at hn
    cases hn
  | some i =>
    refine ⟨{ e with classes := e.classes.modify i f }, by simp [edit, hp], ?_, rfl, ?_⟩
    · exact ⟨he.index, by simpa using he.length⟩
    · intro m
      have hplace : place? { e with classes := e.classes.modify i f } m = e.place? m := rfl
      cases hm : e.place? m with
      | none =>
        rw [resolve_of_no_place (hplace.trans hm), resolve_of_no_place hm]
        split <;> rfl
      | some j =>
        obtain ⟨d, hd, hres⟩ := resolve_of_place he hm
        simp only [resolve, hplace, hm, Option.bind_some, List.getElem?_modify, hd]
        by_cases hmn : m = n
        · subst hmn
          have hij : i = j := by
            rw [hp] at hm
            exact Option.some.inj hm
          simp [hij, Except.map]
        · have hij : i ≠ j := by
            rintro rfl
            obtain ⟨hi, h1⟩ := name_of_place he hp
            obtain ⟨_, h2⟩ := name_of_place he hm
            exact hmn (h2.symm.trans h1)
          simp [hij, hmn]

end ClassCensus.SnapshotEngine
