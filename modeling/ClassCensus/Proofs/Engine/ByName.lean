import ClassCensus.Proofs.Engine.Snapshot
import ClassCensus.Proofs.Sorting
import Mathlib.Data.String.Basic

/-!
# An engine by the names of its classes

An engine that is built from classes has each of their names once, in order
(`pairwise_classNames`), and resolves a name to the first class that has it (`resolve_ofClasses`).
Nothing but these first classes makes a difference (`ofClasses_eq_of_find?`), so classes with different
names can be given in any order (`ofClasses_eq_of_mem`).
-/

namespace ClassCensus.SnapshotEngine

/-! ### The order of names -/

theorem nameLe_iff {a b : ClassDef} : nameLe a b = true ↔ a.name ≤ b.name := by
  simp only [nameLe, Bool.not_eq_true', decide_eq_false_iff_not, not_lt]

instance : Std.Total fun a b : ClassDef => nameLe a b = true where
  total a b := by
    rw [nameLe_iff, nameLe_iff]
    exact le_total _ _

instance : IsTrans ClassDef fun a b => nameLe a b = true where
  trans a b c hab hbc := by
    rw [nameLe_iff] at hab hbc ⊢
    exact le_trans hab hbc

/-! ### Repeated names -/

theorem find?_dropRepeatedAfter (n : String) (c : ClassDef) (rest : List ClassDef) :
    (dropRepeatedAfter c rest).find? (fun d => d.name = n) =
      (c :: rest).find? (fun d => d.name = n) := by
  induction rest generalizing c with
  | nil => rfl
  | cons d rest ih =>
    rw [dropRepeatedAfter]
    split
    · rename_i hcd
      rw [ih, List.find?_cons, List.find?_cons, List.find?_cons]
      by_cases hc : c.name = n
      · simp [hc]
      · simp [hc, ← hcd]
    · by_cases hc : c.name = n
      · simp [hc]
      · simp [hc, ih]

theorem find?_dropRepeated (n : String) (cs : List ClassDef) :
    (dropRepeated cs).find? (fun d => d.name = n) = cs.find? (fun d => d.name = n) := by
  cases cs with
  | nil => rfl
  | cons c rest => exact find?_dropRepeatedAfter n c rest

theorem pairwise_dropRepeatedAfter {c : ClassDef} {rest : List ClassDef}
    (h : (c :: rest).Pairwise fun a b => nameLe a b = true) :
    (dropRepeatedAfter c rest).Pairwise (fun a b => a.name < b.name) ∧
      ∀ d ∈ dropRepeatedAfter c rest, d = c ∨ d ∈ rest := by
  induction rest generalizing c with
  | nil => exact ⟨List.pairwise_singleton .., fun d hd => .inl (List.mem_singleton.mp hd)⟩
  | cons d rest ih =>
    obtain ⟨hc, hrest⟩ := List.pairwise_cons.mp h
    rw [dropRepeatedAfter]
    split
    · have hskip : (c :: rest).Pairwise fun a b => nameLe a b = true :=
        List.pairwise_cons.mpr
          ⟨fun x hx => hc x (List.mem_cons_of_mem _ hx), (List.pairwise_cons.mp hrest).2⟩
      obtain ⟨hpair, hmem⟩ := ih hskip
      exact ⟨hpair, fun x hx => (hmem x hx).imp id (List.mem_cons_of_mem _)⟩
    · rename_i hcd
      obtain ⟨hpair, hmem⟩ := ih hrest
      have hfirst : c.name < d.name :=
        lt_of_le_of_ne (nameLe_iff.mp (hc d (List.mem_cons_self ..))) hcd
      refine ⟨List.pairwise_cons.mpr ⟨?_, hpair⟩, ?_⟩
      · intro x hx
        rcases hmem x hx with rfl | hx
        · exact hfirst
        · exact lt_of_lt_of_le hfirst
            (nameLe_iff.mp ((List.pairwise_cons.mp hrest).1 x hx))
      · intro x hx
        rcases List.mem_cons.mp hx with rfl | hx
        · exact .inl rfl
        · rcases hmem x hx with rfl | hx
          · exact .inr (List.mem_cons_self ..)
          · exact .inr (List.mem_cons_of_mem _ hx)

theorem pairwise_dropRepeated {cs : List ClassDef}
    (h : cs.Pairwise fun a b => nameLe a b = true) :
    (dropRepeated cs).Pairwise fun a b => a.name < b.name := by
  cases cs with
  | nil => exact .nil
  | cons c rest => exact (pairwise_dropRepeatedAfter h).1

/-! ### Engines of classes -/

theorem find?_pristine_ofClasses (cs : List ClassDef) (n : String) :
    (ofClasses cs).pristine.find? (fun c => c.name = n) = cs.find? (fun c => c.name = n) := by
  show (dropRepeated (Sorting.sort nameLe cs)).find? _ = _
  rw [find?_dropRepeated]
  apply Sorting.find?_sort
  intro a b ha hb
  rw [nameLe_iff, of_decide_eq_true ha, of_decide_eq_true hb]

/-- The names of the classes of an engine are in order, and none occurs twice. -/
theorem pairwise_classNames (cs : List ClassDef) :
    (ClassEngine.classNames (ofClasses cs)).Pairwise (· < ·) := by
  show ((dropRepeated (Sorting.sort nameLe cs)).map (·.name)).Pairwise (· < ·)
  rw [List.pairwise_map, Sorting.sort_eq_insertionSort]
  exact pairwise_dropRepeated (List.pairwise_insertionSort _ cs)

theorem mem_classNames_ofClasses {cs : List ClassDef} {n : String} :
    n ∈ ClassEngine.classNames (ofClasses cs) ↔ ∃ c ∈ cs, c.name = n := by
  have hfind : ∀ ds : List ClassDef,
      (∃ c ∈ ds, c.name = n) ↔ (ds.find? (fun c => c.name = n)).isSome = true := by
    intro ds
    rw [List.find?_isSome]
    simp only [decide_eq_true_eq]
  have hnames : n ∈ ClassEngine.classNames (ofClasses cs) ↔
      ∃ c ∈ (ofClasses cs).pristine, c.name = n := List.mem_map
  rw [hnames, hfind, hfind, find?_pristine_ofClasses]

/-- An engine resolves a name to the first of its classes that has this name. -/
theorem resolve_ofClasses (cs : List ClassDef) (n : String) :
    (ofClasses cs).resolve n =
      match cs.find? (fun c => c.name = n) with
      | some c => .ok c
      | none => .error (absent n) := by
  have hindexed : (ofClasses cs).Indexed := indexed_reset _
  have hclasses : (ofClasses cs).classes = (ofClasses cs).pristine := rfl
  have hat : ((ofClasses cs).place? n).bind ((ofClasses cs).classes[·]?) =
      cs.find? (fun c => c.name = n) := by
    rw [place?_eq hindexed, hclasses, ← List.find?_eq_bind_findIdx?_getElem?,
      find?_pristine_ofClasses]
  cases hfind : cs.find? (fun c => c.name = n) <;> simp only [resolve, hat, hfind]

/-- The index of an engine leads to the place of a name among the names of the classes. -/
theorem place?_ofClasses {cs : List ClassDef} {n : String} {i : Nat} :
    (ofClasses cs).place? n = some i ↔ (ClassEngine.classNames (ofClasses cs))[i]? = some n := by
  have hindexed : (ofClasses cs).Indexed := indexed_reset _
  have hnames : ClassEngine.classNames (ofClasses cs) = (ofClasses cs).pristine.map (·.name) := rfl
  rw [place?_eq hindexed, List.findIdx?_eq_some_iff_getElem, hnames, List.getElem?_map,
    Option.map_eq_some_iff]
  constructor
  · rintro ⟨hi, hname, -⟩
    exact ⟨_, List.getElem?_eq_getElem hi, of_decide_eq_true hname⟩
  · rintro ⟨c, hc, rfl⟩
    obtain ⟨hi, rfl⟩ := List.getElem?_eq_some_iff.mp hc
    refine ⟨hi, decide_eq_true rfl, fun j hji => ?_⟩
    -- the names before are smaller ones
    have hlt := List.pairwise_iff_getElem.mp (List.pairwise_map.mp (hnames ▸ pairwise_classNames cs))
      j i (hji.trans hi) hi hji
    simpa using ne_of_lt hlt

/-- A class is found by its name where no other class has the name. -/
theorem find?_name_iff {cs : List ClassDef}
    (hinj : ∀ a ∈ cs, ∀ b ∈ cs, a.name = b.name → a = b) {c : ClassDef} :
    cs.find? (fun d => d.name = c.name) = some c ↔ c ∈ cs := by
  refine ⟨List.mem_of_find?_eq_some, fun hc => ?_⟩
  apply Sorting.find?_eq_some_of_unique hc (decide_eq_true rfl)
  intro d hd hname
  exact hinj d hd c hc (of_decide_eq_true hname)

/-- Only the first class of each name matters for an engine. -/
theorem ofClasses_eq_of_find? {cs ds : List ClassDef}
    (h : ∀ n, cs.find? (fun c => c.name = n) = ds.find? (fun c => c.name = n)) :
    ofClasses cs = ofClasses ds := by
  have hpairwise : ∀ cs : List ClassDef,
      (ofClasses cs).pristine.Pairwise fun a b => a.name < b.name := fun cs =>
    List.pairwise_map.mp (pairwise_classNames cs)
  have hnames : ∀ cs : List ClassDef, ((ofClasses cs).pristine.map (·.name)).Nodup := fun cs =>
    (pairwise_classNames cs).imp ne_of_lt
  have hmem : ∀ (cs : List ClassDef) (c : ClassDef),
      c ∈ (ofClasses cs).pristine ↔ cs.find? (fun d => d.name = c.name) = some c := by
    intro cs c
    have hunique : ∀ a ∈ (ofClasses cs).pristine, ∀ b ∈ (ofClasses cs).pristine,
        a.name = b.name → a = b := fun a ha b hb => List.inj_on_of_nodup_map (hnames cs) ha hb
    rw [← find?_name_iff hunique, find?_pristine_ofClasses]
  have hpristine : (ofClasses cs).pristine = (ofClasses ds).pristine := by
    refine List.Perm.eq_of_pairwise ?_ (hpairwise cs) (hpairwise ds) ?_
    · intro a b _ _ hab hba
      exact absurd hab (lt_asymm hba)
    · refine (List.perm_ext_iff_of_nodup (hnames cs).of_map (hnames ds).of_map).mpr fun c => ?_
      rw [hmem, hmem, h]
  show reset (ofClasses cs) = reset (ofClasses ds)
  rw [reset, reset, hpristine]

/-- Classes with different names give the same engine in whatever order, and however often, they are
given. -/
theorem ofClasses_eq_of_mem {cs ds : List ClassDef} (h : ∀ c, c ∈ cs ↔ c ∈ ds)
    (hinj : ∀ a ∈ cs, ∀ b ∈ cs, a.name = b.name → a = b) : ofClasses cs = ofClasses ds := by
  have hinj' : ∀ a ∈ ds, ∀ b ∈ ds, a.name = b.name → a = b := fun a ha b hb =>
    hinj a ((h a).mpr ha) b ((h b).mpr hb)
  refine ofClasses_eq_of_find? fun n => Option.ext fun c => ?_
  by_cases hn : c.name = n
  · subst hn
    rw [find?_name_iff hinj, find?_name_iff hinj', h]
  · -- a class that is found by a name has it
    have hno : ∀ cs : List ClassDef, cs.find? (fun d => d.name = n) ≠ some c := by
      intro cs hfind
      have hname := List.find?_some hfind
      exact hn (of_decide_eq_true hname)
    exact iff_of_false (hno cs) (hno ds)

end ClassCensus.SnapshotEngine
