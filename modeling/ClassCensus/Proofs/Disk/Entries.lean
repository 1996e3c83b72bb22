import ClassCensus.Disk.Operation
import ClassCensus.Proofs.Entries

/-!
# What lies at a location after a change

The changes of a disk as seen through `entryAt`, disks whose entries form a tree, and two
relations between an earlier and a later disk: `Keeps`, by which every way stays open, and
`AddsDirs`, by which nothing happens but that directories are made.
-/

namespace ClassCensus

namespace Disk

/-! ### Changes seen through `entryAt` -/

@[simp]
theorem entryAt_root (d : Disk) : d.entryAt [] = some .directory := rfl

theorem entryAt_put (d : Disk) {l : Location} (hl : l ≠ []) (e : Entry) (k : Location) :
    (d.put l e).entryAt k = if k = l then some e else d.entryAt k := by
  simp only [entryAt, put, Entries.find?_put]
  by_cases hk : k = []
  · simp [hk, hl.symm]
  · simp [hk]

theorem entryAt_erase (d : Disk) {l : Location} (hl : l ≠ []) (k : Location) :
    (d.erase l).entryAt k = if k = l then none else d.entryAt k := by
  have h := Entries.find?_filter (fun x => decide (x ≠ l)) k d.entries
  by_cases hk : k = []
  · simp [hk, hl.symm]
  · by_cases he : k = l <;> simp_all [entryAt, erase]

/-- The root of a disk cannot be erased. -/
theorem entryAt_erase_root (d : Disk) (k : Location) : (d.erase []).entryAt k = d.entryAt k := by
  have h := Entries.find?_filter (fun x => decide (x ≠ [])) k d.entries
  by_cases hk : k = []
  · simp [hk]
  · simp only [entryAt, hk, if_false, erase]
    rw [h]
    simp [hk]

theorem entryAt_eraseBelow (d : Disk) (top k : Location) :
    (d.eraseBelow top).entryAt k = if top <+: k ∧ k ≠ top then none else d.entryAt k := by
  have h := Entries.find?_filter (fun x => !(isBelow top x && decide (x ≠ top))) k d.entries
  by_cases hk : k = []
  · simp [hk]
  · simp only [entryAt, eraseBelow, hk, if_false]
    rw [h]
    have hb : isBelow top k = true ↔ top <+: k := List.isPrefixOf_iff_prefix
    by_cases hp : top <+: k
    · by_cases he : k = top <;> simp [hb.mpr hp, hp, he]
    · have hf : isBelow top k = false := Bool.eq_false_iff.mpr fun h0 => hp (hb.mp h0)
      simp [hf, hp]

/-- What is put where nothing was and erased again leaves no trace, not even in listings. -/
theorem erase_put (d : Disk) {l : Location} (hl : l ≠ []) (e : Entry) (h : d.entryAt l = none) :
    (d.put l e).erase l = d := by
  simp only [entryAt, hl, if_false] at h
  have hnew : l ∉ d.entries.map (·.1) := Entries.notMem_of_find?_eq_none h
  have hold : d.entries.filter (fun x => x.1 ≠ l) = d.entries := by
    rw [List.filter_eq_self]
    intro x hx
    exact decide_eq_true fun hxl => hnew (List.mem_map.mpr ⟨x, hx, hxl⟩)
  simp only [put, erase]
  rw [Entries.put_of_notMem hnew, List.filter_append, hold]
  simp

theorem hasDir_iff (d : Disk) (l : Location) :
    d.hasDir l = true ↔ d.entryAt l = some .directory := by
  unfold hasDir
  split <;> simp_all

/-! ### Trees -/

/-- Every entry lies in a directory. -/
def IsTree (d : Disk) : Prop :=
  ∀ here name entry, d.entryAt (here ++ [name]) = some entry → d.entryAt here = some .directory

theorem mem_of_entryAt {d : Disk} {l : Location} {e : Entry} (hl : l ≠ [])
    (h : d.entryAt l = some e) : (l, e) ∈ d.entries := by
  simp only [entryAt, hl, if_false] at h
  exact Entries.mem_of_find? h

namespace IsTree

variable {d : Disk}

/-- A disk is a tree if each entry that it lists lies in a directory. -/
theorem of_entries (h : ∀ e ∈ d.entries, d.hasDir e.1.dropLast = true) : d.IsTree := by
  intro here name entry he
  have hmem := h _ (mem_of_entryAt (by simp) he)
  rw [List.dropLast_concat] at hmem
  exact (d.hasDir_iff here).mp hmem

theorem dir_of_below (hd : d.IsTree) {l rest : Location} {e : Entry} (hr : rest ≠ [])
    (h : d.entryAt (l ++ rest) = some e) : d.entryAt l = some .directory := by
  induction rest generalizing l with
  | nil => exact absurd rfl hr
  | cons name rest ih =>
    by_cases hn : rest = []
    · subst hn
      exact hd l name e h
    · have h2 : d.entryAt (l ++ [name]) = some .directory := ih hn (by simpa using h)
      exact hd l name .directory h2

theorem none_below (hd : d.IsTree) {l : Location} (h : d.entryAt l ≠ some .directory)
    {rest : Location} (hr : rest ≠ []) : d.entryAt (l ++ rest) = none := by
  cases he : d.entryAt (l ++ rest) with
  | none => rfl
  | some e => exact absurd (hd.dir_of_below hr he) h

/-- A tree stays one when an entry is put into a directory, unless a file takes the place of a
directory. -/
theorem put (hd : d.IsTree) {here : Location} {name : Octets} {e : Entry}
    (hh : d.entryAt here = some .directory)
    (he : e = .directory ∨ d.entryAt (here ++ [name]) ≠ some .directory) :
    (d.put (here ++ [name]) e).IsTree := by
  have hne : here ++ [name] ≠ [] := by simp
  intro k n x hx
  rw [entryAt_put d hne] at hx ⊢
  by_cases hk : k ++ [n] = here ++ [name]
  · have hkh : k = here := (List.append_inj' hk rfl).1
    have : k ≠ here ++ [name] := by
      rw [hkh]
      intro h0
      simpa using congrArg List.length h0
    rw [if_neg this, hkh]
    exact hh
  · rw [if_neg hk] at hx
    have hdir := hd k n x hx
    by_cases hkl : k = here ++ [name]
    · rw [if_pos hkl]
      rcases he with he | he
      · rw [he]
      · rw [hkl] at hdir
        exact absurd hdir he
    · rw [if_neg hkl]
      exact hdir

theorem erase (hd : d.IsTree) {l : Location} (hl : l ≠ [])
    (h : ∀ name, d.entryAt (l ++ [name]) = none) : (d.erase l).IsTree := by
  intro k n x hx
  rw [entryAt_erase d hl] at hx ⊢
  by_cases hk : k ++ [n] = l
  · simp [hk] at hx
  · rw [if_neg hk] at hx
    have hkl : k ≠ l := by
      rintro rfl
      rw [h n] at hx
      cases hx
    rw [if_neg hkl]
    exact hd k n x hx

theorem eraseBelow (hd : d.IsTree) (top : Location) : (d.eraseBelow top).IsTree := by
  intro k n x hx
  rw [entryAt_eraseBelow] at hx ⊢
  by_cases hk : top <+: k ++ [n] ∧ k ++ [n] ≠ top
  · simp [hk] at hx
  · rw [if_neg hk] at hx
    have hk2 : ¬(top <+: k ∧ k ≠ top) := by
      rintro ⟨hp, hne⟩
      refine hk ⟨hp.trans (List.prefix_append k [n]), ?_⟩
      intro h0
      have h1 := hp.length_le
      have h2 := congrArg List.length h0
      simp only [List.length_append, List.length_singleton] at h2
      omega
    rw [if_neg hk2]
    exact hd k n x hx

end IsTree

end Disk

/-! ### Earlier and later disks -/

/-- Two entries between which a way cannot tell: equal ones, and any two files. -/
def Entry.Alike : Entry → Entry → Prop
  | .file _, .file _ => True
  | a, b => a = b

namespace Entry.Alike

theorem refl (e : Entry) : e.Alike e := by
  cases e <;> simp [Entry.Alike]

theorem trans {a b c : Entry} (h1 : a.Alike b) (h2 : b.Alike c) : a.Alike c := by
  cases a <;> cases b <;> cases c <;> simp_all [Entry.Alike]

theorem directory_left {e : Entry} (h : Entry.directory.Alike e) : e = .directory := by
  cases e <;> simp_all [Entry.Alike]

theorem link_left {t : Path} {e : Entry} (h : (Entry.link t).Alike e) : e = .link t := by
  cases e <;> simp_all [Entry.Alike]

theorem file_left {b : ByteArray} {e : Entry} (h : (Entry.file b).Alike e) : ∃ b', e = .file b' := by
  cases e <;> simp_all [Entry.Alike]

end Entry.Alike

namespace Disk

/-- All directories and links of `d` are still there in `d'`. -/
structure KeepsWays (d d' : Disk) : Prop where
  home : d'.home = d.home
  directory : ∀ l, d.entryAt l = some .directory → d'.entryAt l = some .directory
  link : ∀ l t, d.entryAt l = some (.link t) → d'.entryAt l = some (.link t)

namespace KeepsWays

variable {d d' d'' : Disk}

theorem trans (h1 : KeepsWays d d') (h2 : KeepsWays d' d'') : KeepsWays d d'' :=
  ⟨h2.home.trans h1.home, fun l h => h2.directory l (h1.directory l h),
    fun l t h => h2.link l t (h1.link l t h)⟩

/-- A file that takes the place of a file or of nothing leaves the ways open. -/
theorem put_file {l : Location} (hl : l ≠ []) (b : ByteArray)
    (hd : d.entryAt l ≠ some .directory) (hk : ∀ t, d.entryAt l ≠ some (.link t)) :
    KeepsWays d (d.put l (.file b)) := by
  refine ⟨rfl, ?_, ?_⟩
  · intro k h
    rw [entryAt_put d hl, if_neg, h]
    rintro rfl
    exact hd h
  · intro k t h
    rw [entryAt_put d hl, if_neg, h]
    rintro rfl
    exact hk t h

theorem erase_file {l : Location} (hl : l ≠ []) {b : ByteArray}
    (h : d.entryAt l = some (.file b)) : KeepsWays d (d.erase l) := by
  refine ⟨rfl, ?_, ?_⟩
  · intro k hk
    rw [entryAt_erase d hl, if_neg, hk]
    rintro rfl
    rw [h] at hk
    cases hk
  · intro k t hk
    rw [entryAt_erase d hl, if_neg, hk]
    rintro rfl
    rw [h] at hk
    cases hk

end KeepsWays

/-- All entries of `d` are still there in `d'`, at most with other bytes in a file. -/
structure Keeps (d d' : Disk) : Prop where
  home : d'.home = d.home
  entry : ∀ l e, d.entryAt l = some e → ∃ e', d'.entryAt l = some e' ∧ e.Alike e'

namespace Keeps

variable {d d' d'' : Disk}

theorem refl (d : Disk) : Keeps d d := ⟨rfl, fun _ e h => ⟨e, h, .refl e⟩⟩

theorem trans (h1 : Keeps d d') (h2 : Keeps d' d'') : Keeps d d'' := by
  refine ⟨h2.home.trans h1.home, ?_⟩
  intro l e he
  obtain ⟨e1, he1, ha1⟩ := h1.entry l e he
  obtain ⟨e2, he2, ha2⟩ := h2.entry l e1 he1
  exact ⟨e2, he2, ha1.trans ha2⟩

theorem directory (h : Keeps d d') {l : Location} (hl : d.entryAt l = some .directory) :
    d'.entryAt l = some .directory := by
  obtain ⟨e, he, ha⟩ := h.entry l _ hl
  rw [he, ha.directory_left]

theorem link (h : Keeps d d') {l : Location} {t : Path} (hl : d.entryAt l = some (.link t)) :
    d'.entryAt l = some (.link t) := by
  obtain ⟨e, he, ha⟩ := h.entry l _ hl
  rw [he, ha.link_left]

theorem ways (h : Keeps d d') : KeepsWays d d' :=
  ⟨h.home, fun _ => h.directory, fun _ _ => h.link⟩

theorem file (h : Keeps d d') {l : Location} {b : ByteArray}
    (hl : d.entryAt l = some (.file b)) : ∃ b', d'.entryAt l = some (.file b') := by
  obtain ⟨e, he, ha⟩ := h.entry l _ hl
  obtain ⟨b', rfl⟩ := ha.file_left
  exact ⟨b', he⟩

end Keeps

/-- Nothing happens between two disks but that directories are made, at some of the locations
for which `within` holds. -/
structure AddsDirs (within : Location → Prop) (d d' : Disk) : Prop where
  home : d'.home = d.home
  entry : ∀ l, d'.entryAt l = d.entryAt l ∨
    (d.entryAt l = none ∧ d'.entryAt l = some .directory ∧ within l)

namespace AddsDirs

variable {within : Location → Prop} {d d' d'' : Disk}

theorem refl (d : Disk) : AddsDirs within d d := ⟨rfl, fun _ => .inl rfl⟩

theorem trans (h1 : AddsDirs within d d') (h2 : AddsDirs within d' d'') :
    AddsDirs within d d'' := by
  refine ⟨h2.home.trans h1.home, ?_⟩
  intro l
  rcases h1.entry l with e1 | ⟨n1, e1, w1⟩
  · rcases h2.entry l with e2 | ⟨n2, e2, w2⟩
    · exact .inl (e2.trans e1)
    · exact .inr ⟨e1 ▸ n2, e2, w2⟩
  · rcases h2.entry l with e2 | ⟨n2, _, _⟩
    · exact .inr ⟨n1, e2.trans e1, w1⟩
    · rw [e1] at n2
      cases n2

theorem weaken {within' : Location → Prop} (h : AddsDirs within d d')
    (hw : ∀ l, within l → within' l) : AddsDirs within' d d' :=
  ⟨h.home, fun l => (h.entry l).imp id fun ⟨a, b, c⟩ => ⟨a, b, hw l c⟩⟩

theorem keeps (h : AddsDirs within d d') : Keeps d d' := by
  refine ⟨h.home, ?_⟩
  intro l e he
  rcases h.entry l with h0 | ⟨h0, _, _⟩
  · exact ⟨e, h0.trans he, .refl e⟩
  · rw [he] at h0
    cases h0

/-- Where nothing is in the end, nothing was before. -/
theorem none_before (h : AddsDirs within d d') {l : Location} (hl : d'.entryAt l = none) :
    d.entryAt l = none := by
  rcases h.entry l with h0 | ⟨h0, -, -⟩
  · rw [← h0, hl]
  · exact h0

/-- An entry that is no directory was there before. -/
theorem entry_of_ne (h : AddsDirs within d d') {l : Location}
    (hl : d'.entryAt l ≠ some .directory) : d'.entryAt l = d.entryAt l := by
  rcases h.entry l with h0 | ⟨_, h0, _⟩
  · exact h0
  · exact absurd h0 hl

theorem put {l : Location} (hl : l ≠ []) (hn : d.entryAt l = none) (hw : within l) :
    AddsDirs within d (d.put l .directory) := by
  refine ⟨rfl, ?_⟩
  intro k
  rw [entryAt_put d hl]
  by_cases hk : k = l
  · subst hk
    exact .inr ⟨hn, by simp, hw⟩
  · exact .inl (by rw [if_neg hk])

end AddsDirs

end Disk

end ClassCensus
