import ClassCensus.Proofs.Disk.Directories

/-!
# What is left after a removal

After what lies at a path has been removed, whatever it was, nothing lies below the place to which the
path leads, if it still leads anywhere (`vacant_of_removeTree`, `vacant_of_removeFile`). The same holds
of a path at which nothing was found (`vacant_of_linkStatus`).
-/

namespace ClassCensus.Disk

/-- Nothing lies below the place to which a path leads. -/
def Vacant (d : Disk) (p : Path) : Prop :=
  ∀ links l, d.Leads p links l → ∀ rest, rest ≠ [] → d.entryAt (l ++ rest) = none

/-- Some of the entries of another disk. -/
structure Part (d' d : Disk) : Prop where
  home : d'.home = d.home
  entry : ∀ l, d'.entryAt l = none ∨ d'.entryAt l = d.entryAt l

namespace Part

variable {d d' d'' : Disk}

theorem refl (d : Disk) : Part d d := ⟨rfl, fun _ => .inr rfl⟩

theorem trans (h1 : Part d'' d') (h2 : Part d' d) : Part d'' d := by
  refine ⟨h1.home.trans h2.home, fun l => ?_⟩
  rcases h1.entry l with h | h
  · exact .inl h
  · rw [h]
    exact h2.entry l

theorem keeps (h : Part d' d) : Keeps d' d := by
  refine ⟨h.home.symm, fun l e he => ?_⟩
  rcases h.entry l with h0 | h0
  · rw [he] at h0
    cases h0
  · exact ⟨e, h0 ▸ he, .refl e⟩

theorem erase (d : Disk) (l : Location) : Part (d.erase l) d := by
  refine ⟨rfl, fun k => ?_⟩
  by_cases hl : l = []
  · subst hl
    exact .inr (entryAt_erase_root d k)
  · rw [entryAt_erase d hl]
    split
    · exact .inl rfl
    · exact .inr rfl

theorem eraseBelow (d : Disk) (l : Location) : Part (d.eraseBelow l) d := by
  refine ⟨rfl, fun k => ?_⟩
  rw [entryAt_eraseBelow]
  split
  · exact .inl rfl
  · exact .inr rfl

/-- If a path led to a place below which nothing is left, the place is vacant. -/
theorem vacant (h : Part d' d) {p : Path} {k : Nat} {l : Location} (hl : d.Leads p k l)
    (hb : ∀ rest, rest ≠ [] → d'.entryAt (l ++ rest) = none) : d'.Vacant p := by
  intro k' l' hl' rest hr
  obtain ⟨-, rfl⟩ := hl.unique (h.keeps.ways.leads hl')
  exact hb rest hr

end Part

/-- Without the file or link at its end a path leads nowhere. -/
theorem descend_without_end {d d' : Disk} {links : Nat} {here : Location} {names : List Octets}
    {slash : Bool} {spot : Spot} {e : Entry} (h : d.walk false links slash here names = .ok spot)
    (he : spot.entry = some e) (hne : e ≠ .directory) (hgone : d'.entryAt spot.location = none)
    (hsame : ∀ l, l ≠ spot.location → d'.entryAt l = d.entryAt l) :
    ∃ f, d'.descend links here names = .error f := by
  have hend : d.entryAt spot.location = some e := (walk_ok h).1.trans he
  induction links, here, names using way_induction d generalizing slash with
  | nil links here =>
    rw [walk_nil] at h
    split at h
    · cases h
      cases he
      exact absurd rfl hne
    · cases h
  | current links here names ih =>
    rw [descend_current]
    exact ih (by simpa using h)
  | parent links here names ih =>
    rw [descend_parent]
    exact ih (by simpa using h)
  | long links here name names hn hl =>
    rw [walk_long hn hl] at h
    cases h
  | missing links here name names hn hl h0 =>
    rw [walk_missing hn hl h0] at h
    split at h
    · cases h
      cases he
    · cases h
  | directory links here name names hn hl h0 ih =>
    have hother : here ++ [name] ≠ spot.location := by
      intro h1
      rw [← h1, h0] at hend
      cases hend
      exact hne rfl
    rw [descend_directory hn hl ((hsame _ hother).trans h0)]
    exact ih (by rwa [walk_directory hn hl h0] at h)
  | file links here name names bytes hn hl h0 =>
    by_cases h1 : here ++ [name] = spot.location
    · exact ⟨_, descend_missing hn hl (h1 ▸ hgone)⟩
    · exact ⟨_, descend_file hn hl ((hsame _ h1).trans h0)⟩
  | noLink here name names target hn hl h0 =>
    by_cases h1 : here ++ [name] = spot.location
    · exact ⟨_, descend_missing hn hl (h1 ▸ hgone)⟩
    · exact ⟨_, descend_noLink hn hl ((hsame _ h1).trans h0)⟩
  | link links here name names target hn hl h0 ih =>
    by_cases h1 : here ++ [name] = spot.location
    · exact ⟨_, descend_missing hn hl (h1 ▸ hgone)⟩
    · rw [descend_link hn hl ((hsame _ h1).trans h0)]
      rw [walk_link hn hl h0] at h
      split at h
      · cases h
        exact absurd rfl h1
      · split at h
        · cases h
        · rename_i ht
          rw [if_neg ht]
          exact ih h

/-! ### Paths with something at their end -/

theorem find_ok {d : Disk} {fl : Bool} {p : Path} {l : Location} {e : Entry}
    (h : d.find fl p = .ok (l, e)) :
    checkPath p = .ok () ∧ ∃ spot,
      d.walk fl linkLimit (decide (p.octets.getLast? = some Octet.slash)) (d.startOf p)
        (namesOf p.octets) = .ok spot ∧ spot.location = l ∧ spot.entry = some e := by
  unfold find at h
  cases hs : d.locate fl p with
  | error f => simp [hs, bind, Except.bind] at h
  | ok spot =>
    have hc : checkPath p = .ok () := by
      rcases checkPath_cases p with hc | ⟨f, hc⟩
      · exact hc
      · rw [locate_of_check_error hc] at hs
        cases hs
    simp only [locate, hc, bind, Except.bind] at hs
    refine ⟨hc, spot, hs, ?_⟩
    simp only [locate, hc, hs, bind, Except.bind] at h
    cases he : spot.entry with
    | none => simp [he, throw, throwThe, MonadExceptOf.throw] at h
    | some x =>
      by_cases hk : spot.slash ∧ x.kind ≠ .directory
      · simp [he, hk, throw, throwThe, MonadExceptOf.throw] at h
      · simp only [he, hk, if_false, pure, Except.pure, Except.ok.injEq, Prod.mk.injEq] at h
        exact ⟨h.1, congrArg some h.2⟩

theorem status_of_find {d : Disk} {p : Path} {r : Location × Entry} (h : d.find true p = .ok r) :
    d.status p = .ok r.2.kind := by
  simp [status, h, bind, Except.bind, pure, Except.pure]

theorem linkStatus_of_find {d : Disk} {p : Path} {r : Location × Entry}
    (h : d.find false p = .ok r) : d.linkStatus p = .ok r.2.kind := by
  simp [linkStatus, h, bind, Except.bind, pure, Except.pure]

theorem read_of_find {d : Disk} {p : Path} {l : Location} {b : ByteArray}
    (h : d.find true p = .ok (l, .file b)) : d.read p = .ok b := by
  simp [read, h, bind, Except.bind, pure, Except.pure]

theorem find_of_status {d : Disk} {p : Path} {kind : EntryKind} (h : d.status p = .ok kind) :
    ∃ r, d.find true p = .ok r ∧ r.2.kind = kind := by
  unfold status at h
  cases hf : d.find true p with
  | error f => simp [hf, bind, Except.bind] at h
  | ok r =>
    simp only [hf, bind, Except.bind, pure, Except.pure, Except.ok.injEq] at h
    exact ⟨r, rfl, h⟩

theorem find_of_linkStatus {d : Disk} {p : Path} {kind : EntryKind}
    (h : d.linkStatus p = .ok kind) : ∃ r, d.find false p = .ok r ∧ r.2.kind = kind := by
  unfold linkStatus at h
  cases hf : d.find false p with
  | error f => simp [hf, bind, Except.bind] at h
  | ok r =>
    simp only [hf, bind, Except.bind, pure, Except.pure, Except.ok.injEq] at h
    exact ⟨r, rfl, h⟩

theorem leads_of_find {d : Disk} {fl : Bool} {p : Path} {l : Location}
    (h : d.find fl p = .ok (l, .directory)) :
    (∃ k, d.Leads p k l) ∧ d.entryAt l = some .directory := by
  obtain ⟨-, spot, hw, rfl, he⟩ := find_ok h
  exact ⟨descend_of_walk_dir hw he, (walk_ok hw).1.trans he⟩

/-- Where nothing is found the place of a path is vacant. -/
theorem vacant_of_linkStatus {d : Disk} {p : Path} (ht : d.IsTree) (hp : p.octets ≠ [])
    (h : d.linkStatus p = .error .notFound) : d.Vacant p := by
  intro k l hl rest hr
  apply Option.eq_none_iff_forall_ne_some.mpr
  intro e he
  have hd := ht.dir_of_below hr he
  rcases checkPath_cases p with hc | ⟨f, hc⟩
  · obtain ⟨spot, hw, hspot⟩ := walk_of_descend false
      (decide (p.octets.getLast? = some Octet.slash)) hl hd
    have hfound : ∃ x, spot.entry = some x := by
      rcases hspot with ⟨-, h0⟩ | ⟨-, -, t, h0⟩
      · exact ⟨_, h0⟩
      · exact ⟨_, h0⟩
    obtain ⟨x, hx⟩ := hfound
    simp only [linkStatus, find, locate, hc, hw, hx, bind, Except.bind] at h
    by_cases hk : spot.slash ∧ x.kind ≠ .directory
    · simp [hk, throw, throwThe, MonadExceptOf.throw] at h
    · simp [hk, pure, Except.pure] at h
  · have h0 := checkPath_error hp hc
    simp only [linkStatus, find, locate_of_check_error hc, bind, Except.bind,
      Except.error.injEq] at h
    exact h0 h

/-! ### Removals -/

theorem removeFile_ok {d d' : Disk} {p : Path} (h : d.removeFile p = .ok d') :
    ∃ l e, d.find false p = .ok (l, e) ∧ e ≠ .directory ∧ d' = d.erase l := by
  unfold removeFile at h
  cases hf : d.find false p with
  | error f => simp [hf, bind, Except.bind] at h
  | ok r =>
    obtain ⟨l, e⟩ := r
    cases e with
    | directory => simp [hf, bind, Except.bind, throw, throwThe, MonadExceptOf.throw] at h
    | file b =>
      simp only [hf, bind, Except.bind, pure, Except.pure, Except.ok.injEq] at h
      exact ⟨l, _, rfl, by simp, h.symm⟩
    | link t =>
      simp only [hf, bind, Except.bind, pure, Except.pure, Except.ok.injEq] at h
      exact ⟨l, _, rfl, by simp, h.symm⟩

theorem vacant_of_removeFile {d d' : Disk} {p : Path} (ht : d.IsTree)
    (h : d.removeFile p = .ok d') : d'.IsTree ∧ d'.home = d.home ∧ d'.Vacant p := by
  obtain ⟨l, e, hf, hne, rfl⟩ := removeFile_ok h
  obtain ⟨-, spot, hw, rfl, he⟩ := find_ok hf
  have hend : d.entryAt spot.location = some e := (walk_ok hw).1.trans he
  have hnil : spot.location ≠ [] := by
    intro h0
    rw [h0, entryAt_root] at hend
    cases hend
    exact hne rfl
  have hnodir : d.entryAt spot.location ≠ some .directory := by
    rw [hend]
    simpa using hne
  refine ⟨ht.erase hnil fun x => ht.none_below hnodir (by simp), rfl, ?_⟩
  intro k l hl
  have hgone : (d.erase spot.location).entryAt spot.location = none := by
    rw [entryAt_erase d hnil, if_pos rfl]
  have hsame : ∀ x, x ≠ spot.location → (d.erase spot.location).entryAt x = d.entryAt x := by
    intro x hx
    rw [entryAt_erase d hnil, if_neg hx]
  obtain ⟨f, hd⟩ := descend_without_end hw he hne hgone hsame
  have hl' : (d.erase spot.location).descend linkLimit (d.startOf p) (namesOf p.octets) =
      .ok (k, l) := hl
  rw [hl'] at hd
  cases hd

theorem removeEmptyDir_ok {d d' : Disk} {p : Path} (h : d.removeEmptyDir p = .ok d') :
    ∃ k l, d.Leads p k l ∧ d' = d.erase l := by
  unfold removeEmptyDir at h
  rcases checkPath_cases p with hc | ⟨f, hc⟩
  · simp only [locate, hc, checkPath_bare hc, namesOf_bare, startOf_bare, bind, Except.bind] at h
    split at h
    · cases h
    · rename_i spot hw
      split at h
      · cases h
      split at h
      · cases h
      split at h
      · cases h
      split at h
      · cases h
      · rename_i he
        simp only [pure, Except.pure, Except.ok.injEq] at h
        obtain ⟨k, hk⟩ := descend_of_walk_dir hw he
        exact ⟨k, spot.location, hk, h.symm⟩
      · cases h
  · simp [hc, bind, Except.bind] at h

theorem part_removeTree (d : Disk) (p : Path) : Part (d.removeTree p).2 d := by
  unfold removeTree
  split
  · exact .refl d
  · rename_i l _
    dsimp only
    split
    · rename_i removed hremoved
      obtain ⟨k, l', -, rfl⟩ := removeEmptyDir_ok hremoved
      exact (Part.erase _ l').trans (.eraseBelow d l)
    · exact .eraseBelow d l
    · exact .eraseBelow d l
  · rename_i l _ _
    exact .erase d l
  · exact .refl d

/-- Where a file or link is removed no ways are lost that removing a tree would leave. -/
theorem keepsWays_removeFile {d d' : Disk} {p : Path} (h : d.removeFile p = .ok d') :
    KeepsWays (d.removeTree p).2 d' := by
  obtain ⟨l, e, hf, hne, rfl⟩ := removeFile_ok h
  obtain ⟨-, spot, hw, rfl, he⟩ := find_ok hf
  have hend : d.entryAt spot.location = some e := (walk_ok hw).1.trans he
  cases e with
  | directory => exact absurd rfl hne
  | file b =>
    have hnil : spot.location ≠ [] := by
      intro h0
      rw [h0, entryAt_root] at hend
      cases hend
    simp only [removeTree, hf]
    exact .erase_file hnil hend
  | link t =>
    simp only [removeTree, hf]
    exact (Keeps.refl _).ways

/-- What does not lie at the place where something is found, or below it, stays when a tree is removed. -/
theorem entryAt_removeTree {d : Disk} {p : Path} {l k : Location} {e : Entry}
    (h : d.find false p = .ok (l, e)) (hk : ¬l <+: k) :
    (d.removeTree p).2.entryAt k = d.entryAt k := by
  have hnil : l ≠ [] := by
    rintro rfl
    exact hk List.nil_prefix
  have hne : k ≠ l := by
    rintro rfl
    exact hk List.prefix_rfl
  have hbelow : (d.eraseBelow l).entryAt k = d.entryAt k := by
    rw [entryAt_eraseBelow, if_neg fun h0 => hk h0.1]
  cases e with
  | file b => simp only [removeTree, h]
  | link t => simp only [removeTree, h, entryAt_erase d hnil, if_neg hne]
  | directory =>
    obtain ⟨⟨links, hl⟩, -⟩ := leads_of_find h
    simp only [removeTree, h]
    cases hr : (d.eraseBelow l).removeEmptyDir p with
    | error f => cases f <;> exact hbelow
    | ok removed =>
      obtain ⟨links', l', hl', rfl⟩ := removeEmptyDir_ok hr
      obtain ⟨-, rfl⟩ := hl.unique ((Part.eraseBelow d l).keeps.ways.leads hl')
      simp only [entryAt_erase _ hnil, if_neg hne, hbelow]

/-- A tree of which a directory was to be removed, with success or not. -/
theorem vacant_of_removeTree {d : Disk} {p : Path} {l : Location} (ht : d.IsTree)
    (h : d.find false p = .ok (l, .directory)) :
    (d.removeTree p).2.IsTree ∧ (d.removeTree p).2.home = d.home ∧ (d.removeTree p).2.Vacant p := by
  obtain ⟨⟨k, hl⟩, -⟩ := leads_of_find h
  have hbelow : ∀ rest, rest ≠ [] → (d.eraseBelow l).entryAt (l ++ rest) = none := by
    intro rest hr
    rw [entryAt_eraseBelow, if_pos ⟨List.prefix_append .., by simpa using hr⟩]
  have hemptied : (d.eraseBelow l).Vacant p := (Part.eraseBelow d l).vacant hl hbelow
  simp only [removeTree, h]
  cases hr : (d.eraseBelow l).removeEmptyDir p with
  | error f => cases f <;> exact ⟨ht.eraseBelow l, rfl, hemptied⟩
  | ok removed =>
    obtain ⟨k', l', hl', rfl⟩ := removeEmptyDir_ok hr
    obtain ⟨-, rfl⟩ := hl.unique ((Part.eraseBelow d l).keeps.ways.leads hl')
    have hpart := (Part.erase (d.eraseBelow l) l).trans (.eraseBelow d l)
    refine ⟨?_, rfl, hpart.vacant hl fun rest hr => ?_⟩
    · by_cases h0 : l = []
      · intro here name e he
        rw [h0, entryAt_erase_root] at he ⊢
        exact ht.eraseBelow _ here name e (h0 ▸ he)
      · exact (ht.eraseBelow l).erase h0 fun x => hbelow [x] (by simp)
    · rcases (Part.erase (d.eraseBelow l) l).entry (l ++ rest) with h0 | h0
      · exact h0
      · rw [h0, hbelow rest hr]

theorem isTree_removeTree {d : Disk} (ht : d.IsTree) (p : Path) : (d.removeTree p).2.IsTree := by
  cases hf : d.find false p with
  | error f =>
    simp only [removeTree, hf]
    exact ht
  | ok r =>
    obtain ⟨l, e⟩ := r
    cases e with
    | directory => exact (vacant_of_removeTree ht hf).1
    | file b =>
      simp only [removeTree, hf]
      exact ht
    | link t =>
      obtain ⟨-, spot, hw, rfl, he⟩ := find_ok hf
      have hend : d.entryAt spot.location = some (.link t) := (walk_ok hw).1.trans he
      have hnil : spot.location ≠ [] := by
        intro h0
        rw [h0, entryAt_root] at hend
        cases hend
      simp only [removeTree, hf]
      exact ht.erase hnil fun x => ht.none_below (by simp [hend]) (by simp)

end ClassCensus.Disk
