import ClassCensus.Proofs.Disk.Removal
import Mathlib.Tactic.ByContra

/-!
# The same walk on another disk

A walk that ends somewhere ends there on every disk that has all directories and links of the first
one, with what lies there on that disk (`KeepsWays.walk`). So a path that finds something goes on
finding it (`KeepsWays.find`), and what is found on a part of a disk is found on the whole
(`Part.find`). A walk that follows a link at its end and one that does not differ in this link only
(`walk_unfollowed`).
-/

namespace ClassCensus.Disk

variable {d d' : Disk} {fl slash : Bool} {links : Nat} {here : Location} {names : List Octets}
  {spot : Spot}

/-! ### What a path finds -/

theorem find_eq_ok_iff {p : Path} {l : Location} {e : Entry} :
    d.find fl p = .ok (l, e) ↔
      ∃ spot, d.locate fl p = .ok spot ∧ spot.location = l ∧ spot.entry = some e ∧
        (spot.slash → e.kind = .directory) := by
  cases hs : d.locate fl p with
  | error f => simp [find, hs, bind, Except.bind]
  | ok spot =>
    cases he : spot.entry with
    | none =>
      have hfind : d.find fl p = .error .notFound := by
        simp [find, hs, he, bind, Except.bind, throw, throwThe, MonadExceptOf.throw]
      rw [hfind]
      constructor
      · intro h
        cases h
      · rintro ⟨spot', hspot, -, hx, -⟩
        obtain rfl := Except.ok.inj hspot
        rw [he] at hx
        cases hx
    | some x =>
      by_cases hk : spot.slash ∧ x.kind ≠ .directory
      · have hfind : d.find fl p = .error .notDirectory := by
          simp [find, hs, he, hk, bind, Except.bind, throw, throwThe, MonadExceptOf.throw]
        rw [hfind]
        constructor
        · intro h
          cases h
        · rintro ⟨spot', hspot, -, hx, hslash⟩
          obtain rfl := Except.ok.inj hspot
          rw [he] at hx
          obtain rfl := Option.some.inj hx
          exact absurd (hslash hk.1) hk.2
      · have hfind : d.find fl p = .ok (spot.location, x) := by
          simp only [find, hs, he, bind, Except.bind, if_neg hk, pure, Except.pure]
        have hslash : spot.slash → x.kind = .directory := by
          intro h
          by_contra h0
          exact hk ⟨h, h0⟩
        rw [hfind]
        constructor
        · intro h
          obtain ⟨rfl, rfl⟩ := Prod.mk.inj (Except.ok.inj h)
          exact ⟨spot, rfl, rfl, he, hslash⟩
        · rintro ⟨spot', hspot, rfl, hx, -⟩
          obtain rfl := Except.ok.inj hspot
          rw [he] at hx
          obtain rfl := Option.some.inj hx
          rfl

theorem locate_eq_ok_iff {p : Path} :
    d.locate fl p = .ok spot ↔ checkPath p = .ok () ∧
      d.walk fl linkLimit (decide (p.octets.getLast? = some Octet.slash)) (d.startOf p)
        (namesOf p.octets) = .ok spot := by
  rcases checkPath_cases p with hc | ⟨f, hc⟩
  · simp [locate, hc, bind, Except.bind]
  · simp [locate_of_check_error hc, hc]

theorem status_eq_ok_iff {p : Path} {kind : EntryKind} :
    d.status p = .ok kind ↔ ∃ l e, d.find true p = .ok (l, e) ∧ e.kind = kind := by
  constructor
  · intro h
    obtain ⟨⟨l, e⟩, hf, hk⟩ := find_of_status h
    exact ⟨l, e, hf, hk⟩
  · rintro ⟨l, e, hf, rfl⟩
    exact status_of_find hf

/-! ### Other disks -/

/-- A walk ends on a later disk where it ended before, at what lies there now. Only a link that was not
there before would lead it away. -/
theorem KeepsWays.walk (hk : KeepsWays d d') (h : d.walk fl links slash here names = .ok spot)
    {e : Entry} (he : d'.entryAt spot.location = some e)
    (hl : ∀ t, e = .link t → spot.entry = some e) :
    d'.walk fl links slash here names = .ok { spot with entry := some e } := by
  induction links, here, names using way_induction d generalizing slash with
  | nil links here =>
    rw [walk_nil] at h ⊢
    split at h
    · rename_i hd
      cases h
      have hd' := hk.directory here ((hasDir_iff d here).mp hd)
      rw [hd'] at he
      obtain rfl := Option.some.inj he
      rw [if_pos ((hasDir_iff d' here).mpr hd')]
    · cases h
  | current links here names ih => simpa using ih (by simpa using h)
  | parent links here names ih => simpa using ih (by simpa using h)
  | long links here name names hn hlong =>
    rw [walk_long hn hlong] at h
    cases h
  | missing links here name names hn hlong hnone =>
    rw [walk_missing hn hlong hnone] at h
    split at h
    · rename_i hc
      cases h
      obtain ⟨rfl, -⟩ := hc
      cases e with
      | directory =>
        rw [walk_directory hn hlong he, walk_nil, if_pos ((hasDir_iff d' _).mpr he)]
      | file b => rw [walk_file hn hlong he, if_pos rfl]
      | link t => cases hl t rfl
    · cases h
  | directory links here name names hn hlong hdir ih =>
    rw [walk_directory hn hlong hdir] at h
    rw [walk_directory hn hlong (hk.directory _ hdir)]
    exact ih h
  | file links here name names bytes hn hlong hfile =>
    rw [walk_file hn hlong hfile] at h
    split at h
    · rename_i hc
      cases h
      subst hc
      cases e with
      | directory =>
        rw [walk_directory hn hlong he, walk_nil, if_pos ((hasDir_iff d' _).mpr he)]
      | file b => rw [walk_file hn hlong he, if_pos rfl]
      | link t => cases hl t rfl
    · cases h
  | noLink here name names target hn hlong hlink =>
    have hlink' := hk.link _ _ hlink
    rw [walk_noLink hn hlong hlink] at h
    rw [walk_noLink hn hlong hlink']
    split at h
    · rename_i hc
      cases h
      rw [if_pos hc]
      rw [hlink'] at he
      rw [Option.some.inj he]
    · cases h
  | link links here name names target hn hlong hlink ih =>
    have hlink' := hk.link _ _ hlink
    rw [walk_link hn hlong hlink] at h
    rw [walk_link hn hlong hlink']
    split at h
    · rename_i hc
      cases h
      rw [if_pos hc]
      rw [hlink'] at he
      rw [Option.some.inj he]
    · rename_i hc
      rw [if_neg hc]
      split at h
      · cases h
      · rename_i ht
        rw [if_neg ht]
        exact ih h

theorem KeepsWays.startOf (hk : KeepsWays d d') (p : Path) : d'.startOf p = d.startOf p := by
  simp only [Disk.startOf, hk.home]

theorem KeepsWays.locate (hk : KeepsWays d d') {p : Path} (h : d.locate fl p = .ok spot)
    {e : Entry} (he : d'.entryAt spot.location = some e)
    (hl : ∀ t, e = .link t → spot.entry = some e) :
    d'.locate fl p = .ok { spot with entry := some e } := by
  obtain ⟨hc, hw⟩ := locate_eq_ok_iff.mp h
  refine locate_eq_ok_iff.mpr ⟨hc, ?_⟩
  rw [hk.startOf]
  exact hk.walk hw he hl

/-- What is found at a path is found there on a later disk, if something of its kind is there. -/
theorem KeepsWays.find (hk : KeepsWays d d') {p : Path} {l : Location} {e e' : Entry}
    (h : d.find fl p = .ok (l, e)) (he : d'.entryAt l = some e') (halike : e.Alike e') :
    d'.find fl p = .ok (l, e') := by
  obtain ⟨spot, hs, rfl, hspot, hslash⟩ := find_eq_ok_iff.mp h
  have hkind : e'.kind = e.kind := by
    cases e <;> cases e' <;> simp_all [Entry.Alike, Entry.kind]
  have hlink : ∀ t, e' = .link t → spot.entry = some e' := by
    rintro t rfl
    cases e <;> simp_all [Entry.Alike]
  refine find_eq_ok_iff.mpr ⟨_, hk.locate hs he hlink, rfl, rfl, ?_⟩
  intro h0
  rw [hkind]
  exact hslash h0

/-- What is found on a part of a disk is found on the whole of it. -/
theorem Part.find (hp : Part d' d) {p : Path} {r : Location × Entry} (h : d'.find fl p = .ok r) :
    d.find fl p = .ok r := by
  obtain ⟨l, e⟩ := r
  obtain ⟨spot, hs, rfl, hspot, -⟩ := find_eq_ok_iff.mp h
  have hentry : d'.entryAt spot.location = some e :=
    (walk_ok (locate_eq_ok_iff.mp hs).2).1.trans hspot
  refine hp.keeps.ways.find h ?_ (.refl e)
  rcases hp.entry spot.location with h0 | h0
  · rw [hentry] at h0
    cases h0
  · rw [← h0, hentry]

/-- What is not on the whole of a disk is not on a part of it. -/
theorem Part.status (hp : Part d' d) {p : Path} {kind : EntryKind}
    (h : d'.status p = .ok kind) : d.status p = .ok kind := by
  obtain ⟨l, e, hf, rfl⟩ := status_eq_ok_iff.mp h
  exact status_of_find (hp.find hf)

/-! ### Links at the end -/

theorem not_link_of_walk (h : d.walk true links slash here names = .ok spot) (t : Path) :
    spot.entry ≠ some (.link t) := by
  induction links, here, names using way_induction d generalizing slash with
  | nil links here =>
    rw [walk_nil] at h
    split at h <;> cases h
    simp
  | current links here names ih => exact ih (by simpa using h)
  | parent links here names ih => exact ih (by simpa using h)
  | long links here name names hn hlong =>
    rw [walk_long hn hlong] at h
    cases h
  | missing links here name names hn hlong hnone =>
    rw [walk_missing hn hlong hnone] at h
    split at h <;> cases h
    simp
  | directory links here name names hn hlong hdir ih =>
    rw [walk_directory hn hlong hdir] at h
    exact ih h
  | file links here name names bytes hn hlong hfile =>
    rw [walk_file hn hlong hfile] at h
    split at h <;> cases h
    simp
  | noLink here name names target hn hlong hlink =>
    rw [walk_noLink hn hlong hlink, if_neg (by simp)] at h
    cases h
  | link links here name names target hn hlong hlink ih =>
    rw [walk_link hn hlong hlink, if_neg (by simp)] at h
    split at h
    · cases h
    · exact ih h

theorem status_ne_link {p : Path} : d.status p ≠ .ok .link := by
  intro h
  obtain ⟨l, e, hf, hk⟩ := status_eq_ok_iff.mp h
  obtain ⟨spot, hs, -, hentry, -⟩ := find_eq_ok_iff.mp hf
  cases e with
  | directory => cases hk
  | file b => cases hk
  | link t => exact not_link_of_walk (locate_eq_ok_iff.mp hs).2 t hentry

/-- Where a link at the end is not followed the walk ends at the same spot, or at this link, and then
the path has no slash. -/
theorem walk_unfollowed (h : d.walk true links slash here names = .ok spot) :
    ∃ spot', d.walk false links slash here names = .ok spot' ∧
      (spot' = spot ∨ (∃ t, spot'.entry = some (.link t)) ∧ spot'.slash = false) := by
  induction links, here, names using way_induction d generalizing slash with
  | nil links here =>
    rw [walk_nil] at h ⊢
    exact ⟨spot, h, .inl rfl⟩
  | current links here names ih => simpa using ih (by simpa using h)
  | parent links here names ih => simpa using ih (by simpa using h)
  | long links here name names hn hlong =>
    rw [walk_long hn hlong] at h
    cases h
  | missing links here name names hn hlong hnone =>
    rw [walk_missing hn hlong hnone] at h ⊢
    exact ⟨spot, h, .inl rfl⟩
  | directory links here name names hn hlong hdir ih =>
    rw [walk_directory hn hlong hdir] at h ⊢
    exact ih h
  | file links here name names bytes hn hlong hfile =>
    rw [walk_file hn hlong hfile] at h ⊢
    exact ⟨spot, h, .inl rfl⟩
  | noLink here name names target hn hlong hlink =>
    rw [walk_noLink hn hlong hlink, if_neg (by simp)] at h
    cases h
  | link links here name names target hn hlong hlink ih =>
    rw [walk_link hn hlong hlink, if_neg (by simp)] at h
    rw [walk_link hn hlong hlink]
    split at h
    · cases h
    · rename_i ht
      by_cases hend : names = [] ∧ !false ∧ !slash
      · rw [if_pos hend]
        exact ⟨_, rfl, .inr ⟨⟨target, rfl⟩, by simpa using hend.2⟩⟩
      · rw [if_neg hend, if_neg ht]
        exact ih h

theorem locate_unfollowed {p : Path} (h : d.locate true p = .ok spot) :
    ∃ spot', d.locate false p = .ok spot' ∧
      (spot' = spot ∨ (∃ t, spot'.entry = some (.link t)) ∧ spot'.slash = false) := by
  obtain ⟨hc, hw⟩ := locate_eq_ok_iff.mp h
  obtain ⟨spot', hw', hspot⟩ := walk_unfollowed hw
  exact ⟨spot', locate_eq_ok_iff.mpr ⟨hc, hw'⟩, hspot⟩

/-- What is found where a path leads to a directory, this directory or a link to it, was found before, as
long as the ways are kept. -/
theorem KeepsWays.find_back (hk : KeepsWays d d') {p : Path} {k : Nat} {top : Location}
    (hl : d.Leads p k top) (hd : d.entryAt top = some .directory) {r : Location × Entry}
    (h : d'.find false p = .ok r) : d.find false p = .ok r := by
  obtain ⟨hc, -⟩ := find_ok h
  obtain ⟨spot, hs, rfl, hentry, hslash⟩ := find_eq_ok_iff.mp (find_directory hl hd hc)
  obtain ⟨spot', hs', hspot⟩ := locate_unfollowed hs
  have hplace := (walk_ok (locate_eq_ok_iff.mp hs').2).1
  have hfound : ∃ e, d.find false p = .ok (spot'.location, e) ∧ d'.entryAt spot'.location = some e := by
    rcases hspot with rfl | ⟨⟨t, ht⟩, hfalse⟩
    · exact ⟨_, find_eq_ok_iff.mpr ⟨_, hs', rfl, hentry, hslash⟩, hk.directory _ hd⟩
    · exact ⟨_, find_eq_ok_iff.mpr ⟨_, hs', rfl, ht, by simp [hfalse]⟩,
        hk.link _ _ (hplace.trans ht)⟩
  obtain ⟨e, hfind, he⟩ := hfound
  rw [hfind, ← h, hk.find hfind he (.refl e)]

/-! ### Changes and the ways -/

/-- A file that is written leaves the ways open. -/
theorem write_ok {p : Path} {bytes : ByteArray} (h : d.write p bytes = .ok d') :
    ∃ spot, d.locate true p = .ok spot ∧ spot.slash = false ∧ spot.location ≠ [] ∧
      d.entryAt spot.location ≠ some .directory ∧
      (∀ t, d.entryAt spot.location ≠ some (.link t)) ∧
      d' = d.put spot.location (.file bytes) := by
  cases hs : d.locate true p with
  | error f => simp [write, hs, bind, Except.bind] at h
  | ok spot =>
    have hw := (locate_eq_ok_iff.mp hs).2
    have hentry := (walk_ok hw).1
    by_cases hc : spot.slash ∨ spot.kind? = some .directory
    · simp [write, hs, hc, bind, Except.bind, throw, throwThe, MonadExceptOf.throw] at h
    · simp only [write, hs, bind, Except.bind, if_neg hc, pure, Except.pure, Except.ok.injEq] at h
      have hdir : d.entryAt spot.location ≠ some .directory := by
        intro h0
        rw [hentry] at h0
        exact hc (.inr (by simp [Spot.kind?, h0, Entry.kind]))
      refine ⟨spot, rfl, by simpa using fun h0 => hc (.inl h0), ?_, hdir, ?_, h.symm⟩
      · intro h0
        rw [h0] at hdir
        exact hdir (entryAt_root d)
      · intro t h0
        rw [hentry] at h0
        exact not_link_of_walk hw t h0

theorem keepsWays_write {p : Path} {bytes : ByteArray} (h : d.write p bytes = .ok d') :
    KeepsWays d d' := by
  obtain ⟨spot, -, -, hne, hdir, hlink, rfl⟩ := write_ok h
  exact .put_file hne bytes hdir hlink

/-- A file that has been written is found at its path; a link that leads to it is found instead, if it
is not followed. -/
theorem find_written {p : Path} {bytes : ByteArray} (h : d.write p bytes = .ok d') :
    ∃ l e, d'.find false p = .ok (l, e) ∧ e ≠ .directory := by
  have hkeep := keepsWays_write h
  obtain ⟨spot, hs, hslash, hne, hdir, hlink, rfl⟩ := write_ok h
  obtain ⟨spot', hs', rfl | ⟨⟨t, ht⟩, hslash'⟩⟩ := locate_unfollowed hs
  · have hfile := (entryAt_put d hne (.file bytes) spot'.location).trans (if_pos rfl)
    refine ⟨_, _, find_eq_ok_iff.mpr ⟨_, hkeep.locate hs' hfile (by simp), rfl, rfl, ?_⟩, by simp⟩
    intro h0
    rw [hslash] at h0
    cases h0
  · have hentry := (walk_ok (locate_eq_ok_iff.mp hs').2).1
    have hthere := hkeep.link spot'.location t (hentry.trans ht)
    refine ⟨_, _, find_eq_ok_iff.mpr ⟨_, hkeep.locate hs' hthere ?_, rfl, rfl, ?_⟩, by simp⟩
    · intro _ _
      exact ht
    · intro h0
      rw [hslash'] at h0
      cases h0

/-- What is renamed is a file or link, and neither a directory nor a slash is in its way. -/
theorem rename_ok {p new : Path} (h : d.rename p new = .ok d') :
    ∃ l e spot, d.find false p = .ok (l, e) ∧ d.locate false new = .ok spot ∧ e ≠ .directory ∧
      d.entryAt spot.location ≠ some .directory ∧ spot.slash = false ∧
      d' = if spot.location = l then d else (d.erase l).put spot.location e := by
  cases hf : d.find false p with
  | error f => simp [rename, hf, bind, Except.bind] at h
  | ok r =>
    obtain ⟨l, e⟩ := r
    cases hs : d.locate false new with
    | error f => simp [rename, hf, hs, bind, Except.bind] at h
    | ok spot =>
      have hentry := (walk_ok (locate_eq_ok_iff.mp hs).2).1
      simp only [rename, hf, hs, bind, Except.bind] at h
      split at h
      · cases h
      · rename_i hkind
        split at h
        · cases h
        · rename_i hdir
          split at h
          · cases h
          · rename_i hslash
            refine ⟨l, e, spot, rfl, rfl, ?_, ?_, by simpa using hslash, ?_⟩
            · rintro rfl
              exact hkind rfl
            · intro h0
              rw [hentry] at h0
              exact hdir (by simp [Spot.kind?, h0, Entry.kind])
            · split at h
              · rename_i hsame
                rw [if_pos hsame]
                exact (Except.ok.inj h).symm
              · rename_i hsame
                rw [if_neg hsame]
                exact (Except.ok.inj h).symm

/-- A file that has just been written is given another path, unless this one leads nowhere or to a
directory. -/
theorem status_of_rename_error {p new : Path} {bytes : ByteArray} {f : DiskFault} {kind : EntryKind}
    (hw : d.write p bytes = .ok d') (h : d'.rename p new = .error f)
    (hs : d'.status new = .ok kind) : kind = .directory := by
  obtain ⟨l, e, hfind, he⟩ := find_written hw
  obtain ⟨l', e', hnew, rfl⟩ := status_eq_ok_iff.mp hs
  obtain ⟨spot, hlocate, -, hentry, hslash⟩ := find_eq_ok_iff.mp hnew
  obtain ⟨spot', hlocate', hspot⟩ := locate_unfollowed hlocate
  have hkind : e.kind ≠ .directory := by
    intro h0
    cases e <;> simp_all [Entry.kind]
  by_contra hno
  -- nothing is left that could keep the file from its path
  have hfree : spot'.kind? ≠ some .directory ∧ spot'.slash = false := by
    rcases hspot with rfl | ⟨⟨t, ht⟩, hfalse⟩
    · refine ⟨by simpa [Spot.kind?, hentry] using hno, ?_⟩
      by_contra h0
      exact hno (hslash (by simpa using h0))
    · exact ⟨by simp [Spot.kind?, ht, Entry.kind], hfalse⟩
  simp only [rename, hfind, hlocate', bind, Except.bind, if_neg hkind, if_neg hfree.1, hfree.2,
    Bool.false_eq_true, if_false, pure, Except.pure] at h
  split at h <;> cases h

/-- What is found at the path of a directory that has just been made was not there before. -/
theorem entryAt_of_find_made {p : Path} {l : Location} {e : Entry} (h : d.makeDir p = .ok d')
    (hfind : d'.find false p = .ok (l, e)) : d.entryAt l = none := by
  obtain ⟨spot, hs, hnone, rfl⟩ := locate_of_makeDir h
  have hentry : d.entryAt spot.location = none := (walk_ok (locate_eq_ok_iff.mp hs).2).1.trans hnone
  have hne : spot.location ≠ [] := by
    intro h0
    rw [h0, entryAt_root] at hentry
    cases hentry
  have hdir := (entryAt_put d hne .directory spot.location).trans (if_pos rfl)
  have hadds : AddsDirs (fun _ => True) d (d.put spot.location .directory) := .put hne hentry trivial
  have hbare := hadds.keeps.ways.locate hs hdir (by simp)
  obtain ⟨k, hk⟩ := descend_of_walk_dir (locate_eq_ok_iff.mp hbare).2 rfl
  rw [namesOf_bare, startOf_bare] at hk
  obtain ⟨-, spot', hw, rfl, he⟩ := find_ok hfind
  obtain ⟨spot'', hw', hspot⟩ :=
    walk_of_descend false (decide (p.octets.getLast? = some Octet.slash)) hk hdir
  obtain rfl : spot' = spot'' := Except.ok.inj (hw.symm.trans hw')
  rcases hspot with ⟨hloc, -⟩ | ⟨-, hslash, t, ht⟩
  · rw [hloc]
    exact hentry
  · -- without a slash at its end the path is bare, and the directory is at its end itself
    rw [bare_of_no_slash (by simpa using hslash)] at hbare
    rw [(locate_eq_ok_iff.mp hbare).2] at hw
    cases hw
    cases ht

end ClassCensus.Disk
