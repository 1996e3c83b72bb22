import ClassCensus.Proofs.Disk.Same

/-!
# Clearing a place

A path with a name at its end is anchored if it leads to the directory of the name whatever lies at
that name (`Anchored`). Then everything at and below its place can be removed, and of what was there
nothing can be told any more (`Anchored.removeTree`, `Anchored.removeFile`).
-/

namespace ClassCensus.Disk

/-- The disk without what lies at a location and below it. -/
def without (d : Disk) (l : Location) : Disk := (d.eraseBelow l).erase l

theorem entryAt_without (d : Disk) {l : Location} (hl : l ≠ []) (k : Location) :
    (d.without l).entryAt k = if l <+: k then none else d.entryAt k := by
  rw [without, entryAt_erase _ hl, entryAt_eraseBelow]
  by_cases hk : k = l
  · rw [if_pos hk, hk, if_pos List.prefix_rfl]
  · rw [if_neg hk]
    simp only [ne_eq, hk, not_false_eq_true, and_true]

theorem not_concat_isPrefix (dir : Location) (name : Octets) : ¬dir ++ [name] <+: dir := by
  intro h
  have hlen := h.length_le
  rw [List.length_append, List.length_singleton] at hlen
  omega

theorem entryAt_without_above (d : Disk) (dir : Location) (name : Octets) :
    (d.without (dir ++ [name])).entryAt dir = d.entryAt dir := by
  rw [entryAt_without d (by simp), if_neg (not_concat_isPrefix dir name)]

theorem Part.without (d : Disk) (l : Location) : Part (d.without l) d :=
  (Part.erase (d.eraseBelow l) l).trans (.eraseBelow d l)

theorem Part.leads {d d' : Disk} (h : Part d' d) {p : Path} {k : Nat} {l : Location}
    (hl : d'.Leads p k l) : d.Leads p k l :=
  h.keeps.ways.leads hl

/-- Where no directory lies nothing lies below. -/
theorem IsTree.same_erase {d : Disk} (ht : d.IsTree) {l : Location} (hl : l ≠ [])
    (hd : d.entryAt l ≠ some .directory) : Same (d.without l) (d.erase l) := by
  refine ⟨rfl, fun k => ?_⟩
  rw [entryAt_erase d hl, entryAt_without d hl]
  by_cases hk : l <+: k
  · obtain ⟨rest, rfl⟩ := hk
    rw [if_pos (List.prefix_append ..)]
    by_cases hr : rest = []
    · rw [hr, List.append_nil, if_pos rfl]
    · rw [if_neg (by simp [hr]), ht.none_below hd hr]
  · have hne : k ≠ l := fun h0 => hk (h0 ▸ List.prefix_rfl)
    rw [if_neg hk, if_neg hne]

theorem IsTree.same_without {d : Disk} (ht : d.IsTree) {l : Location} (hl : l ≠ [])
    (he : d.entryAt l = none) : Same (d.without l) d := by
  refine ⟨rfl, fun k => ?_⟩
  rw [(ht.same_erase hl (by simp [he])).symm.entry, entryAt_erase d hl]
  split
  · rename_i hk
    rw [hk, he]
  · rfl

/-- A path leads to a directory, without going through anything at or below a name in it. -/
structure Anchored (d : Disk) (p : Path) (name : Octets) (links : Nat) (dir : Location) : Prop where
  leads : (d.without (dir ++ [name])).Leads p links dir
  directory : d.entryAt dir = some .directory

theorem bare_push (p : Path) {n : Octets} (hn : Path.IsName n) : bare (p.push n) = p.push n :=
  bare_of_no_slash (getLast_push p hn)

namespace Anchored

variable {d d' : Disk} {p : Path} {name : Octets} {links : Nat} {dir : Location}

theorem of_same (a : Anchored d p name links dir)
    (h : Same (d.without (dir ++ [name])) (d'.without (dir ++ [name]))) :
    Anchored d' p name links dir := by
  refine ⟨h.keepsWays.leads a.leads, ?_⟩
  rw [← entryAt_without_above d' dir name, h.entry, entryAt_without_above, a.directory]

section Place

variable (a : Anchored d p name links dir) (hname : Path.IsName name)
  (hc : checkPath (p.push name) = .ok ())

include a hname hc

theorem locate_long (hs : nameLimit < name.length) :
    d.locate false (p.push name) = .error .nameTooLong :=
  locate_push_long hname ((Part.without d _).leads a.leads) hc hs

variable (hs : ¬nameLimit < name.length)

include hs

/-- The path ends at its place on every disk that has the directory and the way to it. -/
theorem locate (hp : Part (d.without (dir ++ [name])) d')
    (hd : d'.entryAt dir = some .directory) :
    d'.locate false (p.push name) = .ok ⟨dir ++ [name], d'.entryAt (dir ++ [name]), false⟩ :=
  locate_push_place hname (hp.leads a.leads) hd hc hs (by simp)

theorem find_none (he : d.entryAt (dir ++ [name]) = none) :
    d.find false (p.push name) = .error .notFound := by
  simp only [find, a.locate hname hc hs (.without d _) a.directory, he, bind, Except.bind]
  rfl

theorem find_some {e : Entry} (he : d.entryAt (dir ++ [name]) = some e) :
    d.find false (p.push name) = .ok (dir ++ [name], e) := by
  simp [find, a.locate hname hc hs (.without d _) a.directory, he, bind, Except.bind, pure,
    Except.pure]

theorem removeFile {e : Entry} (he : d.entryAt (dir ++ [name]) = some e) (hd : e ≠ .directory) :
    d.removeFile (p.push name) = .ok (d.erase (dir ++ [name])) := by
  have hfind := a.find_some hname hc hs he
  cases e with
  | directory => exact absurd rfl hd
  | file b => simp [Disk.removeFile, hfind, bind, Except.bind, pure, Except.pure]
  | link t => simp [Disk.removeFile, hfind, bind, Except.bind, pure, Except.pure]

theorem removeTree (he : d.entryAt (dir ++ [name]) = some .directory) :
    d.removeTree (p.push name) = (.ok (), d.without (dir ++ [name])) := by
  have hplace := entryAt_eraseBelow d (dir ++ [name]) (dir ++ [name])
  have hdir := entryAt_eraseBelow d (dir ++ [name]) dir
  rw [if_neg (by simp), he] at hplace
  rw [if_neg fun h0 => not_concat_isPrefix dir name h0.1, a.directory] at hdir
  have hlocate := a.locate hname hc hs (Part.erase (d.eraseBelow (dir ++ [name])) _) hdir
  have hlast : lastPart? (p.push name) = some name := by
    rw [lastPart?, namesOf_push p hname, List.getLast?_append]
    rfl
  have hremoved : (d.eraseBelow (dir ++ [name])).removeEmptyDir (p.push name) =
      .ok (d.without (dir ++ [name])) := by
    simp only [removeEmptyDir, hc, bare_push p hname, hlocate, hlast, hplace, hname.ne_current,
      hname.ne_parent, if_false, bind, Except.bind]
    rfl
  simp only [Disk.removeTree, a.find_some hname hc hs he, hremoved]

/-- At a place that is clear a directory can be made. -/
theorem makeDir (hclear : Same (d.without (dir ++ [name])) d') :
    d'.makeDir (p.push name) = .ok (d'.put (dir ++ [name]) .directory) := by
  have hne : dir ++ [name] ≠ [] := by simp
  have hplace := hclear.entry (dir ++ [name])
  have hdir := hclear.entry dir
  rw [entryAt_without _ hne, if_pos List.prefix_rfl] at hplace
  rw [entryAt_without_above, a.directory] at hdir
  have hpart : Part (d.without (dir ++ [name])) d' :=
    ⟨hclear.home.symm, fun l => .inr (hclear.entry l).symm⟩
  simp only [Disk.makeDir, hc, bare_push p hname, a.locate hname hc hs hpart hdir, hplace, bind,
    Except.bind]
  rfl

end Place

end Anchored

end ClassCensus.Disk
