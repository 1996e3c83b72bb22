import ClassCensus.Job
import ClassCensus.Proofs.Disk.Same
import Mathlib.Data.List.Nodup

/-!
# Disks without repeated locations

A disk lists each location once (`Distinct`), and whatever a job does, it still does
(`Job.distinct_run`). What such a disk lists below a directory is what lies there
(`Distinct.mem_entriesBelow`), and the order of its entries makes no difference to anything but
listings (`Distinct.same_of_perm`).
-/

namespace ClassCensus

namespace Disk

/-- No location is listed twice. -/
def Distinct (d : Disk) : Prop := (d.entries.map (·.1)).Nodup

instance (d : Disk) : Decidable d.Distinct :=
  inferInstanceAs (Decidable (d.entries.map (·.1)).Nodup)

/-! ### Entries and what lies at a location -/

namespace Distinct

variable {d d' : Disk} (h : d.Distinct)
include h

theorem mem_iff {l : Location} {e : Entry} (hl : l ≠ []) :
    (l, e) ∈ d.entries ↔ d.entryAt l = some e := by
  rw [entryAt, if_neg hl, Entries.mem_iff_find? h]

/-- The order in which entries are listed makes no difference to what lies where. -/
theorem same_of_perm (hp : d.entries.Perm d'.entries) (hhome : d'.home = d.home) : Same d d' := by
  have h' : d'.Distinct := (hp.map Prod.fst).nodup_iff.mp h
  refine ⟨hhome, fun l => ?_⟩
  by_cases hl : l = []
  · rw [hl, entryAt_root, entryAt_root]
  · have hentry : ∀ e, d'.entryAt l = some e ↔ d.entryAt l = some e := by
      intro e
      rw [← h.mem_iff hl, ← h'.mem_iff hl, hp.mem_iff]
    exact Option.ext fun e => hentry e

/-! ### Changes -/

theorem put (l : Location) (e : Entry) : (d.put l e).Distinct :=
  Entries.nodup_put l e d.entries h

theorem filter (p : Location × Entry → Bool) :
    Distinct { d with entries := d.entries.filter p } :=
  List.Nodup.sublist (List.filter_sublist.map Prod.fst) h

theorem erase (l : Location) : (d.erase l).Distinct := h.filter _

theorem eraseBelow (l : Location) : (d.eraseBelow l).Distinct := h.filter _

theorem makeDir {p : Path} (hm : d.makeDir p = .ok d') : d'.Distinct := by
  simp only [Disk.makeDir, bind, Except.bind] at hm
  split at hm
  · cases hm
  split at hm
  · cases hm
  split at hm <;> cases hm
  exact h.put _ _

theorem write {p : Path} {b : ByteArray} (hm : d.write p b = .ok d') : d'.Distinct := by
  simp only [Disk.write, bind, Except.bind] at hm
  split at hm
  · cases hm
  split at hm <;> cases hm
  exact h.put _ _

theorem rename {p q : Path} (hm : d.rename p q = .ok d') : d'.Distinct := by
  simp only [Disk.rename, bind, Except.bind] at hm
  iterate 5
    split at hm
    · cases hm
  split at hm <;> cases hm
  · exact h
  · exact (h.erase _).put _ _

theorem removeFile {p : Path} (hm : d.removeFile p = .ok d') : d'.Distinct := by
  simp only [Disk.removeFile, bind, Except.bind] at hm
  split at hm
  · cases hm
  split at hm <;> cases hm
  exact h.erase _

theorem removeEmptyDir {p : Path} (hm : d.removeEmptyDir p = .ok d') : d'.Distinct := by
  simp only [Disk.removeEmptyDir, bind, Except.bind] at hm
  split at hm
  · cases hm
  split at hm
  · cases hm
  split at hm
  · cases hm
  split at hm
  · cases hm
  split at hm
  · cases hm
  split at hm <;> cases hm
  exact h.erase _

theorem removeTree (p : Path) : (d.removeTree p).2.Distinct := by
  unfold Disk.removeTree
  split
  · exact h
  · dsimp only
    split
    · rename_i hr
      exact (h.eraseBelow _).removeEmptyDir hr
    · exact h.eraseBelow _
    · exact h.eraseBelow _
  · exact h.erase _
  · exact h

end Distinct

end Disk

/-! ### Steps and jobs -/

theorem World.distinct_perform {w : World} (h : w.disk.Distinct) (s : Step) :
    (w.perform s).2.disk.Distinct := by
  have hchange : ∀ r : Except DiskFault Disk, (∀ d, r = .ok d → d.Distinct) →
      (w.change r).2.disk.Distinct := by
    intro r hr
    cases r with
    | ok d => exact hr d rfl
    | error f => exact h
  cases s with
  | status p => exact h
  | linkStatus p => exact h
  | read p => exact h
  | list p => exact h
  | stamp => exact h
  | record e => exact h
  | makeDir p => exact hchange _ fun _ => h.makeDir
  | write p b => exact hchange _ fun _ => h.write
  | rename p q => exact hchange _ fun _ => h.rename
  | removeFile p => exact hchange _ fun _ => h.removeFile
  | removeTree p => exact h.removeTree p

/-- Whatever a job does, no location comes to be listed twice. -/
theorem Job.distinct_run {α : Type} (job : Job α) {w : World} (h : w.disk.Distinct) :
    (job.run w).2.disk.Distinct := by
  induction job generalizing w with
  | done a => exact h
  | step s k ih => exact ih _ (World.distinct_perform h s)

/-! ### Listings -/

namespace Disk

/-- What a listing shows below a location, with the kinds of the entries. -/
def entriesBelow (d : Disk) (top : Location) : List (Location × EntryKind) :=
  ((d.listing top).filter fun e => e.1 ≠ []).map fun e => (e.1, e.2.kind)

theorem Distinct.mem_entriesBelow {d : Disk} (h : d.Distinct) {top rest : Location}
    {kind : EntryKind} :
    (rest, kind) ∈ d.entriesBelow top ↔
      rest ≠ [] ∧ ∃ e, d.entryAt (top ++ rest) = some e ∧ e.kind = kind := by
  simp only [entriesBelow, listing, List.mem_map, List.mem_filter, List.mem_filterMap,
    Option.ite_none_right_eq_some, Option.some.injEq, decide_eq_true_eq]
  constructor
  · rintro ⟨⟨r, e⟩, ⟨⟨⟨l, e'⟩, hmem, hbelow, hpair⟩, hne⟩, hkind⟩
    obtain ⟨rest', rfl⟩ := List.isPrefixOf_iff_prefix.mp hbelow
    simp only [List.drop_left, Prod.mk.injEq] at hpair hkind hne
    obtain ⟨rfl, rfl⟩ := hpair
    obtain ⟨rfl, rfl⟩ := hkind
    exact ⟨hne, e', (h.mem_iff (by simp [hne])).mp hmem, rfl⟩
  · rintro ⟨hne, e, he, rfl⟩
    refine ⟨(rest, e), ⟨⟨(top ++ rest, e), (h.mem_iff (by simp [hne])).mpr he, ?_, ?_⟩, hne⟩, rfl⟩
    · exact List.isPrefixOf_iff_prefix.mpr (List.prefix_append ..)
    · simp

theorem entriesBelow_perm {d d' : Disk} (h : d.entries.Perm d'.entries) (top : Location) :
    (d.entriesBelow top).Perm (d'.entriesBelow top) :=
  ((h.filterMap _).filter _).map _

/-- A listing has the entries at and below a location in the order of the disk. -/
theorem listing_sublist (d : Disk) (top : Location) :
    ((d.listing top).map fun e => top ++ e.1).Sublist (d.entries.map (·.1)) := by
  unfold listing
  induction d.entries with
  | nil => exact .slnil
  | cons e es ih =>
    rw [List.filterMap_cons]
    by_cases hbelow : isBelow top e.1 = true
    · obtain ⟨rest, hrest⟩ := List.isPrefixOf_iff_prefix.mp hbelow
      have hlocation : top ++ e.1.drop top.length = e.1 := by
        rw [← hrest, List.drop_left]
      rw [if_pos hbelow, List.map_cons, List.map_cons, hlocation]
      exact ih.cons_cons _
    · rw [if_neg hbelow]
      exact ih.cons _

theorem Distinct.nodup_entriesBelow {d : Disk} (h : d.Distinct) (top : Location) :
    (d.entriesBelow top).Nodup := by
  have hlisting : ((d.listing top).map fun e => top ++ e.1).Nodup := h.sublist (listing_sublist d top)
  have hbelow : ((d.entriesBelow top).map fun e => top ++ e.1).Nodup := by
    rw [entriesBelow, List.map_map]
    exact hlisting.sublist (List.filter_sublist.map _)
  exact hbelow.of_map

/-- A link that a walk ends at is asked for itself, not the directory behind it. -/
theorem slash_of_walk_link {d : Disk} {fl : Bool} {links : Nat} {here : Location}
    {names : List Octets} {slash : Bool} {spot : Spot} {t : Path}
    (h : d.walk fl links slash here names = .ok spot) (hs : spot.entry = some (.link t)) :
    spot.slash = false := by
  induction links, here, names using way_induction d generalizing slash with
  | nil links here =>
    rw [walk_nil] at h
    split at h <;> cases h
    cases hs
  | current links here names ih => exact ih (by simpa using h)
  | parent links here names ih => exact ih (by simpa using h)
  | long links here name names hn hl =>
    rw [walk_long hn hl] at h
    cases h
  | missing links here name names hn hl he =>
    rw [walk_missing hn hl he] at h
    split at h <;> cases h
    cases hs
  | directory links here name names hn hl he ih =>
    rw [walk_directory hn hl he] at h
    exact ih h
  | file links here name names bytes hn hl he =>
    rw [walk_file hn hl he] at h
    split at h <;> cases h
    cases hs
  | noLink here name names target hn hl he =>
    rw [walk_noLink hn hl he] at h
    split at h
    · rename_i hc
      cases h
      simpa using hc.2.2
    · cases h
  | link links here name names target hn hl he ih =>
    rw [walk_link hn hl he] at h
    split at h
    · rename_i hc
      cases h
      simpa using hc.2.2
    · split at h
      · cases h
      · exact ih h

/-- The listing of a path that leads to a directory: the path itself, which may be a link, and
everything below the directory. -/
theorem list_of_find {d : Disk} {p : Path} {top : Location}
    (h : d.find true p = .ok (top, .directory)) :
    ∃ kind, kind ≠ .file ∧ d.list p = .ok (([], kind) :: d.entriesBelow top) := by
  obtain ⟨hc, spot, hw, hl, he⟩ := find_ok h
  obtain ⟨k, hd⟩ := descend_of_walk_dir hw he
  have htop : d.entryAt spot.location = some .directory := (walk_ok hw).1.trans he
  obtain ⟨first, hfirst, hcases⟩ := walk_of_descend false
    (decide (p.octets.getLast? = some Octet.slash)) hd htop
  have hlocate : d.locate false p = .ok first := by
    simp only [locate, hc, bind, Except.bind]
    exact hfirst
  have hself : ∃ l e, d.find false p = .ok (l, e) ∧ e.kind ≠ .file := by
    rcases hcases with ⟨-, hdir⟩ | ⟨-, -, t, hlink⟩
    · exact ⟨first.location, .directory, by
        simp [find, hlocate, hdir, Entry.kind, bind, Except.bind, pure, Except.pure], by
        simp [Entry.kind]⟩
    · exact ⟨first.location, .link t, by
        simp [find, hlocate, hlink, slash_of_walk_link hfirst hlink, bind, Except.bind, pure,
          Except.pure], by simp [Entry.kind]⟩
  obtain ⟨l, e, hself, hkind⟩ := hself
  refine ⟨e.kind, hkind, ?_⟩
  simp only [list, hself, h, bind, Except.bind, pure, Except.pure]
  rfl

end Disk

end ClassCensus
