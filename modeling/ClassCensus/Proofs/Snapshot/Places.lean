import ClassCensus.Proofs.Disk.Obstacle
import ClassCensus.Proofs.Generation.Places
import ClassCensus.Proofs.Snapshot.Gather
import ClassCensus.Snapshot.Write

/-!
# Places for snapshots

The snapshot of a class lies at names below the classpath (`snapshotPath_eq`) that tell its class
(`snapshotNames_inj`). It fits if its path and the lengths of its names are within the limits of the
system (`snapshotFits_iff`).
-/

namespace ClassCensus

open Disk

/-! ### The path of a snapshot -/

/-- What stands before the suffix of a snapshot, with its first character. -/
theorem beforeSuffix?_snapshot {stem : String} (hne : stem ≠ "") :
    ∃ c cs, stem.toList = c :: cs ∧
      Text.beforeSuffix? snapshotSuffix.toList (stem ++ snapshotSuffix).toList = some (c :: cs) := by
  have hchars : stem.toList ≠ [] := fun h0 => hne (String.toList_eq_nil_iff.mp h0)
  obtain ⟨c, cs, hc⟩ := List.exists_cons_of_ne_nil hchars
  refine ⟨c, cs, hc, ?_⟩
  rw [Text.beforeSuffix?_eq_some, String.toList_append, hc]

theorem isSnapshotName_iff {name : Octets} :
    isSnapshotName name = true ↔
      ∃ stem : String, stem ≠ "" ∧ name = Text.bytesOf (stem ++ snapshotSuffix) := by
  constructor
  · intro h
    unfold isSnapshotName at h
    split at h
    · rename_i c cs hbefore
      obtain ⟨s, hs, hbefore⟩ := Option.bind_eq_some_iff.mp hbefore
      refine ⟨String.ofList (c :: cs), by simp, ?_⟩
      rw [Text.ofBytes?_eq_some_iff.mp hs, Text.bytesOf_inj, ← String.toList_inj,
        String.toList_append, String.toList_ofList, Text.beforeSuffix?_eq_some.mp hbefore]
    · cases h
  · intro h
    obtain ⟨stem, hne, rfl⟩ := h
    obtain ⟨c, cs, -, hbefore⟩ := beforeSuffix?_snapshot hne
    rw [isSnapshotName, Text.ofBytes?_bytesOf, Option.bind_some, hbefore]

/-- The name of the snapshot file of a class. -/
def snapshotName (className : String) : Octets := shortOf className ++ Text.bytesOf snapshotSuffix

/-- The names that lead from a classpath to the snapshot of a class. -/
def snapshotNames (className : String) : List Octets :=
  packageOf className ++ [snapshotName className]

section Names

variable {n : String} (hn : WellFormed n)

theorem snapshotName_eq (n : String) :
    snapshotName n = shortOf n ++ Octet.dot :: Text.bytesOf "class.json" := rfl

/-- A class name is told by the names of its snapshot. -/
theorem snapshotNames_inj {m : String} (h : snapshotNames n = snapshotNames m) : n = m := by
  obtain ⟨hpackage, hname⟩ := List.append_inj' h rfl
  exact eq_of_package_short hpackage (List.append_cancel_right (List.singleton_inj.mp hname))

/-- Something with a dot in its name is not part of a package. -/
theorem snapshotNames_not_isPrefix (m : String) : ¬snapshotNames m <+: packageOf n := by
  intro h
  have hmem : snapshotName m ∈ packageOf n := h.subset (by simp [snapshotNames])
  exact dot_not_mem_package hmem (by simp [snapshotName_eq])

include hn

theorem isName_snapshotName : Path.IsName (snapshotName n) := by
  rw [snapshotName_eq]
  exact Path.isName_withExtension hn.short.plain (by decide) (by decide)

theorem isName_of_mem_snapshotNames {s : Octets} (hs : s ∈ snapshotNames n) : Path.IsName s := by
  rcases List.mem_append.mp hs with hs | hs
  · exact hn.package hs
  · rw [List.mem_singleton.mp hs]
    exact isName_snapshotName hn

/-- The path of a snapshot is that of its names. -/
theorem snapshotPath_eq (classpath : Path) :
    snapshotPath classpath n = classpath.pushAll (snapshotNames n) := by
  have hpart : Text.bytesOf (Text.joinStrings "/" (Text.splitString '.' n) ++ snapshotSuffix) =
      Text.join [Octet.slash] (snapshotNames n) := by
    have hslash : Text.bytesOf "/" = [Octet.slash] := rfl
    rw [Text.bytesOf_append, Text.bytesOf_joinStrings, ← segmentsOf, segmentsOf_eq, snapshotNames,
      snapshotName, hslash, Text.join_concat_append]
  obtain ⟨first, rest, hcons⟩ := List.exists_cons_of_ne_nil
    (show snapshotNames n ≠ [] by simp [snapshotNames])
  have hfirst : Path.IsName first :=
    isName_of_mem_snapshotNames hn (by rw [hcons]; exact List.mem_cons_self ..)
  have hhead : (Text.join [Octet.slash] (snapshotNames n)).head? ≠ some Octet.slash := by
    rw [hcons, Text.head?_join hfirst.ne_nil]
    exact hfirst.head_ne
  rw [← Path.octets_inj, snapshotPath, hpart, classpath.octets_push_of_head hhead, snapshotNames,
    Path.pushAll_concat, Path.octets_pushAll_push classpath (fun s => hn.package)
      (isName_snapshotName hn)]

theorem isSnapshotName_snapshotName : isSnapshotName (snapshotName n) = true := by
  obtain ⟨front, last, -, -, hshort⟩ := exists_segments n
  refine isSnapshotName_iff.mpr ⟨last, ?_, ?_⟩
  · rintro rfl
    exact hn.short.ne_nil hshort
  · rw [snapshotName, hshort, Text.bytesOf_append]

end Names

/-- The package of a class is searched, unless a segment of it has the name of a directory that
never is. -/
theorem isSearched_packageOf {n : String} (h : Text.bytesOf "META-INF" ∉ packageOf n) :
    isSearched (packageOf n) = true := by
  unfold isSearched
  rw [List.all_eq_true]
  intro s hs
  obtain ⟨front, last, -, hpackage, -⟩ := exists_segments n
  obtain ⟨t, -, rfl⟩ := List.mem_map.mp (hpackage ▸ hs)
  have hdot : '.' ∉ t.toList := fun h0 =>
    dot_not_mem_package hs ((Text.mem_bytesOf_iff (by decide)).mpr h0)
  have hne : ∀ u : String, '.' ∈ u.toList → t ≠ u := by
    rintro u hu rfl
    exact hdot hu
  have hmeta : t ≠ "META-INF" := by
    rintro rfl
    exact h hs
  simp [excludedDirectories, hne ".git" (by decide), hne ".idea" (by decide), hmeta]

/-! ### Room for a snapshot -/

/-- The snapshot of a class fits below a classpath: entries can have its names, and its path is not
too long. -/
structure SnapshotFits (classpath : Path) (n : String) : Prop where
  named : ∀ s ∈ snapshotNames n, IsFileName s
  within : WithinLimit classpath (snapshotNames n)

instance (classpath : Path) (n : String) : Decidable (SnapshotFits classpath n) :=
  decidable_of_iff ((∀ s ∈ snapshotNames n, IsFileName s) ∧
      (classpath.pushAll (snapshotNames n)).octets.length < pathLimit)
    ⟨fun h => ⟨h.1, h.2⟩, fun h => ⟨h.named, h.within⟩⟩

/-- Whether a snapshot fits is told by its path and the lengths of its names. -/
theorem snapshotFits_iff {classpath : Path} (hnul : Octet.nul ∉ classpath.octets) {n : String}
    (hn : WellFormed n) :
    SnapshotFits classpath n ↔ checkPath (classpath.pushAll (snapshotNames n)) = .ok () ∧
      ∀ s ∈ snapshotNames n, ¬nameLimit < s.length := by
  have hnames : ∀ s ∈ snapshotNames n, Path.IsName s := fun s => isName_of_mem_snapshotNames hn
  constructor
  · intro h
    refine ⟨(checkPath_ok_iff _).mpr ⟨?_, ?_, h.within⟩, fun s hs => (h.named s hs).short⟩
    · exact nul_not_mem_pushAll hnul h.named
    · rw [snapshotNames, Path.pushAll_concat]
      exact Path.octets_push_ne _ (isName_snapshotName hn)
  · rintro ⟨hpath, hshort⟩
    obtain ⟨hnul, -, hlimit⟩ := (checkPath_ok_iff _).mp hpath
    exact ⟨fun s hs => ⟨hnames s hs, fun h0 => hnul (mem_pushAll hnames hs h0), hshort s hs⟩,
      hlimit⟩

end ClassCensus
