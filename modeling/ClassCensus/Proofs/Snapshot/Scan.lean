import ClassCensus.Proofs.Snapshot.Classpath

/-!
# Scanning a classpath

A scan finds the snapshots of a classpath and nothing else, each of them once and in the order of
the paths (`IsClasspath.pairwise_before`), and it can name the class of every one of them from its
place (`snapshotClassName?_pushAll`).
-/

namespace ClassCensus

open Disk

/-! ### The names of snapshots -/

namespace Path

theorem componentsBelow?_eq_some_iff {base p : Path} {rest : List Component} :
    base.componentsBelow? p = some rest ↔ p.components = base.components ++ rest := by
  unfold componentsBelow?
  generalize base.components = bs
  generalize p.components = cs
  induction bs generalizing cs with
  | nil => simp [componentsBelow?.go]
  | cons b bs ih =>
    cases cs with
    | nil => simp [componentsBelow?.go]
    | cons c cs =>
      by_cases hbc : b = c
      · simp [componentsBelow?.go, hbc, ih]
      · simp [componentsBelow?.go, hbc, Ne.symm hbc]

end Path

/-- Whether the place of a file tells the name of a class is told by the name of the file as it is
shown. -/
theorem isSome_snapshotClassName?_pushAll (classpath : Path) {dirs : List Octets} {name : Octets}
    (hnames : ∀ n ∈ dirs ++ [name], Path.IsName n) :
    (snapshotClassName? classpath (classpath.pushAll (dirs ++ [name]))).isSome = true ↔
      ∃ stem, stem ≠ "" ∧ Text.shown name = stem ++ snapshotSuffix := by
  have hbelow : classpath.componentsBelow? (classpath.pushAll (dirs ++ [name])) =
      some (dirs.map Component.name ++ [.name name]) := by
    rw [Path.componentsBelow?_eq_some_iff, Path.components_pushAll classpath hnames,
      List.map_append, List.map_singleton]
  unfold snapshotClassName?
  rw [hbelow]
  simp only [Option.bind_eq_bind, Option.bind_some, List.getLast?_concat, Component.text]
  constructor
  · intro h
    split at h
    · rename_i c cs hbefore
      refine ⟨String.ofList (c :: cs), by simp, ?_⟩
      rw [← String.toList_inj, String.toList_append, String.toList_ofList,
        Text.beforeSuffix?_eq_some.mp hbefore]
    · cases h
  · rintro ⟨stem, hne, hshown⟩
    obtain ⟨c, cs, -, hbefore⟩ := beforeSuffix?_snapshot hne
    rw [hshown, hbefore]
    rfl

/-- A file is a snapshot if its place tells the name of a class and its own name is a text. -/
theorem isSnapshotName_iff_named (classpath : Path) {dirs : List Octets} {name : Octets}
    (hnames : ∀ n ∈ dirs ++ [name], Path.IsName n) :
    isSnapshotName name = true ↔ (Text.ofBytes? name).isSome = true ∧
      (snapshotClassName? classpath (classpath.pushAll (dirs ++ [name]))).isSome = true := by
  rw [isSome_snapshotClassName?_pushAll classpath hnames, isSnapshotName_iff]
  constructor
  · rintro ⟨stem, hne, rfl⟩
    rw [Text.ofBytes?_bytesOf, Text.shown_bytesOf]
    exact ⟨rfl, stem, hne, rfl⟩
  · rintro ⟨htext, stem, hne, hshown⟩
    obtain ⟨s, hs⟩ := Option.isSome_iff_exists.mp htext
    rw [Text.ofBytes?_eq_some_iff.mp hs, Text.shown_bytesOf] at hshown
    exact ⟨stem, hne, by rw [Text.ofBytes?_eq_some_iff.mp hs, hshown]⟩

/-- A file that is no snapshot, at a place that tells the name of a class. -/
example :
    let name : Octets := 0xFF :: Text.bytesOf ".class.json"
    isSnapshotName name = false ∧
      snapshotClassName? ⟨"cp"⟩ ((Path.mk "cp").push name) = some "\uFFFD" := by
  decide +kernel

/-- The class whose snapshot has a stem before the suffix and lies in directories. What does not
belong to a text in the name of a directory is replaced. -/
def placedName (dirs : List Octets) (stem : String) : String :=
  Text.joinStrings "." (dirs.map Text.shown ++ [stem])

/-- The names that lead to a snapshot. -/
def placedNames (dirs : List Octets) (stem : String) : List Octets :=
  dirs ++ [Text.bytesOf (stem ++ snapshotSuffix)]

/-- The place of a snapshot tells the name of its class. -/
theorem snapshotClassName?_pushAll (classpath : Path) {dirs : List Octets} {stem : String}
    (hne : stem ≠ "") (hnames : ∀ n ∈ placedNames dirs stem, Path.IsName n) :
    snapshotClassName? classpath (classpath.pushAll (placedNames dirs stem)) =
      some (placedName dirs stem) := by
  have hbelow : classpath.componentsBelow? (classpath.pushAll (placedNames dirs stem)) =
      some (dirs.map Component.name ++ [.name (Text.bytesOf (stem ++ snapshotSuffix))]) := by
    rw [Path.componentsBelow?_eq_some_iff, Path.components_pushAll classpath hnames, placedNames,
      List.map_append, List.map_singleton]
  obtain ⟨c, cs, hc, hbefore⟩ := beforeSuffix?_snapshot hne
  have hstem : String.ofList (c :: cs) = stem := by rw [← hc, String.ofList_toList]
  have hdirs : (dirs.map Component.name).map Component.text = dirs.map Text.shown := by
    rw [List.map_map]
    rfl
  unfold snapshotClassName?
  rw [hbelow]
  simp only [Option.bind_eq_bind, Option.bind_some, List.getLast?_concat, Component.text,
    Text.shown_bytesOf, hbefore, List.dropLast_concat, hdirs, hstem]
  rfl

theorem snapshotClassName?_snapshotPath (classpath : Path) {n : String} (hn : WellFormed n) :
    snapshotClassName? classpath (snapshotPath classpath n) = some n := by
  obtain ⟨front, last, hsplit, hpackage, hshort⟩ := exists_segments n
  have hplaced : snapshotNames n = placedNames (packageOf n) last := by
    rw [snapshotNames, snapshotName, hshort, placedNames, Text.bytesOf_append]
  have hfront : (packageOf n).map Text.shown = front := by
    rw [hpackage, List.map_map]
    exact (List.map_congr_left fun s _ => Text.shown_bytesOf s).trans (List.map_id _)
  have hname : placedName (packageOf n) last = n := by
    have hdot : ".".toList = ['.'] := by simp
    rw [placedName, hfront, ← hsplit, ← String.toList_inj, Text.toList_joinStrings, hdot,
      Text.join_splitString]
  have hlast : last ≠ "" := by
    rintro rfl
    exact hn.short.ne_nil hshort
  rw [snapshotPath_eq hn, hplaced, snapshotClassName?_pushAll classpath hlast, hname]
  rw [← hplaced]
  exact fun s => isName_of_mem_snapshotNames hn

/-! ### What a scan finds -/

/-- A regular file below a directory with the name of a snapshot, in directories that are
searched. -/
structure SnapshotFile (d : Disk) (top : Location) (dirs : List Octets) (stem : String)
    (bytes : ByteArray) : Prop where
  file : d.entryAt (top ++ placedNames dirs stem) = some (.file bytes)
  stem_ne : stem ≠ ""
  searched : ∀ dir ∈ dirs, dir ≠ Text.bytesOf ".git" ∧ dir ≠ Text.bytesOf ".idea" ∧
    dir ≠ Text.bytesOf "META-INF"

theorem isSearched_iff {dirs : List Octets} :
    isSearched dirs = true ↔ ∀ dir ∈ dirs, dir ≠ Text.bytesOf ".git" ∧
      dir ≠ Text.bytesOf ".idea" ∧ dir ≠ Text.bytesOf "META-INF" := by
  have hexcluded : ∀ dir : Octets, (!(Text.ofBytes? dir).any excludedDirectories.contains) = true ↔
      dir ≠ Text.bytesOf ".git" ∧ dir ≠ Text.bytesOf ".idea" ∧ dir ≠ Text.bytesOf "META-INF" := by
    intro dir
    simp only [← Text.ofBytes?_eq_some_iff, excludedDirectories, ne_eq]
    cases Text.ofBytes? dir <;> simp
  rw [isSearched, List.all_eq_true]
  exact forall₂_congr fun dir _ => hexcluded dir

theorem snapshotAt_iff {d : Disk} {top : Location} {names : List Octets} {bytes : ByteArray} :
    SnapshotAt d top names bytes ↔
      ∃ dirs stem, SnapshotFile d top dirs stem bytes ∧ names = placedNames dirs stem := by
  constructor
  · intro hat
    obtain ⟨n, hn, hnamed⟩ := hat.named
    obtain ⟨dirs, rfl⟩ := List.getLast?_eq_some_iff.mp hn
    obtain ⟨stem, hne, rfl⟩ := isSnapshotName_iff.mp hnamed
    have hsearched := hat.searched
    rw [List.dropLast_concat, isSearched_iff] at hsearched
    exact ⟨dirs, stem, ⟨hat.file, hne, hsearched⟩, rfl⟩
  · intro h
    obtain ⟨dirs, stem, hfile, rfl⟩ := h
    refine ⟨hfile.file, ⟨Text.bytesOf (stem ++ snapshotSuffix), by simp [placedNames], ?_⟩, ?_⟩
    · exact isSnapshotName_iff.mpr ⟨stem, hfile.stem_ne, rfl⟩
    · rw [placedNames, List.dropLast_concat, isSearched_iff]
      exact hfile.searched

namespace IsClasspath

variable {d : Disk} {classpath : Path} {top : Location} (h : IsClasspath d classpath top)
include h

theorem mem_gathered_iff {p : Path} :
    p ∈ gathered d classpath top ↔
      ∃ dirs stem bytes, SnapshotFile d top dirs stem bytes ∧
        p = classpath.pushAll (placedNames dirs stem) := by
  rw [h.mem_gathered]
  constructor
  · intro hp
    obtain ⟨names, bytes, hat, rfl⟩ := hp
    obtain ⟨dirs, stem, hfile, rfl⟩ := snapshotAt_iff.mp hat
    exact ⟨dirs, stem, bytes, hfile, rfl⟩
  · intro hp
    obtain ⟨dirs, stem, bytes, hfile, rfl⟩ := hp
    exact ⟨_, bytes, snapshotAt_iff.mpr ⟨dirs, stem, hfile, rfl⟩, rfl⟩

theorem nodup_gathered : (gathered d classpath top).Nodup := by
  rw [gathered, snapshotsIn, (sortPaths_perm _).nodup_iff]
  refine List.Nodup.map_on ?_ ((h.distinct.nodup_entriesBelow top).filter _)
  intro a ha b hb hpath
  -- of two entries with one path both are snapshots, and then they have the same names
  have hsnapshot : ∀ e ∈ (d.entriesBelow top).filter (isSnapshotEntry classpath),
      e.2 = .file ∧ ∃ bytes, SnapshotAt d top e.1 bytes := by
    intro e he
    obtain ⟨hbelow, hentry⟩ := List.mem_filter.mp he
    obtain ⟨names, kind⟩ := e
    obtain ⟨hne, e, hat, rfl⟩ := h.distinct.mem_entriesBelow.mp hbelow
    obtain ⟨bytes, hsnapshot⟩ := (h.isSnapshotEntry_iff hne hat).mp hentry
    have hfile := hat.symm.trans hsnapshot.file
    rw [Option.some.inj hfile]
    exact ⟨rfl, bytes, hsnapshot⟩
  obtain ⟨hakind, abytes, haat⟩ := hsnapshot a ha
  obtain ⟨hbkind, bbytes, hbat⟩ := hsnapshot b hb
  exact Prod.ext (h.names_eq haat hbat (congrArg Path.components hpath))
    (hakind.trans hbkind.symm)

/-- Each snapshot is gathered once, and of two of them the one with the lesser path first. -/
theorem pairwise_before : (gathered d classpath top).Pairwise Path.Before := by
  have hsorted := (pairwise_gathered d classpath top).and h.nodup_gathered
  refine hsorted.imp_of_mem ?_
  intro p q hp hq hpq
  obtain ⟨hnot, hne⟩ := hpq
  obtain ⟨names, bytes, hat, rfl⟩ := h.mem_gathered.mp hp
  obtain ⟨others, bytes', hat', rfl⟩ := h.mem_gathered.mp hq
  have hnames : names ≠ others := fun heq => hne (by rw [heq])
  exact (Path.before_or_before (h.isName hat.file) (h.isName hat'.file) hnames).resolve_right hnot

theorem snapshotClassName?_gathered {dirs : List Octets} {stem : String} {bytes : ByteArray}
    (hfile : SnapshotFile d top dirs stem bytes) :
    snapshotClassName? classpath (classpath.pushAll (placedNames dirs stem)) =
      some (placedName dirs stem) :=
  snapshotClassName?_pushAll classpath hfile.stem_ne (h.isName hfile.file)

theorem map_snapshotClassName? :
    (gathered d classpath top).map (snapshotClassName? classpath) =
      (snapshotClassNames classpath (gathered d classpath top)).map some := by
  have hnamed : ∀ p ∈ gathered d classpath top, (snapshotClassName? classpath p).isSome = true := by
    intro p hp
    obtain ⟨names, bytes, hat, rfl⟩ := h.mem_gathered.mp hp
    obtain ⟨n, hn, hnamed⟩ := hat.named
    obtain ⟨dirs, rfl⟩ := List.getLast?_eq_some_iff.mp hn
    exact ((isSnapshotName_iff_named classpath (h.isName hat.file)).mp hnamed).2
  unfold snapshotClassNames
  generalize gathered d classpath top = files at hnamed ⊢
  induction files with
  | nil => rfl
  | cons p files ih =>
    obtain ⟨n, hn⟩ := Option.isSome_iff_exists.mp (hnamed p (List.mem_cons_self ..))
    have hrest := ih fun q hq => hnamed q (List.mem_cons_of_mem _ hq)
    rw [List.map_cons, hrest, List.filterMap_cons, hn, List.map_cons]

theorem mem_snapshotClassNames {n : String} :
    n ∈ snapshotClassNames classpath (gathered d classpath top) ↔
      ∃ dirs stem bytes, SnapshotFile d top dirs stem bytes ∧ placedName dirs stem = n := by
  unfold snapshotClassNames
  rw [List.mem_filterMap]
  constructor
  · intro hn
    obtain ⟨p, hp, hname⟩ := hn
    obtain ⟨dirs, stem, bytes, hfile, rfl⟩ := h.mem_gathered_iff.mp hp
    rw [h.snapshotClassName?_gathered hfile] at hname
    exact ⟨dirs, stem, bytes, hfile, Option.some.inj hname⟩
  · intro hn
    obtain ⟨dirs, stem, bytes, hfile, rfl⟩ := hn
    exact ⟨_, h.mem_gathered_iff.mpr ⟨dirs, stem, bytes, hfile, rfl⟩,
      h.snapshotClassName?_gathered hfile⟩

end IsClasspath

section Gathering

variable {w : World} {classpath : Path} {top : Location} (h : IsClasspath w.disk classpath top)
include h

theorem gatherSnapshots_ok_iff {files : List Path} :
    ((gatherSnapshots classpath).run w).1 = .ok files ↔
      Searchable w.disk classpath top ∧ gathered w.disk classpath top = files := by
  obtain ⟨-, ⟨hsearch, hr⟩ | ⟨hsearch, e, hr⟩⟩ := (ensures_gatherSnapshots h).result
  · simp [hr, hsearch]
  · simp [hr, hsearch]

/-- The order in which the entries of a disk are listed makes no difference to a scan. -/
theorem gatherSnapshots_ok_iff_of_perm {d : Disk} (hp : w.disk.entries.Perm d.entries)
    (hhome : d.home = w.disk.home) {files : List Path} :
    ((gatherSnapshots classpath).run { w with disk := d }).1 = .ok files ↔
      ((gatherSnapshots classpath).run w).1 = .ok files := by
  have hsame := h.distinct.same_of_perm hp hhome
  have hsearch : Searchable d classpath top ↔ Searchable w.disk classpath top :=
    ⟨.of_same hsame.symm, .of_same hsame⟩
  rw [gatherSnapshots_ok_iff h, gatherSnapshots_ok_iff (w := { w with disk := d })
    (h.of_perm hp hhome), hsearch, h.gathered_eq_of_perm hp]

end Gathering

/-- Every snapshot describes a class that has the name told by the place of the snapshot. -/
def DeclaredInPlace (d : Disk) (classpath : Path) (top : Location) : Prop :=
  ∀ dirs stem bytes, SnapshotFile d top dirs stem bytes →
    ∃ c, ClassDef.ofBytes? bytes = some c ∧
      snapshotClassName? classpath (classpath.pushAll (placedNames dirs stem)) = some c.name

namespace SnapshotEngine

section InPlace

variable {w : World} {classpath : Path} {top : Location} (h : IsClasspath w.disk classpath top)
  (hplaces : DeclaredInPlace w.disk classpath top)
include h hplaces

/-- With all classes in their places, only a path that is too long keeps a searchable classpath
from being loaded. -/
theorem loadable_in_place (hsearch : Searchable w.disk classpath top) :
    Loadable w.disk classpath top ↔
      ∀ p ∈ gathered w.disk classpath top, p.octets.length < pathLimit := by
  constructor
  · intro hl p hp
    obtain ⟨names, bytes, hat, rfl⟩ := h.mem_gathered.mp hp
    exact (hl.described names bytes hat).1
  · intro hshort
    refine ⟨hsearch, ?_⟩
    intro names bytes hat
    refine ⟨hshort _ (h.mem_gathered.mpr ⟨names, bytes, hat, rfl⟩), ?_⟩
    obtain ⟨dirs, stem, hfile, rfl⟩ := snapshotAt_iff.mp hat
    obtain ⟨c, hc, -⟩ := hplaces dirs stem bytes hfile
    rw [hc]
    rfl

/-- With all classes in their places, the scan names those that are loaded. -/
theorem mem_classNames_in_place (hl : Loadable w.disk classpath top) {n : String} :
    n ∈ ClassEngine.classNames (ofClasses (w.disk.loaded (gathered w.disk classpath top))) ↔
      n ∈ snapshotClassNames classpath (gathered w.disk classpath top) := by
  have hplaced : ∀ dirs stem bytes, SnapshotFile w.disk top dirs stem bytes →
      ∃ c, ClassDef.ofBytes? bytes = some c ∧ placedName dirs stem = c.name := by
    intro dirs stem bytes hfile
    obtain ⟨c, hc, hname⟩ := hplaces dirs stem bytes hfile
    rw [h.snapshotClassName?_gathered hfile] at hname
    exact ⟨c, hc, Option.some.inj hname⟩
  rw [mem_classNames_loaded h hl, h.mem_snapshotClassNames]
  constructor
  · intro hn
    obtain ⟨names, c, ⟨bytes, hat, hc⟩, rfl⟩ := hn
    obtain ⟨dirs, stem, hfile, rfl⟩ := snapshotAt_iff.mp hat
    obtain ⟨c', hc', hname⟩ := hplaced dirs stem bytes hfile
    obtain rfl : c = c' := Option.some.inj (hc.symm.trans hc')
    exact ⟨dirs, stem, bytes, hfile, hname⟩
  · intro hn
    obtain ⟨dirs, stem, bytes, hfile, rfl⟩ := hn
    obtain ⟨c, hc, hname⟩ := hplaced dirs stem bytes hfile
    exact ⟨_, c, ⟨bytes, snapshotAt_iff.mpr ⟨dirs, stem, hfile, rfl⟩, hc⟩, hname.symm⟩

end InPlace

/-- A scan finds the snapshots of a classpath, if all directories that it searches can be opened. It
finds each of them once, in the order of the paths and whatever the order in which the disk lists its
entries, and it names the class of each. If every snapshot describes the class that is named so and
these names are different, the engine of the classpath has the classes with these names. -/
theorem scan_finds_and_names :
    (∀ {w : World} {classpath : Path} {top : Location}, IsClasspath w.disk classpath top →
      -- whether the scan comes to its end
      ((∃ files, ((gatherSnapshots classpath).run w).1 = .ok files) ↔
          Searchable w.disk classpath top) ∧
      (∀ d, w.disk.entries.Perm d.entries → d.home = w.disk.home → ∀ files,
        ((gatherSnapshots classpath).run { w with disk := d }).1 = .ok files ↔
          ((gatherSnapshots classpath).run w).1 = .ok files) ∧
      ∀ files, ((gatherSnapshots classpath).run w).1 = .ok files →
        -- the files
        files.Pairwise Path.Before ∧ files.Nodup ∧
        (∀ p, p ∈ files ↔ ∃ dirs stem bytes, SnapshotFile w.disk top dirs stem bytes ∧
          p = classpath.pushAll (placedNames dirs stem)) ∧
        -- their names
        files.map (snapshotClassName? classpath) =
          (snapshotClassNames classpath files).map some ∧
        (∀ dirs stem bytes, SnapshotFile w.disk top dirs stem bytes →
          snapshotClassName? classpath (classpath.pushAll (placedNames dirs stem)) =
            some (placedName dirs stem)) ∧
        -- the engine
        (DeclaredInPlace w.disk classpath top → (snapshotClassNames classpath files).Nodup →
          ((∃ e, Loads classpath w e) ↔ ∀ p ∈ files, p.octets.length < pathLimit) ∧
          ∀ e, Loads classpath w e →
            (snapshotClassNames classpath files).Perm (ClassEngine.classNames e))) ∧
    ∀ (classpath : Path) {n : String}, WellFormed n →
      snapshotClassName? classpath (snapshotPath classpath n) = some n := by
  refine ⟨?_, fun classpath n hn => snapshotClassName?_snapshotPath classpath hn⟩
  intro w classpath top h
  refine ⟨?_, fun d hp hhome files => gatherSnapshots_ok_iff_of_perm h hp hhome, ?_⟩
  · simp only [gatherSnapshots_ok_iff h, exists_and_left, exists_eq', and_true]
  · intro files hfiles
    obtain ⟨hsearch, rfl⟩ := (gatherSnapshots_ok_iff h).mp hfiles
    refine ⟨h.pairwise_before, h.nodup_gathered, fun p => h.mem_gathered_iff,
      h.map_snapshotClassName?, fun dirs stem bytes => h.snapshotClassName?_gathered, ?_⟩
    intro hplaces hnodup
    constructor
    · rw [← loadable_in_place h hplaces hsearch]
      simp only [loads_iff h, exists_and_left, exists_eq, and_true]
    · intro e he
      obtain ⟨hl, rfl⟩ := (loads_iff h).mp he
      have hnames := (pairwise_classNames (w.disk.loaded (gathered w.disk classpath top))).imp
        fun hlt => ne_of_lt hlt
      rw [List.perm_ext_iff_of_nodup hnodup hnames]
      intro n
      exact (mem_classNames_in_place h hplaces hl).symm

/-- A class and one inside of it, whose paths and names are in different orders, a class in a
package, one in a directory whose name is no text, and files that are not found: one without a stem,
one whose name is no text, one in a directory that is not searched, and one behind a link. -/
theorem scan_finds_and_names_of_inner_class :
    let bytes (n : String) : ByteArray := (ClassDef.named n).toSnapshot.toUTF8
    let odd : Octets := [0xFF]
    let w : World := ⟨⟨[(["home"], .directory), (["home", "cp"], .directory),
      (["home", "cp", "App.class.json"], .file (bytes "App")),
      (["home", "cp", "App$Inner.class.json"], .file (bytes "App$Inner")),
      (["home", "cp", "META-INF"], .directory),
      (["home", "cp", "META-INF", "Y.class.json"], .file .empty),
      (["home", "cp", "link"], .link ⟨"p"⟩), (["home", "cp", "p"], .directory),
      (["home", "cp", "p", ".class.json"], .file .empty),
      (["home", "cp", "p", "X.class.json"], .file (bytes "p.X")),
      (["home", "cp", odd], .directory), (["home", "cp", odd ++ ".class.json"], .file .empty),
      (["home", "cp", odd, "Z.class.json"], .file (bytes "\uFFFD.Z"))], ["home"]⟩, 7, 1, []⟩
    let files : List Path := [⟨"cp/App$Inner.class.json"⟩, ⟨"cp/App.class.json"⟩,
      ⟨"cp/p/X.class.json"⟩, ⟨"cp/" ++ odd ++ "/Z.class.json"⟩]
    ((gatherSnapshots ⟨"cp"⟩).run w).1 = .ok files ∧ files.Pairwise Path.Before ∧
      (∃ e, Loads ⟨"cp"⟩ w e ∧
        ["App$Inner", "App", "p.X", "\uFFFD.Z"].Perm (ClassEngine.classNames e)) ∧
      snapshotClassName? ⟨"cp"⟩ (snapshotPath ⟨"cp"⟩ "p.X") = some "p.X" := by
  intro bytes odd w files
  have h : IsClasspath w.disk ⟨"cp"⟩ ["home", "cp"] :=
    .of_entries (by decide +kernel) (by decide +kernel) (by decide +kernel) rfl
  have hentry : ∀ names e, w.disk.entryAt ((["home", "cp"] : Location) ++ names) = some e →
      names = [] ∧ e = .directory ∨
      names = ["App.class.json"] ∧ e = .file (bytes "App") ∨
      names = ["App$Inner.class.json"] ∧ e = .file (bytes "App$Inner") ∨
      names = ["META-INF"] ∧ e = .directory ∨
      names = ["META-INF", "Y.class.json"] ∧ e = .file .empty ∨
      names = ["link"] ∧ e = .link ⟨"p"⟩ ∨ names = ["p"] ∧ e = .directory ∨
      names = ["p", ".class.json"] ∧ e = .file .empty ∨
      names = ["p", "X.class.json"] ∧ e = .file (bytes "p.X") ∨
      names = [odd] ∧ e = .directory ∨ names = [odd ++ ".class.json"] ∧ e = .file .empty ∨
      names = [odd, "Z.class.json"] ∧ e = .file (bytes "\uFFFD.Z") := by
    intro names e he
    have hmem := mem_of_entryAt (by simp) he
    simpa [w] using hmem
  have hplaces : DeclaredInPlace w.disk ⟨"cp"⟩ ["home", "cp"] := by
    intro dirs stem bytes' hfile
    have hat := snapshotAt_iff.mpr ⟨dirs, stem, hfile, rfl⟩
    have hplaced : ∃ n, bytes' = bytes n ∧
        snapshotClassName? ⟨"cp"⟩ ((Path.mk "cp").pushAll (placedNames dirs stem)) = some n := by
      generalize placedNames dirs stem = names at hat ⊢
      obtain ⟨-, h0⟩ | ⟨rfl, h0⟩ | ⟨rfl, h0⟩ | ⟨-, h0⟩ | ⟨rfl, -⟩ | ⟨-, h0⟩ | ⟨-, h0⟩ | ⟨rfl, -⟩ |
        ⟨rfl, h0⟩ | ⟨-, h0⟩ | ⟨rfl, -⟩ | ⟨rfl, h0⟩ := hentry names _ hat.file
      · cases h0
      · exact ⟨"App", Entry.file.inj h0, by decide +kernel⟩
      · exact ⟨"App$Inner", Entry.file.inj h0, by decide +kernel⟩
      · cases h0
      · exact absurd hat.searched (by decide +kernel)
      · cases h0
      · cases h0
      · exact absurd hat.named (by decide +kernel)
      · exact ⟨"p.X", Entry.file.inj h0, by decide +kernel⟩
      · cases h0
      · exact absurd hat.named (by decide +kernel)
      · exact ⟨"\uFFFD.Z", Entry.file.inj h0, by decide +kernel⟩
    obtain ⟨n, rfl, hname⟩ := hplaced
    exact ⟨.named n, ClassDef.ofBytes?_toSnapshot _, hname⟩
  have hfiles : ((gatherSnapshots ⟨"cp"⟩).run w).1 = .ok files := by decide +kernel
  have hnames : snapshotClassNames ⟨"cp"⟩ files = ["App$Inner", "App", "p.X", "\uFFFD.Z"] := by
    decide +kernel
  obtain ⟨-, -, hfound⟩ := scan_finds_and_names.1 h
  obtain ⟨hbefore, -, -, -, -, hengine⟩ := hfound files hfiles
  obtain ⟨hloads, hperm⟩ := hengine hplaces (by rw [hnames]; decide)
  obtain ⟨e, he⟩ := hloads.mpr (by decide +kernel)
  rw [hnames] at hperm
  exact ⟨hfiles, hbefore, ⟨e, he, hperm e he⟩, scan_finds_and_names.2 ⟨"cp"⟩ (by decide +kernel)⟩

/-- A directory that cannot be opened keeps a scan from finding the snapshot in it. -/
theorem not_scanned_with_slashes :
    let bytes : ByteArray := "\x7b\"name\":\"d.X\"\x7d".toUTF8
    let w : World := ⟨⟨[(["home"], .directory), (["home", "cp"], .directory),
      (["home", "cp", "d"], .directory),
      (["home", "cp", "d", "X.class.json"], .file bytes)], ["home"]⟩, 7, 1, []⟩
    IsClasspath w.disk (slashed 4093) ["home", "cp"] ∧
      SnapshotFile w.disk ["home", "cp"] ["d"] "X" bytes ∧
      ¬∃ files, ((gatherSnapshots (slashed 4093)).run w).1 = .ok files := by
  intro bytes w
  have hleads : w.disk.Leads ⟨"cp"⟩ linkLimit ["home", "cp"] := rfl
  have hcheck : checkPath (slashed 4093) = .ok () := checkPath_slashed (by decide)
  have h : IsClasspath w.disk (slashed 4093) ["home", "cp"] :=
    .of_entries (by decide +kernel) (by decide +kernel) (by decide +kernel)
      (find_directory (leads_slashed hleads 4093) rfl hcheck)
  refine ⟨h, ⟨rfl, by decide, by decide⟩, ?_⟩
  intro hscan
  obtain ⟨files, hfiles⟩ := hscan
  have hwithin := ((gatherSnapshots_ok_iff h).mp hfiles).1 ["d"] rfl (by decide)
  exact not_withinLimit_slashed (by decide +kernel : IsFileName "d").toIsName (by decide) hwithin

end SnapshotEngine

end ClassCensus
