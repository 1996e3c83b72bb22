import ClassCensus.Proofs.Disk.Distinct
import ClassCensus.Proofs.Job
import ClassCensus.Proofs.Snapshot.Order

/-!
# What is gathered from a classpath

A classpath leads to a directory, and each snapshot is at some names below it (`SnapshotAt`). All of
them are gathered, and nothing else, in the order of their paths (`mem_gathered`,
`pairwise_gathered`), unless a directory that is searched has a path that is too long
(`ensures_gatherSnapshots`). A gathered file is read if its path is not too long (`read_snapshot`).
-/

namespace ClassCensus

open Disk

/-- A name that an entry of a directory can have. -/
structure IsFileName (n : Octets) : Prop extends Path.IsName n where
  noNul : Octet.nul ∉ n
  short : ¬nameLimit < n.length

instance (n : Octets) : Decidable (IsFileName n) :=
  decidable_of_iff ((n ≠ [] ∧ n ≠ [Octet.dot] ∧ n ≠ [Octet.dot, Octet.dot] ∧ Octet.slash ∉ n) ∧
      Octet.nul ∉ n ∧ ¬nameLimit < n.length)
    ⟨fun h => ⟨⟨h.1.1, h.1.2.1, h.1.2.2.1, h.1.2.2.2⟩, h.2.1, h.2.2⟩,
      fun h => ⟨⟨h.ne_nil, h.ne_current, h.ne_parent, h.plain⟩, h.noNul, h.short⟩⟩

/-- A classpath that leads to a directory, with names that entries can have below it. -/
structure IsClasspath (d : Disk) (classpath : Path) (top : Location) : Prop where
  tree : d.IsTree
  distinct : d.Distinct
  found : d.find true classpath = .ok (top, .directory)
  named : ∀ names e, d.entryAt (top ++ names) = some e → ∀ n ∈ names, IsFileName n

/-- Names that lead from the top of a classpath to a snapshot: a file with the name of a snapshot,
in directories that are searched. -/
structure SnapshotAt (d : Disk) (top : Location) (names : List Octets) (bytes : ByteArray) :
    Prop where
  file : d.entryAt (top ++ names) = some (.file bytes)
  named : ∃ n ∈ names.getLast?, isSnapshotName n = true
  searched : isSearched names.dropLast = true

/-- The path of names below a classpath is short enough to be asked for. -/
def WithinLimit (classpath : Path) (names : List Octets) : Prop :=
  (classpath.pushAll names).octets.length < pathLimit

instance (classpath : Path) (names : List Octets) : Decidable (WithinLimit classpath names) :=
  inferInstanceAs (Decidable (_ < pathLimit))

/-- The path of a directory is not longer than that of what lies below it. -/
theorem WithinLimit.of_isPrefix {p : Path} {names others : List Octets} (h : WithinLimit p others)
    (hpre : names <+: others) (hn : ∀ n ∈ others, Path.IsName n) : WithinLimit p names := by
  obtain ⟨rest, rfl⟩ := hpre
  have hsize := (isPrefix_pushAll (p.pushAll names) fun n hmem =>
    hn n (List.mem_append_right _ hmem)).length_le
  rw [← Path.pushAll_append] at hsize
  exact Nat.lt_of_le_of_lt hsize h

/-- Every directory that is searched can be opened. -/
def Searchable (d : Disk) (classpath : Path) (top : Location) : Prop :=
  ∀ names, d.entryAt (top ++ names) = some .directory → isSearched names = true →
    WithinLimit classpath names

/-- The snapshots below a directory, in the order of their paths. -/
def gathered (d : Disk) (classpath : Path) (top : Location) : List Path :=
  snapshotsIn classpath (d.entriesBelow top)

theorem SnapshotAt.of_same {d d' : Disk} {top : Location} {names : List Octets} {bytes : ByteArray}
    (hs : Same d d') (hat : SnapshotAt d top names bytes) : SnapshotAt d' top names bytes :=
  ⟨(hs.entry _).trans hat.file, hat.named, hat.searched⟩

theorem Searchable.of_same {d d' : Disk} {classpath : Path} {top : Location} (hs : Same d d')
    (h : Searchable d classpath top) : Searchable d' classpath top :=
  fun names he => h names ((hs.entry _).symm.trans he)

namespace IsClasspath

/-- A classpath on a disk whose entries are checked one by one. -/
theorem of_entries {d : Disk} {classpath : Path} {top : Location}
    (tree : ∀ e ∈ d.entries, d.hasDir e.1.dropLast = true) (distinct : d.Distinct)
    (named : ∀ e ∈ d.entries, ∀ n ∈ e.1, IsFileName n)
    (found : d.find true classpath = .ok (top, .directory)) : IsClasspath d classpath top := by
  refine ⟨.of_entries tree, distinct, found, ?_⟩
  intro names e he n hn
  have hne : top ++ names ≠ [] := by
    intro h0
    rw [(List.append_eq_nil_iff.mp h0).2] at hn
    cases hn
  exact named _ (mem_of_entryAt hne he) n (List.mem_append_right _ hn)

variable {d d' : Disk} {classpath : Path} {top : Location} (h : IsClasspath d classpath top)
include h

theorem checked : checkPath classpath = .ok () := (find_ok h.found).1

theorem isName {names : List Octets} {e : Entry} (he : d.entryAt (top ++ names) = some e) :
    ∀ n ∈ names, Path.IsName n := fun n hn => (h.named names e he n hn).toIsName

theorem leads : ∃ k, d.Leads classpath k top := by
  obtain ⟨-, spot, hw, hl, he⟩ := find_ok h.found
  obtain ⟨k, hk⟩ := descend_of_walk_dir hw he
  exact ⟨k, hl ▸ hk⟩

/-! ### Snapshots -/

/-- An entry below a classpath is gathered if it is a snapshot. -/
theorem isSnapshotEntry_iff {names : List Octets} {e : Entry} (hne : names ≠ [])
    (he : d.entryAt (top ++ names) = some e) :
    isSnapshotEntry classpath (names, e.kind) = true ↔ ∃ bytes, SnapshotAt d top names bytes := by
  obtain ⟨init, n, rfl⟩ := (List.eq_nil_or_concat names).resolve_left hne
  rw [List.concat_eq_append] at he ⊢
  have hlast : (entryPath classpath (init ++ [n])).fileName = some n := by
    show (classpath.pushAll (init ++ [n])).fileName = some n
    rw [Path.pushAll_concat]
    exact Path.fileName_push _ (h.isName he n (by simp))
  simp only [isSnapshotEntry, hlast, Option.any_some, List.dropLast_concat, Bool.and_eq_true,
    decide_eq_true_eq]
  constructor
  · rintro ⟨⟨hkind, hnamed⟩, hsearched⟩
    cases e with
    | file bytes => exact ⟨bytes, he, ⟨n, by simp, hnamed⟩, by simpa using hsearched⟩
    | directory => cases hkind
    | link t => cases hkind
  · rintro ⟨bytes, hfile, ⟨m, hm, hnamed⟩, hsearched⟩
    rw [he] at hfile
    cases hfile
    simp only [List.getLast?_append, List.getLast?_singleton, Option.some_or,
      Option.mem_some_iff] at hm
    exact ⟨⟨rfl, hm ▸ hnamed⟩, by simpa using hsearched⟩

theorem mem_gathered {p : Path} :
    p ∈ gathered d classpath top ↔
      ∃ names bytes, SnapshotAt d top names bytes ∧ p = classpath.pushAll names := by
  have hmem : p ∈ gathered d classpath top ↔
      ∃ e ∈ d.entriesBelow top, isSnapshotEntry classpath e = true ∧
        entryPath classpath e.1 = p := by
    rw [gathered, snapshotsIn, (sortPaths_perm _).mem_iff]
    simp only [List.mem_map, List.mem_filter, and_assoc]
  rw [hmem]
  constructor
  · rintro ⟨⟨names, kind⟩, hbelow, hsnapshot, rfl⟩
    obtain ⟨hne, e, he, rfl⟩ := h.distinct.mem_entriesBelow.mp hbelow
    obtain ⟨bytes, hat⟩ := (h.isSnapshotEntry_iff hne he).mp hsnapshot
    exact ⟨names, bytes, hat, rfl⟩
  · rintro ⟨names, bytes, hat, rfl⟩
    have hne : names ≠ [] := by
      rintro rfl
      obtain ⟨n, hn, -⟩ := hat.named
      cases hn
    exact ⟨(names, .file), h.distinct.mem_entriesBelow.mpr ⟨hne, _, hat.file, rfl⟩,
      (h.isSnapshotEntry_iff hne hat.file).mpr ⟨bytes, hat⟩, rfl⟩

/-- Different snapshots have different paths. -/
theorem names_eq {names others : List Octets} {bytes bytes' : ByteArray}
    (hat : SnapshotAt d top names bytes) (hat' : SnapshotAt d top others bytes')
    (heq : (classpath.pushAll names).components = (classpath.pushAll others).components) :
    names = others :=
  Path.pushAll_inj (h.isName hat.file) (h.isName hat'.file) heq

/-- The order in which the entries of a disk are listed makes no difference. -/
theorem gathered_eq_of_perm (hp : d.entries.Perm d'.entries) :
    gathered d classpath top = gathered d' classpath top := by
  refine sortPaths_eq_of_perm (((entriesBelow_perm hp top).filter _).map _) ?_
  intro p hpm q hqm hcomponents
  have hgathered : ∀ {p}, p ∈ ((d.entriesBelow top).filter (isSnapshotEntry classpath)).map
      (fun e => entryPath classpath e.1) → p ∈ gathered d classpath top :=
    fun hp => (sortPaths_perm _).mem_iff.mpr hp
  obtain ⟨names, bytes, hat, rfl⟩ := h.mem_gathered.mp (hgathered hpm)
  obtain ⟨others, bytes', hat', rfl⟩ := h.mem_gathered.mp (hgathered hqm)
  rw [h.names_eq hat hat' hcomponents]

theorem of_perm (hp : d.entries.Perm d'.entries) (hhome : d'.home = d.home) :
    IsClasspath d' classpath top := by
  have hsame := h.distinct.same_of_perm hp hhome
  refine ⟨hsame.isTree h.tree, (hp.map Prod.fst).nodup_iff.mp h.distinct, ?_, ?_⟩
  · rw [hsame.find, h.found]
  · intro names e he
    exact h.named names e (by rwa [← hsame.entry])

/-! ### Directories -/

/-- A search stops at a directory only if its path is too long. -/
theorem searchable_iff :
    Searchable d classpath top ↔ (d.entriesBelow top).find? (isTooDeep classpath) = none := by
  rw [List.find?_eq_none]
  constructor
  · rintro hs ⟨names, kind⟩ hbelow hdeep
    obtain ⟨-, e, he, rfl⟩ := h.distinct.mem_entriesBelow.mp hbelow
    simp only [isTooDeep, Bool.and_eq_true, decide_eq_true_eq] at hdeep
    obtain ⟨⟨hkind, hsearched⟩, hlong⟩ := hdeep
    have hdir : e = .directory := by
      cases e <;> simp [Entry.kind] at hkind ⊢
    subst hdir
    have hshort : (entryPath classpath names).octets.length < pathLimit :=
      hs names he hsearched
    omega
  · intro hnone names he hsearched
    by_cases hne : names = []
    · subst hne
      exact ((checkPath_ok_iff classpath).mp h.checked).2.2
    · by_contra hlong
      refine hnone (names, .directory)
        (h.distinct.mem_entriesBelow.mpr ⟨hne, _, he, rfl⟩) ?_
      have hdeep : pathLimit ≤ (entryPath classpath names).octets.length :=
        Nat.not_lt.mp hlong
      simp [isTooDeep, hsearched, hdeep]

end IsClasspath

/-- The search of a classpath finds what is gathered, unless a directory cannot be opened. -/
theorem ensures_gatherSnapshots {w : World} {classpath : Path} {top : Location}
    (h : IsClasspath w.disk classpath top) :
    (gatherSnapshots classpath).Ensures w w.Passes fun r w' => w' = w ∧
      (Searchable w.disk classpath top ∧ r = .ok (gathered w.disk classpath top) ∨
        ¬Searchable w.disk classpath top ∧ ∃ e, r = .error e) := by
  obtain ⟨kind, hkind, hlist⟩ := list_of_find h.found
  have hself : isTooDeep classpath ([], kind) = false := by
    have hshort := ((checkPath_ok_iff classpath).mp h.checked).2.2
    simp [isTooDeep, entryPath, Nat.not_le.mpr hshort]
  have hsnapshots : snapshotsIn classpath (([], kind) :: w.disk.entriesBelow top) =
      gathered w.disk classpath top := by
    rw [gathered, snapshotsIn, List.filter_cons_of_neg (by simp [isSnapshotEntry, hkind])]
    rfl
  have hstep : w.perform (.list classpath) = (w.disk.list classpath, w) := rfl
  refine Job.Ensures.bind (.ofStep (.refl w) ?_)
  rw [hstep, hlist]
  dsimp only
  rw [List.find?_cons_of_neg (by simp [hself]), hsnapshots, h.searchable_iff]
  cases (w.disk.entriesBelow top).find? (isTooDeep classpath) with
  | none => exact .done ⟨rfl, .inl ⟨rfl, rfl⟩⟩
  | some entry => exact .done ⟨rfl, .inr ⟨by simp, _, rfl⟩⟩

/-- Of two gathered paths the first one is not after the second one. -/
theorem pairwise_gathered (d : Disk) (classpath : Path) (top : Location) :
    (gathered d classpath top).Pairwise fun p q => ¬q.Before p := pairwise_sortPaths _

/-! ### Reading -/

/-- Names without the byte that no name has lead to paths without it. -/
theorem nul_not_mem_pushAll {p : Path} {names : List Octets} (hp : Octet.nul ∉ p.octets)
    (h : ∀ n ∈ names, IsFileName n) : Octet.nul ∉ (p.pushAll names).octets := by
  induction names using List.reverseRecOn with
  | nil => exact hp
  | append_singleton names n ih =>
    have hn : IsFileName n := h n (by simp)
    have hinit := ih fun x hx => h x (by simp [hx])
    rw [Path.pushAll_concat, Path.octets_push _ hn.toIsName, List.mem_append, Path.lead]
    split <;> simp [hinit, hn.noNul]

/-- A gathered file is read if its path is not too long. -/
theorem read_snapshot {d : Disk} {classpath : Path} {top : Location}
    (h : IsClasspath d classpath top) {names : List Octets} {bytes : ByteArray}
    (hat : SnapshotAt d top names bytes) :
    (WithinLimit classpath names → d.read (classpath.pushAll names) = .ok bytes) ∧
      (¬WithinLimit classpath names →
        d.read (classpath.pushAll names) = .error .nameTooLong) := by
  obtain ⟨hnul, -, -⟩ := (checkPath_ok_iff classpath).mp h.checked
  have hnames := h.named names _ hat.file
  have hclear := nul_not_mem_pushAll hnul hnames
  obtain ⟨init, n, rfl⟩ := (List.eq_nil_or_concat names).resolve_left (by
    rintro rfl
    obtain ⟨n, hn, -⟩ := hat.named
    cases hn)
  rw [List.concat_eq_append] at *
  have hn : IsFileName n := hnames n (by simp)
  have hinit : ∀ x ∈ init, IsFileName x := fun x hx => hnames x (by simp [hx])
  have hne := Path.octets_push_ne (classpath.pushAll init) hn.toIsName
  unfold WithinLimit
  rw [Path.pushAll_concat] at hclear ⊢
  have hfile : d.entryAt (top ++ init ++ [n]) = some (.file bytes) := by
    rw [List.append_assoc]
    exact hat.file
  constructor
  · intro hshort
    have hc := (checkPath_ok_iff _).mpr ⟨hclear, hne, hshort⟩
    have hdir : d.entryAt (top ++ init) = some .directory := h.tree _ n _ hfile
    obtain ⟨k, hk⟩ := h.leads
    have hleads : d.Leads (classpath.pushAll init) k (top ++ init) := by
      have hplain : ∀ x ∈ init, Path.IsName x := fun x hx => (hinit x hx).toIsName
      rw [leads_iff, startOf_pushAll d classpath hplain, Path.steps_pushAll classpath hplain,
        descend_append, leads_iff.mp hk]
      exact descend_of_directory h.tree hplain (fun x hx => (hinit x hx).short) fun _ => hdir
    have hplain : ∀ t, d.entryAt (top ++ init ++ [n]) ≠ some (.link t) := by
      rw [hfile]
      simp
    have hplace := at_push hn.toIsName hleads hdir hc hn.short hplain
    simp only [Disk.read, hplace.find_some hfile, bind, Except.bind, pure, Except.pure]
  · intro hlong
    have hc : checkPath ((classpath.pushAll init).push n) = .error .nameTooLong := by
      simp only [checkPath, List.contains_eq_mem, hclear, decide_false, Bool.false_eq_true,
        if_false, hne, Nat.not_lt.mp hlong, if_true]
    simp only [Disk.read, find, locate_of_check_error hc, bind, Except.bind]

end ClassCensus
