import ClassCensus.Proofs.Snapshot.Write

/-!
# Classpaths

A classpath is loaded as a whole or not at all, without losing a class
(`SnapshotEngine.load_all_or_nothing`).
-/

namespace ClassCensus.SnapshotEngine

open Disk

/-- A classpath is loaded if and only if all its directories can be opened and all its snapshots can be
read and describe classes. Its engine then has exactly the classes that are declared below the
classpath, in the order of the bytes of their names, each from the snapshot with the least path,
whatever the order in which the disk lists its entries. In particular a classpath to which classes have
been written, in a place where nothing was before, is loaded with the engine of these classes. -/
theorem load_all_or_nothing :
    (∀ {w : World} {classpath : Path} {top : Location}, IsClasspath w.disk classpath top →
      -- what is gathered
      ((∃ files, ((gatherSnapshots classpath).run w).1 = .ok files) ↔
          Searchable w.disk classpath top) ∧
      (∀ files, ((gatherSnapshots classpath).run w).1 = .ok files → ∀ p,
        p ∈ files ↔
          ∃ names bytes, SnapshotAt w.disk top names bytes ∧ p = classpath.pushAll names) ∧
      -- all or nothing
      ((∃ e, Loads classpath w e) ↔ Loadable w.disk classpath top) ∧
      -- the classes that are loaded
      (∀ e, Loads classpath w e →
        (ClassEngine.classNames e).Pairwise (fun m n => Text.bytesOf m < Text.bytesOf n) ∧
        (∀ n, n ∈ ClassEngine.classNames e ↔
          ∃ names c, ClassBelow w.disk top names c ∧ c.name = n) ∧
        ∀ n ∈ ClassEngine.classNames e, ∃ names c,
          ClassBelow w.disk top names c ∧ c.name = n ∧
          (∀ others c', ClassBelow w.disk top others c' → c'.name = n →
            others = names ∨ (classpath.pushAll names).Before (classpath.pushAll others)) ∧
          ClassEngine.resolve e n = .ok c.fillDeclaringClass) ∧
      -- the order of the entries
      ∀ d, w.disk.entries.Perm d.entries → d.home = w.disk.home → ∀ e,
        Loads classpath { w with disk := d } e ↔ Loads classpath w e) ∧
    ∀ {w : World} {base : Path} {links : Nat} {here : Location} {names : List Octets}
      (classes : List ClassDef), HoldsSnapshots w.disk base links here names [] →
      w.disk.Distinct → (classes = [] → w.disk.status (base.pushAll names) = .ok .directory) →
      (classes.map (·.name)).Nodup →
      (∀ c ∈ classes, WellFormed c.name ∧ Text.bytesOf "META-INF" ∉ packageOf c.name) →
      -- what is written
      ((∃ w', (writeSnapshots (base.pushAll names) classes).run w = (.ok (), w')) ↔
          ∀ c ∈ classes, SnapshotFits (base.pushAll names) c.name) ∧
      ∀ w', (writeSnapshots (base.pushAll names) classes).run w = (.ok (), w') →
        Loads (base.pushAll names) w' (ofClasses (classes.map ClassDef.fillDeclaringClass)) := by
  constructor
  · intro w classpath top h
    obtain ⟨-, hgather⟩ := (ensures_gatherSnapshots h).result
    refine ⟨?_, ?_, ?_, ?_, fun d hp hhome e => loads_iff_of_perm h hp hhome e⟩
    · rcases hgather with ⟨hsearch, hr⟩ | ⟨hsearch, e, hr⟩
      · simp [hr, hsearch]
      · simp [hr, hsearch]
    · rcases hgather with ⟨-, hr⟩ | ⟨-, e, hr⟩
      · intro files hfiles p
        rw [hr] at hfiles
        rw [← Except.ok.inj hfiles, h.mem_gathered]
      · intro files hfiles
        rw [hr] at hfiles
        cases hfiles
    · simp only [loads_iff h, exists_and_left, exists_eq, and_true]
    · intro e he
      obtain ⟨hl, rfl⟩ := (loads_iff h).mp he
      refine ⟨?_, fun n => mem_classNames_loaded h hl,
        fun n hn => resolve_loaded h hl ((mem_classNames_loaded h hl).mp hn)⟩
      exact (pairwise_classNames _).imp Text.bytesOf_lt_iff.mpr
  · intro w base links here names classes hh hdistinct hexists hnodup hclasses
    have hwritten := (ensures_writeSnapshots classes hh (fun c hc => (hclasses c hc).1)
      hnodup).result
    constructor
    · rcases hwritten with ⟨hfits, hr, -⟩ | ⟨hfits, f, hr⟩
      · exact iff_of_true ⟨_, Prod.ext hr rfl⟩ hfits
      · refine iff_of_false ?_ hfits
        rintro ⟨w', hrun⟩
        rw [hrun] at hr
        cases hr
    · intro w' hrun
      have hdistinct' := Job.distinct_run (writeSnapshots (base.pushAll names) classes) hdistinct
      rw [hrun] at hwritten hdistinct'
      obtain ⟨-, -, hholds⟩ | ⟨-, f, hr⟩ := hwritten
      · refine hholds.loads hdistinct' ?_ (fun c hc => (hclasses c hc).2) hnodup
        rintro rfl
        cases hrun
        exact hexists rfl
      · cases hr

/-- Two files declare one class, and one in a directory that is not searched declares another one. Two
classes are written to a classpath that is yet to be made. -/
theorem load_all_or_nothing_of_repeated_class :
    let first : ClassDef := { ClassDef.named "X" with
      methods := [⟨"", "f", "int", [], [], none, none⟩] }
    let second : ClassDef := .named "X"
    let w : World := ⟨⟨[(["home"], .directory), (["home", "cp"], .directory),
      (["home", "cp", "b"], .directory),
      (["home", "cp", "b", "X.class.json"], .file second.toSnapshot.toUTF8),
      (["home", "cp", "a"], .directory),
      (["home", "cp", "a", "X.class.json"], .file first.toSnapshot.toUTF8),
      (["home", "cp", "META-INF"], .directory),
      (["home", "cp", "META-INF", "Y.class.json"], .file .empty)], ["home"]⟩, 7, 1, []⟩
    let classes : List ClassDef := [.named "p.X", .named "Y"]
    (∃ e, Loads ⟨"cp"⟩ w e ∧ ClassEngine.resolve e "X" = .ok first.fillDeclaringClass) ∧
      ∃ w', (writeSnapshots ⟨"./cp"⟩ classes).run ⟨.blank ["home"], 7, 1, []⟩ = (.ok (), w') ∧
        Loads ⟨"./cp"⟩ w' (ofClasses (classes.map ClassDef.fillDeclaringClass)) := by
  intro first second w classes
  constructor
  · have h : IsClasspath w.disk ⟨"cp"⟩ ["home", "cp"] :=
      .of_entries (by decide +kernel) (by decide +kernel) (by decide +kernel) rfl
    have hentry : ∀ names e, w.disk.entryAt ((["home", "cp"] : Location) ++ names) = some e →
        names = [] ∧ e = .directory ∨ names = ["b"] ∧ e = .directory ∨
        names = ["b", "X.class.json"] ∧ e = .file second.toSnapshot.toUTF8 ∨
        names = ["a"] ∧ e = .directory ∨
        names = ["a", "X.class.json"] ∧ e = .file first.toSnapshot.toUTF8 ∨
        names = ["META-INF"] ∧ e = .directory ∨
        names = ["META-INF", "Y.class.json"] ∧ e = .file .empty := by
      intro names e he
      have hmem := mem_of_entryAt (by simp) he
      simpa [w] using hmem
    have hsnapshot : ∀ names bytes, SnapshotAt w.disk ["home", "cp"] names bytes →
        names = ["b", "X.class.json"] ∧ bytes = second.toSnapshot.toUTF8 ∨
        names = ["a", "X.class.json"] ∧ bytes = first.toSnapshot.toUTF8 := by
      rintro names bytes ⟨hfile, -, hsearched⟩
      rcases hentry names _ hfile with ⟨-, h0⟩ | ⟨-, h0⟩ | ⟨rfl, h0⟩ | ⟨-, h0⟩ | ⟨rfl, h0⟩ |
        ⟨-, h0⟩ | ⟨rfl, -⟩
      · cases h0
      · cases h0
      · exact .inl ⟨rfl, Entry.file.inj h0⟩
      · cases h0
      · exact .inr ⟨rfl, Entry.file.inj h0⟩
      · cases h0
      · exact absurd hsearched (by decide)
    have hfirst : ClassBelow w.disk ["home", "cp"] ["a", "X.class.json"] first :=
      ⟨_, ⟨rfl, ⟨"X.class.json", rfl, by decide +kernel⟩, by decide⟩, first.ofBytes?_toSnapshot⟩
    have hloadable : Loadable w.disk ⟨"cp"⟩ ["home", "cp"] := by
      constructor
      · intro names he _
        rcases hentry names _ he with ⟨rfl, -⟩ | ⟨rfl, -⟩ | ⟨-, h0⟩ | ⟨rfl, -⟩ | ⟨-, h0⟩ |
          ⟨rfl, -⟩ | ⟨-, h0⟩
        · decide +kernel
        · decide +kernel
        · cases h0
        · decide +kernel
        · cases h0
        · decide +kernel
        · cases h0
      · intro names bytes hat
        rcases hsnapshot names bytes hat with ⟨rfl, rfl⟩ | ⟨rfl, rfl⟩
        · exact ⟨by decide +kernel, by rw [second.ofBytes?_toSnapshot]; rfl⟩
        · exact ⟨by decide +kernel, by rw [first.ofBytes?_toSnapshot]; rfl⟩
    obtain ⟨-, -, hall, hclasses, -⟩ := load_all_or_nothing.1 h
    obtain ⟨e, he⟩ := hall.mpr hloadable
    obtain ⟨-, hnames, hresolve⟩ := hclasses e he
    obtain ⟨names, c, ⟨bytes, hat, hbytes⟩, -, hleast, hc⟩ :=
      hresolve "X" ((hnames "X").mpr ⟨_, first, hfirst, rfl⟩)
    refine ⟨e, he, ?_⟩
    rcases hsnapshot names bytes hat with ⟨rfl, rfl⟩ | ⟨rfl, rfl⟩
    · have hbefore := (hleast _ first hfirst rfl).resolve_left (by decide)
      exact absurd hbefore (by decide +kernel)
    · rw [first.ofBytes?_toSnapshot] at hbytes
      rwa [← Option.some.inj hbytes] at hc
  · have hentry : ∀ rest, rest ≠ [] →
        (Disk.blank ["home"]).entryAt ((["home"] : Location) ++ rest) = none := by
      intro rest hrest
      cases rest with
      | nil => exact absurd rfl hrest
      | cons n rest => rfl
    have hh : HoldsSnapshots (Disk.blank ["home"]) ⟨"."⟩ linkLimit ["home"] ["cp"] [] := by
      refine .vacant rfl ⟨.of_entries (by decide +kernel), rfl, rfl, ?_⟩ (by decide +kernel) ?_ ?_
      · intro rest hrest t
        rw [hentry rest hrest]
        simp
      · intro part hpart _
        rw [blocks_eq_false]
        exact .inl (hentry part hpart)
      · intro rest _
        rw [List.append_assoc]
        exact hentry _ (by simp)
    have hpath : (Path.mk ".").pushAll ["cp"] = ⟨"./cp"⟩ := by decide +kernel
    have hwritten := load_all_or_nothing.2 (w := ⟨.blank ["home"], 7, 1, []⟩) classes hh
      (by decide +kernel) (by simp [classes]) (by decide) (by decide +kernel)
    rw [hpath] at hwritten
    obtain ⟨w', hrun⟩ := hwritten.1.mpr (by decide +kernel)
    exact ⟨w', hrun, hwritten.2 w' hrun⟩

/-- The classpath `cp` with slashes at its end. -/
def slashed (n : Nat) : Path := ⟨"cp" ++ List.replicate n Octet.slash⟩

theorem octets_slashed (n : Nat) :
    (slashed n).octets = Text.bytesOf "cp" ++ List.replicate n Octet.slash := rfl

theorem length_slashed (n : Nat) : (slashed n).octets.length = n + 2 := by
  have hcp : (Text.bytesOf "cp").length = 2 := rfl
  rw [octets_slashed, List.length_append, List.length_replicate, hcp, Nat.add_comm]

/-- Slashes at its end make no difference to where a path leads. -/
theorem leads_slashed {d : Disk} {k : Nat} {l : Location} (h : d.Leads ⟨"cp"⟩ k l) (n : Nat) :
    d.Leads (slashed n) k l := by
  obtain ⟨m, hsplit⟩ := split_slashes (Text.bytesOf "cp") (List.replicate n Octet.slash)
    fun c hc => (List.mem_replicate.mp hc).2
  have hnames : namesOf (slashed n).octets = namesOf (Path.mk "cp").octets := by
    rw [octets_slashed, namesOf, hsplit, List.filter_append, List.filter_replicate]
    simp
    rfl
  have hstart : d.startOf (slashed n) = d.startOf ⟨"cp"⟩ :=
    startOf_congr d (by rw [octets_slashed]; rfl)
  rw [Leads, hnames, hstart]
  exact h

theorem checkPath_slashed {n : Nat} (hn : n + 2 < pathLimit) : checkPath (slashed n) = .ok () := by
  rw [checkPath_ok_iff, length_slashed, octets_slashed]
  refine ⟨?_, ?_, hn⟩
  · have hcp : Octet.nul ∉ Text.bytesOf "cp" := by decide
    simp [hcp]
  · have hcp : Text.bytesOf "cp" ≠ [] := by decide
    simp [hcp]

/-- Below a classpath with slashes at its end a path has all of them. -/
theorem not_withinLimit_slashed {n : Nat} {name : Octets} (hname : Path.IsName name)
    (hn : pathLimit ≤ n + 2 + name.length) : ¬WithinLimit (slashed n) [name] := by
  have hlead : (slashed n).octets.length ≤ (slashed n).lead.length := by
    refine List.IsPrefix.length_le ?_
    rw [Path.lead]
    split
    · exact List.prefix_rfl
    · exact List.prefix_append _ _
  show ¬((slashed n).push name).octets.length < pathLimit
  rw [Path.size_push _ hname]
  rw [length_slashed] at hlead
  omega

/-- A classpath that can be opened, and a snapshot below it whose path is too long to be read. -/
theorem not_loaded_with_slashes :
    let bytes : ByteArray := "\x7b\"name\":\"X\"\x7d".toUTF8
    let w : World := ⟨⟨[(["home"], .directory), (["home", "cp"], .directory),
      (["home", "cp", "X.class.json"], .file bytes)], ["home"]⟩, 7, 1, []⟩
    IsClasspath w.disk (slashed 4089) ["home", "cp"] ∧
      (∃ files, ((gatherSnapshots (slashed 4089)).run w).1 = .ok files) ∧
      (∀ names bytes, SnapshotAt w.disk ["home", "cp"] names bytes →
        (ClassDef.ofBytes? bytes).isSome = true) ∧
      ¬∃ e, Loads (slashed 4089) w e := by
  intro bytes w
  have hleads : w.disk.Leads ⟨"cp"⟩ linkLimit ["home", "cp"] := rfl
  have hcheck : checkPath (slashed 4089) = .ok () := checkPath_slashed (by decide)
  have h : IsClasspath w.disk (slashed 4089) ["home", "cp"] :=
    .of_entries (by decide +kernel) (by decide +kernel) (by decide +kernel)
      (find_directory (leads_slashed hleads 4089) rfl hcheck)
  have hentry : ∀ names e, w.disk.entryAt ((["home", "cp"] : Location) ++ names) = some e →
      names = [] ∧ e = .directory ∨ names = ["X.class.json"] ∧ e = .file bytes := by
    intro names e he
    have hmem := mem_of_entryAt (by simp) he
    simpa [w] using hmem
  have hsearchable : Searchable w.disk (slashed 4089) ["home", "cp"] := by
    intro names he _
    rcases hentry names _ he with ⟨rfl, -⟩ | ⟨-, h0⟩
    · exact ((checkPath_ok_iff _).mp hcheck).2.2
    · cases h0
  obtain ⟨-, hgather⟩ := (ensures_gatherSnapshots h).result
  refine ⟨h, ?_, ?_, ?_⟩
  · rcases hgather with ⟨-, hr⟩ | ⟨hnot, -⟩
    · exact ⟨_, hr⟩
    · exact absurd hsearchable hnot
  · intro names bytes' hat
    rcases hentry names _ hat.file with ⟨-, h0⟩ | ⟨-, h0⟩
    · cases h0
    · rw [Entry.file.inj h0]
      decide +kernel
  · rintro ⟨e, he⟩
    have hat : SnapshotAt w.disk ["home", "cp"] ["X.class.json"] bytes :=
      ⟨rfl, ⟨"X.class.json", rfl, by decide +kernel⟩, by decide⟩
    have hwithin := (((loads_iff h).mp he).1.described _ _ hat).1
    exact not_withinLimit_slashed (h.isName hat.file _ (by simp)) (by decide) hwithin

end ClassCensus.SnapshotEngine
