import ClassCensus.Proofs.ClassDef.Presentation
import ClassCensus.Proofs.Snapshot.Load
import ClassCensus.Proofs.Snapshot.Places
import ClassCensus.Proofs.Text.Bytes

/-!
# Writing a classpath

Snapshots that fit below a classpath are written (`ensures_writeSnapshots`), and a classpath that
holds them is loaded with the engine of their classes (`HoldsSnapshots.loads`).
-/

namespace ClassCensus

open Disk

/-! ### Writing snapshots -/

/-- Names lead from a directory without links to a classpath, which is there or can be made. Below
it lie the snapshots of classes, in the directories of their packages, and nothing else. -/
structure HoldsSnapshots (d : Disk) (base : Path) (links : Nat) (here : Location)
    (names : List Octets) (cs : List ClassDef) : Prop where
  checked : checkPath base = .ok ()
  ground : Ground d base links here
  named : ∀ n ∈ names, IsFileName n
  free : ∀ part, part ≠ [] → part <+: names → d.blocks (here ++ part) = false
  only : ∀ rest e, rest ≠ [] → d.entryAt (here ++ names ++ rest) = some e →
    ∃ c ∈ cs, rest <+: packageOf c.name ∧ e = .directory ∨
      rest = snapshotNames c.name ∧ e = .file c.toSnapshot.toUTF8
  all : ∀ c ∈ cs, d.entryAt (here ++ names ++ snapshotNames c.name) =
    some (.file c.toSnapshot.toUTF8)
  formed : ∀ c ∈ cs, WellFormed c.name
  fits : ∀ c ∈ cs, SnapshotFits (base.pushAll names) c.name

namespace HoldsSnapshots

/-- A place below which nothing lies holds no snapshots. -/
theorem vacant {d : Disk} {base : Path} {links : Nat} {here : Location} {names : List Octets}
    (checked : checkPath base = .ok ()) (ground : Ground d base links here)
    (named : ∀ n ∈ names, IsFileName n)
    (free : ∀ part, part ≠ [] → part <+: names → d.blocks (here ++ part) = false)
    (vacant : ∀ rest, rest ≠ [] → d.entryAt (here ++ names ++ rest) = none) :
    HoldsSnapshots d base links here names [] := by
  refine ⟨checked, ground, named, free, ?_, by simp, by simp, by simp⟩
  intro rest e hrest he
  rw [vacant rest hrest] at he
  cases he

variable {w m : World} {base : Path} {links : Nat} {here : Location} {names : List Octets}
  {cs : List ClassDef} {c : ClassDef} (hh : HoldsSnapshots w.disk base links here names cs)
include hh

theorem nul_not_mem : Octet.nul ∉ (base.pushAll names).octets :=
  nul_not_mem_pushAll ((checkPath_ok_iff base).mp hh.checked).1 hh.named

/-- Nothing lies at the place of a new class, also after the directory of its package has been
made. -/
theorem none_at_place (hnew : ∀ c' ∈ cs, c'.name ≠ c.name)
    (hg : Grown here (names ++ packageOf c.name) w m) :
    m.disk.entryAt (here ++ names ++ snapshotNames c.name) = none := by
  have hbefore : w.disk.entryAt (here ++ names ++ snapshotNames c.name) = none := by
    cases he : w.disk.entryAt (here ++ names ++ snapshotNames c.name) with
    | none => rfl
    | some e =>
      obtain ⟨c', hc', ⟨hpre, -⟩ | ⟨heq, -⟩⟩ := hh.only _ e (by simp [snapshotNames]) he
      · exact absurd hpre (snapshotNames_not_isPrefix c.name)
      · exact absurd (snapshotNames_inj heq).symm (hnew c' hc')
  rcases hg.adds.entry (here ++ names ++ snapshotNames c.name) with
    h0 | ⟨-, -, part, -, hpre, hplace⟩
  · rw [h0, hbefore]
  · rw [List.append_assoc] at hplace
    rw [← List.append_cancel_left hplace, List.prefix_append_right_inj] at hpre
    exact absurd hpre (snapshotNames_not_isPrefix c.name)

/-- A snapshot that is written in the directory of its package leaves the ground as it is. -/
theorem ground_put (hnew : ∀ c' ∈ cs, c'.name ≠ c.name)
    (hg : Grown here (names ++ packageOf c.name) w m)
    (hdir : m.disk.entryAt (here ++ names ++ packageOf c.name) = some .directory)
    (bytes : ByteArray) :
    Ground (m.disk.put (here ++ names ++ snapshotNames c.name) (.file bytes)) base links here := by
  have hground := hg.ground hh.ground
  have hvacant := hh.none_at_place hnew hg
  have hne : here ++ names ++ snapshotNames c.name ≠ [] := by simp [snapshotNames]
  refine hground.of_keepsWays ?_ ?_ ?_
  · exact .put_file hne _ (by rw [hvacant]; simp) (by rw [hvacant]; simp)
  · rw [snapshotNames, ← List.append_assoc] at hvacant ⊢
    exact hg.tree.put hdir (.inr (by rw [hvacant]; simp))
  · intro rest hrest t
    rw [entryAt_put m.disk hne]
    split
    · simp
    · exact hground.noLinks rest hrest t

/-- What lies below the classpath afterwards was there before, or belongs to the new snapshot. -/
theorem only_put (hg : Grown here (names ++ packageOf c.name) w m) {rest : List Octets} {e : Entry}
    (hrest : rest ≠ [])
    (he : (m.disk.put (here ++ names ++ snapshotNames c.name)
      (.file c.toSnapshot.toUTF8)).entryAt (here ++ names ++ rest) = some e) :
    ∃ c' ∈ cs ++ [c], rest <+: packageOf c'.name ∧ e = .directory ∨
      rest = snapshotNames c'.name ∧ e = .file c'.toSnapshot.toUTF8 := by
  rw [entryAt_put m.disk (by simp [snapshotNames])] at he
  split at he
  · rename_i heq
    exact ⟨c, by simp, .inr ⟨List.append_cancel_left heq, (Option.some.inj he).symm⟩⟩
  · rcases hg.adds.entry (here ++ names ++ rest) with h0 | ⟨-, hadded, part, -, hpre, heq⟩
    · rw [h0] at he
      obtain ⟨c', hc', hcase⟩ := hh.only rest e hrest he
      exact ⟨c', List.mem_append_left _ hc', hcase⟩
    · rw [hadded] at he
      rw [List.append_assoc] at heq
      rw [← List.append_cancel_left heq, List.prefix_append_right_inj] at hpre
      exact ⟨c, by simp, .inl ⟨hpre, (Option.some.inj he).symm⟩⟩

variable (hn : WellFormed c.name)
include hn

/-- The names of the package of a class, seen from where the classpath begins. -/
theorem isName_of_mem_package {s : Octets} (hs : s ∈ names ++ packageOf c.name) :
    Path.IsName s := by
  rcases List.mem_append.mp hs with hs | hs
  · exact (hh.named s hs).toIsName
  · exact hn.package hs

/-- Nothing stands in the way of the package of a class whose snapshot fits. -/
theorem no_fault (hfits : SnapshotFits (base.pushAll names) c.name) :
    packageFault w.disk base here (names ++ packageOf c.name) = none := by
  obtain ⟨hcheck, hshort⟩ := (snapshotFits_iff hh.nul_not_mem hn).mp hfits
  have hobstacle : w.disk.obstacle here (names ++ packageOf c.name) = none := by
    refine obstacle_eq_none ?_ ?_
    · intro s hs
      rcases List.mem_append.mp hs with hs | hs
      · exact (hh.named s hs).short
      · exact hshort s (List.mem_append_left _ hs)
    · intro part hpart hpre
      -- on the way to the classpath the place is free, and below it there are only packages
      rcases List.prefix_or_prefix_of_prefix hpre (List.prefix_append names _) with h0 | h0
      · exact hh.free part hpart h0
      · obtain ⟨rest, rfl⟩ := h0
        rw [List.prefix_append_right_inj] at hpre
        by_cases hrest : rest = []
        · subst hrest
          rw [List.append_nil] at hpart ⊢
          exact hh.free names hpart List.prefix_rfl
        · rw [blocks_eq_false, ← List.append_assoc]
          cases he : w.disk.entryAt (here ++ names ++ rest) with
          | none => exact .inl rfl
          | some e =>
            obtain ⟨c', -, ⟨-, rfl⟩ | ⟨rfl, -⟩⟩ := hh.only rest e hrest he
            · exact .inr rfl
            · exact absurd hpre (snapshotNames_not_isPrefix c'.name)
  unfold packageFault
  split
  · rfl
  · rename_i hfilled
    have hpre : (packageDir base (names ++ packageOf c.name)).octets <+:
        ((base.pushAll names).pushAll (snapshotNames c.name)).octets := by
      rw [packageDir, Path.pushAll_append, snapshotNames, Path.pushAll_concat]
      exact (Path.trimmed_isPrefix _).trans (isPrefix_push _ (isName_snapshotName hn))
    rw [checkPath_of_isPrefix hpre hfilled hcheck]
    exact hobstacle

/-- A snapshot that is written in the directory of its package is one more. -/
theorem put (hnew : ∀ c' ∈ cs, c'.name ≠ c.name)
    (hfits : SnapshotFits (base.pushAll names) c.name)
    (hg : Grown here (names ++ packageOf c.name) w m)
    (hdir : m.disk.entryAt (here ++ names ++ packageOf c.name) = some .directory) :
    HoldsSnapshots
      (m.disk.put (here ++ names ++ snapshotNames c.name) (.file c.toSnapshot.toUTF8)) base links
      here names (cs ++ [c]) := by
  have hput := entryAt_put m.disk (l := here ++ names ++ snapshotNames c.name)
    (by simp [snapshotNames]) (.file c.toSnapshot.toUTF8)
  have hforall : ∀ {P : ClassDef → Prop}, (∀ c' ∈ cs, P c') → P c → ∀ c' ∈ cs ++ [c], P c' := by
    intro P hcs hc c' hc'
    rcases List.mem_append.mp hc' with hc' | hc'
    · exact hcs c' hc'
    · rwa [List.mem_singleton.mp hc']
  refine ⟨hh.checked, hh.ground_put hnew hg hdir _, hh.named, ?_,
    fun rest e hrest he => hh.only_put hg hrest he, hforall ?_ ?_, hforall hh.formed hn,
    hforall hh.fits hfits⟩
  · intro part hpart hpre
    rw [← hh.free part hpart hpre, ← hg.adds.blocks_eq]
    refine blocks_congr ?_
    rw [hput, if_neg]
    rw [List.append_assoc, List.append_cancel_left_eq]
    -- the way to the classpath is shorter than that to the snapshot
    intro heq
    have hlength := hpre.length_le
    rw [heq] at hlength
    simp [snapshotNames] at hlength
  · intro c' hc'
    rw [hput, if_neg]
    · rcases hg.adds.entry (here ++ names ++ snapshotNames c'.name) with h0 | ⟨h0, -⟩
      · rw [h0, hh.all c' hc']
      · rw [hh.all c' hc'] at h0
        cases h0
    · intro heq
      exact hnew c' hc' (snapshotNames_inj (List.append_cancel_left heq))
  · rw [hput, if_pos rfl]

/-- In the directory of its package a snapshot is written if and only if it fits. -/
theorem write_snapshot (hnew : ∀ c' ∈ cs, c'.name ≠ c.name)
    (hg : Grown here (names ++ packageOf c.name) w m)
    (hready : m.disk.Ready (packageDir base (names ++ packageOf c.name))) (bytes : ByteArray) :
    m.disk.entryAt (here ++ names ++ packageOf c.name) = some .directory ∧
      (SnapshotFits (base.pushAll names) c.name ∧
          m.disk.write ((base.pushAll names).pushAll (snapshotNames c.name)) bytes =
            .ok (m.disk.put (here ++ names ++ snapshotNames c.name) (.file bytes)) ∨
        ¬SnapshotFits (base.pushAll names) c.name ∧
          ∃ f, m.disk.write ((base.pushAll names).pushAll (snapshotNames c.name)) bytes =
            .error f) := by
  have hname := isName_snapshotName hn
  obtain ⟨k, l, hl, -⟩ := hready.arrives
  rw [packageDir, leads_trimmed] at hl
  obtain ⟨-, rfl, hdir, hshort⟩ :=
    (hg.ground hh.ground).leads_pushAll (fun s => hh.isName_of_mem_package hn) hl
  have hvacant := hh.none_at_place hnew hg
  have hplace : here ++ names ++ snapshotNames c.name =
      here ++ (names ++ packageOf c.name) ++ [snapshotName c.name] := by
    simp [snapshotNames]
  have hpath : (base.pushAll names).pushAll (snapshotNames c.name) =
      (base.pushAll (names ++ packageOf c.name)).push (snapshotName c.name) := by
    rw [snapshotNames, Path.pushAll_concat, Path.pushAll_append]
  rw [hplace] at hvacant
  refine ⟨by rwa [List.append_assoc], ?_⟩
  rw [snapshotFits_iff hh.nul_not_mem hn, hplace, hpath]
  -- the names of the package are short, since its directory has been made
  rcases checkPath_cases ((base.pushAll (names ++ packageOf c.name)).push (snapshotName c.name))
    with hcheck | ⟨f, hcheck⟩
  · by_cases hlong : nameLimit < (snapshotName c.name).length
    · refine .inr ⟨?_, .nameTooLong,
        write_of_locate_error (locate_push_long hname hl hcheck hlong) bytes⟩
      exact fun h => h.2 _ (by simp [snapshotNames]) hlong
    · have hat := at_push hname hl hdir hcheck hlong (by rw [hvacant]; simp)
      refine .inl ⟨⟨hcheck, ?_⟩, hat.write_ok (by rw [hvacant]; simp) bytes⟩
      intro s hs
      rcases List.mem_append.mp hs with hs | hs
      · exact hshort s (List.mem_append_right _ hs)
      · rwa [List.mem_singleton.mp hs]
  · refine .inr ⟨?_, f, write_of_locate_error (locate_of_check_error hcheck) bytes⟩
    rw [hcheck]
    rintro ⟨h0, -⟩
    cases h0

/-- The snapshot of a new class is written if and only if it fits, and then it is one more. -/
theorem ensures_writeSnapshot (hnew : ∀ c' ∈ cs, c'.name ≠ c.name) :
    (writeSnapshot (base.pushAll names) c).Ensures w (fun _ => True) fun r w' =>
      SnapshotFits (base.pushAll names) c.name ∧ r = .ok () ∧
          HoldsSnapshots w'.disk base links here names (cs ++ [c]) ∨
        ¬SnapshotFits (base.pushAll names) c.name ∧ ∃ f, r = .error f := by
  have hparent : (snapshotPath (base.pushAll names) c.name).parent =
      some (packageDir base (names ++ packageOf c.name)) := by
    rw [snapshotPath_eq hn, snapshotNames, Path.pushAll_concat, packageDir, Path.pushAll_append]
    exact Path.parent_push _ (isName_snapshotName hn)
  unfold writeSnapshot
  simp only [hparent]
  refine Job.Ensures.bind ((ensures_makeDirs_below hh.ground _
    fun s => hh.isName_of_mem_package hn).mono (fun _ _ => trivial) ?_)
  rintro r m ⟨hg, -, hr⟩
  cases r with
  | error f =>
    refine .done (.inr ⟨fun hfits => ?_, f, rfl⟩)
    have hfault := hr.2
    rw [hh.no_fault hn hfits] at hfault
    cases hfault
  | ok u =>
    have hstep : m.perform (.write (snapshotPath (base.pushAll names) c.name)
          c.toSnapshot.toUTF8) =
        m.change (m.disk.write ((base.pushAll names).pushAll (snapshotNames c.name))
          c.toSnapshot.toUTF8) := by
      rw [snapshotPath_eq hn]
      rfl
    refine .ofStep trivial ?_
    rw [hstep]
    obtain ⟨hdir, ⟨hfits, hwrite⟩ | ⟨hfits, f, hwrite⟩⟩ :=
      hh.write_snapshot hn hnew hg hr c.toSnapshot.toUTF8
    · rw [hwrite]
      exact .inl ⟨hfits, rfl, hh.put hn hnew hfits hg hdir⟩
    · rw [hwrite]
      exact .inr ⟨hfits, f, rfl⟩

end HoldsSnapshots

/-- Snapshots are written if and only if all of them fit, and then all of them are there. -/
theorem ensures_writeSnapshots {w : World} {base : Path} {links : Nat} {here : Location}
    {names : List Octets} {cs : List ClassDef} (rest : List ClassDef)
    (hh : HoldsSnapshots w.disk base links here names cs) (hn : ∀ c ∈ rest, WellFormed c.name)
    (hnodup : ((cs ++ rest).map (·.name)).Nodup) :
    (writeSnapshots (base.pushAll names) rest).Ensures w (fun _ => True) fun r w' =>
      (∀ c ∈ rest, SnapshotFits (base.pushAll names) c.name) ∧ r = .ok () ∧
          HoldsSnapshots w'.disk base links here names (cs ++ rest) ∨
        ¬(∀ c ∈ rest, SnapshotFits (base.pushAll names) c.name) ∧ ∃ f, r = .error f := by
  induction rest generalizing w cs with
  | nil => exact .done (.inl ⟨by simp, rfl, by rwa [List.append_nil]⟩)
  | cons c rest ih =>
    have hnew : ∀ c' ∈ cs, c'.name ≠ c.name := by
      rw [List.map_append, List.nodup_append'] at hnodup
      intro c' hc' heq
      exact hnodup.2.2 (List.mem_map_of_mem hc') (heq ▸ List.mem_map_of_mem (List.mem_cons_self ..))
    refine Job.Ensures.bind ((hh.ensures_writeSnapshot (hn c (List.mem_cons_self ..)) hnew).post ?_)
    rintro r m (⟨hfits, rfl, hm⟩ | ⟨hfits, f, rfl⟩)
    · have hsplit : cs ++ c :: rest = cs ++ [c] ++ rest := by simp
      rw [hsplit] at hnodup ⊢
      refine (ih hm (fun c' hc' => hn c' (List.mem_cons_of_mem _ hc')) hnodup).post ?_
      rintro r w' (⟨hall, rfl, hw'⟩ | ⟨hall, f, rfl⟩)
      · refine .inl ⟨?_, rfl, hw'⟩
        intro c' hc'
        rcases List.mem_cons.mp hc' with rfl | hc'
        · exact hfits
        · exact hall c' hc'
      · exact .inr ⟨fun h => hall fun c' hc' => h c' (List.mem_cons_of_mem _ hc'), f, rfl⟩
    · exact .done (.inr ⟨fun h => hfits (h c (List.mem_cons_self ..)), f, rfl⟩)

/-! ### Loading what has been written -/

/-- A class is read back from its snapshot. -/
theorem ClassDef.ofBytes?_toSnapshot (c : ClassDef) :
    ClassDef.ofBytes? c.toSnapshot.toUTF8 = some c := by
  have hwrites : Json.Writes c.toSnapshot.toList c.toJson := by
    rw [ClassDef.toSnapshot, Json.pretty, String.toList_ofList]
    exact c.literal_toJson.writes_pretty (by simp [Json.IsBlank, Json.isSpace]) 0
  rw [ClassDef.ofBytes?, Text.fromUTF8?_toUTF8, Option.bind_some]
  exact ClassDef.parse?_of_presents c.presents_toJson hwrites

namespace HoldsSnapshots

variable {w : World} {base : Path} {links : Nat} {here : Location} {names : List Octets}
  {cs : List ClassDef} (hh : HoldsSnapshots w.disk base links here names cs)
include hh

/-- A classpath with snapshots below it is a directory. -/
theorem arrives (h : cs = [] → w.disk.status (base.pushAll names) = .ok .directory) :
    checkPath (base.pushAll names) = .ok () ∧ w.disk.Arrives (base.pushAll names) := by
  cases cs with
  | nil => exact arrives_of_status (h rfl)
  | cons c rest =>
    have hc : c ∈ c :: rest := List.mem_cons_self ..
    have hn := hh.formed c hc
    have hnames : ∀ n ∈ names, Path.IsName n := fun n hmem => (hh.named n hmem).toIsName
    have hdir : w.disk.entryAt (here ++ names) = some .directory :=
      hh.ground.tree.dir_of_below (by simp [snapshotNames]) (hh.all c hc)
    have hbase := ((checkPath_ok_iff base).mp hh.checked).2.1
    have hfilled : (base.pushAll names).octets ≠ [] := by
      intro h0
      have hpre := isPrefix_pushAll base hnames
      rw [h0] at hpre
      exact hbase (List.prefix_nil.mp hpre)
    refine ⟨checkPath_of_isPrefix (isPrefix_pushAll _ fun s => isName_of_mem_snapshotNames hn) hfilled
      ((snapshotFits_iff hh.nul_not_mem hn).mp (hh.fits c hc)).1, links, here ++ names, ?_, hdir⟩
    rw [leads_iff, hh.ground.descend_pushAll hnames]
    exact descend_of_directory hh.ground.tree hnames (fun n hmem => (hh.named n hmem).short)
      fun _ => hdir

variable (hdistinct : w.disk.Distinct)
  (hdir : cs = [] → w.disk.status (base.pushAll names) = .ok .directory)
include hdistinct hdir

theorem isClasspath : IsClasspath w.disk (base.pushAll names) (here ++ names) := by
  obtain ⟨hcheck, harrives⟩ := hh.arrives hdir
  have hnames : ∀ n ∈ names, Path.IsName n := fun n hmem => (hh.named n hmem).toIsName
  obtain ⟨hleads, hentry⟩ := hh.ground.leads_of_arrives hnames harrives
  refine ⟨hh.ground.tree, hdistinct, find_directory hleads hentry hcheck, ?_⟩
  intro rest e he n hmem
  have hrest : rest ≠ [] := List.ne_nil_of_mem hmem
  obtain ⟨c, hc, ⟨hpre, -⟩ | ⟨rfl, -⟩⟩ := hh.only rest e hrest he
  · exact (hh.fits c hc).named n (List.mem_append_left _ (hpre.subset hmem))
  · exact (hh.fits c hc).named n hmem

omit hdistinct hdir

/-- The snapshots below the classpath are those of the classes. -/
theorem snapshotAt_iff (hsearched : ∀ c ∈ cs, Text.bytesOf "META-INF" ∉ packageOf c.name)
    {rest : List Octets} {bytes : ByteArray} :
    SnapshotAt w.disk (here ++ names) rest bytes ↔
      ∃ c ∈ cs, rest = snapshotNames c.name ∧ bytes = c.toSnapshot.toUTF8 := by
  constructor
  · intro hat
    have hrest : rest ≠ [] := by
      rintro rfl
      obtain ⟨n, hn, -⟩ := hat.named
      cases hn
    obtain ⟨c, hc, ⟨-, h0⟩ | ⟨heq, h0⟩⟩ := hh.only rest _ hrest hat.file
    · cases h0
    · exact ⟨c, hc, heq, Entry.file.inj h0⟩
  · rintro ⟨c, hc, rfl, rfl⟩
    refine ⟨hh.all c hc, ⟨snapshotName c.name, by simp [snapshotNames],
      isSnapshotName_snapshotName (hh.formed c hc)⟩, ?_⟩
    rw [snapshotNames, List.dropLast_concat]
    exact isSearched_packageOf (hsearched c hc)

include hdistinct hdir

/-- A classpath that holds the snapshots of classes gives the engine of these classes. -/
theorem loads (hsearched : ∀ c ∈ cs, Text.bytesOf "META-INF" ∉ packageOf c.name)
    (hnodup : (cs.map (·.name)).Nodup) :
    SnapshotEngine.Loads (base.pushAll names) w
      (.ofClasses (cs.map ClassDef.fillDeclaringClass)) := by
  have hclasspath := hh.isClasspath hdistinct hdir
  have hloadable : Loadable w.disk (base.pushAll names) (here ++ names) := by
    constructor
    · intro rest he _
      by_cases hrest : rest = []
      · subst hrest
        exact ((checkPath_ok_iff _).mp hclasspath.checked).2.2
      · obtain ⟨c, hc, ⟨hpre, -⟩ | ⟨-, h0⟩⟩ := hh.only rest _ hrest he
        · exact (hh.fits c hc).within.of_isPrefix (hpre.trans (List.prefix_append ..))
            fun s => isName_of_mem_snapshotNames (hh.formed c hc)
        · cases h0
    · intro rest bytes hat
      obtain ⟨c, hc, rfl, rfl⟩ := (hh.snapshotAt_iff hsearched).mp hat
      exact ⟨(hh.fits c hc).within, by rw [c.ofBytes?_toSnapshot]; rfl⟩
  rw [SnapshotEngine.loads_iff hclasspath]
  refine ⟨hloadable, SnapshotEngine.ofClasses_eq_of_mem ?_ ?_⟩
  · intro c
    rw [mem_loaded hclasspath hloadable, List.mem_map]
    constructor
    · rintro ⟨c', hc', rfl⟩
      exact ⟨snapshotNames c'.name, c', ⟨_, (hh.snapshotAt_iff hsearched).mpr ⟨c', hc', rfl, rfl⟩,
        c'.ofBytes?_toSnapshot⟩, rfl⟩
    · rintro ⟨rest, c', ⟨bytes, hat, hbytes⟩, rfl⟩
      obtain ⟨d, hd, -, rfl⟩ := (hh.snapshotAt_iff hsearched).mp hat
      rw [d.ofBytes?_toSnapshot] at hbytes
      exact ⟨d, hd, by rw [Option.some.inj hbytes]⟩
  · intro a ha b hb hab
    obtain ⟨a', ha', rfl⟩ := List.mem_map.mp ha
    obtain ⟨b', hb', rfl⟩ := List.mem_map.mp hb
    rw [List.inj_on_of_nodup_map hnodup ha' hb' hab]

end HoldsSnapshots

end ClassCensus
