import ClassCensus.Proofs.Engine.ByName
import ClassCensus.Proofs.Generation.Directory
import ClassCensus.Proofs.Snapshot.Gather
import ClassCensus.Snapshot.Load

/-!
# Loading a classpath

What comes of loading a classpath is told by its disk (`SnapshotEngine.loads_iff`): it is loaded if
every directory can be opened and every snapshot describes a class, and then its classes are those
of the snapshots in the order of their paths. Of several snapshots of one class, the one with the
least path counts (`resolve_loaded`).
-/

namespace ClassCensus

open Disk

/-- The class that the bytes of a file describe. -/
def ClassDef.ofBytes? (bytes : ByteArray) : Option ClassDef :=
  (String.fromUTF8? bytes).bind ClassDef.parse?

/-- The class in the file at a path. -/
def Disk.classAt? (d : Disk) (file : Path) : Option ClassDef :=
  (d.read file).toOption.bind ClassDef.ofBytes?

/-- The classes in those files that describe one, with their declaring classes. -/
def Disk.loaded (d : Disk) (files : List Path) : List ClassDef :=
  files.filterMap fun file => (d.classAt? file).map ClassDef.fillDeclaringClass

/-! ### One file -/

section Files

variable (classpath : Path) (w : World)

theorem ensures_readText (file : Path) :
    (readText file).Ensures w w.Passes fun r w' =>
      w.Passes w' ∧ r.toOption = (w.disk.read file).toOption.bind String.fromUTF8? := by
  have hstep : w.perform (.read file) = (w.disk.read file, w) := rfl
  refine Job.Ensures.bind (.ofStep (.refl w) ?_)
  rw [hstep]
  cases w.disk.read file with
  | error f => exact .done ⟨.refl w, rfl⟩
  | ok bytes =>
    dsimp only
    cases ht : String.fromUTF8? bytes with
    | none => exact .done ⟨.refl w, ht.symm⟩
    | some text => exact .done ⟨.refl w, ht.symm⟩

/-- A snapshot is loaded if its file describes a class. -/
theorem ensures_loadSnapshot (file : Path) :
    Attempt.Ensures (loadSnapshot classpath file) w w.Passes fun r w' =>
      w.Passes w' ∧ r.toOption = (w.disk.classAt? file).map ClassDef.fillDeclaringClass := by
  have hclass : w.disk.classAt? file =
      ((w.disk.read file).toOption.bind String.fromUTF8?).bind ClassDef.parse? := by
    unfold Disk.classAt? ClassDef.ofBytes?
    rw [Option.bind_assoc]
  refine .bind (.atPath ((ensures_readText w file).post ?_))
  rintro r w1 ⟨hpass, hr⟩
  rw [← hr] at hclass
  cases r with
  | error f => exact ⟨hpass, by rw [hclass]; rfl⟩
  | ok text =>
    simp only [Except.mapError]
    cases hparse : ClassDef.parse? text with
    | none =>
      refine .throw ⟨hpass, ?_⟩
      rw [hclass]
      simp [Except.toOption, hparse]
    | some c =>
      have hpasses := (Job.yields_tellAll (misplacedEvents classpath file c)).ensures w1
      refine .bind (.ofJob (hpasses.mono (fun m hm => hpass.trans hm) ?_))
      rintro u w2 ⟨-, hlast⟩
      refine .pure ⟨hpass.trans hlast, ?_⟩
      rw [hclass]
      simp [Except.toOption, hparse]

/-- Snapshots are loaded all or not at all. -/
theorem ensures_loadSnapshots (files : List Path) :
    Attempt.Ensures (loadSnapshots classpath files) w w.Passes fun r w' =>
      w.Passes w' ∧
        (r.toOption = some (w.disk.loaded files) ∧ (∀ f ∈ files, (w.disk.classAt? f).isSome = true) ∨
          r.toOption = none ∧ ∃ f ∈ files, w.disk.classAt? f = none) := by
  -- over the files; loading one of them leaves the disk as it was, so the rest finds it so
  induction files generalizing w with
  | nil => exact .pure ⟨.refl w, .inl ⟨rfl, by simp⟩⟩
  | cons file rest ih =>
    refine .bind ((ensures_loadSnapshot classpath w file).post ?_)
    rintro r w1 ⟨hpass, hr⟩
    cases hclass : w.disk.classAt? file with
    | none =>
      rw [hclass] at hr
      cases r with
      | ok c => cases hr
      | error e => exact ⟨hpass, .inr ⟨rfl, file, List.mem_cons_self .., hclass⟩⟩
    | some c =>
      rw [hclass] at hr
      cases r with
      | error e => cases hr
      | ok c' =>
        obtain rfl : c' = c.fillDeclaringClass := Option.some.inj hr
        have hrest := ih w1
        rw [hpass.disk] at hrest
        refine .bind (hrest.mono (fun m hm => hpass.trans hm) ?_)
        rintro r w2 ⟨hlast, hr⟩
        have hpass2 := hpass.trans hlast
        cases r with
        | error e =>
          obtain ⟨h0, -⟩ | ⟨-, f, hf, hnone⟩ := hr
          · cases h0
          · exact ⟨hpass2, .inr ⟨rfl, f, List.mem_cons_of_mem _ hf, hnone⟩⟩
        | ok cs =>
          obtain ⟨h0, hall⟩ | ⟨h0, -⟩ := hr
          · refine .pure ⟨hpass2, .inl ⟨?_, ?_⟩⟩
            · obtain rfl : cs = w.disk.loaded rest := Option.some.inj h0
              simp [Disk.loaded, hclass, Except.toOption]
            · intro f hf
              rcases List.mem_cons.mp hf with rfl | hf
              · rw [hclass]
                rfl
              · exact hall f hf
          · cases h0

end Files

/-! ### The classpath -/

/-- Loading a classpath gives an engine. -/
def SnapshotEngine.Loads (classpath : Path) (w : World) (e : SnapshotEngine) : Prop :=
  ((SnapshotEngine.load classpath).run.run w).1 = .ok e

/-- Names that lead to a snapshot, and the class that it describes. -/
def ClassBelow (d : Disk) (top : Location) (names : List Octets) (c : ClassDef) : Prop :=
  ∃ bytes, SnapshotAt d top names bytes ∧ ClassDef.ofBytes? bytes = some c

/-- Every directory of a classpath can be opened, and every snapshot can be read and describes a
class. -/
structure Loadable (d : Disk) (classpath : Path) (top : Location) : Prop where
  searchable : Searchable d classpath top
  described : ∀ names bytes, SnapshotAt d top names bytes →
    WithinLimit classpath names ∧ (ClassDef.ofBytes? bytes).isSome = true

theorem Loadable.of_same {d d' : Disk} {classpath : Path} {top : Location} (hs : Same d d')
    (hl : Loadable d classpath top) : Loadable d' classpath top :=
  ⟨hl.searchable.of_same hs, fun names bytes hat =>
    hl.described names bytes (hat.of_same hs.symm)⟩

section Classpath

variable {w : World} {classpath : Path} {top : Location} (h : IsClasspath w.disk classpath top)
include h

theorem classAt?_snapshot {names : List Octets} {bytes : ByteArray}
    (hat : SnapshotAt w.disk top names bytes) :
    (WithinLimit classpath names →
        w.disk.classAt? (classpath.pushAll names) = ClassDef.ofBytes? bytes) ∧
      (¬WithinLimit classpath names → w.disk.classAt? (classpath.pushAll names) = none) := by
  obtain ⟨hshort, hlong⟩ := read_snapshot h hat
  constructor
  · intro hlimit
    simp [Disk.classAt?, hshort hlimit, Except.toOption]
  · intro hlimit
    simp [Disk.classAt?, hlong hlimit, Except.toOption]

/-- All gathered files describe classes if and only if all snapshots can be read and do. -/
theorem all_classAt?_iff :
    (∀ f ∈ gathered w.disk classpath top, (w.disk.classAt? f).isSome = true) ↔
      ∀ names bytes, SnapshotAt w.disk top names bytes →
        WithinLimit classpath names ∧ (ClassDef.ofBytes? bytes).isSome = true := by
  constructor
  · intro hall names bytes hat
    obtain ⟨hshort, hlong⟩ := classAt?_snapshot h hat
    have hsome := hall _ (h.mem_gathered.mpr ⟨names, bytes, hat, rfl⟩)
    by_cases hlimit : WithinLimit classpath names
    · rw [hshort hlimit] at hsome
      exact ⟨hlimit, hsome⟩
    · rw [hlong hlimit] at hsome
      cases hsome
  · intro hall f hf
    obtain ⟨names, bytes, hat, rfl⟩ := h.mem_gathered.mp hf
    obtain ⟨hlimit, hsome⟩ := hall names bytes hat
    rwa [(classAt?_snapshot h hat).1 hlimit]

/-- A classpath is loaded as a whole or not at all, and its engine is told by its disk. -/
theorem ensures_load :
    Attempt.Ensures (SnapshotEngine.load classpath) w w.Passes fun r w' =>
      w.Passes w' ∧
        (Loadable w.disk classpath top ∧
            r = .ok (.ofClasses (w.disk.loaded (gathered w.disk classpath top))) ∨
          ¬Loadable w.disk classpath top ∧ ∃ e, r = .error e) := by
  have hdir : w.disk.status classpath = .ok .directory := by
    simp [Disk.status, h.found, Entry.kind, bind, Except.bind, pure, Except.pure]
  refine .bind (.ofJob (ensures_isDirectory (.refl w) ?_))
  intro b hb
  rw [hb.mpr hdir]
  refine .bind (.ofJob ((ensures_gatherSnapshots h).post ?_))
  rintro r w1 ⟨rfl, ⟨hsearch, rfl⟩ | ⟨hsearch, e, rfl⟩⟩
  · refine .bind ((ensures_loadSnapshots classpath w1 _).post ?_)
    rintro r w2 ⟨hpass, hr⟩
    rcases hr with ⟨hr, hall⟩ | ⟨hr, f, hf, hnone⟩
    · cases r with
      | error e => cases hr
      | ok cs =>
        obtain rfl : cs = w1.disk.loaded (gathered w1.disk classpath top) := Option.some.inj hr
        have hloadable : Loadable w1.disk classpath top :=
          ⟨hsearch, (all_classAt?_iff h).mp hall⟩
        refine .bind (.ofJob (((Job.yields_tell _).ensures w2).mono
          (fun m hm => hpass.trans hm) ?_))
        rintro u w3 ⟨-, hpass3⟩
        have hpass3 := hpass.trans hpass3
        refine .bind (.ofJob (((Job.yields_tellAll _).ensures w3).mono
          (fun m hm => hpass3.trans hm) ?_))
        rintro u w4 ⟨-, hpass4⟩
        exact .pure ⟨hpass3.trans hpass4, .inl ⟨hloadable, rfl⟩⟩
    · cases r with
      | ok cs => cases hr
      | error e =>
        refine ⟨hpass, .inr ⟨?_, e, rfl⟩⟩
        intro hloadable
        have hsome := (all_classAt?_iff h).mpr hloadable.described f hf
        rw [hnone] at hsome
        cases hsome
  · exact .throw ⟨.refl w1, .inr ⟨fun hl => hsearch hl.searchable, _, rfl⟩⟩

namespace SnapshotEngine

theorem loads_iff {e : SnapshotEngine} :
    Loads classpath w e ↔ Loadable w.disk classpath top ∧
      e = ofClasses (w.disk.loaded (gathered w.disk classpath top)) := by
  obtain ⟨-, ⟨hloadable, hr⟩ | ⟨hloadable, e', hr⟩⟩ := (ensures_load h).result
  · unfold Loads
    rw [hr]
    simp [hloadable, eq_comm]
  · unfold Loads
    rw [hr]
    simp [hloadable]

/-- The order in which the entries of a disk are listed makes no difference to the engine. -/
theorem loads_iff_of_perm {d : Disk} (hp : w.disk.entries.Perm d.entries)
    (hhome : d.home = w.disk.home) (e : SnapshotEngine) :
    Loads classpath { w with disk := d } e ↔ Loads classpath w e := by
  have hsame := h.distinct.same_of_perm hp hhome
  have hloadable : Loadable d classpath top ↔ Loadable w.disk classpath top :=
    ⟨.of_same hsame.symm, .of_same hsame⟩
  have hloaded : ∀ files, d.loaded files = w.disk.loaded files := by
    intro files
    unfold Disk.loaded Disk.classAt? Disk.read
    simp only [hsame.find]
  rw [loads_iff h, loads_iff (w := { w with disk := d }) (h.of_perm hp hhome), hloadable,
    ← h.gathered_eq_of_perm hp, hloaded]

end SnapshotEngine

/-! ### The classes of a classpath -/

variable (hl : Loadable w.disk classpath top)
include hl

theorem mem_loaded {c : ClassDef} :
    c ∈ w.disk.loaded (gathered w.disk classpath top) ↔
      ∃ names c', ClassBelow w.disk top names c' ∧ c'.fillDeclaringClass = c := by
  simp only [Disk.loaded, List.mem_filterMap, Option.map_eq_some_iff]
  constructor
  · rintro ⟨f, hf, c', hc', rfl⟩
    obtain ⟨names, bytes, hat, rfl⟩ := h.mem_gathered.mp hf
    rw [(classAt?_snapshot h hat).1 (hl.described names bytes hat).1] at hc'
    exact ⟨names, c', ⟨bytes, hat, hc'⟩, rfl⟩
  · rintro ⟨names, c', ⟨bytes, hat, hc'⟩, rfl⟩
    refine ⟨classpath.pushAll names, h.mem_gathered.mpr ⟨names, bytes, hat, rfl⟩, c', ?_, rfl⟩
    rwa [(classAt?_snapshot h hat).1 (hl.described names bytes hat).1]

/-- The names of the classes of an engine are those that snapshots declare. -/
theorem mem_classNames_loaded {n : String} :
    n ∈ ClassEngine.classNames
        (SnapshotEngine.ofClasses (w.disk.loaded (gathered w.disk classpath top))) ↔
      ∃ names c, ClassBelow w.disk top names c ∧ c.name = n := by
  rw [SnapshotEngine.mem_classNames_ofClasses]
  constructor
  · rintro ⟨c, hc, rfl⟩
    obtain ⟨names, c', hbelow, rfl⟩ := (mem_loaded h hl).mp hc
    exact ⟨names, c', hbelow, rfl⟩
  · rintro ⟨names, c, hbelow, rfl⟩
    exact ⟨_, (mem_loaded h hl).mpr ⟨names, c, hbelow, rfl⟩, rfl⟩

/-- Of several snapshots that declare one class, the one with the least path is loaded. -/
theorem resolve_loaded {n : String} (hn : ∃ names c, ClassBelow w.disk top names c ∧ c.name = n) :
    ∃ names c, ClassBelow w.disk top names c ∧ c.name = n ∧
      (∀ others c', ClassBelow w.disk top others c' → c'.name = n →
        others = names ∨ (classpath.pushAll names).Before (classpath.pushAll others)) ∧
      ClassEngine.resolve
        (SnapshotEngine.ofClasses (w.disk.loaded (gathered w.disk classpath top))) n =
          .ok c.fillDeclaringClass := by
  -- whether a file declares the class, and what it declares
  let declared (f : Path) : Option ClassDef :=
    (w.disk.classAt? f).map ClassDef.fillDeclaringClass
  have hdeclared : ∀ {names c}, ClassBelow w.disk top names c →
      classpath.pushAll names ∈ gathered w.disk classpath top ∧
        declared (classpath.pushAll names) = some c.fillDeclaringClass := by
    rintro names c ⟨bytes, hat, hc⟩
    refine ⟨h.mem_gathered.mpr ⟨names, bytes, hat, rfl⟩, ?_⟩
    simp only [declared]
    rw [(classAt?_snapshot h hat).1 (hl.described names bytes hat).1, hc, Option.map_some]
  have hfind : (gathered w.disk classpath top).find?
      (fun f => (declared f).any fun c => c.name = n) ≠ none := by
    obtain ⟨names, c, hbelow, hname⟩ := hn
    obtain ⟨hmem, hsome⟩ := hdeclared hbelow
    intro hnone
    refine List.find?_eq_none.mp hnone _ hmem ?_
    rw [hsome]
    exact decide_eq_true hname
  obtain ⟨f, hf⟩ := Option.ne_none_iff_exists'.mp hfind
  have hdeclares := List.find?_some hf
  obtain ⟨names, bytes, hat, rfl⟩ := h.mem_gathered.mp (List.mem_of_find?_eq_some hf)
  obtain ⟨c, hc⟩ := Option.isSome_iff_exists.mp (hl.described names bytes hat).2
  have hbelow : ClassBelow w.disk top names c := ⟨bytes, hat, hc⟩
  rw [(hdeclared hbelow).2] at hdeclares
  have hname : c.name = n := of_decide_eq_true hdeclares
  refine ⟨names, c, hbelow, hname, ?_, ?_⟩
  · intro others c' hbelow' hname'
    obtain ⟨hmem, hsome⟩ := hdeclared hbelow'
    obtain ⟨bytes', hat', -⟩ := hbelow'
    have hdeclares' : (declared (classpath.pushAll others)).any (fun c => c.name = n) = true := by
      rw [hsome]
      exact decide_eq_true hname'
    -- the gathered paths are in order, and this one is the first that declares the class
    rcases Sorting.eq_or_of_find? (pairwise_gathered w.disk classpath top) hf hmem hdeclares' with
      heq | hnot
    · exact .inl (h.names_eq hat' hat (congrArg Path.components heq))
    · by_cases heq : names = others
      · exact .inl heq.symm
      · exact .inr ((Path.before_or_before (h.isName hat.file) (h.isName hat'.file)
          heq).resolve_right hnot)
  · show SnapshotEngine.resolve _ n = _
    rw [SnapshotEngine.resolve_ofClasses, Disk.loaded, List.find?_filterMap, hf]
    simp only [Option.bind_some]
    rw [show (w.disk.classAt? (classpath.pushAll names)).map ClassDef.fillDeclaringClass =
      some c.fillDeclaringClass from (hdeclared hbelow).2]

end Classpath

end ClassCensus
