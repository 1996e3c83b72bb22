import ClassCensus.Engine.Snapshot
import ClassCensus.Proofs.Generation.WriteInPlace
import Mathlib.Logic.Relation

/-!
# Changes of one class

The changes that the generation of one class makes to a disk, each with what holds when it is made
(`ClassChange`). They leave a ground a ground (`ClassChanges.ground`), and the dump of a class is put
in place when its metrics file is there.
-/

namespace ClassCensus

open Disk

/-- The contents of the artifacts of a class. -/
structure Contents where
  dump : ByteArray
  metrics : ByteArray

/-- What is fixed for a generation, with an engine that only asks while it prints and prints the
same for a class each time. -/
structure Setup (ε : Type) [ClassEngine ε] where
  session : Session ε
  printed : ClassDef → Except DiskFault String
  quiet : ∀ c, (ClassEngine.dump session.engine c).Yields (printed c)
  isStack : NamingConvention
  root : Path
  replace : Bool

namespace Setup

/-- The generation of classes that are given. -/
def ofClasses (classes : List ClassDef) (root : Path) (replace : Bool) : Setup SnapshotEngine where
  session := ⟨.ofClasses classes, classes.map (·.name), PreTransform.none.name⟩
  printed c := .ok c.dump
  quiet _ := .done _
  isStack := syntheticName
  root
  replace

variable {ε : Type} [ClassEngine ε] (s : Setup ε)

/-- The paths of the artifacts of a class. -/
def paths (n : String) : ArtifactPaths := ArtifactPaths.ofClass s.root n

/-- The directory of the artifacts of a class. -/
def directory (n : String) : Path := packageDir s.root (packageOf n)

/-- The contents of the artifacts of a class, if it can be resolved and printed. -/
def contents (n : String) : Option Contents := do
  let c ← (s.session.resolve n).toOption
  let text ← (s.printed c).toOption
  return ⟨text.toUTF8, (ClassRecord.ofClass s.isStack c).toText.toUTF8⟩

theorem contents_of_printed {n : String} {c : ClassDef} {text : String}
    (hc : s.session.resolve n = .ok c) (ht : s.printed c = .ok text) :
    s.contents n = some ⟨text.toUTF8, (ClassRecord.ofClass s.isStack c).toText.toUTF8⟩ := by
  simp [contents, hc, ht, Except.toOption]

theorem printed_of_contents {n : String} {b : Contents} (h : s.contents n = some b) :
    ∃ c text, s.session.resolve n = .ok c ∧ s.printed c = .ok text ∧
      b = ⟨text.toUTF8, (ClassRecord.ofClass s.isStack c).toText.toUTF8⟩ := by
  simp only [contents] at h
  cases hc : s.session.resolve n with
  | error e => simp [hc, Except.toOption] at h
  | ok c =>
    cases ht : s.printed c with
    | error f => simp [hc, ht, Except.toOption] at h
    | ok text =>
      simp only [hc, ht, Except.toOption, Option.bind_eq_bind, Option.bind_some,
        Option.pure_def, Option.some.injEq] at h
      exact ⟨c, text, rfl, ht, h.symm⟩

end Setup

/-- The paths of the artifacts of a class can be asked for, and their names are short. The metrics
file has the longer name. -/
structure Nameable (root : Path) (n : String) : Prop where
  path : checkPath ((root.pushAll (packageOf n)).push (metricsName n)) = .ok ()
  short : ∀ x ∈ packageOf n ++ [metricsName n], ¬nameLimit < x.length

theorem Nameable.dump {root : Path} {n : String} (hn : WellFormed n) (h : Nameable root n) :
    checkPath ((root.pushAll (packageOf n)).push (dumpName n)) = .ok () ∧
      ∀ x ∈ packageOf n ++ [dumpName n], ¬nameLimit < x.length := by
  have hshorter : Shorter (dumpName n) (metricsName n) := .of_stem _
  have hsize := hshorter.size
  constructor
  · exact checkPath_push_of_size hn.dumpName hn.metricsName hshorter.zero (by omega) h.path
  · intro x hx
    rcases List.mem_append.mp hx with h0 | h0
    · exact h.short x (List.mem_append_left _ h0)
    · have hlast := h.short (metricsName n) (by simp)
      rw [List.mem_singleton.mp h0]
      omega

/-- One change to a disk while the artifacts of a class are generated. -/
inductive ClassChange {ε : Type} [ClassEngine ε] (s : Setup ε) (top : Location) (n : String) :
    Disk → Disk → Prop where
  | directories {d d' : Disk} (adds : AddsDirs (WithinPackage top (packageOf n)) d d')
      (tree : d'.IsTree) : ClassChange s top n d d'
  | temporary {d : Disk} (name : Octets) (stamp : Stamp) (bytes : ByteArray)
      (here : d.entryAt (top ++ packageOf n) = some .directory)
      (free : d.entryAt (temporaryPlace top n name stamp) ≠ some .directory) :
      ClassChange s top n d (d.put (temporaryPlace top n name stamp) (.file bytes))
  | discard {d : Disk} (name : Octets) (stamp : Stamp) {bytes : ByteArray}
      (file : d.entryAt (temporaryPlace top n name stamp) = some (.file bytes)) :
      ClassChange s top n d (d.erase (temporaryPlace top n name stamp))
  | metrics {d : Disk} {b : Contents} (contents : s.contents n = some b)
      (here : d.entryAt (top ++ packageOf n) = some .directory)
      (free : d.entryAt (metricsPlace top n) ≠ some .directory)
      (absent : s.replace = false → d.entryAt (dumpPlace top n) = none) :
      ClassChange s top n d (d.put (metricsPlace top n) (.file b.metrics))
  | dump {d : Disk} {b : Contents} (contents : s.contents n = some b)
      (here : d.entryAt (top ++ packageOf n) = some .directory)
      (free : d.entryAt (dumpPlace top n) ≠ some .directory)
      (nameable : Nameable s.root n)
      (pair : d.entryAt (metricsPlace top n) = some (.file b.metrics)) :
      ClassChange s top n d (d.put (dumpPlace top n) (.file b.dump))

/-- Any number of changes. -/
abbrev ClassChanges {ε : Type} [ClassEngine ε] (s : Setup ε) (top : Location) (n : String) :
    Disk → Disk → Prop :=
  Relation.ReflTransGen (ClassChange s top n)

/-! ### Files below a ground -/

namespace Disk.Ground

variable {d : Disk} {root : Path} {links : Nat} {top : Location}

theorem noLinkAt (g : Ground d root links top) {part : Location} {x : Octets} {t : Path} :
    d.entryAt (top ++ part ++ [x]) ≠ some (.link t) := by
  rw [List.append_assoc]
  exact g.noLinks (part ++ [x]) (by simp) t

/-- A file in the place of no directory leaves a ground. -/
theorem put_file (g : Ground d root links top) {part : Location} {x : Octets} {b : ByteArray}
    (here : d.entryAt (top ++ part) = some .directory)
    (free : d.entryAt (top ++ part ++ [x]) ≠ some .directory) :
    Ground (d.put (top ++ part ++ [x]) (.file b)) root links top := by
  have hne : top ++ part ++ [x] ≠ [] := by simp
  refine g.of_keepsWays (.put_file hne b free fun _ => g.noLinkAt) ?_ ?_
  · exact g.tree.put here (.inr free)
  · intro rest hr t
    rw [entryAt_put d hne]
    split
    · simp
    · exact g.noLinks rest hr t

/-- A ground without one of its files is a ground. -/
theorem erase_file (g : Ground d root links top) {l : Location} (hne : l ≠ []) {b : ByteArray}
    (file : d.entryAt l = some (.file b)) : Ground (d.erase l) root links top := by
  refine g.of_keepsWays (.erase_file hne file) ?_ ?_
  · refine g.tree.erase hne fun x => g.tree.none_below (by simp [file]) (by simp)
  · intro rest hr t
    rw [entryAt_erase d hne]
    split
    · simp
    · exact g.noLinks rest hr t

end Disk.Ground

section Changes

variable {ε : Type} [ClassEngine ε] {s : Setup ε} {top : Location} {n : String} {d d' : Disk}
  {root : Path} {links : Nat}

theorem ClassChange.ground (h : ClassChange s top n d d') (g : Ground d root links top) :
    Ground d' root links top := by
  cases h with
  | directories adds tree => exact g.addsDirs adds tree
  | temporary name stamp bytes here free => exact g.put_file here free
  | discard name stamp file => exact g.erase_file temporaryPlace_ne_nil file
  | metrics contents here free absent => exact g.put_file here free
  | dump contents here free nameable pair => exact g.put_file here free

/-- The ways of a ground stay open. -/
theorem ClassChange.keepsWays (h : ClassChange s top n d d') (g : Ground d root links top) :
    KeepsWays d d' := by
  have hput : ∀ {part : Location} {x : Octets} {b : ByteArray},
      d.entryAt (top ++ part ++ [x]) ≠ some .directory →
        KeepsWays d (d.put (top ++ part ++ [x]) (.file b)) :=
    fun free => .put_file (by simp) _ free fun _ => g.noLinkAt
  cases h with
  | directories adds tree => exact adds.keeps.ways
  | temporary name stamp bytes here free => exact hput free
  | discard name stamp file => exact .erase_file temporaryPlace_ne_nil file
  | metrics contents here free absent => exact hput free
  | dump contents here free nameable pair => exact hput free

/-- After a change a place holds what it held, nothing, a file, or a directory of the package. -/
theorem ClassChange.entry (h : ClassChange s top n d d') (l : Location) :
    d'.entryAt l = d.entryAt l ∨ d'.entryAt l = none ∨ (∃ b, d'.entryAt l = some (.file b)) ∨
      (d'.entryAt l = some .directory ∧ WithinPackage top (packageOf n) l) := by
  have hfile : ∀ {k : Location} {b : ByteArray}, k ≠ [] →
      (d.put k (.file b)).entryAt l = d.entryAt l ∨
        (d.put k (.file b)).entryAt l = some (.file b) := by
    intro k b hk
    rw [entryAt_put d hk]
    split
    · exact .inr rfl
    · exact .inl rfl
  cases h with
  | directories adds tree =>
    rcases adds.entry l with h0 | ⟨-, h0, h1⟩
    · exact .inl h0
    · exact .inr (.inr (.inr ⟨h0, h1⟩))
  | temporary name stamp bytes here free =>
    exact (hfile temporaryPlace_ne_nil).imp id fun h0 => .inr (.inl ⟨_, h0⟩)
  | discard name stamp file =>
    rw [entryAt_erase d temporaryPlace_ne_nil]
    split
    · exact .inr (.inl rfl)
    · exact .inl rfl
  | metrics contents here free absent =>
    exact (hfile metricsPlace_ne_nil).imp id fun h0 => .inr (.inl ⟨_, h0⟩)
  | dump contents here free nameable pair =>
    exact (hfile dumpPlace_ne_nil).imp id fun h0 => .inr (.inl ⟨_, h0⟩)

theorem ClassChange.directory (h : ClassChange s top n d d') {l : Location}
    (hl : d'.entryAt l = some .directory) :
    d.entryAt l = some .directory ∨ WithinPackage top (packageOf n) l := by
  rcases h.entry l with h0 | h0 | ⟨b, h0⟩ | ⟨-, h0⟩
  · exact .inl (h0 ▸ hl)
  · rw [hl] at h0
    cases h0
  · rw [hl] at h0
    cases h0
  · exact .inr h0

theorem ClassChange.link (h : ClassChange s top n d d') {l : Location} {t : Path}
    (hl : d'.entryAt l = some (.link t)) : d.entryAt l = some (.link t) := by
  rcases h.entry l with h0 | h0 | ⟨b, h0⟩ | ⟨h0, -⟩
  · exact h0 ▸ hl
  · rw [hl] at h0
    cases h0
  · rw [hl] at h0
    cases h0
  · rw [hl] at h0
    cases h0

/-- A property that every change preserves is preserved by any number of them. -/
theorem ClassChanges.preserves {P : Disk → Prop}
    (step : ∀ d d', ClassChange s top n d d' → P d → P d') (h : ClassChanges s top n d d')
    (hd : P d) : P d' := by
  induction h with
  | refl => exact hd
  | tail _ hstep ih => exact step _ _ hstep ih

theorem ClassChanges.ground (h : ClassChanges s top n d d') (g : Ground d root links top) :
    Ground d' root links top :=
  h.preserves (fun _ _ hc hg => hc.ground hg) g

/-- A place that is no place of a package comes to be no directory. -/
theorem ClassChanges.not_directory (h : ClassChanges s top n d d') {l : Location}
    (hl : ¬WithinPackage top (packageOf n) l) (hd : d.entryAt l ≠ some .directory) :
    d'.entryAt l ≠ some .directory :=
  h.preserves (P := fun x => x.entryAt l ≠ some .directory)
    (fun _ _ hc h0 h1 => (hc.directory h1).elim h0 hl) hd

end Changes

/-! ### Writing the two files -/

section Pair

variable {ε : Type} [ClassEngine ε] {s : Setup ε} {top : Location} {n : String}
  {d m : Disk} {p : Path} {stamp : Stamp} {b : Contents}

theorem entryAt_discarded (d : Disk) {t : Location} (ht : t ≠ []) (bytes : ByteArray)
    (l : Location) :
    ((d.put t (.file bytes)).erase t).entryAt l = if l = t then none else d.entryAt l := by
  rw [entryAt_erase _ ht]
  split
  · rfl
  · rename_i h
    rw [entryAt_put d ht, if_neg h]

/-- A disk with a temporary file that has come and gone. -/
theorem changes_discarded {name : Octets} {bytes : ByteArray}
    (here : d.entryAt (top ++ packageOf n) = some .directory)
    (free : d.entryAt (temporaryPlace top n name stamp) ≠ some .directory) :
    ClassChanges s top n d
      ((d.put (temporaryPlace top n name stamp) (.file bytes)).erase
        (temporaryPlace top n name stamp)) := by
  have hfile : (d.put (temporaryPlace top n name stamp) (.file bytes)).entryAt
      (temporaryPlace top n name stamp) = some (.file bytes) := by
    rw [entryAt_put d temporaryPlace_ne_nil, if_pos rfl]
  exact .tail (.single (.temporary name stamp bytes here free)) (.discard name stamp hfile)

theorem here_ne_temporaryPlace {name : Octets} :
    top ++ packageOf n ≠ temporaryPlace top n name stamp := by
  intro h
  have := congrArg List.length h
  simp [temporaryPlace] at this

theorem changes_of_writing_metrics (hn : WellFormed n) (hb : s.contents n = some b)
    (here : d.entryAt (top ++ packageOf n) = some .directory)
    (free : d.entryAt (temporaryPlace top n (metricsName n) stamp) ≠ some .directory)
    (absent : Writable p (metricsName n) stamp → s.replace = false →
      d.entryAt (dumpPlace top n) = none)
    (h : Writing p (metricsName n) stamp (metricsPlace top n) b.metrics d
      (temporaryPlace top n (metricsName n) stamp) m) :
    ClassChanges s top n d m := by
  cases h with
  | before => exact .refl
  | written => exact .single (.temporary _ _ _ here free)
  | discarded => exact changes_discarded here free
  | settled room hfree =>
    have hentry := entryAt_discarded d temporaryPlace_ne_nil b.metrics
      (t := temporaryPlace top n (metricsName n) stamp)
    refine .tail (changes_discarded here free) (.metrics hb ?_ ?_ ?_)
    · rw [hentry, if_neg here_ne_temporaryPlace, here]
    · rw [hentry, if_neg (temporaryPlace_ne_metricsPlace hn).symm]
      exact hfree
    · intro hr
      rw [hentry, if_neg (temporaryPlace_ne_dumpPlace hn).symm]
      exact absent room hr

theorem changes_of_writing_dump (hn : WellFormed n) (hb : s.contents n = some b)
    (here : d.entryAt (top ++ packageOf n) = some .directory)
    (free : d.entryAt (temporaryPlace top n (dumpName n) stamp) ≠ some .directory)
    (nameable : Nameable s.root n) (pair : d.entryAt (metricsPlace top n) = some (.file b.metrics))
    (h : Writing p (dumpName n) stamp (dumpPlace top n) b.dump d
      (temporaryPlace top n (dumpName n) stamp) m) :
    ClassChanges s top n d m := by
  cases h with
  | before => exact .refl
  | written => exact .single (.temporary _ _ _ here free)
  | discarded => exact changes_discarded here free
  | settled room hfree =>
    have hentry := entryAt_discarded d temporaryPlace_ne_nil b.dump
      (t := temporaryPlace top n (dumpName n) stamp)
    refine .tail (changes_discarded here free) (.dump hb ?_ ?_ nameable ?_)
    · rw [hentry, if_neg here_ne_temporaryPlace, here]
    · rw [hentry, if_neg (temporaryPlace_ne_dumpPlace hn).symm]
      exact hfree
    · rw [hentry, if_neg (temporaryPlace_ne_metricsPlace hn).symm, pair]

end Pair

end ClassCensus
