import ClassCensus.Generation.Run
import ClassCensus.Proofs.Generation.Directory
import ClassCensus.Proofs.Text.Octets

/-!
# The places of artifacts

A class with a well-formed name has a place for its dump and one for its metrics file in the
directory of its package. No two of these places are the same, and none of them is a directory of a
package or the place of a temporary file (`dumpPlace_inj`, `dumpPlace_ne_metricsPlace` and the lemmas
after them).
-/

namespace ClassCensus

open Disk

/-! ### Sizes of names -/

theorem size_ofList {cs : List Char} (h : ∀ c ∈ cs, c.utf8Size = 1) :
    (String.ofList cs).utf8ByteSize = cs.length := by
  induction cs with
  | nil => rfl
  | cons c cs ih =>
    have hcs := ih fun x hx => h x (List.mem_cons_of_mem _ hx)
    rw [String.ofList_cons, String.utf8ByteSize_append, String.utf8ByteSize_singleton, hcs,
      h c (List.mem_cons_self ..), List.length_cons]
    omega

theorem utf8Size_digit {c : Char} (h : c.isDigit = true) : c.utf8Size = 1 := by
  rw [Char.utf8Size_eq_one_iff]
  simp only [Char.isDigit, Bool.and_eq_true, decide_eq_true_eq] at h
  have h9 := h.2
  simp only [UInt32.le_iff_toNat_le] at h9 ⊢
  simp at h9 ⊢
  omega

theorem size_toString (n : Nat) : (toString n).utf8ByteSize = (Nat.toDigits 10 n).length := by
  rw [Nat.toString_eq_ofList_toDigits]
  exact size_ofList fun c hc =>
    utf8Size_digit (Nat.isDigit_of_mem_toDigits (by decide) (by decide) hc)

theorem length_toDigits_pos (n : Nat) : 0 < (Nat.toDigits 10 n).length := by
  rw [Nat.pos_iff_ne_zero]
  intro h0
  have h := (Nat.length_toDigits_le_iff (b := 10) (n := n) (k := 1) (by decide) (by decide)).mp
    (by omega)
  have hd : Nat.toDigits 10 n = [Nat.digitChar n] := Nat.toDigits_of_lt_base (by omega)
  rw [hd] at h0
  simp at h0

/-- A later time is not shorter. -/
theorem size_toString_mono {m n : Nat} (h : m ≤ n) :
    (toString m).utf8ByteSize ≤ (toString n).utf8ByteSize := by
  rw [size_toString, size_toString]
  have hn : n < 10 ^ (Nat.toDigits 10 n).length :=
    (Nat.length_toDigits_le_iff (by decide) (length_toDigits_pos n)).mp (Nat.le_refl _)
  exact (Nat.length_toDigits_le_iff (by decide) (length_toDigits_pos n)).mpr (by omega)

/-- The next time is at most one digit longer. -/
theorem size_toString_succ (n : Nat) :
    (toString (n + 1)).utf8ByteSize ≤ (toString n).utf8ByteSize + 1 := by
  rw [size_toString, size_toString]
  have hn : n < 10 ^ (Nat.toDigits 10 n).length :=
    (Nat.length_toDigits_le_iff (by decide) (length_toDigits_pos n)).mp (Nat.le_refl _)
  refine (Nat.length_toDigits_le_iff (by decide) (by omega)).mpr ?_
  rw [Nat.pow_succ]
  omega

theorem size_temporaryName (name : Octets) (stamp : Stamp) :
    (temporaryName name stamp).length =
      (Text.shown name).utf8ByteSize + (toString stamp.process).utf8ByteSize +
        (toString stamp.time).utf8ByteSize + 7 := by
  have h1 : ".".utf8ByteSize = 1 := rfl
  have h2 : ".tmp".utf8ByteSize = 4 := rfl
  simp only [temporaryName, Text.length_bytesOf, String.utf8ByteSize_append, h1, h2]
  omega

/-- A temporary name is longer than the name. -/
theorem length_lt_temporaryName (name : Octets) (stamp : Stamp) :
    name.length + 7 < (temporaryName name stamp).length := by
  have hshown := Text.length_le_shown name
  have hprocess := length_toDigits_pos stamp.process
  rw [Text.length_bytesOf] at hshown
  rw [size_temporaryName, size_toString]
  omega

/-! ### Temporary names -/

theorem octets_temporaryName (name : Octets) (stamp : Stamp) :
    temporaryName name stamp =
      Octet.dot :: (Text.bytesOf (Text.shown name) ++
        Octet.dot :: (Text.bytesOf (toString stamp.process) ++
          Octet.dot :: (Text.bytesOf (toString stamp.time) ++ Text.bytesOf ".tmp"))) := by
  have hdot : Text.bytesOf "." = [Octet.dot] := rfl
  simp only [temporaryName, Text.bytesOf_append, hdot, List.append_assoc, List.cons_append,
    List.nil_append]

theorem isDigit_of_mem_toString {n : Nat} {c : Char} (h : c ∈ (toString n).toList) :
    c.isDigit = true := by
  rw [Nat.toString_eq_ofList_toDigits, String.toList_ofList] at h
  exact Nat.isDigit_of_mem_toDigits (by decide) (by decide) h

section OneByte

variable {name : Octets} {stamp : Stamp} {c : Char} (hc : c.toNat < 0x80)
include hc

theorem mem_temporaryName_of_mem (h : c.toUInt8 ∈ name) :
    c.toUInt8 ∈ temporaryName name stamp := by
  have hshown := (Text.mem_bytesOf_iff hc).mpr ((Text.mem_shown_iff hc).mpr h)
  rw [octets_temporaryName]
  exact List.mem_cons_of_mem _ (List.mem_append_left _ hshown)

/-- Apart from digits, dots and the ending a temporary name has the characters of the name. -/
theorem mem_temporaryName (h : c.toUInt8 ∈ temporaryName name stamp) (hd : c.isDigit = false)
    (ht : c ∉ ['.', 't', 'm', 'p']) : c.toUInt8 ∈ name := by
  have hnot : ∀ n : Nat, c ∉ (toString n).toList := by
    intro n hn
    rw [isDigit_of_mem_toString hn] at hd
    cases hd
  rw [temporaryName, Text.mem_bytesOf_iff hc] at h
  simp only [String.toList_append, List.mem_append, hnot, or_false] at h
  rw [← Text.mem_shown_iff hc]
  simp at h ht
  tauto

end OneByte

theorem nul_mem_temporaryName_iff {name : Octets} {stamp : Stamp} :
    Octet.nul ∈ temporaryName name stamp ↔ Octet.nul ∈ name :=
  ⟨fun h => mem_temporaryName (by decide) h (by decide) (by decide),
    mem_temporaryName_of_mem (by decide)⟩

theorem isName_temporaryName {name : Octets} (hn : Path.IsName name) (stamp : Stamp) :
    Path.IsName (temporaryName name stamp) := by
  have hlt := length_lt_temporaryName name stamp
  refine .of_long (by omega) ?_
  intro h0
  exact hn.plain (mem_temporaryName (by decide) h0 (by decide) (by decide))

/-! ### Well-formed class names -/

/-- The segments of a class name: none is empty, none has a slash. -/
def WellFormed (className : String) : Prop :=
  ∀ s ∈ Text.splitString '.' className, s ≠ "" ∧ '/' ∉ s.toList

instance (className : String) : Decidable (WellFormed className) :=
  inferInstanceAs (Decidable (∀ s ∈ Text.splitString '.' className, _))

/-- The segments of a class name but the last one. -/
def packageOf (className : String) : List Octets := (segmentsOf className).dropLast

/-- The last segment of a class name. -/
def shortOf (className : String) : Octets := (segmentsOf className).getLastD []

/-- The name of the dump of a class. -/
def dumpName (className : String) : Octets :=
  shortOf className ++ Octet.dot :: ArtifactPaths.dumpExtension

/-- The name of the metrics file of a class. -/
def metricsName (className : String) : Octets :=
  shortOf className ++ Octet.dot :: ArtifactPaths.metricsExtension

/-- The segments of a class name as texts and as names. -/
theorem exists_segments (n : String) :
    ∃ front last, Text.splitString '.' n = front ++ [last] ∧
      packageOf n = front.map Text.bytesOf ∧ shortOf n = Text.bytesOf last := by
  have hne : Text.splitString '.' n ≠ [] := by
    simp [Text.splitString, Text.split_ne_nil]
  have hsplit := (List.dropLast_concat_getLast hne).symm
  refine ⟨_, _, hsplit, ?_, ?_⟩
  · rw [packageOf, segmentsOf, List.map_dropLast]
  · rw [shortOf, segmentsOf, List.getLastD_eq_getLast?, List.getLast?_map,
      List.getLast?_eq_some_getLast hne]
    rfl

theorem segmentsOf_eq (n : String) : segmentsOf n = packageOf n ++ [shortOf n] := by
  obtain ⟨front, last, hsplit, hpackage, hshort⟩ := exists_segments n
  rw [segmentsOf, hsplit, hpackage, hshort, List.map_append, List.map_singleton]

theorem dot_not_mem_splitString {n s : String} (h : s ∈ Text.splitString '.' n) :
    '.' ∉ s.toList := by
  obtain ⟨cs, hcs, rfl⟩ := List.mem_map.mp h
  rw [String.toList_ofList]
  exact Text.not_mem_of_mem_split '.' hcs

theorem dot_not_mem_segment {n : String} {s : Octets} (h : s ∈ segmentsOf n) : Octet.dot ∉ s := by
  obtain ⟨t, ht, rfl⟩ := List.mem_map.mp h
  exact fun h0 => dot_not_mem_splitString ht ((Text.mem_bytesOf_iff (by decide)).mp h0)

/-- A class name is its segments. -/
theorem className_eq_of_segments {n m : String} (h : segmentsOf n = segmentsOf m) : n = m := by
  have hsplit : Text.splitString '.' n = Text.splitString '.' m :=
    List.map_injective_iff.mpr (fun _ _ => Text.bytesOf_inj.mp) h
  rw [← String.toList_inj, ← Text.join_splitString '.' n, ← Text.join_splitString '.' m, hsplit]

theorem isName_of_dotless {s : Octets} (h1 : s ≠ []) (h2 : Octet.slash ∉ s)
    (h3 : Octet.dot ∉ s) : Path.IsName s := by
  refine ⟨h1, ?_, ?_, h2⟩
  · rintro rfl
    simp at h3
  · rintro rfl
    simp at h3

/-- The name of an artifact is what is shown of its stem, and its extension. -/
theorem shown_append_dot (stem : Octets) (ext : String) :
    Text.shown (stem ++ Octet.dot :: Text.bytesOf ext) = Text.shown stem ++ "." ++ ext := by
  have h := Text.shown_append_cons (c := '.') (by decide) stem (Text.bytesOf ext)
  rwa [Text.shown_bytesOf] at h

section Names

variable {n : String} (hn : WellFormed n)

theorem dot_not_mem_shortOf (n : String) : Octet.dot ∉ shortOf n :=
  dot_not_mem_segment (n := n) (by rw [segmentsOf_eq]; simp)

theorem dot_not_mem_package {n : String} {s : Octets} (h : s ∈ packageOf n) : Octet.dot ∉ s :=
  dot_not_mem_segment (n := n) (by rw [segmentsOf_eq]; simp [h])

include hn

theorem WellFormed.segment {s : Octets} (hs : s ∈ segmentsOf n) : Path.IsName s := by
  refine isName_of_dotless ?_ ?_ (dot_not_mem_segment hs)
  all_goals obtain ⟨t, ht, rfl⟩ := List.mem_map.mp hs
  · exact fun h0 => (hn t ht).1 (Text.bytesOf_inj.mp h0)
  · exact fun h0 => (hn t ht).2 ((Text.mem_bytesOf_iff (by decide)).mp h0)

theorem WellFormed.package {s : Octets} (hs : s ∈ packageOf n) : Path.IsName s :=
  hn.segment (by rw [segmentsOf_eq]; simp [hs])

theorem WellFormed.short : Path.IsName (shortOf n) :=
  hn.segment (by rw [segmentsOf_eq]; simp)

theorem WellFormed.dumpName : Path.IsName (dumpName n) :=
  Path.isName_withExtension hn.short.plain (by decide) (by decide)

theorem WellFormed.metricsName : Path.IsName (metricsName n) :=
  Path.isName_withExtension hn.short.plain (by decide) (by decide)

/-! ### Paths -/

theorem artifactPaths_eq (root : Path) :
    ArtifactPaths.ofClass root n =
      { dump := (root.pushAll (packageOf n)).push (dumpName n)
        metrics := (root.pushAll (packageOf n)).push (metricsName n) } := by
  have hbase : ArtifactPaths.base root n = (root.pushAll (packageOf n)).push (shortOf n) := by
    rw [ArtifactPaths.base, segmentsOf_eq, ← Path.pushAll_concat]
    rfl
  simp only [ArtifactPaths.ofClass, hbase]
  rw [Path.withExtension_push _ hn.short (dot_not_mem_shortOf n) hn.dumpName,
    Path.withExtension_push _ hn.short (dot_not_mem_shortOf n) hn.metricsName]
  rfl

end Names

/-! ### Places -/

/-- The place of the dump of a class. -/
def dumpPlace (top : Location) (className : String) : Location :=
  top ++ packageOf className ++ [dumpName className]

/-- The place of the metrics file of a class. -/
def metricsPlace (top : Location) (className : String) : Location :=
  top ++ packageOf className ++ [metricsName className]

/-- The place of a temporary file in the directory of a class. -/
def temporaryPlace (top : Location) (className : String) (name : Octets) (stamp : Stamp) :
    Location :=
  top ++ packageOf className ++ [temporaryName name stamp]

section Distinct

variable {top : Location} {n m : String}

theorem dumpPlace_ne_nil : dumpPlace top n ≠ [] := by simp [dumpPlace]

theorem metricsPlace_ne_nil : metricsPlace top n ≠ [] := by simp [metricsPlace]

theorem temporaryPlace_ne_nil {name : Octets} {stamp : Stamp} :
    temporaryPlace top n name stamp ≠ [] := by simp [temporaryPlace]

theorem concat_inj {a b : Location} {x y : Octets} (h : top ++ a ++ [x] = top ++ b ++ [y]) :
    a = b ∧ x = y := by
  have h1 := List.append_inj' h rfl
  exact ⟨List.append_cancel_left h1.1, by simpa using h1.2⟩

theorem eq_of_package_short (h1 : packageOf n = packageOf m) (h2 : shortOf n = shortOf m) :
    n = m := by
  refine className_eq_of_segments ?_
  rw [segmentsOf_eq n, segmentsOf_eq m, h1, h2]

theorem dumpPlace_inj (h : dumpPlace top n = dumpPlace top m) : n = m := by
  obtain ⟨hp, hx⟩ := concat_inj h
  exact eq_of_package_short hp
    (Text.append_sep_inj (dot_not_mem_shortOf n) (dot_not_mem_shortOf m) hx).1

theorem metricsPlace_inj (h : metricsPlace top n = metricsPlace top m) : n = m := by
  obtain ⟨hp, hx⟩ := concat_inj h
  exact eq_of_package_short hp
    (Text.append_sep_inj (dot_not_mem_shortOf n) (dot_not_mem_shortOf m) hx).1

theorem dumpPlace_ne_metricsPlace : dumpPlace top n ≠ metricsPlace top m := by
  intro h
  have hext := (Text.append_sep_inj (dot_not_mem_shortOf n) (dot_not_mem_shortOf m)
    (concat_inj h).2).2
  exact absurd hext (by decide)

/-- A temporary name begins with a dot, the name of an artifact does not. -/
theorem temporaryName_ne (hm : WellFormed m) {name ext : Octets} {stamp : Stamp} :
    temporaryName name stamp ≠ shortOf m ++ Octet.dot :: ext := by
  intro h
  obtain ⟨c, cs, hc⟩ := List.exists_cons_of_ne_nil hm.short.ne_nil
  rw [octets_temporaryName, hc, List.cons_append, List.cons.injEq] at h
  exact dot_not_mem_shortOf m (by rw [hc, ← h.1]; exact List.mem_cons_self ..)

theorem temporaryPlace_ne_dumpPlace (hm : WellFormed m) {name : Octets} {stamp : Stamp} :
    temporaryPlace top n name stamp ≠ dumpPlace top m :=
  fun h => temporaryName_ne hm (concat_inj h).2

theorem temporaryPlace_ne_metricsPlace (hm : WellFormed m) {name : Octets} {stamp : Stamp} :
    temporaryPlace top n name stamp ≠ metricsPlace top m :=
  fun h => temporaryName_ne hm (concat_inj h).2

/-- The last name of a place of a package has no dot. -/
theorem dotless_of_withinPackage {l : Location} (h : WithinPackage top (packageOf n) l) {here : Location}
    {x : Octets} (hl : l = here ++ [x]) : Octet.dot ∉ x := by
  obtain ⟨part, hne, hpre, rfl⟩ := h
  have hlast : part.getLast? = some x := by
    have h1 : (top ++ part).getLast? = some x := by simp [hl]
    rw [List.getLast?_append] at h1
    cases hp : part.getLast? with
    | none => exact absurd (List.getLast?_eq_none_iff.mp hp) hne
    | some y =>
      rw [hp, Option.some_or] at h1
      exact h1
  exact dot_not_mem_package (hpre.subset (List.mem_of_getLast? hlast))

theorem not_withinPackage_dumpPlace : ¬WithinPackage top (packageOf n) (dumpPlace top m) := by
  intro h
  refine dotless_of_withinPackage h rfl ?_
  simp [dumpName]

theorem not_withinPackage_metricsPlace :
    ¬WithinPackage top (packageOf n) (metricsPlace top m) := by
  intro h
  refine dotless_of_withinPackage h rfl ?_
  simp [metricsName]

theorem not_withinPackage_temporaryPlace {name : Octets} {stamp : Stamp} :
    ¬WithinPackage top (packageOf n) (temporaryPlace top m name stamp) := by
  intro h
  refine dotless_of_withinPackage h rfl ?_
  simp [octets_temporaryName]

end Distinct

/-! ### Room for a file -/

/-- A name is the other one with an extension that is two bytes shorter, also as they are shown. -/
structure Shorter (x y : Octets) : Prop where
  size : x.length + 2 = y.length
  shown : (Text.shown x).utf8ByteSize + 2 = (Text.shown y).utf8ByteSize
  zero : Octet.nul ∈ x → Octet.nul ∈ y

/-- The names of the two artifacts of a class are of this kind. -/
theorem Shorter.of_stem (stem : Octets) :
    Shorter (stem ++ Octet.dot :: ArtifactPaths.dumpExtension)
      (stem ++ Octet.dot :: ArtifactPaths.metricsExtension) := by
  refine ⟨?_, ?_, ?_⟩
  · have h1 : ArtifactPaths.dumpExtension.length = 2 := rfl
    have h2 : ArtifactPaths.metricsExtension.length = 4 := rfl
    simp only [List.length_append, List.length_cons, h1, h2]
  · have h1 : "ir".utf8ByteSize = 2 := rfl
    have h2 : "json".utf8ByteSize = 4 := rfl
    rw [ArtifactPaths.dumpExtension, ArtifactPaths.metricsExtension, shown_append_dot,
      shown_append_dot]
    simp only [String.utf8ByteSize_append, h1, h2]
  · intro h0
    have hnot : Octet.nul ∉ Octet.dot :: ArtifactPaths.dumpExtension := by decide
    exact List.mem_append_left _ ((List.mem_append.mp h0).resolve_right hnot)

/-- There is room for a file and for the temporary file that it is written to first. -/
structure Writable (dir : Path) (name : Octets) (stamp : Stamp) : Prop where
  temporary : checkPath (dir.trimmed.push (temporaryName name stamp)) = .ok ()
  short : ¬nameLimit < (temporaryName name stamp).length
  target : checkPath (dir.push name) = .ok ()

namespace Writable

variable {dir : Path} {name : Octets} {process : Nat}

/-- What can be written at a time can be written at one that is not longer. -/
theorem of_shorter (hn : Path.IsName name) {s t : Nat}
    (hst : (toString s).utf8ByteSize ≤ (toString t).utf8ByteSize)
    (h : Writable dir name ⟨process, t⟩) : Writable dir name ⟨process, s⟩ := by
  have hle : (temporaryName name ⟨process, s⟩).length ≤
      (temporaryName name ⟨process, t⟩).length := by
    rw [size_temporaryName, size_temporaryName]
    dsimp only
    omega
  refine ⟨?_, ?_, h.target⟩
  · refine checkPath_push_of_size (isName_temporaryName hn _) (isName_temporaryName hn _) ?_ hle
      h.temporary
    rw [nul_mem_temporaryName_iff, nul_mem_temporaryName_iff]
    exact id
  · have := h.short
    omega

/-- After a file there is room for one whose name is two bytes shorter: the time is at most one digit
longer. -/
theorem of_shorter_name {x y : Octets} (hx : Path.IsName x) (hy : Path.IsName y)
    (hxy : Shorter x y) {t : Nat} (h : Writable dir y ⟨process, t⟩) :
    Writable dir x ⟨process, t + 1⟩ := by
  have hsize := size_toString_succ t
  have hshown := hxy.shown
  have hle : (temporaryName x ⟨process, t + 1⟩).length ≤
      (temporaryName y ⟨process, t⟩).length := by
    rw [size_temporaryName, size_temporaryName]
    dsimp only
    omega
  refine ⟨?_, ?_, ?_⟩
  · refine checkPath_push_of_size (isName_temporaryName hx _) (isName_temporaryName hy _) ?_ hle
      h.temporary
    rw [nul_mem_temporaryName_iff, nul_mem_temporaryName_iff]
    exact hxy.zero
  · have := h.short
    omega
  · exact checkPath_push_of_size hx hy hxy.zero (by have := hxy.size; omega) h.target

/-- After the metrics file there is room for the dump. -/
theorem dump_of_metrics {n : String} (hn : WellFormed n) {t : Nat}
    (h : Writable dir (metricsName n) ⟨process, t⟩) :
    Writable dir (dumpName n) ⟨process, t + 1⟩ :=
  of_shorter_name hn.dumpName hn.metricsName (.of_stem _) h

end Writable

end ClassCensus
