import ClassCensus.Text.Octets
import ClassCensus.Text.Pieces
import Mathlib.Data.String.Basic

/-!
# Strings and their bytes

A string is read back from its bytes in UTF-8, and from no others (`ofBytes?_eq_some_iff`). A
character that is one byte stands in a string where this byte stands among its bytes
(`mem_bytesOf_iff`).
Strings are compared by their characters, and so they are by their bytes: the bytes of a smaller
character are smaller at the first place where they differ (`bytesOf_lt_iff`).
-/

namespace ClassCensus.Text

theorem fromUTF8?_toUTF8 (s : String) : String.fromUTF8? s.toUTF8 = some s := by
  unfold String.fromUTF8?
  exact dif_pos s.isValidUTF8

/-! ### The bytes of a string -/

theorem bytesOf_eq_flatMap (s : String) : bytesOf s = s.toList.flatMap String.utf8EncodeChar := by
  have h : s.toUTF8 = (s.toList.flatMap String.utf8EncodeChar).toByteArray := by
    show s.toByteArray = s.toList.utf8Encode
    rw [← String.toByteArray_ofList, String.ofList_toList]
  rw [bytesOf, h, List.data_toByteArray]

@[simp]
theorem bytesOf_append (s t : String) : bytesOf (s ++ t) = bytesOf s ++ bytesOf t := by
  simp only [bytesOf_eq_flatMap, String.toList_append, List.flatMap_append]

theorem bytesOf_joinStrings (sep : String) (pieces : List String) :
    bytesOf (joinStrings sep pieces) = join (bytesOf sep) (pieces.map bytesOf) := by
  induction pieces with
  | nil => rfl
  | cons piece rest ih =>
    cases rest with
    | nil => rfl
    | cons next rest => simp_all [joinStrings, join]

theorem length_bytesOf (s : String) : (bytesOf s).length = s.utf8ByteSize := rfl

theorem toByteArray_bytesOf (s : String) : (bytesOf s).toByteArray = s.toUTF8 := by
  apply ByteArray.ext
  rw [List.data_toByteArray, bytesOf, Array.toArray_toList]

/-- The string that has some bytes is the only one. -/
theorem ofBytes?_eq_some_iff {bytes : Octets} {s : String} :
    ofBytes? bytes = some s ↔ bytes = bytesOf s := by
  constructor
  · intro h
    unfold ofBytes? String.fromUTF8? at h
    split at h
    · obtain rfl := Option.some.inj h
      exact List.toList_data_toByteArray.symm
    · cases h
  · rintro rfl
    rw [ofBytes?, toByteArray_bytesOf, fromUTF8?_toUTF8]

@[simp]
theorem ofBytes?_bytesOf (s : String) : ofBytes? (bytesOf s) = some s :=
  ofBytes?_eq_some_iff.mpr rfl

@[simp]
theorem bytesOf_inj {s t : String} : bytesOf s = bytesOf t ↔ s = t := by
  refine ⟨fun h => ?_, congrArg _⟩
  rw [← ofBytes?_eq_some_iff, ofBytes?_bytesOf] at h
  exact Option.some.inj h

/-! ### Characters of one byte -/

theorem utf8EncodeChar_eq_singleton {c : Char} (hc : c.toNat < 0x80) :
    String.utf8EncodeChar c = [c.toUInt8] := by
  have hle : c.val.toNat ≤ 0x7F := Nat.le_of_lt_succ hc
  simp only [String.utf8EncodeChar, hle, if_true]
  rfl

theorem toNat_toUInt8 {c : Char} (hc : c.toNat < 0x80) : c.toUInt8.toNat = c.toNat := by
  show c.val.toUInt8.toNat = c.toNat
  rw [UInt32.toNat_toUInt8]
  exact Nat.mod_eq_of_lt (Nat.lt_trans hc (by decide))

/-- The bytes of a character that has several are larger than those of a character that is one. -/
theorem le_of_mem_utf8EncodeChar {d : Char} (hd : 0x80 ≤ d.toNat) {b : UInt8}
    (hb : b ∈ String.utf8EncodeChar d) : 0x80 ≤ b.toNat := by
  have hv : 0x80 ≤ d.val.toNat := hd
  unfold String.utf8EncodeChar at hb
  generalize d.val.toNat = v at hb hv
  simp only [] at hb
  split_ifs at hb
  all_goals
    simp only [List.mem_cons, List.not_mem_nil, or_false, ← UInt8.toNat_inj,
      UInt8.toNat_ofNat'] at hb
    omega

theorem mem_utf8EncodeChar_iff {c d : Char} (hc : c.toNat < 0x80) :
    c.toUInt8 ∈ String.utf8EncodeChar d ↔ d = c := by
  constructor
  · intro h
    rcases Nat.lt_or_ge d.toNat 0x80 with hd | hd
    · rw [utf8EncodeChar_eq_singleton hd, List.mem_singleton, ← UInt8.toNat_inj, toNat_toUInt8 hc,
        toNat_toUInt8 hd] at h
      exact Char.toNat_inj.mp h.symm
    · have hle := le_of_mem_utf8EncodeChar hd h
      rw [toNat_toUInt8 hc] at hle
      omega
  · rintro rfl
    rw [utf8EncodeChar_eq_singleton hc]
    exact List.mem_singleton_self _

theorem mem_bytesOf_iff {c : Char} (hc : c.toNat < 0x80) {s : String} :
    c.toUInt8 ∈ bytesOf s ↔ c ∈ s.toList := by
  simp only [bytesOf_eq_flatMap, List.mem_flatMap, mem_utf8EncodeChar_iff hc, exists_eq_right]

theorem head?_bytesOf_iff {c : Char} (hc : c.toNat < 0x80) {s : String} :
    (bytesOf s).head? = some c.toUInt8 ↔ s.toList.head? = some c := by
  rw [bytesOf_eq_flatMap]
  cases s.toList with
  | nil => simp
  | cons d cs =>
    rw [List.flatMap_cons, List.head?_append_of_ne_nil _ String.utf8EncodeChar_ne_nil,
      List.head?_cons, Option.some_inj]
    constructor
    · intro h
      exact (mem_utf8EncodeChar_iff hc).mp (List.mem_of_head? h)
    · rintro rfl
      rw [utf8EncodeChar_eq_singleton hc, List.head?_cons]

/-! ### Order -/

/-- The bytes of a smaller character are smaller, whatever follows. -/
theorem utf8EncodeChar_append_lt {c d : Char} (h : c < d) (s t : List UInt8) :
    String.utf8EncodeChar c ++ s < String.utf8EncodeChar d ++ t := by
  have hlt : c.val.toNat < d.val.toNat := h
  have hbound : d.val.toNat < 0x110000 := by
    have hvalid := d.valid
    unfold UInt32.isValidChar Nat.isValidChar at hvalid
    omega
  unfold String.utf8EncodeChar
  generalize c.val.toNat = v at hlt
  generalize d.val.toNat = w at hlt hbound
  simp only []
  split_ifs
  iterate 15
    · simp only [List.cons_append, List.nil_append, List.cons_lt_cons_iff, UInt8.lt_iff_toNat_lt,
        ← UInt8.toNat_inj, UInt8.toNat_ofNat']
      omega
  · simp only [List.cons_append, List.nil_append, List.cons_lt_cons_iff, UInt8.lt_iff_toNat_lt,
      ← UInt8.toNat_inj, UInt8.toNat_ofNat']
    simp (disch := omega) only [Nat.mod_eq_of_lt]
    omega

theorem flatMap_utf8EncodeChar_lt {cs ds : List Char} (h : cs < ds) :
    cs.flatMap String.utf8EncodeChar < ds.flatMap String.utf8EncodeChar := by
  induction h with
  | nil =>
    rename_i d ds
    rw [List.flatMap_nil, List.flatMap_cons]
    obtain ⟨b, bs, hb⟩ := List.exists_cons_of_ne_nil (String.utf8EncodeChar_ne_nil (c := d))
    rw [hb]
    exact List.nil_lt_cons _ _
  | rel hcd => exact utf8EncodeChar_append_lt hcd _ _
  | cons _ ih => exact List.append_left_lt ih

/-- Strings are in the order of their bytes. -/
theorem bytesOf_lt_iff {s t : String} : bytesOf s < bytesOf t ↔ s < t := by
  have hforward : ∀ {s t : String}, s < t → bytesOf s < bytesOf t := by
    intro s t h
    rw [bytesOf_eq_flatMap, bytesOf_eq_flatMap]
    exact flatMap_utf8EncodeChar_lt (String.lt_iff_toList_lt.mp h)
  refine ⟨?_, hforward⟩
  intro h
  by_contra hnot
  rcases lt_or_eq_of_le (not_lt.mp hnot) with hlt | rfl
  · exact List.lt_asymm h (hforward hlt)
  · exact List.lt_irrefl _ h

end ClassCensus.Text
