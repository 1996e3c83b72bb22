import ClassCensus.Proofs.Text.Bytes

/-!
# What is shown of bytes

The bytes of a string are shown as this string (`shown_bytesOf`). In any other bytes the characters
that are one byte each are shown where they stand, and what is before and after them is shown as it
would be alone (`shown_append_cons`), so that no such character is shown that is not there
(`mem_shown_iff`).
-/

namespace ClassCensus.Text

/-! ### Characters and their bytes -/

theorem charOf?_eq_some_iff {bytes : Octets} {c : Char} :
    charOf? bytes = some c ↔ bytes = String.utf8EncodeChar c := by
  unfold charOf?
  rw [Option.filter_eq_some_iff, decide_eq_true_eq]
  constructor
  · rintro ⟨hdecode, hsize⟩
    obtain ⟨rest, hrest⟩ := ByteArray.exists_of_utf8DecodeChar?_eq_some hdecode
    have hempty : rest = ByteArray.empty := by
      have hlength := congrArg ByteArray.size hrest
      rw [ByteArray.size_append, List.size_toByteArray, List.size_toByteArray,
        String.length_utf8EncodeChar] at hlength
      exact ByteArray.size_eq_zero_iff.mp (by omega)
    rw [hempty, ByteArray.append_empty] at hrest
    exact List.toByteArray_inj.mp hrest
  · rintro rfl
    refine ⟨?_, (String.length_utf8EncodeChar c).symm⟩
    simpa using ByteArray.utf8DecodeChar?_utf8EncodeChar_append (b := ByteArray.empty) (c := c)

/-- The bytes of no character begin with all those of another one. -/
theorem utf8EncodeChar_append_ne {c d : Char} {rest : Octets} (hrest : rest ≠ []) :
    String.utf8EncodeChar c ++ rest ≠ String.utf8EncodeChar d := by
  intro h
  have hc := ByteArray.utf8DecodeChar?_utf8EncodeChar_append (b := rest.toByteArray) (c := c)
  have hd := ByteArray.utf8DecodeChar?_utf8EncodeChar_append (b := ByteArray.empty) (c := d)
  rw [← List.toByteArray_append, h] at hc
  rw [ByteArray.append_empty, hc] at hd
  obtain rfl := Option.some.inj hd
  exact hrest (List.append_right_eq_self.mp h)

/-- Where the bytes of a character break off, they are unfinished. -/
theorem isUnfinished_of_append {d : Char} {p q : Octets} (h : p ++ q = String.utf8EncodeChar d)
    (hp : p ≠ []) (hq : q ≠ []) : isUnfinished p = true := by
  have hvalid : d.val.toNat < 0xD800 ∨ 0xDFFF < d.val.toNat ∧ d.val.toNat < 0x110000 := d.valid
  unfold String.utf8EncodeChar at h
  generalize d.val.toNat = v at h hvalid
  simp only [] at h
  -- one to three bytes `p` of a character of two to four; the other lengths do not fit
  rcases p with _ | ⟨a, _ | ⟨b, _ | ⟨c, _ | ⟨e, p⟩⟩⟩⟩
  · exact absurd rfl hp
  all_goals
    split_ifs at h
    all_goals
      simp only [List.cons_append, List.nil_append, List.cons.injEq, List.append_eq_nil_iff,
        reduceCtorEq, hq, and_false] at h
  all_goals
    simp only [isUnfinished, isSecond, isTail, Bool.and_eq_true, decide_eq_true_eq,
      UInt8.le_iff_toNat_le, ← UInt8.toNat_inj, h, UInt8.toNat_ofNat', UInt8.reduceToNat]
  · omega
  · omega
  · omega
  · split_ifs <;> simp only [Bool.and_eq_true, decide_eq_true_eq] <;> omega
  · split_ifs <;> simp only [Bool.and_eq_true, decide_eq_true_eq] <;> omega
  · split_ifs <;> simp only [Bool.and_eq_true, decide_eq_true_eq] <;> omega

/-! ### The bytes of strings -/

theorem showNext_of_charOf? {p : Octets} {b : UInt8} {c : Char}
    (h : charOf? (p ++ [b]) = some c) : showNext p b = ([c], []) := by
  unfold showNext
  split
  · rename_i hp
    rw [hp, List.nil_append] at h
    rw [showFirst, h]
  · rw [h]

theorem showNext_of_isUnfinished {p : Octets} {b : UInt8} (hnone : charOf? (p ++ [b]) = none)
    (h : isUnfinished (p ++ [b]) = true) : showNext p b = ([], p ++ [b]) := by
  unfold showNext
  split
  · rename_i hp
    rw [hp, List.nil_append] at hnone h
    simp only [showFirst, hnone, h, hp, List.nil_append, if_true]
  · rw [hnone]

/-- When the last of its bytes has come a character is shown. -/
theorem shownAfter_append {d : Char} {p q : Octets} (h : p ++ q = String.utf8EncodeChar d)
    (hq : q ≠ []) (rest : Octets) : shownAfter p (q ++ rest) = d :: shownAfter [] rest := by
  induction q generalizing p with
  | nil => exact absurd rfl hq
  | cons b q ih =>
    rw [List.cons_append, shownAfter]
    by_cases hlast : q = []
    · rw [hlast] at h ⊢
      rw [showNext_of_charOf? (charOf?_eq_some_iff.mpr h)]
      rfl
    · have hmore : (p ++ [b]) ++ q = String.utf8EncodeChar d := by
        rw [List.append_assoc, List.singleton_append, h]
      have hnone : charOf? (p ++ [b]) = none := by
        rw [Option.eq_none_iff_forall_ne_some]
        intro c hc
        rw [charOf?_eq_some_iff.mp hc] at hmore
        exact utf8EncodeChar_append_ne hlast hmore
      rw [showNext_of_isUnfinished hnone (isUnfinished_of_append hmore (by simp) hlast),
        List.nil_append]
      exact ih hmore hlast

/-- The bytes of a string are shown as this string. -/
@[simp]
theorem shown_bytesOf (s : String) : shown (bytesOf s) = s := by
  have key : ∀ cs : List Char, shownAfter [] (cs.flatMap String.utf8EncodeChar) = cs := by
    intro cs
    induction cs with
    | nil => rfl
    | cons c cs ih =>
      rw [List.flatMap_cons, shownAfter_append (List.nil_append _) String.utf8EncodeChar_ne_nil, ih]
  rw [shown, bytesOf_eq_flatMap, key, String.ofList_toList]

/-! ### Characters of one byte in any bytes -/

section OneByte

variable {c : Char} (hc : c.toNat < 0x80)
include hc

theorem charOf?_append_toUInt8 {p : Octets} (hp : p ≠ []) : charOf? (p ++ [c.toUInt8]) = none := by
  rw [Option.eq_none_iff_forall_ne_some]
  intro d hd
  have hbytes := charOf?_eq_some_iff.mp hd
  have hmem : c.toUInt8 ∈ String.utf8EncodeChar d := by
    rw [← hbytes]
    exact List.mem_append_right _ (List.mem_singleton_self _)
  rw [(mem_utf8EncodeChar_iff hc).mp hmem, utf8EncodeChar_eq_singleton hc] at hbytes
  exact hp (List.append_left_eq_self.mp hbytes)

theorem isUnfinished_append_toUInt8 {p : Octets} (hp : p ≠ []) :
    isUnfinished (p ++ [c.toUInt8]) = false := by
  have hlow : ¬0x80 ≤ c.toUInt8 := by
    rw [UInt8.le_iff_toNat_le, toNat_toUInt8 hc]
    exact Nat.not_le.mpr hc
  have htail : isTail c.toUInt8 = false := by simp [isTail, hlow]
  rcases p with _ | ⟨a, _ | ⟨b, _ | ⟨d, p⟩⟩⟩
  · exact absurd rfl hp
  · have hlimits : ¬0xA0 ≤ c.toUInt8 ∧ ¬0x90 ≤ c.toUInt8 := by
      simp only [UInt8.le_iff_toNat_le, toNat_toUInt8 hc, UInt8.reduceToNat]
      omega
    simp [isUnfinished, isSecond, hlow, hlimits, htail]
  · simp [isUnfinished, htail]
  · cases p <;> rfl

/-- A byte that is a character ends what is unfinished. -/
theorem showNext_toUInt8 (p : Octets) : showNext p c.toUInt8 = (shownAfter p [] ++ [c], []) := by
  have hfirst : showFirst c.toUInt8 = ([c], []) := by
    rw [showFirst, charOf?_eq_some_iff.mpr (utf8EncodeChar_eq_singleton hc).symm]
  unfold showNext shownAfter
  split
  · rw [hfirst, List.nil_append]
  · rename_i hp
    simp only [charOf?_append_toUInt8 hc hp, isUnfinished_append_toUInt8 hc hp, hfirst,
      Bool.false_eq_true, if_false]
    rfl

theorem shownAfter_append_cons (p a rest : Octets) :
    shownAfter p (a ++ c.toUInt8 :: rest) = shownAfter p a ++ c :: shownAfter [] rest := by
  induction a generalizing p with
  | nil =>
    rw [List.nil_append, shownAfter.eq_2, showNext_toUInt8 hc, List.append_assoc]
    rfl
  | cons b a ih => rw [List.cons_append, shownAfter, shownAfter, ih, List.append_assoc]

/-- What is before and after a byte that is a character is shown as it would be alone. -/
theorem shown_append_cons (a rest : Octets) :
    shown (a ++ c.toUInt8 :: rest) = shown a ++ String.singleton c ++ shown rest := by
  rw [← String.toList_inj]
  simp [shown, shownAfter_append_cons hc]

theorem eq_of_charOf? {p : Octets} {b : UInt8} (h : charOf? (p ++ [b]) = some c) :
    b = c.toUInt8 := by
  have hbytes := charOf?_eq_some_iff.mp h
  rw [utf8EncodeChar_eq_singleton hc] at hbytes
  simpa using congrArg List.getLast? hbytes

theorem ne_replacement : c ≠ replacement := by
  rintro rfl
  exact absurd hc (by decide)

theorem eq_of_mem_showFirst {b : UInt8} (h : c ∈ (showFirst b).1) : b = c.toUInt8 := by
  unfold showFirst at h
  split at h
  · rename_i d hd
    obtain rfl := List.mem_singleton.mp h
    exact eq_of_charOf? hc (p := []) hd
  · split at h
    · cases h
    · exact absurd (List.mem_singleton.mp h) (ne_replacement hc)

theorem eq_of_mem_showNext {p : Octets} {b : UInt8} (h : c ∈ (showNext p b).1) :
    b = c.toUInt8 := by
  unfold showNext at h
  split at h
  · exact eq_of_mem_showFirst hc h
  · split at h
    · rename_i d hd
      obtain rfl := List.mem_singleton.mp h
      exact eq_of_charOf? hc hd
    · split at h
      · cases h
      · exact eq_of_mem_showFirst hc ((List.mem_cons.mp h).resolve_left (ne_replacement hc))

theorem mem_of_mem_shownAfter {p a : Octets} (h : c ∈ shownAfter p a) : c.toUInt8 ∈ a := by
  induction a generalizing p with
  | nil =>
    rw [shownAfter] at h
    split at h
    · cases h
    · exact absurd (List.mem_singleton.mp h) (ne_replacement hc)
  | cons b a ih =>
    rw [shownAfter, List.mem_append] at h
    rcases h with h | h
    · rw [eq_of_mem_showNext hc h]
      exact List.mem_cons_self ..
    · exact List.mem_cons_of_mem _ (ih h)

theorem mem_shown_iff {a : Octets} : c ∈ (shown a).toList ↔ c.toUInt8 ∈ a := by
  constructor
  · intro h
    rw [shown, String.toList_ofList] at h
    exact mem_of_mem_shownAfter hc h
  · intro h
    obtain ⟨front, rest, rfl⟩ := List.append_of_mem h
    rw [shown_append_cons hc]
    simp

end OneByte

/-! ### Sizes -/

theorem utf8Size_of_charOf? {bytes : Octets} {c : Char} (h : charOf? bytes = some c) :
    c.utf8Size = bytes.length := by
  rw [charOf?_eq_some_iff.mp h, String.length_utf8EncodeChar]

theorem length_le_of_isUnfinished {p : Octets} (h : isUnfinished p = true) : p.length ≤ 3 := by
  rcases p with _ | ⟨a, _ | ⟨b, _ | ⟨c, _ | ⟨d, p⟩⟩⟩⟩
  all_goals first | cases h | simp

theorem utf8Size_replacement : replacement.utf8Size = 3 := by decide

/-- The number of bytes of characters. -/
def byteCount (cs : List Char) : Nat := (cs.flatMap String.utf8EncodeChar).length

@[simp]
theorem byteCount_nil : byteCount [] = 0 := by simp [byteCount]

@[simp]
theorem byteCount_cons (c : Char) (cs : List Char) :
    byteCount (c :: cs) = c.utf8Size + byteCount cs := by
  rw [byteCount, List.flatMap_cons, List.length_append, String.length_utf8EncodeChar]
  rfl

theorem byteCount_append (cs ds : List Char) :
    byteCount (cs ++ ds) = byteCount cs + byteCount ds := by
  rw [byteCount, List.flatMap_append, List.length_append]
  rfl

/-- Of one byte not less is shown or left unfinished. -/
theorem length_le_showFirst (b : UInt8) :
    1 ≤ byteCount (showFirst b).1 + (showFirst b).2.length ∧ (showFirst b).2.length ≤ 3 := by
  unfold showFirst
  split
  · rename_i c hc
    simp [utf8Size_of_charOf? hc]
  · split <;> simp [utf8Size_replacement]

theorem length_le_showNext {p : Octets} (hp : p.length ≤ 3) (b : UInt8) :
    p.length + 1 ≤ byteCount (showNext p b).1 + (showNext p b).2.length ∧
      (showNext p b).2.length ≤ 3 := by
  unfold showNext
  split
  · rename_i h0
    simpa [h0] using length_le_showFirst b
  · split
    · rename_i c hc
      simp [utf8Size_of_charOf? hc]
    · split
      · rename_i hun
        have hlength := length_le_of_isUnfinished hun
        simp_all
      · have hfirst := length_le_showFirst b
        simp only [byteCount_cons, utf8Size_replacement]
        omega

theorem length_le_shownAfter {p : Octets} (hp : p.length ≤ 3) (a : Octets) :
    p.length + a.length ≤ byteCount (shownAfter p a) := by
  induction a generalizing p with
  | nil =>
    rw [shownAfter]
    split
    · rename_i h0
      simp [h0]
    · simpa [utf8Size_replacement] using hp
  | cons b a ih =>
    obtain ⟨hsize, hnext⟩ := length_le_showNext hp b
    have hrest := ih hnext
    rw [shownAfter, byteCount_append, List.length_cons]
    omega

/-- What is shown of bytes has no fewer bytes than they are. -/
theorem length_le_shown (a : Octets) : a.length ≤ (bytesOf (shown a)).length := by
  have h := length_le_shownAfter (p := []) (Nat.zero_le 3) a
  rw [List.length_nil, Nat.zero_add] at h
  rwa [bytesOf_eq_flatMap, shown, String.toList_ofList]

end ClassCensus.Text
