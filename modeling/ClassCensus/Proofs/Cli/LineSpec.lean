import ClassCensus.Cli.LineSpec
import ClassCensus.Proofs.Json.Tokens

/-!
# What is read as a line specification

A line is written with decimal digits, perhaps with a plus sign before them and with blanks around both
(`LineNumeral`). The reader refuses a number as soon as it does not fit any more, and never comes back to
a smaller one (`readDigits_of_digits`). Main statement: what is read is a file, a colon and a line that is
written so, with the very number that the digits write (`readLineSpec_exact`).
-/

namespace ClassCensus.Cli

open Text (isBlank trim cutLast_eq_some cutLast_append trim_append)
open Json (IsDigits decimalValue digitValue)

/-! ### Digits -/

/-- The number that digits write after a number that has been read. -/
def valueAfter (n : Nat) (digits : List Char) : Nat :=
  digits.foldl (fun n c => n * 10 + digitValue c) n

theorem le_valueAfter (n : Nat) (digits : List Char) : n ≤ valueAfter n digits := by
  induction digits generalizing n with
  | nil => exact Nat.le_refl n
  | cons c digits ih =>
    have hrest := ih (n * 10 + digitValue c)
    have hnext : valueAfter n (c :: digits) = valueAfter (n * 10 + digitValue c) digits := rfl
    omega

theorem readDigits_of_digits {n : Nat} {digits : List Char} (hn : n < 2 ^ 32)
    (hdigits : ∀ c ∈ digits, c.isDigit = true) :
    readDigits n digits =
      if valueAfter n digits < 2 ^ 32 then .ok (valueAfter n digits) else .error .tooLarge := by
  induction digits generalizing n with
  | nil => exact (if_pos hn).symm
  | cons c digits ih =>
    have hc : c.isDigit = true := hdigits c (List.mem_cons_self ..)
    have hnext : valueAfter n (c :: digits) = valueAfter (n * 10 + (c.toNat - 48)) digits := rfl
    have hread : readDigits n (c :: digits) =
        if 2 ^ 32 ≤ n * 10 + (c.toNat - 48) then .error .tooLarge
        else readDigits (n * 10 + (c.toNat - 48)) digits := by
      rw [readDigits, if_pos hc]
      rfl
    rw [hread, hnext]
    by_cases hlarge : 2 ^ 32 ≤ n * 10 + (c.toNat - 48)
    · -- a number that is too large stays so, whatever digits follow
      have hgrows := hlarge.trans (le_valueAfter _ digits)
      rw [if_pos hlarge, if_neg (Nat.not_lt.mpr hgrows)]
    · rw [if_neg hlarge]
      exact ih (Nat.not_le.mp hlarge) fun d hd => hdigits d (List.mem_cons_of_mem _ hd)

theorem digits_of_readDigits {n m : Nat} {cs : List Char} (h : readDigits n cs = .ok m) :
    ∀ c ∈ cs, c.isDigit = true := by
  induction cs generalizing n with
  | nil => exact fun _ hc => nomatch hc
  | cons c cs ih =>
    rw [readDigits] at h
    split at h
    · rename_i hdigit
      simp only at h
      split at h
      · cases h
      · intro d hd
        rcases List.mem_cons.mp hd with rfl | hd
        · exact hdigit
        · exact ih h d hd
    · cases h

/-! ### Lines as they may be written -/

/-- A line as it may be written. -/
structure LineNumeral where
  before : List Char
  /-- Whether a plus sign stands before the digits. -/
  plus : Bool
  digits : List Char
  after : List Char
  isBlank_before : ∀ c ∈ before, isBlank c = true
  isDigits : IsDigits digits
  isBlank_after : ∀ c ∈ after, isBlank c = true

/-- Digits with their sign. -/
def signed (plus : Bool) (digits : List Char) : List Char := if plus then '+' :: digits else digits

namespace LineNumeral

/-- The characters of a numeral. -/
def chars (l : LineNumeral) : List Char := l.before ++ signed l.plus l.digits ++ l.after

/-- A numeral as a string. -/
def text (l : LineNumeral) : String := String.ofList l.chars

/-- The number that the digits write. -/
def value (l : LineNumeral) : Nat := decimalValue l.digits

/-- The digits of a number with nothing around them. -/
def ofNat (n : Nat) : LineNumeral where
  before := []
  plus := false
  digits := Nat.toDigits 10 n
  after := []
  isBlank_before := fun _ hc => nomatch hc
  isDigits := Json.isDigits_toDigits n
  isBlank_after := fun _ hc => nomatch hc

theorem text_ofNat (n : Nat) : (ofNat n).text = toString n := by
  rw [Nat.toString_eq_ofList_toDigits]
  show String.ofList ([] ++ Nat.toDigits 10 n ++ []) = _
  rw [List.nil_append, List.append_nil]

theorem value_ofNat (n : Nat) : (ofNat n).value = n := Json.decimalValue_toDigits n

end LineNumeral

theorem not_blank_of_isDigit {c : Char} (h : c.isDigit = true) : isBlank c = false := by
  have hrange : 48 ≤ c.toNat ∧ c.toNat ≤ 57 := Char.isDigit_iff_toNat.mp h
  simp only [isBlank, Bool.or_eq_false_iff, Bool.and_eq_false_iff, decide_eq_false_iff_not]
  omega

theorem mem_signed {plus : Bool} {digits : List Char} {c : Char} (h : c ∈ signed plus digits) :
    c = '+' ∨ c ∈ digits := by
  cases plus with
  | true => exact List.mem_cons.mp h
  | false => exact .inr h

theorem LineNumeral.trim_chars (l : LineNumeral) : trim l.chars = signed l.plus l.digits := by
  refine trim_append l.isBlank_before (fun c hc => ?_) l.isBlank_after
  rcases mem_signed hc with rfl | hc
  · decide
  · exact not_blank_of_isDigit (l.isDigits.digit c hc)

theorem LineNumeral.mem_chars {l : LineNumeral} {c : Char} (h : c ∈ l.chars) :
    isBlank c = true ∨ c = '+' ∨ c.isDigit = true := by
  rcases List.mem_append.mp h with h | h
  · rcases List.mem_append.mp h with h | h
    · exact .inl (l.isBlank_before c h)
    · exact .inr ((mem_signed h).imp id (l.isDigits.digit c))
  · exact .inl (l.isBlank_after c h)

theorem LineNumeral.colon_not_mem (l : LineNumeral) : ':' ∉ l.chars := fun h =>
  absurd (mem_chars h) (by decide)

/-! ### Numbers -/

theorem readLineNumber_signed (plus : Bool) {digits : List Char} (h : IsDigits digits) :
    readLineNumber (signed plus digits) = readDigits 0 digits := by
  obtain ⟨d, rest, rfl⟩ := List.exists_cons_of_ne_nil h.ne_nil
  cases plus with
  | true => rfl
  | false =>
    have hd : d ≠ '+' := by
      rintro rfl
      exact absurd (h.digit _ (List.mem_cons_self ..)) (by decide)
    show readLineNumber (d :: rest) = readDigits 0 (d :: rest)
    unfold readLineNumber
    split
    · rename_i hnil
      cases hnil
    · rename_i hplus
      exact absurd (List.cons.inj hplus).1 hd
    · rename_i hplus
      exact absurd (List.cons.inj hplus).1 hd
    · rfl

theorem signed_of_readLineNumber {cs : List Char} {n : Nat} (h : readLineNumber cs = .ok n) :
    ∃ plus digits, cs = signed plus digits ∧ IsDigits digits := by
  unfold readLineNumber at h
  split at h
  · cases h
  · cases h
  · rename_i digits hne
    refine ⟨true, digits, rfl, ?_, digits_of_readDigits h⟩
    rintro rfl
    exact hne rfl
  · rename_i hne _ _
    exact ⟨false, cs, rfl, hne, digits_of_readDigits h⟩

/-- The number of a numeral is read, or refused if it does not fit. -/
theorem LineNumeral.readLineNumber_trim (l : LineNumeral) :
    readLineNumber (trim l.chars) =
      if l.value < 2 ^ 32 then .ok l.value else .error .tooLarge := by
  rw [l.trim_chars, readLineNumber_signed l.plus l.isDigits,
    readDigits_of_digits (by decide) l.isDigits.digit]
  rfl

theorem exists_lineNumeral {cs : List Char} {n : Nat} (h : readLineNumber (trim cs) = .ok n) :
    ∃ l : LineNumeral, l.chars = cs ∧ l.value = n ∧ n < 2 ^ 32 := by
  obtain ⟨plus, digits, htrim, hdigits⟩ := signed_of_readLineNumber h
  obtain ⟨before, after, hcs, hbefore, hafter⟩ := Text.trim_eq cs
  let l : LineNumeral := ⟨before, plus, digits, after, hbefore, hdigits, hafter⟩
  have hchars : l.chars = cs := by
    rw [hcs, htrim]
    rfl
  have hread := l.readLineNumber_trim
  rw [hchars, h] at hread
  split at hread
  · rename_i hfits
    obtain rfl := Except.ok.inj hread
    exact ⟨l, hchars, rfl, hfits⟩
  · cases hread

/-! ### Specifications -/

theorem readLineSpec_of_colon {file line : List Char} (hfile : file ≠ []) (hline : ':' ∉ line) :
    readLineSpec (String.ofList (file ++ ':' :: line)) =
      match readLineNumber (trim line) with
      | .ok n => .ok (String.ofList file, UInt32.ofNat n)
      | .error f => .error (.number f) := by
  obtain ⟨c, file, rfl⟩ := List.exists_cons_of_ne_nil hfile
  have hcut : Text.cutLast ':' (String.ofList (c :: file ++ ':' :: line)).toList =
      some (c :: file, line) := by
    rw [String.toList_ofList, cutLast_append hline]
  cases hnumber : readLineNumber (trim line) <;> simp only [readLineSpec, hcut, hnumber]

theorem toList_spec (file : String) (l : LineNumeral) :
    (file ++ ":" ++ l.text).toList = file.toList ++ ':' :: l.chars := by
  have htext : l.text.toList = l.chars := String.toList_ofList
  rw [String.toList_append, String.toList_append, htext, List.append_assoc]
  rfl

/-- A file, a colon and a numeral are read as the file and the number, or refused if the number does not
fit. -/
theorem readLineSpec_numeral {file : String} (hfile : file ≠ "") (l : LineNumeral) :
    readLineSpec (file ++ ":" ++ l.text) =
      if l.value < 2 ^ 32 then .ok (file, UInt32.ofNat l.value)
      else .error (.number .tooLarge) := by
  have hne : file.toList ≠ [] := fun h => hfile (String.toList_eq_nil_iff.mp h)
  have hread := readLineSpec_of_colon hne l.colon_not_mem
  rw [← toList_spec, String.ofList_toList, String.ofList_toList, l.readLineNumber_trim] at hread
  rw [hread]
  by_cases hfits : l.value < 2 ^ 32
  · rw [if_pos hfits, if_pos hfits]
  · rw [if_neg hfits, if_neg hfits]

/-- What is read is a file, a colon and a numeral. -/
theorem exists_numeral_of_readLineSpec {spec file : String} {line : UInt32}
    (h : readLineSpec spec = .ok (file, line)) :
    file ≠ "" ∧ ∃ l : LineNumeral, spec = file ++ ":" ++ l.text ∧ l.value = line.toNat := by
  rw [readLineSpec] at h
  split at h
  · cases h
  · cases h
  · rename_i front back hne hcut
    split at h
    · rename_i n hnumber
      obtain ⟨rfl, rfl⟩ := Prod.mk.inj (Except.ok.inj h)
      obtain ⟨l, hchars, rfl, hfits⟩ := exists_lineNumeral hnumber
      refine ⟨?_, l, ?_, ?_⟩
      · intro hempty
        have hnil := String.toList_eq_nil_iff.mpr hempty
        rw [String.toList_ofList] at hnil
        exact hne (hnil ▸ rfl)
      · apply String.toList_inj.mp
        rw [toList_spec, String.toList_ofList, hchars]
        exact (cutLast_eq_some.mp hcut).1
      · rw [UInt32.toNat_ofNat_of_lt' hfits]
    · cases h

/-- A specification is read as a file and a line iff it is the file, which is not empty, a colon, and the
line: decimal digits, perhaps after a plus sign, with blanks around them if any, that write the line. So
every file with every line in plain digits is read, a number from 2^32 on is refused and never cut, and
whatever is not of this form is an error. -/
theorem readLineSpec_exact :
    (∀ spec file line, readLineSpec spec = .ok (file, line) ↔
      file ≠ "" ∧ ∃ l : LineNumeral, spec = file ++ ":" ++ l.text ∧ l.value = line.toNat) ∧
    (∀ (file : String) (line : UInt32), file ≠ "" →
      readLineSpec (file ++ ":" ++ toString line.toNat) = .ok (file, line)) ∧
    (∀ (file : String) (l : LineNumeral), file ≠ "" → 2 ^ 32 ≤ l.value →
      readLineSpec (file ++ ":" ++ l.text) = .error (.number .tooLarge)) ∧
    ∀ spec, (¬∃ (file : String) (l : LineNumeral),
        file ≠ "" ∧ spec = file ++ ":" ++ l.text ∧ l.value < 2 ^ 32) →
      ∃ fault, readLineSpec spec = .error fault := by
  have hread : ∀ (file : String) (l : LineNumeral) (line : UInt32), file ≠ "" →
      l.value = line.toNat → readLineSpec (file ++ ":" ++ l.text) = .ok (file, line) := by
    intro file l line hfile hvalue
    rw [readLineSpec_numeral hfile, hvalue, if_pos line.toNat_lt, UInt32.ofNat_toNat]
  refine ⟨?_, ?_, ?_, ?_⟩
  · intro spec file line
    constructor
    · exact exists_numeral_of_readLineSpec
    · rintro ⟨hfile, l, rfl, hvalue⟩
      exact hread file l line hfile hvalue
  · intro file line hfile
    rw [← LineNumeral.text_ofNat]
    exact hread file _ line hfile (LineNumeral.value_ofNat _)
  · intro file l hfile hlarge
    rw [readLineSpec_numeral hfile, if_neg (Nat.not_lt.mpr hlarge)]
  · intro spec hform
    cases hspec : readLineSpec spec with
    | error fault => exact ⟨fault, rfl⟩
    | ok result =>
      obtain ⟨file, line⟩ := result
      obtain ⟨hfile, l, htext, hvalue⟩ := exists_numeral_of_readLineSpec hspec
      exact absurd ⟨file, l, hfile, htext, hvalue ▸ line.toNat_lt⟩ hform

/-- A file with a colon in its name and a line with a sign, zeros and an ideographic space; the first number
that does not fit; a line with a minus sign. -/
theorem readLineSpec_exact_with_drive_letter :
    ("C:\\p\\App.java" ≠ "" ∧
      readLineSpec "C:\\p\\App.java: +0015\u3000" = .ok ("C:\\p\\App.java", 15)) ∧
    ("App.java" ≠ "" ∧ readLineSpec "App.java:4294967295" = .ok ("App.java", 4294967295)) ∧
    readLineSpec "App.java:4294967296" = .error (.number .tooLarge) ∧
    ∃ fault, readLineSpec "App.java:-3" = .error fault := by
  obtain ⟨hform, hplain, hlarge, herror⟩ := readLineSpec_exact
  refine ⟨⟨by decide, ?_⟩, ⟨by decide, ?_⟩, ?_, ?_⟩
  · let l : LineNumeral :=
      { before := [' ']
        plus := true
        digits := ['0', '0', '1', '5']
        after := ['\u3000']
        isBlank_before := List.all_eq_true.mp (by decide)
        isDigits := ⟨by decide, List.all_eq_true.mp (by decide)⟩
        isBlank_after := List.all_eq_true.mp (by decide) }
    exact (hform _ _ _).mpr ⟨by decide, l, by decide +kernel, by decide⟩
  · have hread := hplain "App.java" 4294967295 (by decide)
    rwa [show "App.java" ++ ":" ++ toString (4294967295 : UInt32).toNat = "App.java:4294967295" by
      decide +kernel] at hread
  · have hread := hlarge "App.java" (.ofNat 4294967296) (by decide)
      (by rw [LineNumeral.value_ofNat]; decide)
    rwa [LineNumeral.text_ofNat,
      show "App.java" ++ ":" ++ toString 4294967296 = "App.java:4294967296" by decide +kernel] at hread
  · refine herror _ ?_
    rintro ⟨file, l, -, hspec, -⟩
    have hcut := cutLast_append l.colon_not_mem file.toList
    rw [← toList_spec, ← hspec,
      show "App.java:-3".toList = "App.java".toList ++ ':' :: ['-', '3'] by decide,
      cutLast_append (by decide)] at hcut
    have hchars : ['-', '3'] = l.chars := (Prod.mk.inj (Option.some.inj hcut)).2
    have hminus : '-' ∈ l.chars := by
      rw [← hchars]
      decide
    exact absurd (LineNumeral.mem_chars hminus) (by decide)

end ClassCensus.Cli
