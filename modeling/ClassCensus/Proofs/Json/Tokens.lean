import Mathlib.Data.List.Basic
import Mathlib.Tactic.IntervalCases
import ClassCensus.Json.Token
import ClassCensus.Json.Writer

/-!
# Tokens of a JSON text

The grammar of strings and numbers, and that the reader takes each of them as one token
(`scans_string`, `scans_numeral`). `Scans` leaves the number of steps open, so that texts can be
put together.
-/

namespace ClassCensus.Json

/-- A text is cut into these tokens, whatever sufficient number of steps is allowed. -/
def Scans (cs : List Char) (tokens : List Token) : Prop :=
  ∀ steps, cs.length ≤ steps → scanTokens steps cs = some tokens

theorem tokens?_of_scans {cs : List Char} {tokens : List Token} (h : Scans cs tokens) :
    tokens? cs = some tokens :=
  h cs.length le_rfl

theorem Scans.nil : Scans [] [] := by
  intro steps _
  cases steps <;> rfl

theorem Scans.space {c : Char} {cs : List Char} {tokens : List Token} (hc : isSpace c = true)
    (h : Scans cs tokens) : Scans (c :: cs) tokens := by
  intro steps hsteps
  rw [List.length_cons] at hsteps
  cases steps with
  | zero => omega
  | succ steps =>
    unfold scanTokens
    rw [if_pos hc]
    exact h steps (by omega)

theorem Scans.spaces {blank cs : List Char} {tokens : List Token}
    (hblank : ∀ c ∈ blank, isSpace c = true) (h : Scans cs tokens) :
    Scans (blank ++ cs) tokens := by
  induction blank with
  | nil => exact h
  | cons c rest ih =>
    have hc : isSpace c = true := hblank c (List.mem_cons_self ..)
    have hrest : ∀ x ∈ rest, isSpace x = true := fun x hx => hblank x (List.mem_cons_of_mem _ hx)
    exact Scans.space hc (ih hrest)

theorem Scans.token {c : Char} {cs rest : List Char} {token : Token} {tokens : List Token}
    (hc : isSpace c = false) (hscan : scanToken? (c :: cs) = some (token, rest))
    (hlength : rest.length ≤ cs.length) (h : Scans rest tokens) :
    Scans (c :: cs) (token :: tokens) := by
  intro steps hsteps
  rw [List.length_cons] at hsteps
  cases steps with
  | zero => omega
  | succ steps =>
    have hrest : scanTokens steps rest = some tokens := h steps (by omega)
    unfold scanTokens
    rw [hc, hscan]
    simp only [Bool.false_eq_true, if_false, Option.bind_eq_bind, Option.bind_some, hrest]
    rfl

section Marks

variable {cs : List Char} {tokens : List Token} (h : Scans cs tokens)
include h

theorem Scans.beginArray : Scans ('[' :: cs) (.beginArray :: tokens) :=
  Scans.token rfl rfl le_rfl h

theorem Scans.endArray : Scans (']' :: cs) (.endArray :: tokens) :=
  Scans.token rfl rfl le_rfl h

theorem Scans.beginObject : Scans ('\x7b' :: cs) (.beginObject :: tokens) :=
  Scans.token rfl rfl le_rfl h

theorem Scans.endObject : Scans ('\x7d' :: cs) (.endObject :: tokens) :=
  Scans.token rfl rfl le_rfl h

theorem Scans.comma : Scans (',' :: cs) (.comma :: tokens) :=
  Scans.token rfl rfl le_rfl h

theorem Scans.colon : Scans (':' :: cs) (.colon :: tokens) :=
  Scans.token rfl rfl le_rfl h

end Marks

/-! ### Strings -/

/-- What stands in a string for a part of it: a character for itself, an escape of one letter, or one
of four hexadecimal digits. -/
inductive StandsFor : List Char → StringPart → Prop where
  | plain {c : Char} (printable : 0x20 ≤ c.toNat) (quote : c ≠ '"') (backslash : c ≠ '\\') :
      StandsFor [c] (.plain c)
  | letter {e c : Char} (h : escaped? e = some c) : StandsFor ['\\', e] (.plain c)
  | unit {a b c d : Char} {n : Nat} (h : hexUnit? a b c d = some n) :
      StandsFor ['\\', 'u', a, b, c, d] (.unit n)

theorem StandsFor.scanString {cs : List Char} {part : StringPart} (h : StandsFor cs part)
    (rest : List Char) :
    scanString (cs ++ rest) =
      (scanString rest).map fun (parts, rest) => (part :: parts, rest) := by
  cases h with
  | @plain c printable quote backslash =>
    have hgood : ¬ (c.toNat < 0x20 ∨ c = '\\') := by
      rintro (h | h)
      · omega
      · exact backslash h
    rw [List.singleton_append, scanString.eq_def]
    split
    · simp_all
    · simp_all
    · simp_all
    · simp_all
    · rename_i heq
      cases heq
      rw [if_neg hgood]
      cases Json.scanString rest <;> rfl
  | @letter e c h =>
    -- an escape with `u` takes four digits and is none of one letter
    have hu : e ≠ 'u' := by
      rintro rfl
      cases h
    rw [List.cons_append, List.singleton_append, scanString.eq_def]
    split
    · simp_all
    · simp_all
    · simp_all
    · rename_i heq
      cases heq
      rw [h]
      cases Json.scanString rest <;> rfl
    · rename_i hnot heq
      cases heq
      exact (hnot e rest rfl rfl).elim
  | unit h =>
    simp only [List.cons_append, List.nil_append, Json.scanString, h]
    cases Json.scanString rest <;> rfl

theorem scanString_parts {parts : List (List Char × StringPart)}
    (h : ∀ p ∈ parts, StandsFor p.1 p.2) (rest : List Char) :
    scanString (parts.flatMap (·.1) ++ '"' :: rest) = some (parts.map (·.2), rest) := by
  induction parts with
  | nil => rfl
  | cons p parts ih =>
    have hp : StandsFor p.1 p.2 := h p (List.mem_cons_self ..)
    have hparts := ih fun q hq => h q (List.mem_cons_of_mem _ hq)
    rw [List.flatMap_cons, List.append_assoc, hp.scanString, hparts]
    rfl

theorem scanToken?_quote (cs : List Char) :
    scanToken? ('"' :: cs) = (scanString cs).map fun (parts, rest) =>
      (.scalar (.string ((textOf parts).map String.ofList)), rest) := by
  show (scanString cs).bind _ = _
  cases scanString cs <;> rfl

theorem scans_string {parts : List (List Char × StringPart)} (h : ∀ p ∈ parts, StandsFor p.1 p.2)
    {rest : List Char} {tokens : List Token} (hrest : Scans rest tokens) :
    Scans ('"' :: (parts.flatMap (·.1) ++ '"' :: rest))
      (.scalar (.string ((textOf (parts.map (·.2))).map String.ofList)) :: tokens) := by
  refine Scans.token rfl ?_ ?_ hrest
  · rw [scanToken?_quote, scanString_parts h]
    rfl
  · simp only [List.length_append, List.length_cons]
    omega

/-! ### Escaped characters -/

/-- The part of a string that an escaped character is read as. -/
def partOf (c : Char) : StringPart :=
  if c.toNat < 0x20 ∧ c ∉ ['\x08', '\t', '\n', '\x0c', '\r'] then .unit c.toNat else .plain c

theorem hexValue?_hexDigit {n : Nat} (h : n < 16) : hexValue? (hexDigit n) = some n := by
  interval_cases n <;> rfl

theorem hexUnit?_hexDigits {n : Nat} (h : n < 0x20) :
    hexUnit? '0' '0' (hexDigit (n / 16)) (hexDigit (n % 16)) = some n := by
  have hhigh : hexValue? (hexDigit (n / 16)) = some (n / 16) := hexValue?_hexDigit (by omega)
  have hlow : hexValue? (hexDigit (n % 16)) = some (n % 16) := hexValue?_hexDigit (by omega)
  have hzero : hexValue? '0' = some 0 := rfl
  unfold hexUnit?
  simp only [hhigh, hlow, hzero, Option.bind_eq_bind, Option.bind_some, Option.pure_def,
    Option.some.injEq]
  omega

theorem standsFor_escape (c : Char) : StandsFor (escape c) (partOf c) := by
  unfold escape
  split_ifs with h1 h2 h3 h4 h5 h6 h7 h8
  iterate 7
    · subst_vars
      exact .letter rfl
  · have hpart : partOf c = .unit c.toNat := by
      unfold partOf
      rw [if_pos]
      simp only [List.mem_cons, List.not_mem_nil, or_false, not_or]
      exact ⟨h8, h3, h4, h5, h6, h7⟩
    rw [hpart]
    exact .unit (hexUnit?_hexDigits h8)
  · have hpart : partOf c = .plain c := by
      unfold partOf
      rw [if_neg]
      exact fun h => h8 h.1
    rw [hpart]
    exact .plain (by omega) h1 h2

theorem textOf_unit {n : Nat} (h : n < 0xD800) (parts : List StringPart) :
    textOf (.unit n :: parts) = (textOf parts).map (Char.ofNat n :: ·) := by
  have hhigh : ¬ (0xD800 ≤ n ∧ n < 0xDC00) := by omega
  have hlow : ¬ (0xDC00 ≤ n ∧ n < 0xE000) := by omega
  have hpair : ¬ (0xD800 ≤ n ∧ n < 0xE000) := by omega
  cases parts with
  | nil => simp [textOf, hpair]
  | cons part rest =>
    cases part with
    | plain c => simp [textOf, hpair]
    | unit low => rw [textOf, if_neg hhigh, if_neg hlow]

theorem textOf_map_partOf (cs : List Char) : textOf (cs.map partOf) = some cs := by
  induction cs with
  | nil => rfl
  | cons c cs ih =>
    rw [List.map_cons]
    by_cases h : c.toNat < 0x20 ∧ c ∉ ['\x08', '\t', '\n', '\x0c', '\r']
    · have hpart : partOf c = .unit c.toNat := if_pos h
      rw [hpart, textOf_unit (by omega), ih, Char.ofNat_toNat]
      rfl
    · have hpart : partOf c = .plain c := if_neg h
      rw [hpart, textOf, ih]
      rfl

/-! ### Runs of digits -/

/-- A run of digits, at least one. -/
structure IsDigits (cs : List Char) : Prop where
  ne_nil : cs ≠ []
  digit : ∀ c ∈ cs, c.isDigit = true

/-- What may follow a run of digits: nothing that would go on with it. -/
def EndsDigits (rest : List Char) : Prop := ∀ c ∈ rest.head?, c.isDigit = false

/-- What may follow a number: nothing that would go on with it. -/
def EndsNumber (rest : List Char) : Prop :=
  ∀ c ∈ rest.head?, c.isDigit = false ∧ c ≠ '.' ∧ c ≠ 'e' ∧ c ≠ 'E'

theorem EndsNumber.digits {rest : List Char} (h : EndsNumber rest) : EndsDigits rest :=
  fun c hc => (h c hc).1

theorem takeDigits?_append {ds rest : List Char} (hd : IsDigits ds) (hrest : EndsDigits rest) :
    takeDigits? (ds ++ rest) = some (ds, rest) := by
  have htake : (ds ++ rest).takeWhile Char.isDigit = ds := by
    rw [List.takeWhile_append_of_pos hd.digit]
    cases rest with
    | nil => simp
    | cons c tail => simp [hrest c rfl]
  have hdrop : (ds ++ rest).dropWhile Char.isDigit = rest := by
    rw [List.dropWhile_append_of_pos hd.digit]
    cases rest with
    | nil => rfl
    | cons c tail => simp [hrest c rfl]
  unfold takeDigits?
  rw [htake, hdrop]
  obtain ⟨d, tail, rfl⟩ := List.exists_cons_of_ne_nil hd.ne_nil
  rfl

/-! ### Numbers -/

/-- The part of a number before its point: a zero, or digits that do not begin with one. -/
def IsWhole (cs : List Char) : Prop := cs = ['0'] ∨ IsDigits cs ∧ cs.head? ≠ some '0'

/-- The fraction of a number, if it has one. -/
inductive IsFraction : List Char → Prop where
  | absent : IsFraction []
  | present {ds : List Char} (h : IsDigits ds) : IsFraction ('.' :: ds)

/-- The exponent of a number, if it has one. -/
inductive IsExponent : List Char → Prop where
  | absent : IsExponent []
  | unsigned {e : Char} {ds : List Char} (mark : e = 'e' ∨ e = 'E') (h : IsDigits ds) :
      IsExponent (e :: ds)
  | signed {e s : Char} {ds : List Char} (mark : e = 'e' ∨ e = 'E') (sign : s = '+' ∨ s = '-')
      (h : IsDigits ds) : IsExponent (e :: s :: ds)

theorem takeInteger?_append {whole rest : List Char} (h : IsWhole whole)
    (hrest : EndsDigits rest) : takeInteger? (whole ++ rest) = some (whole, rest) := by
  rcases h with rfl | ⟨hd, hhead⟩
  · rfl
  · rw [takeInteger?.eq_def]
    split
    · rename_i tail heq
      obtain ⟨d, ds, rfl⟩ := List.exists_cons_of_ne_nil hd.ne_nil
      cases heq
      exact absurd rfl hhead
    · exact takeDigits?_append hd hrest

theorem takeFraction?_append {fraction rest : List Char} (h : IsFraction fraction)
    (hrest : EndsDigits rest) (hpoint : rest.head? ≠ some '.') :
    takeFraction? (fraction ++ rest) = some (fraction, rest) := by
  cases h with
  | absent =>
    rw [List.nil_append, takeFraction?.eq_def]
    split
    · exact absurd rfl hpoint
    · rfl
  | present hd =>
    simp only [List.cons_append, takeFraction?, takeDigits?_append hd hrest,
      Option.bind_eq_bind, Option.bind_some]
    rfl

theorem takeExponent?_append {exponent rest : List Char} (h : IsExponent exponent)
    (hrest : EndsNumber rest) :
    takeExponent? (exponent ++ rest) = some (exponent, rest) := by
  cases h with
  | absent =>
    cases rest with
    | nil => rfl
    | cons c tail =>
      have hc : ¬ (c = 'e' ∨ c = 'E') :=
        fun h => h.elim (hrest c rfl).2.2.1 (hrest c rfl).2.2.2
      exact if_neg hc
  | @unsigned e ds mark hd =>
    obtain ⟨d, tail, rfl⟩ := List.exists_cons_of_ne_nil hd.ne_nil
    have hsign : ¬ (d = '+' ∨ d = '-') := by
      have hdigit : d.isDigit = true := hd.digit d (List.mem_cons_self ..)
      rintro (rfl | rfl) <;> exact absurd hdigit (by decide)
    have htake := takeDigits?_append hd hrest.digits
    rw [List.cons_append] at htake
    simp only [List.cons_append, takeExponent?, if_pos mark, if_neg hsign, htake,
      Option.bind_eq_bind, Option.bind_some]
    rfl
  | signed mark sign hd =>
    simp only [List.cons_append, takeExponent?, if_pos mark, if_pos sign,
      takeDigits?_append hd hrest.digits, Option.bind_eq_bind, Option.bind_some]
    rfl

theorem endsDigits_exponent {exponent rest : List Char} (h : IsExponent exponent)
    (hrest : EndsNumber rest) :
    EndsDigits (exponent ++ rest) ∧ (exponent ++ rest).head? ≠ some '.' := by
  have hmark : ∀ {e : Char}, e = 'e' ∨ e = 'E' → e.isDigit = false ∧ e ≠ '.' := by
    rintro e (rfl | rfl) <;> decide
  cases h with
  | absent =>
    refine ⟨hrest.digits, fun h0 => ?_⟩
    exact (hrest '.' h0).2.1 rfl
  | unsigned mark _ =>
    refine ⟨fun c hc => ?_, fun h0 => (hmark mark).2 (Option.some.inj h0)⟩
    cases hc
    exact (hmark mark).1
  | signed mark _ _ =>
    refine ⟨fun c hc => ?_, fun h0 => (hmark mark).2 (Option.some.inj h0)⟩
    cases hc
    exact (hmark mark).1

theorem endsDigits_fraction {fraction rest : List Char} (h : IsFraction fraction)
    (hrest : EndsDigits rest) : EndsDigits (fraction ++ rest) := by
  cases h with
  | absent => exact hrest
  | present _ =>
    intro c hc
    cases hc
    rfl

/-- A number as it is written, in its pieces. -/
structure Numeral where
  negative : Bool
  whole : List Char
  fraction : List Char
  exponent : List Char
  isWhole : IsWhole whole
  isFraction : IsFraction fraction
  isExponent : IsExponent exponent

namespace Numeral

/-- The sign of a number. -/
def sign (n : Numeral) : List Char := if n.negative then ['-'] else []

/-- The text of a number. -/
def chars (n : Numeral) : List Char := n.sign ++ n.whole ++ n.fraction ++ n.exponent

/-- The value of a number: an integer if it has no fraction and no exponent and is not `-0`. -/
def value (n : Numeral) : Json :=
  if n.fraction = [] ∧ n.exponent = [] ∧ ¬ (n.negative = true ∧ n.whole = ['0']) then
    .integer (if n.negative then -(decimalValue n.whole : Int) else decimalValue n.whole)
  else .real (String.ofList n.chars)

theorem head_whole (n : Numeral) : ∃ d ds, n.whole = d :: ds ∧ d.isDigit = true := by
  rcases n.isWhole with h | ⟨h, -⟩
  · exact ⟨'0', [], h, rfl⟩
  · obtain ⟨d, ds, hds⟩ := List.exists_cons_of_ne_nil h.ne_nil
    exact ⟨d, ds, hds, h.digit d (by rw [hds]; exact List.mem_cons_self ..)⟩

/-- A number begins with a digit or with the sign. -/
theorem head_chars (n : Numeral) :
    ∃ c cs, n.chars = c :: cs ∧ (c.isDigit = true ∨ c = '-') := by
  obtain ⟨d, ds, hds, hd⟩ := n.head_whole
  unfold chars sign
  cases n.negative with
  | true => exact ⟨'-', _, rfl, .inr rfl⟩
  | false => exact ⟨d, ds ++ n.fraction ++ n.exponent, by simp [hds], .inl hd⟩

theorem scanNumber?_chars (n : Numeral) {rest : List Char} (hrest : EndsNumber rest) :
    scanNumber? (n.chars ++ rest) = some (n.value, rest) := by
  obtain ⟨hexponent, hpoint⟩ := endsDigits_exponent n.isExponent hrest
  have hwhole := takeInteger?_append n.isWhole (endsDigits_fraction n.isFraction hexponent)
  have hfraction := takeFraction?_append n.isFraction hexponent hpoint
  have hexp := takeExponent?_append n.isExponent hrest
  obtain ⟨d, ds, hds, hd⟩ := n.head_whole
  unfold scanNumber?
  split
  rename_i negative body heq
  have hparts : negative = n.negative ∧ body = n.whole ++ (n.fraction ++ (n.exponent ++ rest)) := by
    unfold chars sign at heq
    cases hneg : n.negative with
    | true =>
      simp only [hneg, if_true, List.cons_append, List.nil_append, List.append_assoc,
        Prod.mk.injEq] at heq
      exact ⟨heq.1.symm, heq.2.symm⟩
    | false =>
      simp only [hneg, Bool.false_eq_true, if_false, List.nil_append, List.append_assoc] at heq
      split at heq
      · rename_i tail htail
        rw [hds, List.cons_append, List.cons.injEq] at htail
        rw [htail.1] at hd
        exact absurd hd (by decide)
      · simp only [Prod.mk.injEq] at heq
        exact ⟨heq.1.symm, heq.2.symm⟩
  obtain ⟨rfl, rfl⟩ := hparts
  simp only [hwhole, hfraction, hexp, Option.bind_eq_bind, Option.bind_some]
  unfold value
  split
  · rfl
  · rfl

end Numeral

theorem scanToken?_number {c : Char} (hc : c.isDigit = true ∨ c = '-') (cs : List Char) :
    isSpace c = false ∧ scanToken? (c :: cs) =
      (scanNumber? (c :: cs)).map fun (number, rest) => (.scalar number, rest) := by
  have hmark : c ∉ ['[', ']', '\x7b', '\x7d', ',', ':', 'n', 't', 'f', '"', ' ', '\n', '\t',
      '\r'] := by
    intro hmem
    simp only [List.mem_cons, List.not_mem_nil, or_false] at hmem
    rcases hmem with rfl | rfl | rfl | rfl | rfl | rfl | rfl | rfl | rfl | rfl | rfl | rfl | rfl |
      rfl <;> exact absurd hc (by decide)
  simp only [List.mem_cons, List.not_mem_nil, or_false, not_or] at hmark
  constructor
  · simp [isSpace, hmark]
  · rw [scanToken?.eq_def]
    split
    iterate 10
      · rename_i heq
        cases heq
        simp at hmark
    · cases scanNumber? (c :: cs) <;> rfl

theorem scans_numeral (n : Numeral) {rest : List Char} (hrest : EndsNumber rest)
    {tokens : List Token} (h : Scans rest tokens) :
    Scans (n.chars ++ rest) (.scalar n.value :: tokens) := by
  obtain ⟨c, cs, hchars, hc⟩ := n.head_chars
  have hnumber := n.scanNumber?_chars hrest
  rw [hchars, List.cons_append] at hnumber ⊢
  obtain ⟨hspace, hscan⟩ := scanToken?_number hc (cs ++ rest)
  rw [hnumber] at hscan
  exact Scans.token hspace hscan (by simp) h

/-! ### Written integers -/

theorem isDigits_toDigits (n : Nat) : IsDigits (Nat.toDigits 10 n) :=
  ⟨Nat.toDigits_ne_nil, fun _ hc => Nat.isDigit_of_mem_toDigits (by omega) (by omega) hc⟩

theorem decimalValue_toDigits (n : Nat) : decimalValue (Nat.toDigits 10 n) = n := by
  have hfold : ∀ (ds : List Char) (m : Nat),
      ds.foldl (fun n c => n * 10 + digitValue c) m = Nat.ofDigitChars 10 ds m := by
    intro ds
    induction ds with
    | nil => intro m; rfl
    | cons d ds ih =>
      intro m
      rw [List.foldl_cons, ih, Nat.ofDigitChars_cons]
      congr 1
      show m * 10 + (d.toNat - 48) = 10 * m + (d.toNat - 48)
      omega
  unfold decimalValue
  rw [hfold]
  exact Nat.ofDigitChars_toDigits (by omega) (by omega)

theorem head_toDigits {n : Nat} (h : 0 < n) : (Nat.toDigits 10 n).head? ≠ some '0' := by
  induction n using Nat.strongRecOn with
  | _ n ih =>
    by_cases hlt : n < 10
    · rw [Nat.toDigits_of_lt_base hlt]
      interval_cases n <;> decide
    · have hhead := ih (n / 10) (by omega) (by omega)
      rw [Nat.toDigits_of_base_le (by omega) (by omega),
        List.head?_append_of_ne_nil _ Nat.toDigits_ne_nil]
      exact hhead

theorem isWhole_toDigits (n : Nat) : IsWhole (Nat.toDigits 10 n) := by
  rcases Nat.eq_zero_or_pos n with rfl | hn
  · exact .inl rfl
  · exact .inr ⟨isDigits_toDigits n, head_toDigits hn⟩

/-- An integer as it is written. -/
def Numeral.ofInt (i : Int) : Numeral where
  negative := decide (i < 0)
  whole := Nat.toDigits 10 i.natAbs
  fraction := []
  exponent := []
  isWhole := isWhole_toDigits _
  isFraction := .absent
  isExponent := .absent

theorem Numeral.chars_ofInt (i : Int) : (Numeral.ofInt i).chars = (toString i).toList := by
  cases i with
  | ofNat n =>
    have htext : (toString (Int.ofNat n)).toList = Nat.toDigits 10 n := by
      show n.repr.toList = _
      exact Nat.toList_repr
    rw [htext]
    simp [chars, sign, ofInt]
  | negSucc n =>
    have htext : (toString (Int.negSucc n)).toList = '-' :: Nat.toDigits 10 (n + 1) := by
      show ("-" ++ (n + 1).repr).toList = _
      rw [String.toList_append, Nat.toList_repr]
      rfl
    rw [htext]
    simp [chars, sign, ofInt]

theorem Numeral.value_ofInt (i : Int) : (Numeral.ofInt i).value = .integer i := by
  have hplain : ¬ ((Numeral.ofInt i).negative = true ∧ (Numeral.ofInt i).whole = ['0']) := by
    rintro ⟨hneg, hzero⟩
    have hlt : i < 0 := of_decide_eq_true hneg
    have hdigits : Nat.toDigits 10 i.natAbs = ['0'] := hzero
    exact head_toDigits (n := i.natAbs) (by omega) (by rw [hdigits]; rfl)
  unfold value
  rw [if_pos ⟨rfl, rfl, hplain⟩]
  show Json.integer (if decide (i < 0) = true then _ else _) = _
  simp only [decide_eq_true_eq]
  show Json.integer (if i < 0 then -(decimalValue (Nat.toDigits 10 i.natAbs) : Int)
    else decimalValue (Nat.toDigits 10 i.natAbs)) = _
  rw [decimalValue_toDigits]
  congr 1
  split <;> omega

end ClassCensus.Json
