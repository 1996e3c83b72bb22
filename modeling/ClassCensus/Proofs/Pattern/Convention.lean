import ClassCensus.Config
import ClassCensus.Pattern.Convention
import ClassCensus.Proofs.ClassRecord
import ClassCensus.Proofs.Partition

/-!
# The default pattern and the default convention

The names of the default engine are described twice: by a convention, and by a pattern that a
configuration can set. The pattern takes all decimal digits for digits, and the convention those of
ASCII. Main statement: they agree just on the names without a digit of another script in the second
place after an `l` (`conventionOf_defaultStackPattern`), and part by such a name
(`defaultStackPattern_parts_otherwise`).
-/

namespace ClassCensus

/-! ### Where a match begins -/

namespace Pattern

/-- Whether a match of the pattern begins at a place. -/
def begins (a : Pattern) (p : Place) : Bool := a.ends p ≠ []

theorem distinct_eq_nil_iff (ps : List Place) : distinct ps = [] ↔ ps = [] := by
  cases ps with
  | nil => simp [distinct]
  | cons p rest =>
    have hne : addPlace p (distinct rest) ≠ [] := by
      unfold addPlace
      split
      · rename_i hmem
        exact List.ne_nil_of_mem hmem
      · exact List.cons_ne_nil _ _
    exact ⟨fun h => absurd h hne, fun h => absurd h (List.cons_ne_nil _ _)⟩

theorem begins_alt (a b : Pattern) (p : Place) :
    (alt a b).begins p = (a.begins p || b.begins p) := by
  simp only [begins, ends, ne_eq, distinct_eq_nil_iff, List.append_eq_nil_iff, not_and_or,
    Bool.decide_or]

theorem begins_capture (a : Pattern) (p : Place) : (capture a).begins p = a.begins p := rfl

theorem begins_char (cls : CharClass) (p : Place) :
    (char cls).begins p = p.rest.head?.any cls.contains := by
  obtain ⟨before, rest⟩ := p
  cases rest with
  | nil => rfl
  | cons c rest =>
    by_cases h : cls.contains c
    · simp [begins, ends, h]
    · simp [begins, ends, h]

/-- A pattern after one character. -/
theorem begins_char_seq (cls : CharClass) (b : Pattern) (before : Option Char) (c : Char)
    (rest : List Char) :
    (seq (char cls) b).begins ⟨before, c :: rest⟩ =
      (cls.contains c && b.begins ⟨some c, rest⟩) := by
  by_cases h : cls.contains c
  · simp [begins, ends, h, distinct_eq_nil_iff]
  · simp [begins, ends, h, distinct_eq_nil_iff]

theorem begins_char_seq_nil (cls : CharClass) (b : Pattern) (before : Option Char) :
    (seq (char cls) b).begins ⟨before, []⟩ = false := by
  simp [begins, ends, distinct_eq_nil_iff]

/-! ### Patterns at the beginning of a text -/

section TextStart

variable (ascii : Bool) (b : Pattern)

theorem begins_textStart (text : List Char) :
    (seq (assertion ascii .textStart) b).begins ⟨none, text⟩ = b.begins ⟨none, text⟩ := by
  simp [begins, ends, Assertion.holds, distinct_eq_nil_iff]

/-- After a character no match begins. -/
theorem matchesFrom_textStart (c : Char) (text : List Char) :
    (seq (assertion ascii .textStart) b).matchesFrom (some c) text = false := by
  have hends : ∀ (c : Char) (text : List Char),
      (seq (assertion ascii .textStart) b).ends ⟨some c, text⟩ = [] := by
    intro c text
    simp [ends, Assertion.holds, distinct_eq_nil_iff]
  induction text generalizing c with
  | nil => simp [matchesFrom, hends]
  | cons d rest ih => simp [matchesFrom, hends, ih]

theorem isMatch_textStart (text : String) :
    (seq (assertion ascii .textStart) b).isMatch text = b.begins ⟨none, text.toList⟩ := by
  rw [← begins_textStart ascii b, isMatch]
  cases text.toList with
  | nil => rfl
  | cons c rest =>
    rw [matchesFrom, matchesFrom_textStart, Bool.or_false]
    rfl

end TextStart

end Pattern

theorem CharClass.contains_only (c d : Char) : (only c).contains d = decide (d = c) := by
  have heq : d = c ↔ c.toNat ≤ d.toNat ∧ d.toNat ≤ c.toNat := by
    rw [← Char.toNat_inj]
    omega
  simp only [only, contains, Unicode.Ranges.contains, List.any_cons, List.any_nil, Bool.or_false,
    heq, Bool.decide_and]

/-! ### The default pattern -/

/-- The pattern that the default pattern writes: at the beginning of the text, a dollar sign, or an
`l` and a decimal digit. -/
def Pattern.defaultStack : Pattern :=
  .seq (.assertion false .textStart)
    (.capture (.alt (.char (.only '$')) (.seq (.char (.only 'l')) (.char .digits))))

theorem Pattern.parse?_defaultStackPattern :
    parse? defaultStackPattern = some defaultStack := by
  have hread : readBranches defaultStackPattern.toList.length.succ .initial [] [] []
      defaultStackPattern.toList = some (⟨defaultStack, 4⟩, [], []) := rfl
  have hfits : defaultStack.fits = true := by decide +kernel
  simp only [parse?, hread, hfits, depthLimit, and_true]
  rfl

theorem conventionOfPattern_defaultStackPattern :
    conventionOfPattern defaultStackPattern = .ok Pattern.defaultStack.isMatch := by
  unfold conventionOfPattern
  rw [Pattern.parse?_defaultStackPattern]

/-- As the default convention, with all decimal digits for those of ASCII. -/
theorem Pattern.isMatch_defaultStack (name : String) :
    defaultStack.isMatch name =
      match name.toList with
      | '$' :: _ => true
      | 'l' :: d :: _ => Unicode.decimalDigits.contains d
      | _ => false := by
  unfold defaultStack
  rw [isMatch_textStart, begins_capture, begins_alt, begins_char]
  split
  · rename_i rest htext
    simp [htext, CharClass.contains_only]
  · rename_i d rest htext
    rw [htext, begins_char_seq, begins_char]
    simp [CharClass.contains_only, CharClass.digits, CharClass.contains]
  · rename_i hdollar hdigit
    cases htext : name.toList with
    | nil => simp [begins_char_seq_nil]
    | cons c rest =>
      have hc : c ≠ '$' := fun h => hdollar rest (h ▸ htext)
      rw [begins_char_seq, begins_char]
      cases rest with
      | nil => simp [CharClass.contains_only, hc]
      | cons d rest =>
        have hc' : c ≠ 'l' := fun h => hdigit d rest (h ▸ htext)
        simp [CharClass.contains_only, hc, hc']

/-! ### Digits of other scripts -/

/-- Whether a name begins with an `l` and a decimal digit outside of ASCII. -/
def hasForeignDigit (name : String) : Bool :=
  match name.toList with
  | 'l' :: d :: _ => Unicode.decimalDigits.contains d && !d.isDigit
  | _ => false

theorem isMatch_defaultStack_eq_iff (name : String) :
    Pattern.defaultStack.isMatch name = syntheticName name ↔ hasForeignDigit name = false := by
  rw [Pattern.isMatch_defaultStack, syntheticName, hasForeignDigit]
  split
  · rename_i rest htext
    simp [htext]
  · rename_i d rest htext
    cases hdigit : d.isDigit with
    | true => simp [htext, hdigit, Unicode.contains_decimalDigits_of_isDigit hdigit]
    | false => simp [htext, hdigit]
  · simp

/-- Only what the convention says of the locals of a class matters for its record. -/
theorem ClassRecord.ofClass_congr {isStack isStack' : NamingConvention} {c : ClassDef}
    (h : ∀ m ∈ c.methods, ∀ body ∈ m.body, ∀ v ∈ body.locals,
      isStack v.name = isStack' v.name) :
    ofClass isStack c = ofClass isStack' c := by
  have hmethod : ∀ m ∈ c.methods,
      MethodRecord.ofMethod isStack m = MethodRecord.ofMethod isStack' m := by
    intro m hm
    cases hbody : m.body with
    | none => simp only [MethodRecord.ofMethod, hbody]
    | some body =>
      simp only [MethodRecord.ofMethod, hbody, Partition.ofLocals_congr (h m hm body hbody)]
  have hpairs : c.methods.map (fun m => (m.subSignature, MethodRecord.ofMethod isStack m)) =
      c.methods.map fun m => (m.subSignature, MethodRecord.ofMethod isStack' m) :=
    List.map_congr_left fun m hm => by rw [hmethod m hm]
  unfold ofClass
  rw [hpairs]

/-- The default pattern in a configuration gives the default convention for all names but those with a
digit of another script after an `l`, and the same metrics file for every class without such locals. -/
theorem conventionOf_defaultStackPattern (config : Config) (name : String) (c : ClassDef) :
    ∃ isStack : NamingConvention,
      { config with classifier := some (some defaultStackPattern) }.convention = .ok isStack ∧
        { config with classifier := none }.convention = .ok syntheticName ∧
        (isStack name = syntheticName name ↔ hasForeignDigit name = false) ∧
        ((∀ m ∈ c.methods, ∀ body ∈ m.body, ∀ v ∈ body.locals, hasForeignDigit v.name = false) →
          (ClassRecord.ofClass isStack c).toText =
            (ClassRecord.ofClass syntheticName c).toText) := by
  refine ⟨Pattern.defaultStack.isMatch, conventionOfPattern_defaultStackPattern, rfl,
    isMatch_defaultStack_eq_iff name, ?_⟩
  intro hplain
  have hrecord : ClassRecord.ofClass Pattern.defaultStack.isMatch c =
      ClassRecord.ofClass syntheticName c :=
    ClassRecord.ofClass_congr fun m hm body hbody v hv =>
      (isMatch_defaultStack_eq_iff v.name).mpr (hplain m hm body hbody v hv)
  rw [hrecord]

/-- A class with a local of each kind: a stack variable by its dollar sign, one by its digit, and a
named local. -/
theorem conventionOf_defaultStackPattern_of_plain_names :
    let run : Method := ⟨"p.X", "run", "void", [], [], none,
      some ⟨[⟨"$a", "int"⟩, ⟨"l0", "int"⟩, ⟨"list", "int"⟩], []⟩⟩
    let c : ClassDef := { ClassDef.named "p.X" with methods := [run] }
    (∀ m ∈ c.methods, ∀ body ∈ m.body, ∀ v ∈ body.locals, hasForeignDigit v.name = false) ∧
      ∃ isStack, conventionOf (some defaultStackPattern) = .ok isStack ∧ isStack "l0" = true ∧
        (ClassRecord.ofClass isStack c).toText = (ClassRecord.ofClass syntheticName c).toText := by
  intro run c
  have hplain : ∀ m ∈ c.methods, ∀ body ∈ m.body, ∀ v ∈ body.locals,
      hasForeignDigit v.name = false := by
    intro m hm body hbody v hv
    obtain rfl := List.mem_singleton.mp hm
    obtain rfl := Option.some.inj hbody
    revert v
    decide
  obtain ⟨isStack, hpattern, -, hname, hfiles⟩ :=
    conventionOf_defaultStackPattern .empty "l0" c
  refine ⟨hplain, isStack, hpattern, ?_, hfiles hplain⟩
  rw [hname.mpr (by decide)]
  decide

/-- The default pattern takes an `l` and an Arabic-Indic three for the name of a stack variable, the
default convention for that of a named local; the metrics files differ. -/
theorem defaultStackPattern_parts_otherwise :
    let run : Method := ⟨"p.X", "run", "void", [], [], none, some ⟨[⟨"l\u0663", "int"⟩], []⟩⟩
    let c : ClassDef := { ClassDef.named "p.X" with methods := [run] }
    ∃ isStack, conventionOf (some defaultStackPattern) = .ok isStack ∧
      isStack "l\u0663" = true ∧ syntheticName "l\u0663" = false ∧
      (ClassRecord.ofClass isStack c).toText ≠ (ClassRecord.ofClass syntheticName c).toText := by
  intro run c
  refine ⟨Pattern.defaultStack.isMatch, conventionOfPattern_defaultStackPattern, ?_, ?_, ?_⟩
  · rw [Pattern.isMatch_defaultStack]
    decide
  · decide
  intro htext
  have hcount : ∀ isStack, (ClassRecord.ofClass isStack c).methodCount < 2 ^ 64 := fun _ =>
    show 1 < 2 ^ 64 by decide
  have hread := ClassRecord.parse?_toText (hcount Pattern.defaultStack.isMatch)
  rw [htext, ClassRecord.parse?_toText (hcount syntheticName)] at hread
  exact absurd (Option.some.inj hread) (by decide +kernel)

end ClassCensus
