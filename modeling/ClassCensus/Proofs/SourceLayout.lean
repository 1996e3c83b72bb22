import ClassCensus.Proofs.Generation.Places
import ClassCensus.SourceLayout

/-!
# Classes in source files

A source root begins with a character that it does not have again, so that two occurrences of it never
overlap, and the first occurrence after a text without the root stands right there
(`Text.afterFirst?_append`). Main statement: the path of a class below a source root, in either style of
separators, names this class; paths that differ in the style only name one class; and no name that is
given has a separator (`SourceLayout.className_of_source_path`).
-/

namespace ClassCensus

/-! ### First occurrences -/

namespace Text

theorem afterFirst?_eq_none_iff {part text : List Char} :
    afterFirst? part text = none ↔ ¬part <:+: text := by
  induction text with
  | nil => simp [afterFirst?]
  | cons c text ih =>
    rw [afterFirst?, List.infix_cons_iff]
    cases h : afterPrefix? part (c :: text) with
    | some rest =>
      have hbegins : part <+: c :: text := ⟨rest, (afterPrefix?_eq_some.mp h).symm⟩
      simp [hbegins]
    | none =>
      have hbegins : ¬part <+: c :: text := by
        intro hbegins
        obtain ⟨rest, hrest⟩ := hbegins
        rw [afterPrefix?_eq_some.mpr hrest.symm] at h
        cases h
      simpa [hbegins] using ih

/-- A part whose first character does not recur begins nowhere in a text before it but where it occurs
in this text. -/
theorem not_isPrefix_of_not_isInfix {c : Char} {tail before rest : List Char} (hc : c ∉ tail)
    (hne : before ≠ []) (hbefore : ¬c :: tail <:+: before) :
    ¬c :: tail <+: before ++ (c :: tail ++ rest) := by
  intro h
  obtain ⟨r, hr⟩ := h
  rcases List.append_eq_append_iff.mp hr with ⟨inner, hinner, -⟩ | ⟨inner, hinner, hafter⟩
  · exact hbefore ⟨[], inner, by simpa using hinner.symm⟩
  · cases inner with
    | nil => exact hbefore ⟨[], [], by simpa using hinner⟩
    | cons d inner =>
      obtain ⟨x, before, rfl⟩ := List.exists_cons_of_ne_nil hne
      have hd : d = c := (List.cons.inj hafter).1.symm
      have htail : tail = before ++ d :: inner := (List.cons.inj hinner).2
      apply hc
      rw [htail, hd]
      simp

/-- After a text without the part, the part is found where it stands. -/
theorem afterFirst?_append {part before rest : List Char} {c : Char} {tail : List Char}
    (hpart : part = c :: tail) (hc : c ∉ tail) (hbefore : ¬part <:+: before) :
    afterFirst? part (before ++ (part ++ rest)) = some rest := by
  subst hpart
  induction before with
  | nil =>
    have hbegins : afterPrefix? (c :: tail) (c :: (tail ++ rest)) = some rest :=
      afterPrefix?_eq_some.mpr rfl
    rw [List.nil_append, List.cons_append, afterFirst?, hbegins]
  | cons x before ih =>
    have hbegins : afterPrefix? (c :: tail) (x :: (before ++ (c :: tail ++ rest))) = none := by
      rw [Option.eq_none_iff_forall_ne_some]
      intro r hr
      exact not_isPrefix_of_not_isInfix hc (List.cons_ne_nil x before) hbefore
        ⟨r, (afterPrefix?_eq_some.mp hr).symm⟩
    rw [List.cons_append, afterFirst?, hbegins]
    exact ih fun h => hbefore (List.infix_cons h)

/-- A part that occurs before a text without its last character ends before this text. -/
theorem isInfix_of_isInfix_append {part before rest : List Char} {c : Char}
    (hlast : part.getLast? = some c) (hrest : c ∉ rest) (h : part <:+: before ++ rest) :
    part <:+: before := by
  obtain ⟨front, back, hsplit⟩ := h
  rcases List.append_eq_append_iff.mp hsplit with ⟨inner, hinner, -⟩ | ⟨inner, hinner, hafter⟩
  · exact ⟨front, inner, hinner.symm⟩
  · cases inner using List.reverseRecOn with
    | nil => exact ⟨front, [], by simpa using hinner⟩
    | append_singleton inner d =>
      have hend := congrArg List.getLast? hinner
      rw [List.getLast?_append, hlast, ← List.append_assoc, List.getLast?_concat] at hend
      obtain rfl : c = d := by simpa using hend
      exact absurd (by rw [hafter]; simp) hrest

section Map

variable {f : Char → Char} {part text : List Char}

theorem afterPrefix?_map (h : ∀ x ∈ part, ∀ y ∈ text, f x = f y → x = y) :
    afterPrefix? (part.map f) (text.map f) = (afterPrefix? part text).map (List.map f) := by
  induction part generalizing text with
  | nil => rfl
  | cons x part ih =>
    cases text with
    | nil => rfl
    | cons y text =>
      have hrest := ih fun x' hx' y' hy' =>
        h x' (List.mem_cons_of_mem _ hx') y' (List.mem_cons_of_mem _ hy')
      by_cases hxy : x = y
      · simp only [List.map_cons, afterPrefix?, hxy, if_true, hrest]
      · have hne : f x ≠ f y := fun heq =>
          hxy (h x (List.mem_cons_self ..) y (List.mem_cons_self ..) heq)
        simp only [List.map_cons, afterPrefix?, hxy, hne, if_false, Option.map_none]

theorem afterFirst?_map (h : ∀ x ∈ part, ∀ y ∈ text, f x = f y → x = y) :
    afterFirst? (part.map f) (text.map f) = (afterFirst? part text).map (List.map f) := by
  induction text with
  | nil =>
    cases part with
    | nil => rfl
    | cons x part => rfl
  | cons y text ih =>
    have hbegins := afterPrefix?_map h
    rw [List.map_cons] at hbegins
    rw [List.map_cons, afterFirst?, afterFirst?, hbegins]
    cases afterPrefix? part (y :: text) with
    | some rest => rfl
    | none => exact ih fun x hx y' hy' => h x hx y' (List.mem_cons_of_mem _ hy')

theorem beforeSuffix?_map (h : ∀ x ∈ part, ∀ y ∈ text, f x = f y → x = y) :
    beforeSuffix? (part.map f) (text.map f) = (beforeSuffix? part text).map (List.map f) := by
  have hbegins : afterPrefix? (part.reverse.map f) (text.reverse.map f) =
      (afterPrefix? part.reverse text.reverse).map (List.map f) :=
    afterPrefix?_map fun x hx y hy => h x (List.mem_reverse.mp hx) y (List.mem_reverse.mp hy)
  rw [beforeSuffix?, beforeSuffix?, ← List.map_reverse, ← List.map_reverse, hbegins,
    Option.map_map, Option.map_map]
  congr 1
  funext cs
  exact List.map_reverse.symm

end Map

end Text

/-! ### Class names and paths -/

namespace WellFormed

variable {n : String} (hn : WellFormed n)
include hn

theorem slash_not_mem : '/' ∉ n.toList := by
  intro h
  rw [← Text.join_splitString '.' n] at h
  rcases Text.mem_join h with h | ⟨piece, hpiece, h⟩
  · exact absurd h (by decide)
  · obtain ⟨s, hs, rfl⟩ := List.mem_map.mp hpiece
    exact (hn s hs).2 h

theorem head?_ne_dot : n.toList.head? ≠ some '.' := by
  intro h
  cases hchars : n.toList with
  | nil => simp [hchars] at h
  | cons c rest =>
    rw [hchars] at h
    obtain rfl : c = '.' := Option.some.inj h
    have hempty : "" ∈ Text.splitString '.' n := by simp [Text.splitString, hchars, Text.split]
    exact (hn "" hempty).1 rfl

end WellFormed

namespace Text

/-- A character, or another one if it is a certain one. -/
def exchange (old new c : Char) : Char := if c = old then new else c

/-- The string with another character in each place of a certain one. -/
def replaced (old new : Char) (s : String) : String :=
  String.ofList (s.toList.map (exchange old new))

theorem toList_replaced (old new : Char) (s : String) :
    (replaced old new s).toList = s.toList.map (exchange old new) :=
  String.toList_ofList

theorem exchange_of_ne {old new c : Char} (h : c ≠ old) : exchange old new c = c := if_neg h

theorem mem_replaced {old new c : Char} {s : String} (h : c ∈ (replaced old new s).toList) :
    c = new ∨ c ∈ s.toList ∧ c ≠ old := by
  rw [toList_replaced] at h
  obtain ⟨d, hd, rfl⟩ := List.mem_map.mp h
  by_cases hold : d = old
  · exact .inl (if_pos hold)
  · rw [exchange_of_ne hold]
    exact .inr ⟨hd, hold⟩

end Text

namespace SourceLayout

theorem isSeparator_iff {c : Char} : isSeparator c = true ↔ c = '/' ∨ c = '\\' := by
  simp [isSeparator]

/-! ### Dotted names -/

theorem not_isSeparator_of_mem_dotted {cs : List Char} {c : Char} (h : c ∈ dotted cs) :
    isSeparator c = false := by
  obtain ⟨d, -, rfl⟩ := List.mem_map.mp h
  cases hd : isSeparator d with
  | true => rfl
  | false => simpa using hd

theorem dotted_append {separators cs : List Char} (h : ∀ c ∈ separators, isSeparator c = true) :
    dotted (separators ++ cs) = dotted cs := by
  rw [dotted, List.dropWhile_append_of_pos h]
  rfl

/-- The separators in the path of a class are the dots in its name. -/
theorem dotted_replaced {n : String} (hn : WellFormed n) (hback : '\\' ∉ n.toList)
    {separator : Char} (hseparator : isSeparator separator = true) :
    dotted (Text.replaced '.' separator n).toList = n.toList := by
  have hplain : ∀ c ∈ n.toList, isSeparator c = false := by
    intro c hc
    rw [Bool.eq_false_iff, Ne, isSeparator_iff]
    rintro (rfl | rfl)
    · exact hn.slash_not_mem hc
    · exact hback hc
  have hfirst : (n.toList.map (Text.exchange '.' separator)).dropWhile isSeparator =
      n.toList.map (Text.exchange '.' separator) := by
    have hhead := hn.head?_ne_dot
    cases hchars : n.toList with
    | nil => rfl
    | cons c rest =>
      rw [hchars] at hhead hplain
      have hdot : c ≠ '.' := fun h => hhead (h ▸ rfl)
      have hc : isSeparator c = false := hplain c (List.mem_cons_self ..)
      rw [List.map_cons, Text.exchange_of_ne hdot, List.dropWhile_cons_of_neg (by simp [hc])]
  have hdots : ∀ c ∈ n.toList, (if isSeparator (Text.exchange '.' separator c) then '.' else
      Text.exchange '.' separator c) = c := by
    intro c hc
    by_cases hdot : c = '.'
    · subst hdot
      have hexchange : Text.exchange '.' separator '.' = separator := if_pos rfl
      rw [hexchange, if_pos hseparator]
    · rw [Text.exchange_of_ne hdot, if_neg (by simp [hplain c hc])]
  rw [dotted, Text.toList_replaced, hfirst, List.map_map]
  calc n.toList.map _ = n.toList.map id := List.map_congr_left hdots
    _ = n.toList := List.map_id _

/-! ### The usual layout -/

theorem withoutExtension_append (cs : List Char) :
    withoutExtension default.extensions (cs ++ ".java".toList) = cs := by
  have hbefore : Text.beforeSuffix? ('.' :: "java".toList) (cs ++ ".java".toList) = some cs :=
    Text.beforeSuffix?_eq_some.mpr rfl
  simp only [withoutExtension, default, List.findSome?_cons, hbefore, Option.getD_some]

theorem afterRoot_default (path : List Char) :
    afterRoot default.sourceRoots path =
      ((Text.afterFirst? "src/main/java/".toList path).or
        (Text.afterFirst? "src\\main\\java\\".toList path)).getD path := by
  simp only [afterRoot, default, List.findSome?_cons, List.findSome?_nil]
  cases Text.afterFirst? "src/main/java/".toList path <;>
    cases Text.afterFirst? "src\\main\\java\\".toList path <;> rfl

theorem className_of_afterRoot {file n : String} (hn : WellFormed n) (hback : '\\' ∉ n.toList)
    (separators : List Char) (separator : Char)
    (hleading : ∀ c ∈ separators, isSeparator c = true) (hseparator : isSeparator separator = true)
    (h : afterRoot default.sourceRoots file.toList =
      separators ++ (Text.replaced '.' separator n).toList ++ ".java".toList) :
    default.className file = n := by
  rw [className, h, withoutExtension_append, dotted_append hleading,
    dotted_replaced hn hback hseparator, String.ofList_toList]

theorem slashRoot_eq : "src/main/java/".toList = 's' :: "rc/main/java/".toList := by decide

theorem backslashRoot_eq :
    "src\\main\\java\\".toList = 's' :: "rc\\main\\java\\".toList := by decide

section Roots

variable {p n : String} (hp : ∀ root ∈ default.sourceRoots, ¬root.toList <:+: p.toList)
  (hn : WellFormed n) (hback : '\\' ∉ n.toList)
include hp hn hback

theorem className_below_slashes :
    default.className (p ++ "src/main/java/" ++ Text.replaced '.' '/' n ++ ".java") = n := by
  have hslash : ¬"src/main/java/".toList <:+: p.toList := hp _ (List.mem_cons_self ..)
  refine className_of_afterRoot hn hback [] '/' (by simp) (by decide) ?_
  simp only [String.toList_append, List.append_assoc, List.nil_append]
  rw [afterRoot_default, Text.afterFirst?_append slashRoot_eq (by decide) hslash]
  rfl

theorem className_below_backslashes :
    default.className (p ++ "src\\main\\java\\" ++ Text.replaced '.' '\\' n ++ ".java") = n := by
  have hslash : ¬"src/main/java/".toList <:+: p.toList := hp _ (List.mem_cons_self ..)
  have hbackslash : ¬"src\\main\\java\\".toList <:+: p.toList :=
    hp _ (List.mem_cons_of_mem _ (List.mem_cons_self ..))
  have hpath : '/' ∉ (Text.replaced '.' '\\' n).toList := by
    intro h
    rcases Text.mem_replaced h with h | ⟨h, -⟩
    · exact absurd h (by decide)
    · exact hn.slash_not_mem h
  -- the other root ends in a slash, and there is none after the prefix
  have hnone : Text.afterFirst? "src/main/java/".toList (p.toList ++
      ("src\\main\\java\\".toList ++ ((Text.replaced '.' '\\' n).toList ++ ".java".toList))) =
      none := by
    rw [Text.afterFirst?_eq_none_iff]
    intro h
    refine hslash (Text.isInfix_of_isInfix_append (c := '/') (by decide) ?_ h)
    simp [hpath]
  refine className_of_afterRoot hn hback [] '\\' (by simp) (by decide) ?_
  simp only [String.toList_append, List.append_assoc, List.nil_append]
  rw [afterRoot_default, hnone, Text.afterFirst?_append backslashRoot_eq (by decide) hbackslash]
  rfl

end Roots

theorem className_without_root {separators n : String} {separator : Char} (hn : WellFormed n)
    (hback : '\\' ∉ n.toList) (hseparator : isSeparator separator = true)
    (hleading : ∀ c ∈ separators.toList, isSeparator c = true)
    (hroots : ∀ root ∈ default.sourceRoots,
      ¬root.toList <:+: (separators ++ Text.replaced '.' separator n ++ ".java").toList) :
    default.className (separators ++ Text.replaced '.' separator n ++ ".java") = n := by
  have hslash := Text.afterFirst?_eq_none_iff.mpr (hroots _ (List.mem_cons_self ..))
  have hbackslash := Text.afterFirst?_eq_none_iff.mpr
    (hroots _ (List.mem_cons_of_mem _ (List.mem_cons_self ..)))
  refine className_of_afterRoot hn hback _ separator hleading hseparator ?_
  rw [afterRoot_default, hslash, hbackslash]
  simp

/-! ### The style of separators -/

/-- A slash as a backslash. -/
def backslashed : Char → Char := Text.exchange '/' '\\'

theorem eq_of_backslashed_eq {x y : Char} (hx : x ≠ '\\') (hy : y ≠ '\\')
    (h : backslashed x = backslashed y) : x = y := by
  unfold backslashed Text.exchange at h
  split_ifs at h with hx' hy' hy'
  · rw [hx', hy']
  · exact absurd h.symm hy
  · exact absurd h hx
  · exact h

theorem isSeparator_backslashed (c : Char) : isSeparator (backslashed c) = isSeparator c := by
  by_cases h : c = '/'
  · subst h
    decide
  · rw [backslashed, Text.exchange_of_ne h]

theorem dotted_backslashed (cs : List Char) : dotted (cs.map backslashed) = dotted cs := by
  have hmap : ∀ c, (if isSeparator (backslashed c) then '.' else backslashed c) =
      if isSeparator c then '.' else c := by
    intro c
    rw [isSeparator_backslashed]
    by_cases h : c = '/'
    · subst h
      decide
    · rw [backslashed, Text.exchange_of_ne h]
  have hcomp : isSeparator ∘ backslashed = isSeparator := funext isSeparator_backslashed
  rw [dotted, List.dropWhile_map, hcomp, List.map_map]
  exact List.map_congr_left fun c _ => hmap c

theorem withoutExtension_backslashed (cs : List Char) :
    withoutExtension default.extensions (cs.map backslashed) =
      (withoutExtension default.extensions cs).map backslashed := by
  have hmap : ('.' :: "java".toList).map backslashed = '.' :: "java".toList := by decide
  have hslash : '/' ∉ '.' :: "java".toList := by decide
  have hback : '\\' ∉ '.' :: "java".toList := by decide
  have hbefore : Text.beforeSuffix? (('.' :: "java".toList).map backslashed) (cs.map backslashed) =
      (Text.beforeSuffix? ('.' :: "java".toList) cs).map (List.map backslashed) := by
    apply Text.beforeSuffix?_map
    intro x hx y hy h
    have hx' : x ≠ '/' := fun heq => hslash (heq ▸ hx)
    rw [backslashed, Text.exchange_of_ne hx'] at h
    by_cases hy : y = '/'
    · exact absurd (h.trans (if_pos hy)) fun heq => hback (heq ▸ hx)
    · exact h.trans (Text.exchange_of_ne hy)
  rw [hmap] at hbefore
  simp only [withoutExtension, default, List.findSome?_cons, List.findSome?_nil, hbefore]
  cases Text.beforeSuffix? ('.' :: "java".toList) cs <;> rfl

theorem afterRoot_backslashed {cs : List Char} (h : '\\' ∉ cs) :
    afterRoot default.sourceRoots (cs.map backslashed) =
      (afterRoot default.sourceRoots cs).map backslashed := by
  have hroot : "src/main/java/".toList.map backslashed = "src\\main\\java\\".toList := by decide
  have hplain : '\\' ∉ "src/main/java/".toList := by decide
  have hne : ∀ y ∈ cs, y ≠ '\\' := fun y hy heq => h (heq ▸ hy)
  have hfound : Text.afterFirst? "src\\main\\java\\".toList (cs.map backslashed) =
      (Text.afterFirst? "src/main/java/".toList cs).map (List.map backslashed) := by
    rw [← hroot]
    apply Text.afterFirst?_map
    intro x hx y hy hxy
    exact eq_of_backslashed_eq (fun heq => hplain (heq ▸ hx)) (hne y hy) hxy
  -- each root has its own separator, which does not occur in a path of the other style
  have hslash : Text.afterFirst? "src/main/java/".toList (cs.map backslashed) = none := by
    rw [Text.afterFirst?_eq_none_iff]
    intro hoccurs
    have hmem : '/' ∈ cs.map backslashed := hoccurs.subset (by decide)
    obtain ⟨y, hy, hyslash⟩ := List.mem_map.mp hmem
    by_cases hy' : y = '/'
    · exact absurd ((if_pos hy').symm.trans hyslash) (by decide)
    · exact hy' ((Text.exchange_of_ne hy').symm.trans hyslash)
  have hback : Text.afterFirst? "src\\main\\java\\".toList cs = none := by
    rw [Text.afterFirst?_eq_none_iff]
    intro hoccurs
    exact h (hoccurs.subset (by decide))
  rw [afterRoot_default, afterRoot_default, hslash, hback, hfound]
  cases Text.afterFirst? "src/main/java/".toList cs <;> rfl

theorem className_backslashed {s : String} (h : '\\' ∉ s.toList) :
    default.className (Text.replaced '/' '\\' s) = default.className s := by
  have hchars : (Text.replaced '/' '\\' s).toList = s.toList.map backslashed :=
    Text.toList_replaced _ _ _
  rw [className, className, hchars, afterRoot_backslashed h, withoutExtension_backslashed,
    dotted_backslashed]

theorem not_isSeparator_of_mem_className {layout : SourceLayout} {file : String} {c : Char}
    (h : c ∈ (layout.className file).toList) : isSeparator c = false := by
  rw [className, String.toList_ofList] at h
  exact not_isSeparator_of_mem_dotted h

/-- Below a source root and without one, the path of a class in either style of separators names this
class, whatever its segments are. A path with slashes names the same class as the path with
backslashes in their places, and no name of a class has a separator. -/
theorem className_of_source_path :
    (∀ {n : String}, WellFormed n → '\\' ∉ n.toList →
      (∀ p : String, (∀ root ∈ default.sourceRoots, ¬root.toList <:+: p.toList) →
        default.className (p ++ "src/main/java/" ++ Text.replaced '.' '/' n ++ ".java") = n ∧
        default.className (p ++ "src\\main\\java\\" ++ Text.replaced '.' '\\' n ++ ".java") = n) ∧
      ∀ (separators : String) (separator : Char),
        (∀ c ∈ separators.toList, c = '/' ∨ c = '\\') → separator = '/' ∨ separator = '\\' →
        (∀ root ∈ default.sourceRoots,
          ¬root.toList <:+: (separators ++ Text.replaced '.' separator n ++ ".java").toList) →
        default.className (separators ++ Text.replaced '.' separator n ++ ".java") = n) ∧
    (∀ s : String, '\\' ∉ s.toList →
      default.className (Text.replaced '/' '\\' s) = default.className s) ∧
    ∀ (layout : SourceLayout) (s : String),
      '/' ∉ (layout.className s).toList ∧ '\\' ∉ (layout.className s).toList := by
  refine ⟨?_, fun s => className_backslashed, ?_⟩
  · intro n hn hback
    refine ⟨fun p hp => ⟨className_below_slashes hp hn hback,
      className_below_backslashes hp hn hback⟩, ?_⟩
    intro separators separator hleading hseparator hroots
    exact className_without_root hn hback (isSeparator_iff.mpr hseparator)
      (fun c hc => isSeparator_iff.mpr (hleading c hc)) hroots
  · intro layout s
    constructor
    · intro h
      exact absurd (not_isSeparator_of_mem_className h) (by decide)
    · intro h
      exact absurd (not_isSeparator_of_mem_className h) (by decide)

/-- A class whose name contains the names of a source root, below a root of either style after a
beginning of one, and without a root. -/
theorem className_of_source_path_of_nested_root :
    WellFormed "src.main.java.java" ∧ '\\' ∉ "src.main.java.java".toList ∧
      (∀ root ∈ default.sourceRoots, ¬root.toList <:+: "src/main/src\\main\\".toList) ∧
      default.className "src/main/src\\main\\src/main/java/src/main/java/java.java" =
        "src.main.java.java" ∧
      default.className "src/main/src\\main\\src\\main\\java\\src\\main\\java\\java.java" =
        "src.main.java.java" ∧
      default.className "\\//main/java.java" = "main.java" ∧
      default.className "a\\src\\main\\java\\b\\" = default.className "a/src/main/java/b/" := by
  obtain ⟨hpaths, hstyle, -⟩ := className_of_source_path
  have hn : WellFormed "src.main.java.java" := by decide +kernel
  have hback : '\\' ∉ "src.main.java.java".toList := by decide
  have hp : ∀ root ∈ default.sourceRoots, ¬root.toList <:+: "src/main/src\\main\\".toList := by
    decide +kernel
  obtain ⟨hbelow, -⟩ := hpaths hn hback
  obtain ⟨hslashes, hbackslashes⟩ := hbelow "src/main/src\\main\\" hp
  obtain ⟨-, hwithout⟩ := hpaths (n := "main.java") (by decide +kernel) (by decide)
  refine ⟨hn, hback, hp, ?_, ?_, ?_, ?_⟩
  · exact hslashes
  · exact hbackslashes
  · exact hwithout "\\//" '/' (by simp) (.inl rfl) (by decide +kernel)
  · exact hstyle "a/src/main/java/b/" (by decide)

end SourceLayout

end ClassCensus
