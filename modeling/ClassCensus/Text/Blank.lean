/-!
# Blank characters

The characters with the Unicode property `White_Space`, and the removal of blanks and other
classes of characters from the ends of a text.
-/

namespace ClassCensus.Text

/-- The characters with the Unicode property `White_Space`. -/
def isBlank (c : Char) : Bool :=
  let n := c.toNat
  (9 ≤ n && n ≤ 13) || n = 32 || n = 0x85 || n = 0xA0 || n = 0x1680 ||
    (0x2000 ≤ n && n ≤ 0x200A) || n = 0x2028 || n = 0x2029 || n = 0x202F || n = 0x205F ||
    n = 0x3000

/-- A text without the characters of a class at its end. -/
def dropEndWhile {α : Type} (p : α → Bool) (cs : List α) : List α :=
  (cs.reverse.dropWhile p).reverse

/-- A text without a character at its end. -/
def dropEnd {α : Type} [DecidableEq α] (c : α) (cs : List α) : List α := dropEndWhile (· = c) cs

/-- A text without blanks at either end. -/
def trim (cs : List Char) : List Char :=
  dropEndWhile isBlank (cs.dropWhile isBlank)

/-- A string without blanks at either end. -/
def trimString (s : String) : String :=
  String.ofList (trim s.toList)

theorem dropEndWhile_eq {α : Type} (p : α → Bool) (cs : List α) :
    ∃ tail, cs = dropEndWhile p cs ++ tail ∧ ∀ c ∈ tail, p c = true := by
  refine ⟨(cs.reverse.takeWhile p).reverse, ?_, ?_⟩
  · have h := congrArg List.reverse (List.takeWhile_append_dropWhile (p := p) (l := cs.reverse))
    rw [List.reverse_append, List.reverse_reverse] at h
    exact h.symm
  · intro c hc
    exact List.all_eq_true.mp List.all_takeWhile c (List.mem_reverse.mp hc)

/-! ### Trimmed texts -/

/-- What is trimmed off is blank. -/
theorem trim_eq (cs : List Char) :
    ∃ before after, cs = before ++ trim cs ++ after ∧ (∀ c ∈ before, isBlank c = true) ∧
      ∀ c ∈ after, isBlank c = true := by
  obtain ⟨after, hafter, hblank⟩ := dropEndWhile_eq isBlank (cs.dropWhile isBlank)
  refine ⟨cs.takeWhile isBlank, after, ?_, List.all_eq_true.mp List.all_takeWhile, hblank⟩
  rw [List.append_assoc, trim, ← hafter, List.takeWhile_append_dropWhile]

theorem dropWhile_isBlank_append {blanks rest : List Char}
    (hblanks : ∀ c ∈ blanks, isBlank c = true) (hrest : ∀ c ∈ rest.head?, isBlank c = false) :
    (blanks ++ rest).dropWhile isBlank = rest := by
  rw [List.dropWhile_append_of_pos hblanks]
  cases rest with
  | nil => rfl
  | cons c rest => rw [List.dropWhile_cons_of_neg (by simp [hrest c rfl])]

/-- A text without blanks is all that is left between blanks. -/
theorem trim_append {before text after : List Char} (hbefore : ∀ c ∈ before, isBlank c = true)
    (htext : ∀ c ∈ text, isBlank c = false) (hafter : ∀ c ∈ after, isBlank c = true) :
    trim (before ++ text ++ after) = text := by
  cases text with
  | nil =>
    have hall : ∀ c ∈ before ++ after, isBlank c = true := fun c hc =>
      (List.mem_append.mp hc).elim (hbefore c) (hafter c)
    have hdrop : (before ++ after ++ []).dropWhile isBlank = [] :=
      dropWhile_isBlank_append hall fun _ h => nomatch h
    rw [List.append_nil] at hdrop
    rw [List.append_nil, trim, hdrop]
    rfl
  | cons c text =>
    rw [trim, dropEndWhile, List.append_assoc, dropWhile_isBlank_append hbefore, List.reverse_append,
      dropWhile_isBlank_append, List.reverse_reverse]
    · intro d hd
      exact hafter d (List.mem_reverse.mp hd)
    · intro d hd
      exact htext d (List.mem_reverse.mp (List.mem_of_mem_head? hd))
    · intro d hd
      exact htext d (List.mem_of_mem_head? hd)

end ClassCensus.Text
