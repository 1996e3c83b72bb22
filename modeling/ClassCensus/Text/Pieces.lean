/-!
# Pieces of a text

Cutting a text at a separator, joining pieces again, and finding or removing a fixed part at
either end. Everything here works on lists, of characters or of bytes, so that the laws are
inductions on lists; the rest of the library wraps these functions for strings.
-/

namespace ClassCensus.Text

variable {α : Type} [DecidableEq α]

/-! ### Splitting and joining -/

/-- The pieces of a text between the occurrences of `sep`; there is always at least one. -/
def split (sep : α) : List α → List (List α)
  | [] => [[]]
  | c :: cs =>
    if c = sep then [] :: split sep cs
    else
      match split sep cs with
      | [] => [[c]]
      | piece :: rest => (c :: piece) :: rest

/-- The pieces one after another, with `sep` between neighbours. -/
def join (sep : List α) : List (List α) → List α
  | [] => []
  | [piece] => piece
  | piece :: next :: rest => piece ++ sep ++ join sep (next :: rest)

theorem split_ne_nil (sep : α) (cs : List α) : split sep cs ≠ [] := by
  cases cs with
  | nil => simp [split]
  | cons c cs =>
    simp only [split]
    split
    · simp
    · split <;> simp

/-- Joining the pieces of a text gives the text back. -/
theorem join_split (sep : α) (cs : List α) : join [sep] (split sep cs) = cs := by
  induction cs with
  | nil => rfl
  | cons c cs ih =>
    simp only [split]
    cases h : split sep cs with
    | nil => exact absurd h (split_ne_nil sep cs)
    | cons piece rest =>
      rw [h] at ih
      by_cases hc : c = sep
      · subst hc
        simp [join, ih]
      · cases rest with
        | nil => simpa [hc, join] using ih
        | cons next rest => simpa [hc, join] using ih

/-- The text before and after the last `sep`, or nothing where `sep` does not occur. -/
def cutLast (sep : α) : List α → Option (List α × List α)
  | [] => none
  | c :: cs =>
    match cutLast sep cs with
    | some (before, after) => some (c :: before, after)
    | none => if c = sep then some ([], cs) else none

theorem cutLast_eq_none {sep : α} {cs : List α} : cutLast sep cs = none ↔ sep ∉ cs := by
  induction cs with
  | nil => simp [cutLast]
  | cons c cs ih =>
    rw [cutLast, List.mem_cons]
    cases hcut : cutLast sep cs with
    | some cut =>
      rw [hcut] at ih
      simp_all
    | none =>
      by_cases hc : c = sep
      · simp [hc]
      · simp [hc, Ne.symm hc, ih.mp hcut]

theorem cutLast_append {sep : α} {after : List α} (h : sep ∉ after) (before : List α) :
    cutLast sep (before ++ sep :: after) = some (before, after) := by
  induction before with
  | nil => simp [cutLast, cutLast_eq_none.mpr h]
  | cons c before ih => simp [cutLast, ih]

/-- A text is cut where no separator follows. -/
theorem cutLast_eq_some {sep : α} {cs before after : List α} :
    cutLast sep cs = some (before, after) ↔ cs = before ++ sep :: after ∧ sep ∉ after := by
  constructor
  · intro h
    induction cs generalizing before with
    | nil => cases h
    | cons c cs ih =>
      rw [cutLast] at h
      split at h
      · rename_i front back hcut
        cases h
        obtain ⟨rfl, hafter⟩ := ih hcut
        exact ⟨rfl, hafter⟩
      · rename_i hcut
        split at h
        · rename_i hc
          cases h
          exact ⟨by rw [hc, List.nil_append], cutLast_eq_none.mp hcut⟩
        · cases h
  · rintro ⟨rfl, hafter⟩
    exact cutLast_append hafter before

/-- The text before and after the first `sep`, or nothing where `sep` does not occur. -/
def cutFirst (sep : α) : List α → Option (List α × List α)
  | [] => none
  | c :: cs =>
    if c = sep then some ([], cs)
    else (cutFirst sep cs).map fun (before, after) => (c :: before, after)

/-! ### Fixed parts -/

/-- What follows `part` in a text that begins with it. -/
def afterPrefix? : (part text : List α) → Option (List α)
  | [], text => some text
  | _ :: _, [] => none
  | p :: part, c :: text => if p = c then afterPrefix? part text else none

/-- What precedes `part` in a text that ends with it. -/
def beforeSuffix? (part text : List α) : Option (List α) :=
  (afterPrefix? part.reverse text.reverse).map List.reverse

/-- What follows the first occurrence of `part`. -/
def afterFirst? (part : List α) : List α → Option (List α)
  | [] => if part = [] then some [] else none
  | c :: cs =>
    match afterPrefix? part (c :: cs) with
    | some rest => some rest
    | none => afterFirst? part cs

theorem afterPrefix?_eq_some {part text rest : List α} :
    afterPrefix? part text = some rest ↔ text = part ++ rest := by
  induction part generalizing text with
  | nil => simp [afterPrefix?, eq_comm]
  | cons p part ih =>
    cases text with
    | nil => simp [afterPrefix?]
    | cons c text =>
      by_cases h : p = c
      · simp [afterPrefix?, h, ih]
      · simp [afterPrefix?, h, Ne.symm h]

theorem beforeSuffix?_eq_some {part text rest : List α} :
    beforeSuffix? part text = some rest ↔ text = rest ++ part := by
  simp only [beforeSuffix?, Option.map_eq_some_iff, afterPrefix?_eq_some]
  constructor
  · rintro ⟨r, h, rfl⟩
    have := congrArg List.reverse h
    simpa using this
  · rintro rfl
    exact ⟨rest.reverse, by simp, by simp⟩

/-! ### Strings -/

/-- The strings one after another, with `sep` between neighbours. -/
def joinStrings (sep : String) : List String → String
  | [] => ""
  | [piece] => piece
  | piece :: next :: rest => piece ++ sep ++ joinStrings sep (next :: rest)

/-- The strings between the occurrences of `sep`. -/
def splitString (sep : Char) (s : String) : List String :=
  (split sep s.toList).map String.ofList

/-- The string before and after the last `sep`. -/
def cutLastString (sep : Char) (s : String) : Option (String × String) :=
  (cutLast sep s.toList).map fun (a, b) => (String.ofList a, String.ofList b)

theorem toList_joinStrings (sep : String) (pieces : List String) :
    (joinStrings sep pieces).toList = join sep.toList (pieces.map String.toList) := by
  induction pieces with
  | nil => rfl
  | cons piece rest ih =>
    cases rest with
    | nil => rfl
    | cons next rest => simp_all [joinStrings, join]

end ClassCensus.Text
