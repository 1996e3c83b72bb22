import ClassCensus.ClassDump
import ClassCensus.Proofs.Overloads

/-!
# The words of a dump

A line of a dump is, but for its indentation and its marks, a row of words with a space between
neighbours (`Text.phrase`). Where the words have characters but no spaces, the row tells them
(`IsPiece.phrase_inj`). The words of a list have commas, and these tell nothing that the places of the
words do not tell (`Text.listed_inj`). A name is a word (`IsWord`) where it has none of the characters
at which a dump is cut and is no keyword.
-/

namespace ClassCensus

/-! ### Phrases -/

namespace Text

/-- Words with a space between neighbours. -/
def phrase (ws : List String) : List Char := join [' '] (ws.map String.toList)

theorem phrase_append {ws vs : List String} (hw : ws ≠ []) (hv : vs ≠ []) :
    phrase (ws ++ vs) = phrase ws ++ ' ' :: phrase vs := by
  rw [phrase, List.map_append]
  exact join_append ' ' (by simpa using hw) (by simpa using hv)

theorem phrase_cons (w : String) {ws : List String} (h : ws ≠ []) :
    phrase (w :: ws) = w.toList ++ ' ' :: phrase ws :=
  phrase_append (List.cons_ne_nil w []) h

theorem not_mem_phrase {c : Char} {ws : List String} (hc : c ≠ ' ')
    (h : ∀ w ∈ ws, c ∉ w.toList) : c ∉ phrase ws := by
  intro hmem
  rcases mem_join hmem with rfl | ⟨p, hp, hcp⟩
  · exact hc rfl
  · obtain ⟨w, hw, rfl⟩ := List.mem_map.mp hp
    exact h w hw hcp

/-- The words of a list with commas: each word but the last one has a comma at its end. -/
def listed : List String → List String
  | [] => []
  | [w] => [w]
  | w :: v :: rest => (w ++ ",") :: listed (v :: rest)

theorem listed_ne_nil {ws : List String} (h : ws ≠ []) : listed ws ≠ [] := by
  cases ws with
  | nil => exact absurd rfl h
  | cons w ws => cases ws <;> simp [listed]

theorem phrase_listed (ws : List String) : phrase (listed ws) = (joinStrings ", " ws).toList := by
  induction ws with
  | nil => rfl
  | cons w ws ih =>
    cases ws with
    | nil => rfl
    | cons v rest =>
      rw [listed, phrase_cons _ (listed_ne_nil (List.cons_ne_nil v rest)), ih, joinStrings]
      simp

theorem mem_listed {ws : List String} {w : String} (h : w ∈ listed ws) :
    ∃ v ∈ ws, w = v ∨ w = v ++ "," := by
  induction ws with
  | nil => cases h
  | cons v ws ih =>
    cases ws with
    | nil => exact ⟨v, List.mem_cons_self .., .inl (List.mem_singleton.mp h)⟩
    | cons u rest =>
      rcases List.mem_cons.mp h with rfl | h
      · exact ⟨v, List.mem_cons_self .., .inr rfl⟩
      · obtain ⟨x, hx, hw⟩ := ih h
        exact ⟨x, List.mem_cons_of_mem _ hx, hw⟩

theorem length_listed (ws : List String) : (listed ws).length = ws.length := by
  induction ws with
  | nil => rfl
  | cons w ws ih =>
    cases ws with
    | nil => rfl
    | cons v rest => rw [listed, List.length_cons, ih, List.length_cons (a := w)]

theorem listed_inj {ws vs : List String} (h : listed ws = listed vs) : ws = vs := by
  induction ws generalizing vs with
  | nil =>
    have hlength := congrArg List.length h
    rw [length_listed, length_listed] at hlength
    exact (List.length_eq_zero_iff.mp hlength.symm).symm
  | cons w ws ih =>
    have hlength := congrArg List.length h
    rw [length_listed, length_listed] at hlength
    -- lists of one length have commas at the same places
    match ws, vs, hlength with
    | [], [v], _ => exact h
    | w2 :: ws, v :: v2 :: vs, _ =>
      obtain ⟨hhead, htail⟩ := List.cons.inj h
      rw [ih htail]
      have hchars := String.toList_inj.mpr hhead
      rw [String.toList_append, String.toList_append] at hchars
      rw [String.toList_inj.mp (List.append_cancel_right hchars)]

theorem joinStrings_empty_cons (s : String) (rest : List String) :
    joinStrings "" (s :: rest) = s ++ joinStrings "" rest := by
  cases rest <;> simp [joinStrings]

end Text

open Text (phrase listed)

/-- Modifiers and the words after them are one row of words. -/
theorem toList_dumpModifiers_append (modifiers : List String) {ws : List String} (h : ws ≠ []) :
    (dumpModifiers modifiers).toList ++ phrase ws = phrase (modifiers ++ ws) := by
  induction modifiers with
  | nil => rfl
  | cons m rest ih =>
    have hcons : dumpModifiers (m :: rest) = m ++ " " ++ dumpModifiers rest :=
      Text.joinStrings_empty_cons ..
    rw [List.cons_append, Text.phrase_cons m (List.append_ne_nil_of_right_ne_nil rest h), ← ih, hcons]
    simp

/-! ### Pieces and words -/

/-- A text that a row of words does not cut further. -/
structure IsPiece (s : String) : Prop where
  ne_empty : s ≠ ""
  no_space : ' ' ∉ s.toList
  no_break : '\n' ∉ s.toList

instance (s : String) : Decidable (IsPiece s) :=
  decidable_of_iff (s ≠ "" ∧ ' ' ∉ s.toList ∧ '\n' ∉ s.toList)
    ⟨fun h => ⟨h.1, h.2.1, h.2.2⟩, fun h => ⟨h.ne_empty, h.no_space, h.no_break⟩⟩

/-- A name that stands as one word in a dump. Blanks other than the space and the line break do no
harm. -/
structure IsWord (s : String) : Prop where
  ne_empty : s ≠ ""
  plain : ∀ c ∈ s.toList, c ∉ [' ', '\n', ',', ';', '(', ')', '\x7b', '\x7d']
  no_keyword : s ∉ ["class", "extends", "implements"]

-- The characters are finitely many, so without the instance for lists all of them could be tried.
instance (s : String) : Decidable (IsWord s) :=
  letI : Decidable (∀ c ∈ s.toList, c ∉ [' ', '\n', ',', ';', '(', ')', '\x7b', '\x7d']) :=
    List.decidableBAll _ _
  decidable_of_iff (s ≠ "" ∧
      (∀ c ∈ s.toList, c ∉ [' ', '\n', ',', ';', '(', ')', '\x7b', '\x7d']) ∧
      s ∉ ["class", "extends", "implements"])
    ⟨fun h => ⟨h.1, h.2.1, h.2.2⟩, fun h => ⟨h.ne_empty, h.plain, h.no_keyword⟩⟩

namespace IsPiece

variable {ws vs : List String}

theorem phrase_inj (hw : ∀ w ∈ ws, IsPiece w) (hv : ∀ v ∈ vs, IsPiece v)
    (h : phrase ws = phrase vs) : ws = vs := by
  have hpieces : ∀ us : List String, (∀ u ∈ us, IsPiece u) →
      ∀ p ∈ us.map String.toList, p ≠ [] ∧ ' ' ∉ p := by
    intro us hus p hp
    obtain ⟨u, hu, rfl⟩ := List.mem_map.mp hp
    exact ⟨fun hnil => (hus u hu).ne_empty (String.toList_eq_nil_iff.mp hnil), (hus u hu).no_space⟩
  exact List.map_injective_iff.mpr (fun _ _ => String.toList_inj.mp)
    (Text.join_inj (hpieces ws hw) (hpieces vs hv) h)

theorem no_break_phrase (h : ∀ w ∈ ws, IsPiece w) : '\n' ∉ phrase ws :=
  Text.not_mem_phrase (by decide) fun w hw => (h w hw).no_break

theorem append_comma {s : String} (h : IsPiece s) : IsPiece (s ++ ",") where
  ne_empty hempty := by
    have hchars := congrArg String.toList hempty
    simp at hchars
  no_space := by simpa using h.no_space
  no_break := by simpa using h.no_break

theorem listed (h : ∀ w ∈ ws, IsPiece w) : ∀ w ∈ listed ws, IsPiece w := by
  intro w hw
  obtain ⟨v, hv, rfl | rfl⟩ := Text.mem_listed hw
  · exact h w hv
  · exact (h v hv).append_comma

end IsPiece

namespace IsWord

variable {s : String}

theorem not_mem (h : IsWord s) {c : Char}
    (hc : c ∈ [' ', '\n', ',', ';', '(', ')', '\x7b', '\x7d']) : c ∉ s.toList :=
  fun hmem => h.plain c hmem hc

theorem isPiece (h : IsWord s) : IsPiece s where
  ne_empty := h.ne_empty
  no_space := h.not_mem (by decide)
  no_break := h.not_mem (by decide)

theorem ne_of_keyword (h : IsWord s) {k : String} (hk : k ∈ ["class", "extends", "implements"]) :
    s ≠ k := fun hsk => h.no_keyword (hsk ▸ hk)

end IsWord

end ClassCensus
