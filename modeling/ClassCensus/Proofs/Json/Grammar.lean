import ClassCensus.Json.Reader
import ClassCensus.Proofs.Json.Tokens

/-!
# JSON texts

`Writes` is the grammar of JSON: a text writes a value, with any blanks between its tokens, any
escapes in its strings and any depth of nesting. The reader accepts every such text and gives the
value that it writes (`parse?_of_writes`).
-/

namespace ClassCensus.Json

/-! ### Grammar -/

/-- Characters that may stand between tokens. -/
def IsBlank (cs : List Char) : Prop := ∀ c ∈ cs, isSpace c = true

/-- A member of an object together with how it is written. -/
structure WrittenMember where
  keyText : List Char
  key : Option String
  valueText : List Char
  value : Json

/-- The text of a member. -/
def WrittenMember.chars (m : WrittenMember) : List Char := m.keyText ++ ':' :: m.valueText

/-- A text writes a value. -/
inductive Writes : List Char → Json → Prop where
  | null : Writes ['n', 'u', 'l', 'l'] .null
  | true : Writes ['t', 'r', 'u', 'e'] (.bool true)
  | false : Writes ['f', 'a', 'l', 's', 'e'] (.bool false)
  | number (n : Numeral) : Writes n.chars n.value
  | string (parts : List (List Char × StringPart)) (h : ∀ p ∈ parts, StandsFor p.1 p.2) :
      Writes ('"' :: (parts.flatMap (·.1) ++ ['"']))
        (.string ((textOf (parts.map (·.2))).map String.ofList))
  | array (items : List (List Char × Json)) (h : ∀ i ∈ items, Writes i.1 i.2) (gap : List Char)
      (blank : IsBlank gap) :
      Writes ('[' :: (Text.join [','] (items.map (·.1)) ++ gap ++ [']']))
        (.array (items.map (·.2)))
  | object (members : List WrittenMember) (keys : ∀ m ∈ members, Writes m.keyText (.string m.key))
      (values : ∀ m ∈ members, Writes m.valueText m.value) (gap : List Char)
      (blank : IsBlank gap) :
      Writes ('\x7b' :: (Text.join [','] (members.map WrittenMember.chars) ++ gap ++ ['\x7d']))
        (.object (members.map fun m => (m.key, m.value)))
  | blankBefore {cs : List Char} {v : Json} {c : Char} (space : isSpace c = Bool.true)
      (h : Writes cs v) : Writes (c :: cs) v
  | blankAfter {cs : List Char} {v : Json} {c : Char} (space : isSpace c = Bool.true)
      (h : Writes cs v) : Writes (cs ++ [c]) v

theorem Writes.blanksBefore {blank cs : List Char} {v : Json} (hblank : IsBlank blank)
    (h : Writes cs v) : Writes (blank ++ cs) v := by
  induction blank with
  | nil => exact h
  | cons c rest ih =>
    have hc : isSpace c = Bool.true := hblank c (List.mem_cons_self ..)
    exact .blankBefore hc (ih fun x hx => hblank x (List.mem_cons_of_mem _ hx))

theorem Writes.blanksAfter {blank cs : List Char} {v : Json} (hblank : IsBlank blank)
    (h : Writes cs v) : Writes (cs ++ blank) v := by
  induction blank generalizing cs with
  | nil => rwa [List.append_nil]
  | cons c rest ih =>
    have hc : isSpace c = Bool.true := hblank c (List.mem_cons_self ..)
    rw [List.append_cons]
    exact ih (fun x hx => hblank x (List.mem_cons_of_mem _ hx)) (.blankAfter hc h)

/-! ### Reading -/

theorem endsNumber_cons {c : Char} (h : c = ',' ∨ c = ']' ∨ c = '\x7d' ∨ isSpace c = true)
    (rest : List Char) : EndsNumber (c :: rest) := by
  intro x hx
  obtain rfl : c = x := Option.some.inj hx
  rcases h with rfl | rfl | rfl | h
  · decide
  · decide
  · decide
  · simp only [isSpace, Bool.or_eq_true, decide_eq_true_eq] at h
    rcases h with ((rfl | rfl) | rfl) | rfl <;> decide

theorem endsNumber_blank {blank rest : List Char} (hblank : IsBlank blank)
    (hrest : EndsNumber rest) : EndsNumber (blank ++ rest) := by
  cases blank with
  | nil => exact hrest
  | cons c blank => exact endsNumber_cons (.inr (.inr (.inr (hblank c (List.mem_cons_self ..))))) _

/-- A text is cut into tokens, in front of any other text that does not go on with a number. -/
def CutsInto (cs : List Char) (tokens : List Token) : Prop :=
  ∀ {rest : List Char} {more : List Token}, EndsNumber rest → Scans rest more →
    Scans (cs ++ rest) (tokens ++ more)

/-- A text is cut into tokens, from which a value is read in front of any other tokens. A string is a
single token. -/
structure Spells (cs : List Char) (tokens : List Token) (v : Json) : Prop where
  cuts : CutsInto cs tokens
  read : ∀ (steps : Nat) (more : List Token), 2 * tokens.length ≤ steps →
    readValue steps (tokens ++ more) = some (v, more)
  single : ∀ s, v = .string s → tokens = [.scalar v]

/-- The same for the items of an array with commas between them; the reader goes on to the end of
the array. -/
structure SpellsItems (cs : List Char) (tokens : List Token) (items : List Json) : Prop where
  cuts : CutsInto cs tokens
  read : ∀ (steps : Nat) (more : List Token), 2 * tokens.length + 1 ≤ steps →
    readItems steps (tokens ++ .endArray :: more) = some (items, more)

/-- The same for the members of an object. -/
structure SpellsMembers (cs : List Char) (tokens : List Token)
    (members : List (Option String × Json)) : Prop where
  cuts : CutsInto cs tokens
  read : ∀ (steps : Nat) (more : List Token), 2 * tokens.length + 1 ≤ steps →
    readMembers steps (tokens ++ .endObject :: more) = some (members, more)

theorem Spells.scalar {cs : List Char} {v : Json}
    (h : ∀ {rest : List Char} {more : List Token}, EndsNumber rest → Scans rest more →
      Scans (cs ++ rest) (.scalar v :: more)) :
    Spells cs [.scalar v] v := by
  refine ⟨fun hrest hmore => h hrest hmore, ?_, fun _ _ => rfl⟩
  intro steps more hsteps
  cases steps with
  | zero => simp at hsteps
  | succ steps => rfl

theorem exists_spellsItems {items : List (List Char × Json)} (hne : items ≠ [])
    (h : ∀ i ∈ items, ∃ tokens, Spells i.1 tokens i.2) :
    ∃ tokens, SpellsItems (Text.join [','] (items.map (·.1))) tokens (items.map (·.2)) := by
  induction items with
  | nil => exact absurd rfl hne
  | cons item rest ih =>
    obtain ⟨tokens, hitem⟩ := h item (List.mem_cons_self ..)
    cases rest with
    | nil =>
      refine ⟨tokens, hitem.cuts, ?_⟩
      intro steps more hsteps
      cases steps with
      | zero => omega
      | succ steps =>
        rw [readItems, hitem.read _ _ (by omega)]
        rfl
    | cons next rest =>
      have hrest := fun i hi => h i (List.mem_cons_of_mem _ hi)
      obtain ⟨others, hothers⟩ := ih (List.cons_ne_nil next rest) hrest
      refine ⟨tokens ++ .comma :: others, ?_, ?_⟩
      · intro tail more htail hmore
        simp only [List.map_cons, Text.join, List.append_assoc, List.cons_append,
          List.nil_append]
        exact hitem.cuts (endsNumber_cons (.inl rfl) _) (hothers.cuts htail hmore).comma
      · intro steps more hsteps
        simp only [List.length_append, List.length_cons] at hsteps
        cases steps with
        | zero => omega
        | succ steps =>
          rw [List.append_assoc, readItems, hitem.read _ _ (by omega)]
          simp only [List.cons_append, Option.bind_eq_bind, Option.bind_some,
            hothers.read _ more (show _ ≤ steps by omega)]
          rfl

theorem exists_spellsMembers {members : List WrittenMember} (hne : members ≠ [])
    (hkeys : ∀ m ∈ members, ∃ tokens, Spells m.keyText tokens (.string m.key))
    (h : ∀ m ∈ members, ∃ tokens, Spells m.valueText tokens m.value) :
    ∃ tokens, SpellsMembers (Text.join [','] (members.map WrittenMember.chars)) tokens
      (members.map fun m => (m.key, m.value)) := by
  induction members with
  | nil => exact absurd rfl hne
  | cons member rest ih =>
    obtain ⟨keyTokens, hkey⟩ := hkeys member (List.mem_cons_self ..)
    -- the reader of members looks for a key that is one token
    obtain rfl := hkey.single member.key rfl
    obtain ⟨tokens, hvalue⟩ := h member (List.mem_cons_self ..)
    have hcolon : ∀ rest, EndsNumber (':' :: rest) := by
      intro rest c hc
      obtain rfl : ':' = c := Option.some.inj hc
      decide
    cases rest with
    | nil =>
      refine ⟨.scalar (.string member.key) :: .colon :: tokens, ?_, ?_⟩
      · intro rest more hrest hmore
        simp only [List.map_cons, List.map_nil, Text.join, WrittenMember.chars,
          List.append_assoc, List.cons_append]
        exact hkey.cuts (hcolon _) (hvalue.cuts hrest hmore).colon
      · intro steps more hsteps
        simp only [List.length_cons] at hsteps
        cases steps with
        | zero => omega
        | succ steps =>
          simp only [List.cons_append, readMembers, hvalue.read _ _ (show _ ≤ steps by omega)]
          rfl
    | cons next rest =>
      have hkeys' := fun m hm => hkeys m (List.mem_cons_of_mem _ hm)
      have hrest := fun m hm => h m (List.mem_cons_of_mem _ hm)
      obtain ⟨others, hothers⟩ := ih (List.cons_ne_nil next rest) hkeys' hrest
      refine ⟨.scalar (.string member.key) :: .colon :: (tokens ++ .comma :: others), ?_, ?_⟩
      · intro tail more htail hmore
        have hcut := (hothers.cuts htail hmore).comma
        simp only [List.map_cons, Text.join, WrittenMember.chars, List.append_assoc,
          List.cons_append, List.nil_append] at hcut ⊢
        exact hkey.cuts (hcolon _) (hvalue.cuts (endsNumber_cons (.inl rfl) _) hcut).colon
      · intro steps more hsteps
        simp only [List.length_append, List.length_cons] at hsteps
        cases steps with
        | zero => omega
        | succ steps =>
          simp only [List.cons_append, List.append_assoc, readMembers,
            hvalue.read _ _ (show _ ≤ steps by omega), Option.bind_eq_bind, Option.bind_some,
            hothers.read _ more (show _ ≤ steps by omega)]
          rfl

/-- The tokens of an array. -/
theorem Spells.array {cs gap : List Char} {tokens : List Token} {items : List Json}
    (h : SpellsItems cs tokens items) (hgap : IsBlank gap) :
    Spells ('[' :: (cs ++ gap ++ [']'])) (.beginArray :: (tokens ++ [.endArray]))
      (.array items) := by
  refine ⟨?_, ?_, fun _ h0 => nomatch h0⟩
  · intro rest more _ hmore
    have hend := Scans.spaces hgap hmore.endArray
    have hcut := h.cuts (endsNumber_blank hgap (endsNumber_cons (.inr (.inl rfl)) rest)) hend
    simpa only [List.cons_append, List.append_assoc, List.nil_append] using hcut.beginArray
  · intro steps more hsteps
    simp only [List.length_cons, List.length_append, List.length_nil] at hsteps
    cases steps with
    | zero => omega
    | succ steps =>
      have hread := h.read steps more (by omega)
      simp only [List.cons_append, List.append_assoc, List.nil_append, readValue]
      split
      · -- no item begins with the end of the array
        rename_i rest htokens
        rw [htokens] at hread
        cases steps with
        | zero => omega
        | succ steps =>
          rw [readItems] at hread
          cases steps with
          | zero => omega
          | succ steps => exact nomatch hread
      · rw [hread]
        rfl

/-- The tokens of an object. -/
theorem Spells.object {cs gap : List Char} {tokens : List Token}
    {members : List (Option String × Json)} (h : SpellsMembers cs tokens members)
    (hgap : IsBlank gap) :
    Spells ('\x7b' :: (cs ++ gap ++ ['\x7d'])) (.beginObject :: (tokens ++ [.endObject]))
      (.object members) := by
  refine ⟨?_, ?_, fun _ h0 => nomatch h0⟩
  · intro rest more _ hmore
    have hend := Scans.spaces hgap hmore.endObject
    have hcut := h.cuts (endsNumber_blank hgap (endsNumber_cons (.inr (.inr (.inl rfl))) rest)) hend
    simpa only [List.cons_append, List.append_assoc, List.nil_append] using hcut.beginObject
  · intro steps more hsteps
    simp only [List.length_cons, List.length_append, List.length_nil] at hsteps
    cases steps with
    | zero => omega
    | succ steps =>
      have hread := h.read steps more (by omega)
      simp only [List.cons_append, List.append_assoc, List.nil_append, readValue]
      split
      · rename_i rest htokens
        rw [htokens] at hread
        cases steps with
        | zero => omega
        | succ steps => exact nomatch hread
      · rw [hread]
        rfl

theorem Writes.exists_spells {cs : List Char} {v : Json} (h : Writes cs v) :
    ∃ tokens, Spells cs tokens v := by
  induction h with
  | null => exact ⟨_, Spells.scalar fun _ hmore => Scans.token rfl rfl (by simp; omega) hmore⟩
  | true => exact ⟨_, Spells.scalar fun _ hmore => Scans.token rfl rfl (by simp; omega) hmore⟩
  | false => exact ⟨_, Spells.scalar fun _ hmore => Scans.token rfl rfl (by simp; omega) hmore⟩
  | number n => exact ⟨_, Spells.scalar fun hrest hmore => scans_numeral n hrest hmore⟩
  | string parts hparts =>
    refine ⟨_, Spells.scalar fun {rest} {more} _ hmore => ?_⟩
    simpa only [List.cons_append, List.append_assoc, List.nil_append] using
      scans_string hparts hmore
  | array items _ gap blank ih =>
    by_cases hne : items = []
    · subst hne
      refine ⟨[.beginArray, .endArray], ?_, ?_, fun _ h0 => by cases h0⟩
      · intro rest more _ hmore
        simpa [Text.join] using (Scans.spaces blank hmore.endArray).beginArray
      · intro steps more hsteps
        cases steps with
        | zero => simp at hsteps
        | succ steps => rfl
    · obtain ⟨tokens, hitems⟩ := exists_spellsItems hne ih
      exact ⟨_, Spells.array hitems blank⟩
  | object members _ _ gap blank ihKeys ihValues =>
    by_cases hne : members = []
    · subst hne
      refine ⟨[.beginObject, .endObject], ?_, ?_, fun _ h0 => by cases h0⟩
      · intro rest more _ hmore
        simpa [Text.join] using (Scans.spaces blank hmore.endObject).beginObject
      · intro steps more hsteps
        cases steps with
        | zero => simp at hsteps
        | succ steps => rfl
    · obtain ⟨tokens, hmembers⟩ := exists_spellsMembers hne ihKeys ihValues
      exact ⟨_, Spells.object hmembers blank⟩
  | blankBefore space _ ih =>
    obtain ⟨tokens, hv⟩ := ih
    exact ⟨tokens, fun hrest hmore => Scans.space space (hv.cuts hrest hmore), hv.read, hv.single⟩
  | @blankAfter cs v c space _ ih =>
    obtain ⟨tokens, hv⟩ := ih
    refine ⟨tokens, ?_, hv.read, hv.single⟩
    intro rest more _ hmore
    rw [← List.append_cons]
    exact hv.cuts (endsNumber_cons (.inr (.inr (.inr space))) rest) (Scans.space space hmore)

/-- The reader gives the value that a text writes. -/
theorem parse?_of_writes {text : String} {v : Json} (h : Writes text.toList v) :
    parse? text = some v := by
  obtain ⟨tokens, hv⟩ := h.exists_spells
  have htokens : tokens? text.toList = some tokens := by
    have hend : EndsNumber [] := fun c hc => nomatch hc
    have hscan := hv.cuts hend Scans.nil
    rw [List.append_nil, List.append_nil] at hscan
    exact tokens?_of_scans hscan
  have hread : readValue (2 * tokens.length + 1) tokens = some (v, []) := by
    have hread := hv.read (2 * tokens.length + 1) [] (by omega)
    rwa [List.append_nil] at hread
  unfold parse? ofTokens?
  rw [htokens]
  simp only [Option.bind_eq_bind, Option.bind_some, hread]

end ClassCensus.Json
