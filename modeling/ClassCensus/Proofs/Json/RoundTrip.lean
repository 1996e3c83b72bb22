import ClassCensus.Proofs.Json.Grammar

/-!
# Reading what was written

A value whose numbers are integers is written in the grammar of JSON, with indentation or without any
blank, so that it is read back from both texts (`parse?_pretty`, `parse?_compact`).
-/

namespace ClassCensus.Json

/-- A value whose numbers are integers. -/
inductive Literal : Json → Prop where
  | null : Literal .null
  | bool (b : Bool) : Literal (.bool b)
  | integer (i : Int) : Literal (.integer i)
  | string (s : Option String) : Literal (.string s)
  | array {items : List Json} (h : ∀ v ∈ items, Literal v) : Literal (.array items)
  | object {members : List (Option String × Json)} (h : ∀ m ∈ members, Literal m.2) :
      Literal (.object members)

theorem Literal.text (s : String) : Literal (.text s) := .string (some s)

theorem writes_quote (s : Option String) : Writes (quote s) (.string s) := by
  cases s with
  | none =>
    have hunit : StandsFor ['\\', 'u', 'd', '8', '0', '0'] (.unit 0xd800) := .unit rfl
    exact .string [(_, _)] fun p hp => List.mem_singleton.mp hp ▸ hunit
  | some s =>
    have h := Writes.string (s.toList.map fun c => (escape c, partOf c)) (by
      intro p hp
      obtain ⟨c, _, rfl⟩ := List.mem_map.mp hp
      exact standsFor_escape c)
    have hparts : textOf ((s.toList.map fun c => (escape c, partOf c)).map (·.2)) =
        some s.toList := by
      rw [List.map_map]
      exact textOf_map_partOf s.toList
    rw [hparts, Option.map_some, String.ofList_toList, List.flatMap_map] at h
    exact h

theorem writes_integer (i : Int) : Writes (toString i).toList (.integer i) := by
  rw [← Numeral.chars_ofInt, ← Numeral.value_ofInt i]
  exact .number _

theorem writes_bool (b : Bool) : Writes (writeScalar (.bool b)) (.bool b) := by
  cases b with
  | true => exact .true
  | false => exact .false

theorem isBlank_newline {indent : List Char} (hindent : IsBlank indent) (level : Nat) :
    IsBlank (newline indent level) := by
  intro c hc
  rcases List.mem_cons.mp hc with rfl | hc
  · rfl
  · obtain ⟨l, hl, hcl⟩ := List.mem_flatten.mp hc
    rw [List.eq_of_mem_replicate hl] at hcl
    exact hindent c hcl

/-! ### Indented text -/

/-- A member of an object as it is written on a line of its own. -/
def prettyMember (indent : List Char) (level : Nat) (m : Option String × Json) : WrittenMember where
  keyText := newline indent level ++ quote m.1
  key := m.1
  valueText := ' ' :: prettyChars indent level m.2
  value := m.2

theorem prettyItems_eq_join (indent : List Char) (level : Nat) (items : List Json) :
    prettyItems indent level items =
      Text.join [','] (items.map fun v => newline indent level ++ prettyChars indent level v) := by
  induction items with
  | nil => rfl
  | cons item rest ih =>
    cases rest with
    | nil => rfl
    | cons next rest =>
      rw [prettyItems, ih]
      simp [Text.join]

theorem prettyMembers_eq_join (indent : List Char) (level : Nat)
    (members : List (Option String × Json)) :
    prettyMembers indent level members =
      Text.join [','] ((members.map (prettyMember indent level)).map WrittenMember.chars) := by
  induction members with
  | nil => rfl
  | cons member rest ih =>
    cases rest with
    | nil => simp [prettyMembers, Text.join, WrittenMember.chars, prettyMember]
    | cons next rest =>
      rw [prettyMembers, ih]
      simp [Text.join, WrittenMember.chars, prettyMember]

theorem Literal.writes_pretty {v : Json} (h : Literal v) {indent : List Char}
    (hindent : IsBlank indent) (level : Nat) : Writes (prettyChars indent level v) v := by
  have hline := isBlank_newline hindent
  induction h generalizing level with
  | null => exact .null
  | bool b => exact writes_bool b
  | integer i => exact writes_integer i
  | string s => exact writes_quote s
  | @array items _ ih =>
    -- the line break before an item belongs to the item, and the last one to the bracket
    have hitems := Writes.array
      (items.map fun v => (newline indent (level + 1) ++ prettyChars indent (level + 1) v, v))
    rw [List.map_map, List.map_map] at hitems
    cases items with
    | nil => exact hitems (by simp) [] (by simp [IsBlank])
    | cons item items =>
      have h := hitems (by
        intro i hi
        obtain ⟨v, hv, rfl⟩ := List.mem_map.mp hi
        exact (ih v hv (level + 1)).blanksBefore (hline (level + 1))) _ (hline level)
      have hmap : (item :: items).map ((·.2) ∘ fun v =>
          (newline indent (level + 1) ++ prettyChars indent (level + 1) v, v)) = item :: items :=
        List.map_id _
      rw [hmap] at h
      rw [prettyChars, prettyItems_eq_join]
      exact h
  | @object members _ ih =>
    have hmembers := Writes.object (members.map (prettyMember indent (level + 1)))
    have hmap : (members.map (prettyMember indent (level + 1))).map (fun m => (m.key, m.value)) =
        members := by
      rw [List.map_map]
      exact List.map_id _
    rw [hmap] at hmembers
    cases members with
    | nil => exact hmembers (by simp) (by simp) [] (by simp [IsBlank])
    | cons member members =>
      rw [prettyChars, prettyMembers_eq_join]
      refine hmembers ?_ ?_ _ (hline level)
      · intro m hm
        obtain ⟨x, _, rfl⟩ := List.mem_map.mp hm
        exact (writes_quote x.1).blanksBefore (hline (level + 1))
      · intro m hm
        obtain ⟨x, hx, rfl⟩ := List.mem_map.mp hm
        exact (ih x hx (level + 1)).blankBefore rfl

/-- A value is read back from its indented text, blanks after it left aside. -/
theorem parse?_pretty {v : Json} (h : Literal v) {indent blank : String}
    (hindent : IsBlank indent.toList) (hblank : IsBlank blank.toList) :
    parse? (v.pretty indent ++ blank) = some v := by
  apply parse?_of_writes
  rw [String.toList_append, pretty, String.toList_ofList]
  exact (h.writes_pretty hindent 0).blanksAfter hblank

/-! ### Compact text -/

/-- A member of an object as it is written without any blank. -/
def compactMember (m : Option String × Json) : WrittenMember where
  keyText := quote m.1
  key := m.1
  valueText := compactChars m.2
  value := m.2

theorem compactItems_eq_join (items : List Json) :
    compactItems items = Text.join [','] (items.map compactChars) := by
  induction items with
  | nil => rfl
  | cons item rest ih =>
    cases rest with
    | nil => rfl
    | cons next rest =>
      rw [compactItems, ih]
      simp [Text.join]

theorem compactMembers_eq_join (members : List (Option String × Json)) :
    compactMembers members =
      Text.join [','] ((members.map compactMember).map WrittenMember.chars) := by
  induction members with
  | nil => rfl
  | cons member rest ih =>
    cases rest with
    | nil => rfl
    | cons next rest =>
      rw [compactMembers, ih]
      simp [Text.join, WrittenMember.chars, compactMember]

theorem Literal.writes_compact {v : Json} (h : Literal v) : Writes (compactChars v) v := by
  induction h with
  | null => exact .null
  | bool b => exact writes_bool b
  | integer i => exact writes_integer i
  | string s => exact writes_quote s
  | @array items _ ih =>
    have h := Writes.array (items.map fun v => (compactChars v, v)) (by
      intro i hi
      obtain ⟨v, hv, rfl⟩ := List.mem_map.mp hi
      exact ih v hv) [] (by simp [IsBlank])
    have hmap : items.map ((·.2) ∘ fun v => (compactChars v, v)) = items := List.map_id _
    rw [List.map_map, List.map_map, List.append_nil, hmap] at h
    rw [compactChars, compactItems_eq_join]
    exact h
  | @object members _ ih =>
    have h := Writes.object (members.map compactMember) (by
      intro m hm
      obtain ⟨x, _, rfl⟩ := List.mem_map.mp hm
      exact writes_quote x.1) (by
      intro m hm
      obtain ⟨x, hx, rfl⟩ := List.mem_map.mp hm
      exact ih x hx) [] (by simp [IsBlank])
    have hmap : (members.map compactMember).map (fun m => (m.key, m.value)) = members := by
      rw [List.map_map]
      exact List.map_id _
    rw [List.append_nil, hmap] at h
    rw [compactChars, compactMembers_eq_join]
    exact h

/-- A value is read back from its compact text. -/
theorem parse?_compact {v : Json} (h : Literal v) : parse? v.compact = some v := by
  apply parse?_of_writes
  rw [compact, String.toList_ofList]
  exact h.writes_compact

end ClassCensus.Json
