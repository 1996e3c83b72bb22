import ClassCensus.Json.Decode
import ClassCensus.Proofs.Json.RoundTrip

/-!
# Records in JSON

A record can be written in many ways: its members stand in any order and among members with other
keys, and a field may be left out where the reader fills it in. `PresentsRecord` says which objects
write a record, and whichever of them is read, every field is found in a form that it allows
(`PresentsRecord.fields?`).
-/

namespace ClassCensus.Json

/-! ### Literals -/

theorem literal_list {α : Type} {f : α → Json} (h : ∀ a, Literal (f a)) (xs : List α) :
    Literal (.list f xs) := by
  apply Literal.array
  intro v hv
  obtain ⟨x, _, rfl⟩ := List.mem_map.mp hv
  exact h x

theorem literal_texts (xs : List String) : Literal (.texts xs) := literal_list .text xs

theorem literal_optional {α : Type} {f : α → Json} (h : ∀ a, Literal (f a)) (x : Option α) :
    Literal (.optional f x) := by
  cases x with
  | none => exact .null
  | some a => exact h a

theorem literal_record {members : List (String × Json)} (h : ∀ m ∈ members, Literal m.2) :
    Literal (.record members) := by
  apply Literal.object
  intro m hm
  obtain ⟨x, hx, rfl⟩ := List.mem_map.mp hm
  exact h x hx

/-! ### Values -/

theorem mapM_map_eq_some {α β γ : Type} {f : α → β} {g : β → Option γ} {h : α → γ}
    (hfg : ∀ a, g (f a) = some (h a)) (xs : List α) : (xs.map f).mapM g = some (xs.map h) := by
  induction xs with
  | nil => rfl
  | cons x rest ih =>
    rw [List.map_cons, List.mapM_cons, hfg, ih]
    rfl

theorem list?_list {α : Type} {f : α → Json} {decode : Json → Option α}
    (h : ∀ a, decode (f a) = some a) (xs : List α) : list? decode (list f xs) = some xs := by
  have hmap := mapM_map_eq_some (h := id) h xs
  rwa [List.map_id] at hmap

theorem list?_texts (xs : List String) : list? text? (texts xs) = some xs :=
  list?_list (f := text) (fun _ => rfl) xs

theorem list?_array {α : Type} {allows : α → Json → Prop} {decode : Json → Option α}
    (h : ∀ a v, allows a v → decode v = some a) {xs : List α} {items : List Json}
    (hitems : List.Forall₂ allows xs items) : list? decode (.array items) = some xs := by
  show items.mapM decode = some xs
  induction hitems with
  | nil => rfl
  | cons hitem _ ih =>
    rw [List.mapM_cons, h _ _ hitem, ih]
    rfl

theorem natBelow?_nat {bound n : Nat} (h : n < bound) : natBelow? bound (nat n) = some n := by
  have hbounds : (0 : Int) ≤ n ∧ (n : Int) < bound := by omega
  show (if (0 : Int) ≤ n ∧ (n : Int) < bound then some (n : Int).toNat else none) = some n
  rw [if_pos hbounds, Int.toNat_natCast]

theorem uint32?_nat (n : UInt32) : uint32? (nat n.toNat) = some n := by
  unfold uint32?
  rw [natBelow?_nat n.toNat_lt, Option.map_some, UInt32.ofNat_toNat]

theorem int64?_integer (n : Int64) : int64? (.integer n.toInt) = some n := by
  have hbounds : -0x8000000000000000 ≤ n.toInt ∧ n.toInt < 0x8000000000000000 :=
    ⟨n.le_toInt, n.toInt_lt⟩
  show (if -0x8000000000000000 ≤ n.toInt ∧ n.toInt < 0x8000000000000000 then
    some (Int64.ofInt n.toInt) else none) = some n
  rw [if_pos hbounds, Int64.ofInt_toInt]

/-! ### Members -/

theorem member?_perm {key : String} {members others : List (Option String × Json)}
    (h : members.Perm others) : member? key members = member? key others := by
  have hfilter := h.filter (fun m => decide (m.1 = some key))
  unfold member?
  generalize members.filter (fun m => decide (m.1 = some key)) = own at hfilter ⊢
  generalize others.filter (fun m => decide (m.1 = some key)) = others at hfilter ⊢
  match own with
  | [] => rw [List.nil_perm.mp hfilter]
  | [m] => rw [List.singleton_perm.mp hfilter]
  | _ :: _ :: _ =>
    have hlength := hfilter.length_eq
    match others with
    | [] => simp at hlength
    | [_] => simp at hlength
    | _ :: _ :: _ => rfl

theorem member?_append {key : String} {others : List (Option String × Json)}
    (h : ∀ m ∈ others, m.1 ≠ some key) (members : List (Option String × Json)) :
    member? key (members ++ others) = member? key members := by
  have hothers : others.filter (fun m => decide (m.1 = some key)) = [] := by
    apply List.filter_eq_nil_iff.mpr
    intro m hm
    simpa using h m hm
  unfold member?
  rw [List.filter_append, hothers, List.append_nil]

theorem member?_cons_of_ne {key key' : String} (h : key ≠ key') (v : Json)
    (members : List (Option String × Json)) :
    member? key ((some key', v) :: members) = member? key members := by
  unfold member?
  rw [List.filter_cons_of_neg]
  simpa using h.symm

theorem member?_of_forall_ne {key : String} {members : List (Option String × Json)}
    (h : ∀ m ∈ members, m.1 ≠ some key) : member? key members = some none :=
  member?_append h []

theorem member?_cons_self {key : String} {members : List (Option String × Json)}
    (h : ∀ m ∈ members, m.1 ≠ some key) (v : Json) :
    member? key ((some key, v) :: members) = some (some v) := by
  have happend := member?_append h [(some key, v)]
  rw [List.singleton_append] at happend
  rw [happend]
  simp [member?]

/-! ### Fields -/

/-- How a field of a record may be written. -/
structure FieldForm where
  key : String
  /-- Whether the field may be left out. -/
  optional : Prop
  /-- The values that write the field. -/
  allows : Json → Prop

namespace FieldForm

/-- A field that has to be there. -/
def present (key : String) (allows : Json → Prop) : FieldForm := ⟨key, False, allows⟩

/-- A field that is left out or `null` when it has no value. -/
def nullable {α : Type} (key : String) (x : Option α) (allows : α → Json → Prop) : FieldForm :=
  ⟨key, x = none, fun v => match x with
    | some a => allows a v
    | none => v = .null⟩

/-- An array that may be left out when it is empty. -/
def list {α : Type} (key : String) (xs : List α) (allows : α → Json → Prop) : FieldForm :=
  ⟨key, xs = [], fun v => ∃ items, v = .array items ∧ List.Forall₂ allows xs items⟩

/-- A string that has to be there. -/
def text (key : String) (s : String) : FieldForm := present key (· = .text s)

/-- A string that is left out or `null` when it is missing. -/
def optionalText (key : String) (s : Option String) : FieldForm :=
  nullable key s fun x v => v = .text x

/-- An array of strings that may be left out when it is empty. -/
def texts (key : String) (xs : List String) : FieldForm := list key xs fun s v => v = .text s

/-- What is found of a field. -/
def Fits (f : FieldForm) : Option Json → Prop
  | some v => f.allows v
  | none => f.optional

section Found

variable {α : Type} {key : String} {found : Option Json} {decode : Json → Option α}

theorem Fits.required {allows : Json → Prop} {a : α} (hfits : (present key allows).Fits found)
    (h : ∀ v, allows v → decode v = some a) : required decode found = some a := by
  cases found with
  | none => exact hfits.elim
  | some v => exact h v hfits

theorem Fits.withDefault_nullable {x : Option α} {allows : α → Json → Prop}
    (hfits : (nullable key x allows).Fits found) (hnull : decode .null = none)
    (h : ∀ a v, allows a v → decode v = some a) :
    withDefault none (Json.nullable decode) found = some x := by
  cases found with
  | none =>
    have hx : x = none := hfits
    rw [hx]
    rfl
  | some v =>
    cases x with
    | none =>
      have hv : v = .null := hfits
      rw [hv]
      rfl
    | some a =>
      have hdecode := h a v hfits
      show Json.nullable decode v = some (some a)
      unfold Json.nullable
      split
      · -- `null` has no value
        rw [hnull] at hdecode
        exact nomatch hdecode
      · rw [hdecode]
        rfl

theorem Fits.withDefault_list? {xs : List α} {allows : α → Json → Prop}
    (hfits : (list key xs allows).Fits found) (h : ∀ a v, allows a v → decode v = some a) :
    withDefault [] (list? decode) found = some xs := by
  cases found with
  | none =>
    have hxs : xs = [] := hfits
    rw [hxs]
    rfl
  | some v =>
    obtain ⟨items, rfl, hitems⟩ := hfits
    exact list?_array h hitems

end Found

section Text

variable {key : String} {found : Option Json}

theorem text?_of_eq {s : String} (v : Json) (h : v = .text s) : text? v = some s := by
  rw [h]
  rfl

theorem Fits.required_text {s : String} (hfits : (text key s).Fits found) :
    Json.required text? found = some s :=
  hfits.required text?_of_eq

theorem Fits.withDefault_optionalText {s : Option String}
    (hfits : (optionalText key s).Fits found) :
    withDefault none (Json.nullable text?) found = some s :=
  hfits.withDefault_nullable rfl fun _ => text?_of_eq

theorem Fits.withDefault_texts {xs : List String} (hfits : (texts key xs).Fits found) :
    withDefault [] (list? text?) found = some xs :=
  hfits.withDefault_list? fun _ => text?_of_eq

end Text

/-! ### Fields as they are written with all of them -/

theorem nullable_allows {α : Type} {key : String} {allows : α → Json → Prop} {f : α → Json}
    (h : ∀ a, allows a (f a)) (x : Option α) :
    (nullable key x allows).allows (.optional f x) := by
  cases x with
  | none => rfl
  | some a => exact h a

theorem optionalText_allows {key : String} (s : Option String) :
    (optionalText key s).allows (.optional .text s) := by
  apply nullable_allows
  exact fun _ => rfl

theorem list_allows {α : Type} {key : String} {allows : α → Json → Prop} {f : α → Json}
    (h : ∀ a, allows a (f a)) (xs : List α) : (list key xs allows).allows (.list f xs) := by
  refine ⟨xs.map f, rfl, ?_⟩
  induction xs with
  | nil => exact .nil
  | cons x rest ih => exact .cons (h x) ih

theorem texts_allows {key : String} (xs : List String) : (texts key xs).allows (.texts xs) := by
  apply list_allows
  exact fun _ => rfl

end FieldForm

/-! ### Records -/

/-- Members that write the fields of a record, each of them once or not at all. -/
inductive WritesFields : List FieldForm → List (String × Json) → Prop where
  | nil : WritesFields [] []
  | keep {f : FieldForm} {fields : List FieldForm} {members : List (String × Json)} {v : Json}
      (value : f.allows v) (rest : WritesFields fields members) :
      WritesFields (f :: fields) ((f.key, v) :: members)
  | leaveOut {f : FieldForm} {fields : List FieldForm} {members : List (String × Json)}
      (optional : f.optional) (rest : WritesFields fields members) :
      WritesFields (f :: fields) members

/-- A value writes a record: it is an object that has members for the fields, in any order and
among any members with other keys. -/
inductive PresentsRecord (fields : List FieldForm) : Json → Prop where
  | intro (own others : List (String × Json)) {members : List (String × Json)}
      (writes : WritesFields fields own) (unknown : ∀ m ∈ others, m.1 ∉ fields.map (·.key))
      (order : members.Perm (own ++ others)) :
      PresentsRecord fields (.record members)

/-- A record is written by the members of its fields alone. -/
theorem WritesFields.presents {fields : List FieldForm} {members : List (String × Json)}
    (h : WritesFields fields members) : PresentsRecord fields (.record members) := by
  refine .intro _ [] h (fun m hm => nomatch hm) ?_
  rw [List.append_nil]

theorem WritesFields.key_mem {fields : List FieldForm} {members : List (String × Json)}
    (h : WritesFields fields members) : ∀ m ∈ members, m.1 ∈ fields.map (·.key) := by
  induction h with
  | nil => exact fun m hm => nomatch hm
  | keep _ _ ih =>
    intro m hm
    rw [List.map_cons]
    rcases List.mem_cons.mp hm with rfl | hm
    · exact List.mem_cons_self ..
    · exact List.mem_cons_of_mem _ (ih m hm)
  | leaveOut _ _ ih => exact fun m hm => List.mem_cons_of_mem _ (ih m hm)

/-- The members of a record as they stand in the object. -/
def recordMembers (members : List (String × Json)) : List (Option String × Json) :=
  members.map fun m => (some m.1, m.2)

theorem forall_recordMembers_ne {key : String} {members : List (String × Json)}
    (h : ∀ m ∈ members, m.1 ≠ key) : ∀ m ∈ recordMembers members, m.1 ≠ some key := by
  intro m hm heq
  obtain ⟨x, hx, rfl⟩ := List.mem_map.mp hm
  exact h x hx (Option.some.inj heq)

theorem forall_key_ne {key : String} {keys : List String} {members : List (String × Json)}
    (hkeys : ∀ m ∈ members, m.1 ∈ keys) (hkey : key ∉ keys) : ∀ m ∈ members, m.1 ≠ key := by
  intro m hm heq
  rw [← heq] at hkey
  exact hkey (hkeys m hm)

theorem WritesFields.mapM_member? {fields : List FieldForm} {own : List (String × Json)}
    (h : WritesFields fields own) (hnodup : (fields.map (·.key)).Nodup)
    {members : List (Option String × Json)}
    (hmembers : ∀ key ∈ fields.map (·.key),
      member? key members = member? key (recordMembers own)) :
    ∃ found, (fields.map (·.key)).mapM (member? · members) = some found ∧
      List.Forall₂ FieldForm.Fits fields found := by
  -- the members stay the same, and the keys for which they answer get fewer
  induction h with
  | nil => exact ⟨[], rfl, .nil⟩
  | @keep f fields own v value rest ih =>
    rw [List.map_cons, List.nodup_cons] at hnodup
    have hfield : member? f.key members = some (some v) := by
      rw [hmembers _ (List.mem_cons_self ..)]
      apply member?_cons_self
      exact forall_recordMembers_ne (forall_key_ne rest.key_mem hnodup.1)
    have hrest : ∀ key ∈ fields.map (·.key),
        member? key members = member? key (recordMembers own) := by
      intro key hkey
      have hne : key ≠ f.key := fun heq => hnodup.1 (heq ▸ hkey)
      rw [hmembers key (List.mem_cons_of_mem _ hkey)]
      exact member?_cons_of_ne hne v _
    obtain ⟨found, hfound, hfits⟩ := ih hnodup.2 hrest
    refine ⟨some v :: found, ?_, .cons value hfits⟩
    rw [List.map_cons, List.mapM_cons, hfield, hfound]
    rfl
  | @leaveOut f fields own optional rest ih =>
    rw [List.map_cons, List.nodup_cons] at hnodup
    have hfield : member? f.key members = some none := by
      rw [hmembers _ (List.mem_cons_self ..)]
      apply member?_of_forall_ne
      exact forall_recordMembers_ne (forall_key_ne rest.key_mem hnodup.1)
    obtain ⟨found, hfound, hfits⟩ :=
      ih hnodup.2 fun key hkey => hmembers key (List.mem_cons_of_mem _ hkey)
    refine ⟨none :: found, ?_, .cons optional hfits⟩
    rw [List.map_cons, List.mapM_cons, hfield, hfound]
    rfl

/-- Of a written record every field is found in a form that it allows. -/
theorem PresentsRecord.fields? {fields : List FieldForm} {v : Json} (h : PresentsRecord fields v)
    (names : List String) (hnames : fields.map (·.key) = names) (hnodup : names.Nodup) :
    ∃ found, v.fields? names = some found ∧ List.Forall₂ FieldForm.Fits fields found := by
  subst hnames
  obtain ⟨own, others, hwrites, hunknown, horder⟩ := h
  rename_i members
  have hkeys : (recordMembers members).all (fun m => m.1.isSome) = true := by
    rw [List.all_eq_true]
    intro m hm
    obtain ⟨x, _, rfl⟩ := List.mem_map.mp hm
    rfl
  have hmembers : ∀ key ∈ fields.map (·.key),
      member? key (recordMembers members) = member? key (recordMembers own) := by
    intro key hkey
    have horder' : (recordMembers members).Perm (recordMembers own ++ recordMembers others) := by
      have h := horder.map fun m => ((some m.1 : Option String), m.2)
      rwa [List.map_append] at h
    rw [member?_perm horder']
    apply member?_append
    exact forall_recordMembers_ne fun m hm heq => hunknown m hm (heq ▸ hkey)
  obtain ⟨found, hfound, hfits⟩ := hwrites.mapM_member? hnodup hmembers
  refine ⟨found, ?_, hfits⟩
  show (if (recordMembers members).all (fun m => m.1.isSome) then _ else none) = some found
  rw [if_pos hkeys]
  exact hfound

/-- The fields of a record that was written with all of them. -/
theorem fields?_record {members : List (String × Json)} (hnodup : (members.map (·.1)).Nodup) :
    (record members).fields? (members.map (·.1)) = some (members.map fun m => some m.2) := by
  have hkeys : (members.map fun m => FieldForm.present m.1 (· = m.2)).map (·.key) =
      members.map (·.1) := by
    rw [List.map_map]
    rfl
  have hwrites : WritesFields (members.map fun m => .present m.1 (· = m.2)) members := by
    clear hnodup hkeys
    induction members with
    | nil => exact .nil
    | cons m rest ih => exact .keep (f := .present m.1 (· = m.2)) rfl ih
  obtain ⟨found, hfound, hfits⟩ := hwrites.presents.fields? _ hkeys hnodup
  rw [hfound]
  clear hkeys hwrites hfound hnodup
  congr 1
  induction members generalizing found with
  | nil =>
    cases hfits
    rfl
  | cons m rest ih =>
    match found, hfits with
    | some v :: found, .cons hfit hrest =>
      obtain rfl : v = m.2 := hfit
      rw [List.map_cons, ← ih found hrest]

end ClassCensus.Json
