import ClassCensus.Proofs.Disk.Ground

/-!
# What stands in the way of directories

Names below a ground can be made directories up to the first one that is too long or belongs to a
file. `obstacle` is the fault at that name, and `passable` are the names before it. The obstacle
depends only on where files lie (`obstacle_congr`), so that it stays the same when directories are
made.
-/

namespace ClassCensus.Disk

/-- Whether something lies at a location that is no directory. -/
def blocks (d : Disk) (l : Location) : Bool :=
  match d.entryAt l with
  | none => false
  | some e => e.kind ≠ .directory

/-- The fault at the first name below a location that is too long or belongs to a file. -/
def obstacle (d : Disk) : Location → List Octets → Option DiskFault
  | _, [] => none
  | here, name :: rest =>
    if nameLimit < name.length then some .nameTooLong
    else if d.blocks (here ++ [name]) then some (if rest = [] then .exists else .notDirectory)
    else d.obstacle (here ++ [name]) rest

/-- The names below a location before the first one that is too long or belongs to a file. -/
def passable (d : Disk) : Location → List Octets → List Octets
  | _, [] => []
  | here, name :: rest =>
    if nameLimit < name.length ∨ d.blocks (here ++ [name]) then []
    else name :: d.passable (here ++ [name]) rest

section Blocks

variable {d d' : Disk} {l : Location}

theorem blocks_eq_false :
    d.blocks l = false ↔ d.entryAt l = none ∨ d.entryAt l = some .directory := by
  unfold blocks
  cases h : d.entryAt l with
  | none => simp
  | some e => cases e <;> simp [Entry.kind]

theorem blocks_eq_true :
    d.blocks l = true ↔ ∃ e, d.entryAt l = some e ∧ e ≠ .directory := by
  unfold blocks
  cases h : d.entryAt l with
  | none => simp
  | some e => cases e <;> simp [Entry.kind]

theorem blocks_congr (h : d'.entryAt l = d.entryAt l) : d'.blocks l = d.blocks l := by
  simp only [blocks, h]

theorem AddsDirs.blocks_eq {within : Location → Prop} (h : AddsDirs within d d') (l : Location) :
    d'.blocks l = d.blocks l := by
  rcases h.entry l with h0 | ⟨h0, h1, -⟩
  · exact blocks_congr h0
  · rw [blocks_eq_false.mpr (.inl h0), blocks_eq_false.mpr (.inr h1)]

end Blocks

section Names

variable {d d' : Disk} {here : Location} {names : List Octets}

theorem obstacle_congr
    (h : ∀ part, part ≠ [] → part <+: names → d'.blocks (here ++ part) = d.blocks (here ++ part)) :
    d'.obstacle here names = d.obstacle here names ∧
      d'.passable here names = d.passable here names := by
  induction names generalizing here with
  | nil => exact ⟨rfl, rfl⟩
  | cons name rest ih =>
    have hfirst := h [name] (by simp) (by simp)
    have hbelow : ∀ part, part ≠ [] → part <+: rest →
        d'.blocks (here ++ [name] ++ part) = d.blocks (here ++ [name] ++ part) := by
      intro part _ hpre
      rw [List.append_assoc]
      exact h ([name] ++ part) (by simp) ((List.prefix_append_right_inj [name]).mpr hpre)
    simp only [obstacle, passable, hfirst, (ih hbelow).1, (ih hbelow).2, and_self]

theorem obstacle_eq_none (hs : ∀ n ∈ names, ¬nameLimit < n.length)
    (hb : ∀ part, part ≠ [] → part <+: names → d.blocks (here ++ part) = false) :
    d.obstacle here names = none := by
  induction names generalizing here with
  | nil => rfl
  | cons name rest ih =>
    have hfirst : d.blocks (here ++ [name]) = false := hb [name] (by simp) (by simp)
    rw [obstacle, if_neg (hs name (List.mem_cons_self ..)), hfirst, if_neg (by simp)]
    refine ih (fun n hn => hs n (List.mem_cons_of_mem _ hn)) ?_
    intro part _ hprefix
    rw [List.append_assoc]
    exact hb ([name] ++ part) (by simp) ((List.prefix_append_right_inj [name]).mpr hprefix)

theorem passable_isPrefix (d : Disk) (here : Location) (names : List Octets) :
    d.passable here names <+: names := by
  induction names generalizing here with
  | nil => exact List.prefix_rfl
  | cons name rest ih =>
    rw [passable]
    split
    · exact List.nil_prefix
    · exact (List.prefix_append_right_inj [name]).mpr (ih _)

theorem isPrefix_passable {part : List Octets} (hp : part <+: names)
    (hs : ∀ x ∈ part, ¬nameLimit < x.length)
    (hb : ∀ stem, stem ≠ [] → stem <+: part → d.blocks (here ++ stem) = false) :
    part <+: d.passable here names := by
  induction names generalizing here part with
  | nil =>
    rw [List.prefix_nil.mp hp]
    exact List.nil_prefix
  | cons name rest ih =>
    cases part with
    | nil => exact List.nil_prefix
    | cons x part =>
      obtain ⟨rfl, htail⟩ := List.cons_prefix_cons.mp hp
      have hfirst : ¬nameLimit < x.length := hs x (List.mem_cons_self ..)
      have hfree : d.blocks (here ++ [x]) = false := hb [x] (by simp) (by simp)
      have hbelow : ∀ stem, stem ≠ [] → stem <+: part →
          d.blocks (here ++ [x] ++ stem) = false := by
        intro stem _ hpre
        rw [List.append_assoc]
        exact hb ([x] ++ stem) (by simp) ((List.prefix_append_right_inj [x]).mpr hpre)
      have hrest := ih htail (fun y hy => hs y (List.mem_cons_of_mem _ hy)) hbelow
      rw [passable, if_neg (by simp [hfirst, hfree])]
      exact List.cons_prefix_cons.mpr ⟨rfl, hrest⟩

theorem blocks_of_passable {part : List Octets} (hne : part ≠ [])
    (hp : part <+: d.passable here names) : d.blocks (here ++ part) = false := by
  induction names generalizing here part with
  | nil => exact absurd (List.prefix_nil.mp hp) hne
  | cons name rest ih =>
    rw [passable] at hp
    split at hp
    · exact absurd (List.prefix_nil.mp hp) hne
    · rename_i hstop
      cases part with
      | nil => exact absurd rfl hne
      | cons x part =>
        obtain ⟨rfl, htail⟩ := List.cons_prefix_cons.mp hp
        by_cases hpart : part = []
        · rw [hpart]
          exact Bool.eq_false_iff.mpr fun h0 => hstop (.inr h0)
        · have hrest := ih hpart htail
          rwa [List.append_assoc] at hrest

/-- A name that is too long stands in the way of more names, too. -/
theorem obstacle_append_long (h : d.obstacle here names = some .nameTooLong)
    (rest : List Octets) : d.obstacle here (names ++ rest) = some .nameTooLong := by
  induction names generalizing here with
  | nil => cases h
  | cons name names ih =>
    rw [obstacle] at h
    rw [List.cons_append, obstacle]
    split at h
    · rename_i hl
      rw [if_pos hl]
    · rename_i hl
      rw [if_neg hl]
      split at h
      · split at h <;> cases h
      · rename_i hb
        rw [if_neg hb]
        exact ih h

/-- Below a place without a directory only a long name stands in the way. -/
theorem obstacle_missing (ht : d.IsTree) (h : d.entryAt here ≠ some .directory) {f : DiskFault}
    (hf : d.obstacle here names = some f) : f = .nameTooLong := by
  induction names generalizing here with
  | nil => cases hf
  | cons name rest ih =>
    have hnone : d.entryAt (here ++ [name]) = none := ht.none_below h (by simp)
    rw [obstacle, blocks_eq_false.mpr (.inl hnone)] at hf
    split at hf
    · exact (Option.some.inj hf).symm
    · exact ih (by simp [hnone]) hf

end Names

/-! ### Obstacles on a descent -/

section Descents

variable {d : Disk} {links : Nat} {here : Location} {names : List Octets}

theorem noLinks_below {name : Octets}
    (hk : ∀ rest, rest ≠ [] → ∀ t, d.entryAt (here ++ rest) ≠ some (.link t)) :
    ∀ rest, rest ≠ [] → ∀ t, d.entryAt (here ++ [name] ++ rest) ≠ some (.link t) := by
  intro rest _ t
  rw [List.append_assoc]
  exact hk ([name] ++ rest) (by simp) t

theorem no_obstacle_of_descend (hn : ∀ n ∈ names, Path.IsName n)
    (hk : ∀ rest, rest ≠ [] → ∀ t, d.entryAt (here ++ rest) ≠ some (.link t)) {r : Nat × Location}
    (h : d.descend links here names = .ok r) : d.obstacle here names = none := by
  induction names generalizing here with
  | nil => rfl
  | cons name rest ih =>
    have hname := hn name (List.mem_cons_self ..)
    have hen : IsEntryName name := ⟨hname.ne_current, hname.ne_parent⟩
    by_cases hl : nameLimit < name.length
    · rw [descend_long hen hl] at h
      cases h
    · cases he : d.entryAt (here ++ [name]) with
      | none =>
        rw [descend_missing hen hl he] at h
        cases h
      | some e =>
        cases e with
        | directory =>
          rw [descend_directory hen hl he] at h
          rw [obstacle, if_neg hl, blocks_eq_false.mpr (.inr he)]
          exact ih (fun n hx => hn n (List.mem_cons_of_mem _ hx)) (noLinks_below hk) h
        | file b =>
          rw [descend_file hen hl he] at h
          cases h
        | link t => exact absurd he (hk [name] (by simp) t)

/-- Where a descent fails for another reason than a missing name it comes to an obstacle. What is
passable are directories, and a walk ends at the obstacle, too. -/
theorem obstacle_of_descend_error (hn : ∀ n ∈ names, Path.IsName n)
    (hk : ∀ rest, rest ≠ [] → ∀ t, d.entryAt (here ++ rest) ≠ some (.link t)) (slash : Bool)
    {f : DiskFault} (h : d.descend links here names = .error f) (hf : f ≠ .notFound) :
    ∃ g, d.obstacle here names = some g ∧
      (∀ part, part ≠ [] → part <+: d.passable here names →
        d.entryAt (here ++ part) = some .directory) ∧
      (d.walk false links slash here names = .error g ∨
        g = .exists ∧ ∃ spot e, d.walk false links slash here names = .ok spot ∧
          spot.entry = some e) := by
  induction names generalizing here with
  | nil =>
    rw [descend_nil] at h
    cases h
  | cons name rest ih =>
    have hname := hn name (List.mem_cons_self ..)
    have hen : IsEntryName name := ⟨hname.ne_current, hname.ne_parent⟩
    have hempty : (nameLimit < name.length ∨ d.blocks (here ++ [name]) = true) →
        ∀ part, part ≠ [] → part <+: d.passable here (name :: rest) →
          d.entryAt (here ++ part) = some .directory := by
      intro hstop part hne hpre
      rw [passable, if_pos hstop] at hpre
      exact absurd (List.prefix_nil.mp hpre) hne
    by_cases hl : nameLimit < name.length
    · exact ⟨.nameTooLong, by rw [obstacle, if_pos hl], hempty (.inl hl), .inl (walk_long hen hl)⟩
    · cases he : d.entryAt (here ++ [name]) with
      | none =>
        rw [descend_missing hen hl he] at h
        cases h
        exact absurd rfl hf
      | some e =>
        cases e with
        | directory =>
          have hfree : d.blocks (here ++ [name]) = false := blocks_eq_false.mpr (.inr he)
          rw [descend_directory hen hl he] at h
          obtain ⟨g, hg, hdirs, hwalk⟩ :=
            ih (fun n hx => hn n (List.mem_cons_of_mem _ hx)) (noLinks_below hk) h
          refine ⟨g, ?_, ?_, ?_⟩
          · rw [obstacle, if_neg hl, hfree]
            exact hg
          · intro part hne hpre
            rw [passable, if_neg (by simp [hl, hfree])] at hpre
            cases part with
            | nil => exact absurd rfl hne
            | cons x part =>
              obtain ⟨rfl, hpre⟩ := List.cons_prefix_cons.mp hpre
              by_cases hp : part = []
              · rw [hp, he]
              · have hdir := hdirs part hp hpre
                rwa [List.append_assoc] at hdir
          · rw [walk_directory hen hl he]
            exact hwalk
        | file b =>
          have hstop : d.blocks (here ++ [name]) = true :=
            blocks_eq_true.mpr ⟨_, he, by simp⟩
          refine ⟨_, by rw [obstacle, if_neg hl, if_pos hstop], hempty (.inr hstop), ?_⟩
          rw [walk_file hen hl he]
          by_cases hr : rest = []
          · rw [if_pos hr, if_pos hr]
            exact .inr ⟨rfl, _, _, rfl, rfl⟩
          · rw [if_neg hr, if_neg hr]
            exact .inl rfl
        | link t => exact absurd he (hk [name] (by simp) t)

/-- In a tree a file on the way ends a descent before any missing name. -/
theorem descend_of_blocked (ht : d.IsTree) (hn : ∀ n ∈ names, Path.IsName n)
    (hk : ∀ rest, rest ≠ [] → ∀ t, d.entryAt (here ++ rest) ≠ some (.link t)) {f : DiskFault}
    (h : d.obstacle here names = some f) (hf : f ≠ .nameTooLong) :
    d.descend links here names = .error .notDirectory := by
  induction names generalizing here with
  | nil => cases h
  | cons name rest ih =>
    have hname := hn name (List.mem_cons_self ..)
    have hen : IsEntryName name := ⟨hname.ne_current, hname.ne_parent⟩
    rw [obstacle] at h
    split at h
    · exact absurd (Option.some.inj h).symm hf
    · rename_i hl
      split at h
      · rename_i hb
        obtain ⟨e, he, hne⟩ := blocks_eq_true.mp hb
        cases e with
        | directory => exact absurd rfl hne
        | file b => exact descend_file hen hl he
        | link t => exact absurd he (hk [name] (by simp) t)
      · rename_i hb
        rcases blocks_eq_false.mp (Bool.eq_false_iff.mpr hb) with he | he
        · exact absurd (obstacle_missing ht (by simp [he]) h) hf
        · rw [descend_directory hen hl he]
          exact ih (fun n hx => hn n (List.mem_cons_of_mem _ hx)) (noLinks_below hk) h

end Descents

end ClassCensus.Disk
