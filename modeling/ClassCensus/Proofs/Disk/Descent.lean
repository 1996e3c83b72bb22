import ClassCensus.Proofs.Disk.Entries

/-!
# Descending through directories

A path with a further name leads first to a directory and from there to the entry of that name.
`descend` is the first half of the way: it goes through all names as directories and links and
keeps count of the links that may still be gone through. Main statements: a walk is a descent
and the walk of what remains (`walk_append`), a walk that ends at a directory is a descent
(`descend_of_walk_dir`), and a later disk that keeps the entries of an earlier one keeps its
descents (`KeepsWays.descend_ok`) and, but for missing entries, their failures
(`Keeps.descend_error`).
-/

namespace ClassCensus.Disk

/-! ### Descents -/

/-- Goes through names from a directory on. At a link `follow` goes on. -/
def descendNames (d : Disk) (links : Nat)
    (follow : Location → Path → List Octets → Except DiskFault (Nat × Location)) :
    Location → List Octets → Except DiskFault (Nat × Location)
  | here, [] => .ok (links, here)
  | here, name :: rest =>
    if name = [Octet.dot] then descendNames d links follow here rest
    else if name = [Octet.dot, Octet.dot] then descendNames d links follow here.dropLast rest
    else if nameLimit < name.length then .error .nameTooLong
    else
      match d.entryAt (here ++ [name]) with
      | none => .error .notFound
      | some .directory => descendNames d links follow (here ++ [name]) rest
      | some (.file _) => .error .notDirectory
      | some (.link target) => follow here target rest

/-- Goes through names from a directory on: the number of links that may still be gone through,
and the location at the end. -/
def descend (d : Disk) : Nat → Location → List Octets → Except DiskFault (Nat × Location)
  | 0, here, names => descendNames d 0 (fun _ _ _ => .error .tooManyLinks) here names
  | links + 1, here, names =>
    descendNames d (links + 1)
      (fun here target rest =>
        if target.octets = [] then .error .notFound
        else descend d links (linkStart here target) (namesOf target.octets ++ rest))
      here names

/-- A path leads to a location through directories and links, and so many links may still be gone
through. -/
def Leads (d : Disk) (path : Path) (links : Nat) (location : Location) : Prop :=
  d.descend linkLimit (d.startOf path) (namesOf path.octets) = .ok (links, location)

/-! ### Equations -/

section Equations

variable (d : Disk) (fl slash : Bool) (links : Nat) (here : Location)

theorem descend_nil : d.descend links here [] = .ok (links, here) := by
  cases links <;> rfl

theorem descend_cons (name : Octets) (rest : List Octets) :
    d.descend links here (name :: rest) =
      if name = [Octet.dot] then d.descend links here rest
      else if name = [Octet.dot, Octet.dot] then d.descend links here.dropLast rest
      else if nameLimit < name.length then .error .nameTooLong
      else
        match d.entryAt (here ++ [name]) with
        | none => .error .notFound
        | some .directory => d.descend links (here ++ [name]) rest
        | some (.file _) => .error .notDirectory
        | some (.link target) =>
          match links with
          | 0 => .error .tooManyLinks
          | links + 1 =>
            if target.octets = [] then .error .notFound
            else d.descend links (linkStart here target) (namesOf target.octets ++ rest) := by
  cases links <;> rfl

theorem walk_nil :
    d.walk fl links slash here [] =
      if d.hasDir here then .ok ⟨here, some .directory, slash⟩ else .error .notFound := by
  cases links <;> rfl

theorem walk_cons (name : Octets) (rest : List Octets) :
    d.walk fl links slash here (name :: rest) =
      if name = [Octet.dot] then d.walk fl links slash here rest
      else if name = [Octet.dot, Octet.dot] then d.walk fl links slash here.dropLast rest
      else if nameLimit < name.length then .error .nameTooLong
      else
        match d.entryAt (here ++ [name]) with
        | none =>
          if rest = [] ∧ d.hasDir here then .ok ⟨here ++ [name], none, slash⟩
          else .error .notFound
        | some .directory => d.walk fl links slash (here ++ [name]) rest
        | some (.file bytes) =>
          if rest = [] then .ok ⟨here ++ [name], some (.file bytes), slash⟩
          else .error .notDirectory
        | some (.link target) =>
          if rest = [] ∧ !fl ∧ !slash then .ok ⟨here ++ [name], some (.link target), slash⟩
          else
            match links with
            | 0 => .error .tooManyLinks
            | links + 1 =>
              if target.octets = [] then .error .notFound
              else
                d.walk fl links
                  (if rest = [] then slash || target.octets.getLast? = some Octet.slash else slash)
                  (linkStart here target) (namesOf target.octets ++ rest) := by
  cases links <;> rfl

end Equations

/-- A name that is looked up in a directory. -/
structure IsEntryName (name : Octets) : Prop where
  ne_current : name ≠ [Octet.dot]
  ne_parent : name ≠ [Octet.dot, Octet.dot]

/-- Induction along a way, by what is found for the next name: by the names that remain, and at a
link by the number of links. -/
theorem way_induction (d : Disk) {P : Nat → Location → List Octets → Prop}
    (nil : ∀ links here, P links here [])
    (current : ∀ links here rest, P links here rest → P links here ([Octet.dot] :: rest))
    (parent : ∀ links here rest, P links here.dropLast rest →
      P links here ([Octet.dot, Octet.dot] :: rest))
    (long : ∀ links here name rest, IsEntryName name → nameLimit < name.length →
      P links here (name :: rest))
    (missing : ∀ links here name rest, IsEntryName name → ¬nameLimit < name.length →
      d.entryAt (here ++ [name]) = none → P links here (name :: rest))
    (directory : ∀ links here name rest, IsEntryName name → ¬nameLimit < name.length →
      d.entryAt (here ++ [name]) = some .directory → P links (here ++ [name]) rest →
      P links here (name :: rest))
    (file : ∀ links here name rest bytes, IsEntryName name → ¬nameLimit < name.length →
      d.entryAt (here ++ [name]) = some (.file bytes) → P links here (name :: rest))
    (noLink : ∀ here name rest target, IsEntryName name → ¬nameLimit < name.length →
      d.entryAt (here ++ [name]) = some (.link target) → P 0 here (name :: rest))
    (link : ∀ links here name rest target, IsEntryName name → ¬nameLimit < name.length →
      d.entryAt (here ++ [name]) = some (.link target) →
      P links (linkStart here target) (namesOf target.octets ++ rest) →
      P (links + 1) here (name :: rest)) :
    ∀ links here names, P links here names := by
  intro links
  induction links using Nat.strongRecOn with
  | ind links ihl =>
    intro here names
    induction names generalizing here with
    | nil => exact nil links here
    | cons name rest ih =>
      by_cases h1 : name = [Octet.dot]
      · subst h1
        exact current links here rest (ih here)
      by_cases h2 : name = [Octet.dot, Octet.dot]
      · subst h2
        exact parent links here rest (ih here.dropLast)
      by_cases h3 : nameLimit < name.length
      · exact long links here name rest ⟨h1, h2⟩ h3
      cases he : d.entryAt (here ++ [name]) with
      | none => exact missing links here name rest ⟨h1, h2⟩ h3 he
      | some e =>
        cases e with
        | directory => exact directory links here name rest ⟨h1, h2⟩ h3 he (ih (here ++ [name]))
        | file bytes => exact file links here name rest bytes ⟨h1, h2⟩ h3 he
        | link target =>
          cases links with
          | zero => exact noLink here name rest target ⟨h1, h2⟩ h3 he
          | succ links =>
            exact link links here name rest target ⟨h1, h2⟩ h3 he
              (ihl links (Nat.lt_succ_self links) _ _)

/-! ### One step of a way -/

section Steps

variable {d : Disk} {fl slash : Bool} {links : Nat} {here : Location} {name : Octets}
  {rest : List Octets}

@[simp]
theorem descend_current :
    d.descend links here ([Octet.dot] :: rest) = d.descend links here rest := by
  rw [descend_cons, if_pos rfl]

@[simp]
theorem walk_current :
    d.walk fl links slash here ([Octet.dot] :: rest) = d.walk fl links slash here rest := by
  rw [walk_cons, if_pos rfl]

@[simp]
theorem descend_parent :
    d.descend links here ([Octet.dot, Octet.dot] :: rest) = d.descend links here.dropLast rest := by
  rw [descend_cons, if_neg (by decide), if_pos rfl]

@[simp]
theorem walk_parent :
    d.walk fl links slash here ([Octet.dot, Octet.dot] :: rest) =
      d.walk fl links slash here.dropLast rest := by
  rw [walk_cons, if_neg (by decide), if_pos rfl]

variable (hn : IsEntryName name)

include hn

theorem descend_long (hl : nameLimit < name.length) :
    d.descend links here (name :: rest) = .error .nameTooLong := by
  rw [descend_cons, if_neg hn.ne_current, if_neg hn.ne_parent, if_pos hl]

theorem walk_long (hl : nameLimit < name.length) :
    d.walk fl links slash here (name :: rest) = .error .nameTooLong := by
  rw [walk_cons, if_neg hn.ne_current, if_neg hn.ne_parent, if_pos hl]

variable (hl : ¬nameLimit < name.length)

include hl

theorem descend_missing (he : d.entryAt (here ++ [name]) = none) :
    d.descend links here (name :: rest) = .error .notFound := by
  rw [descend_cons, if_neg hn.ne_current, if_neg hn.ne_parent, if_neg hl, he]

theorem walk_missing (he : d.entryAt (here ++ [name]) = none) :
    d.walk fl links slash here (name :: rest) =
      if rest = [] ∧ d.hasDir here then .ok ⟨here ++ [name], none, slash⟩
      else .error .notFound := by
  rw [walk_cons, if_neg hn.ne_current, if_neg hn.ne_parent, if_neg hl, he]

theorem descend_directory (he : d.entryAt (here ++ [name]) = some .directory) :
    d.descend links here (name :: rest) = d.descend links (here ++ [name]) rest := by
  rw [descend_cons, if_neg hn.ne_current, if_neg hn.ne_parent, if_neg hl, he]

theorem walk_directory (he : d.entryAt (here ++ [name]) = some .directory) :
    d.walk fl links slash here (name :: rest) = d.walk fl links slash (here ++ [name]) rest := by
  rw [walk_cons, if_neg hn.ne_current, if_neg hn.ne_parent, if_neg hl, he]

theorem descend_file {b : ByteArray} (he : d.entryAt (here ++ [name]) = some (.file b)) :
    d.descend links here (name :: rest) = .error .notDirectory := by
  rw [descend_cons, if_neg hn.ne_current, if_neg hn.ne_parent, if_neg hl, he]

theorem walk_file {b : ByteArray} (he : d.entryAt (here ++ [name]) = some (.file b)) :
    d.walk fl links slash here (name :: rest) =
      if rest = [] then .ok ⟨here ++ [name], some (.file b), slash⟩
      else .error .notDirectory := by
  rw [walk_cons, if_neg hn.ne_current, if_neg hn.ne_parent, if_neg hl, he]

theorem descend_noLink {t : Path} (he : d.entryAt (here ++ [name]) = some (.link t)) :
    d.descend 0 here (name :: rest) = .error .tooManyLinks := by
  rw [descend_cons, if_neg hn.ne_current, if_neg hn.ne_parent, if_neg hl, he]

theorem walk_noLink {t : Path} (he : d.entryAt (here ++ [name]) = some (.link t)) :
    d.walk fl 0 slash here (name :: rest) =
      if rest = [] ∧ !fl ∧ !slash then .ok ⟨here ++ [name], some (.link t), slash⟩
      else .error .tooManyLinks := by
  rw [walk_cons, if_neg hn.ne_current, if_neg hn.ne_parent, if_neg hl, he]

theorem descend_link {t : Path} (he : d.entryAt (here ++ [name]) = some (.link t)) :
    d.descend (links + 1) here (name :: rest) =
      if t.octets = [] then .error .notFound
      else d.descend links (linkStart here t) (namesOf t.octets ++ rest) := by
  rw [descend_cons, if_neg hn.ne_current, if_neg hn.ne_parent, if_neg hl, he]

theorem walk_link {t : Path} (he : d.entryAt (here ++ [name]) = some (.link t)) :
    d.walk fl (links + 1) slash here (name :: rest) =
      if rest = [] ∧ !fl ∧ !slash then .ok ⟨here ++ [name], some (.link t), slash⟩
      else if t.octets = [] then .error .notFound
      else
        d.walk fl links
          (if rest = [] then slash || t.octets.getLast? = some Octet.slash else slash)
          (linkStart here t) (namesOf t.octets ++ rest) := by
  rw [walk_cons, if_neg hn.ne_current, if_neg hn.ne_parent, if_neg hl, he]

end Steps

/-- Names that stay where they are make no difference. -/
theorem descend_filter (d : Disk) (links : Nat) (here : Location) (names : List Octets) :
    d.descend links here (names.filter (· ≠ [Octet.dot])) = d.descend links here names := by
  induction links using Nat.strongRecOn generalizing here names with
  | ind links ihl =>
    induction names generalizing here with
    | nil => rfl
    | cons name rest ih =>
      by_cases h1 : name = [Octet.dot]
      · subst h1
        rw [List.filter_cons_of_neg (by simp), descend_current, ih]
      have hf : (name :: rest).filter (· ≠ [Octet.dot]) = name :: rest.filter (· ≠ [Octet.dot]) := by
        simp [h1]
      rw [hf]
      by_cases h2 : name = [Octet.dot, Octet.dot]
      · subst h2
        rw [descend_parent, descend_parent, ih]
      by_cases h3 : nameLimit < name.length
      · rw [descend_long ⟨h1, h2⟩ h3, descend_long ⟨h1, h2⟩ h3]
      cases he : d.entryAt (here ++ [name]) with
      | none => rw [descend_missing ⟨h1, h2⟩ h3 he, descend_missing ⟨h1, h2⟩ h3 he]
      | some e =>
        cases e with
        | directory =>
          rw [descend_directory ⟨h1, h2⟩ h3 he, descend_directory ⟨h1, h2⟩ h3 he, ih]
        | file bytes => rw [descend_file ⟨h1, h2⟩ h3 he, descend_file ⟨h1, h2⟩ h3 he]
        | link t =>
          cases links with
          | zero => rw [descend_noLink ⟨h1, h2⟩ h3 he, descend_noLink ⟨h1, h2⟩ h3 he]
          | succ links =>
            have h := ihl links (Nat.lt_succ_self links) (linkStart here t)
            have ht := h (namesOf t.octets ++ rest.filter (· ≠ [Octet.dot]))
            rw [List.filter_append, List.filter_filter] at ht
            have hr := h (namesOf t.octets ++ rest)
            rw [List.filter_append] at hr
            rw [descend_link ⟨h1, h2⟩ h3 he, descend_link ⟨h1, h2⟩ h3 he, ← ht, ← hr]
            simp

/-! ### Walks as descents -/

/-- A way is a descent through all but its end, and the rest of the way from there. -/
theorem walk_append (d : Disk) (fl : Bool) (links : Nat) (here : Location)
    (names : List Octets) (slash : Bool) {rest : List Octets} (hr : rest ≠ []) :
    d.walk fl links slash here (names ++ rest) =
      (d.descend links here names).bind fun (k, h) => d.walk fl k slash h rest := by
  induction links, here, names using way_induction d with
  | nil links here =>
    rw [descend_nil]
    rfl
  | current links here names ih =>
    rw [List.cons_append, walk_current, descend_current, ih]
  | parent links here names ih =>
    rw [List.cons_append, walk_parent, descend_parent, ih]
  | long links here name names hn hl =>
    rw [List.cons_append, walk_long hn hl, descend_long hn hl]
    rfl
  | missing links here name names hn hl he =>
    rw [List.cons_append, walk_missing hn hl he, descend_missing hn hl he]
    simp [hr, Except.bind]
  | directory links here name names hn hl he ih =>
    rw [List.cons_append, walk_directory hn hl he, descend_directory hn hl he, ih]
  | file links here name names bytes hn hl he =>
    rw [List.cons_append, walk_file hn hl he, descend_file hn hl he]
    simp [hr, Except.bind]
  | noLink here name names target hn hl he =>
    rw [List.cons_append, walk_noLink hn hl he, descend_noLink hn hl he]
    simp [hr, Except.bind]
  | link links here name names target hn hl he ih =>
    rw [List.cons_append, walk_link hn hl he, descend_link hn hl he]
    by_cases ht : target.octets = []
    · simp [hr, ht, Except.bind]
    · rw [List.append_assoc] at ih
      simp [hr, ht, ih]

theorem descend_append (d : Disk) (links : Nat) (here : Location) (names rest : List Octets) :
    d.descend links here (names ++ rest) =
      (d.descend links here names).bind fun (k, h) => d.descend k h rest := by
  induction links, here, names using way_induction d with
  | nil links here =>
    rw [descend_nil]
    rfl
  | current links here names ih =>
    rw [List.cons_append, descend_current, descend_current, ih]
  | parent links here names ih =>
    rw [List.cons_append, descend_parent, descend_parent, ih]
  | long links here name names hn hl =>
    rw [List.cons_append, descend_long hn hl, descend_long hn hl]
    rfl
  | missing links here name names hn hl he =>
    rw [List.cons_append, descend_missing hn hl he, descend_missing hn hl he]
    rfl
  | directory links here name names hn hl he ih =>
    rw [List.cons_append, descend_directory hn hl he, descend_directory hn hl he, ih]
  | file links here name names bytes hn hl he =>
    rw [List.cons_append, descend_file hn hl he, descend_file hn hl he]
    rfl
  | noLink here name names target hn hl he =>
    rw [List.cons_append, descend_noLink hn hl he, descend_noLink hn hl he]
    rfl
  | link links here name names target hn hl he ih =>
    rw [List.cons_append, descend_link hn hl he, descend_link hn hl he]
    by_cases ht : target.octets = []
    · rw [if_pos ht, if_pos ht]
      rfl
    · rw [if_neg ht, if_neg ht, ← List.append_assoc, ih]

/-- A walk ends at what the disk says. Where it ends at nothing, a name is missing in a
directory. -/
theorem walk_ok {d : Disk} {fl : Bool} {links : Nat} {here : Location} {names : List Octets}
    {slash : Bool} {spot : Spot} (h : d.walk fl links slash here names = .ok spot) :
    d.entryAt spot.location = spot.entry ∧
      (spot.entry = none →
        ∃ dir name, spot.location = dir ++ [name] ∧ d.entryAt dir = some .directory) := by
  induction links, here, names using way_induction d generalizing slash with
  | nil links here =>
    rw [walk_nil] at h
    split at h
    · rename_i hd
      cases h
      exact ⟨(hasDir_iff d here).mp hd, by simp⟩
    · cases h
  | current links here names ih => exact ih (by simpa using h)
  | parent links here names ih => exact ih (by simpa using h)
  | long links here name names hn hl =>
    rw [walk_long hn hl] at h
    cases h
  | missing links here name names hn hl he =>
    rw [walk_missing hn hl he] at h
    split at h
    · rename_i hc
      cases h
      exact ⟨he, fun _ => ⟨here, name, rfl, (hasDir_iff d here).mp hc.2⟩⟩
    · cases h
  | directory links here name names hn hl he ih =>
    exact ih (by rwa [walk_directory hn hl he] at h)
  | file links here name names bytes hn hl he =>
    rw [walk_file hn hl he] at h
    split at h
    · cases h
      exact ⟨he, by simp⟩
    · cases h
  | noLink here name names target hn hl he =>
    rw [walk_noLink hn hl he] at h
    split at h
    · cases h
      exact ⟨he, by simp⟩
    · cases h
  | link links here name names target hn hl he ih =>
    rw [walk_link hn hl he] at h
    split at h
    · cases h
      exact ⟨he, by simp⟩
    · split at h
      · cases h
      · exact ih h

/-- A walk that ends at a directory has gone through all names. -/
theorem descend_of_walk_dir {d : Disk} {fl : Bool} {links : Nat} {here : Location}
    {names : List Octets} {slash : Bool} {spot : Spot}
    (h : d.walk fl links slash here names = .ok spot) (hs : spot.entry = some .directory) :
    ∃ k, d.descend links here names = .ok (k, spot.location) := by
  induction links, here, names using way_induction d generalizing slash with
  | nil links here =>
    rw [walk_nil] at h
    split at h
    · cases h
      exact ⟨links, descend_nil d links here⟩
    · cases h
  | current links here names ih => simpa using ih (by simpa using h)
  | parent links here names ih => simpa using ih (by simpa using h)
  | long links here name names hn hl =>
    rw [walk_long hn hl] at h
    cases h
  | missing links here name names hn hl he =>
    rw [walk_missing hn hl he] at h
    split at h <;> cases h
    cases hs
  | directory links here name names hn hl he ih =>
    rw [walk_directory hn hl he] at h
    rw [descend_directory hn hl he]
    exact ih h
  | file links here name names bytes hn hl he =>
    rw [walk_file hn hl he] at h
    split at h <;> cases h
    cases hs
  | noLink here name names target hn hl he =>
    rw [walk_noLink hn hl he] at h
    split at h <;> cases h
    cases hs
  | link links here name names target hn hl he ih =>
    rw [walk_link hn hl he] at h
    rw [descend_link hn hl he]
    split at h
    · cases h
      cases hs
    · split at h
      · cases h
      · rename_i ht
        rw [if_neg ht]
        exact ih h

/-- A descent to a directory is a walk to it, unless a link at the end of the way is not
followed. -/
theorem walk_of_descend {d : Disk} (fl : Bool) {links : Nat} {here : Location}
    {names : List Octets} (slash : Bool) {k : Nat} {loc : Location}
    (h : d.descend links here names = .ok (k, loc)) (hl : d.entryAt loc = some .directory) :
    ∃ spot, d.walk fl links slash here names = .ok spot ∧
      (spot.location = loc ∧ spot.entry = some .directory ∨
        fl = false ∧ slash = false ∧ ∃ t, spot.entry = some (.link t)) := by
  induction links, here, names using way_induction d generalizing slash with
  | nil links here =>
    rw [descend_nil] at h
    cases h
    rw [walk_nil, if_pos ((hasDir_iff d loc).mpr hl)]
    exact ⟨_, rfl, .inl ⟨rfl, rfl⟩⟩
  | current links here names ih => simpa using ih slash (by simpa using h)
  | parent links here names ih => simpa using ih slash (by simpa using h)
  | long links here name names hn hs =>
    rw [descend_long hn hs] at h
    cases h
  | missing links here name names hn hs he =>
    rw [descend_missing hn hs he] at h
    cases h
  | directory links here name names hn hs he ih =>
    rw [descend_directory hn hs he] at h
    rw [walk_directory hn hs he]
    exact ih slash h
  | file links here name names bytes hn hs he =>
    rw [descend_file hn hs he] at h
    cases h
  | noLink here name names target hn hs he =>
    rw [descend_noLink hn hs he] at h
    cases h
  | link links here name names target hn hs he ih =>
    rw [descend_link hn hs he] at h
    rw [walk_link hn hs he]
    split at h
    · cases h
    · rename_i ht
      by_cases hc : names = [] ∧ !fl ∧ !slash
      · rw [if_pos hc]
        exact ⟨_, rfl, .inr ⟨by simpa using hc.2.1, by simpa using hc.2.2, target, rfl⟩⟩
      · rw [if_neg hc, if_neg ht]
        obtain ⟨spot, hw, hspot⟩ := ih
          (if names = [] then slash || target.octets.getLast? = some Octet.slash else slash) h
        refine ⟨spot, hw, hspot.imp id ?_⟩
        rintro ⟨hf, hs2, t⟩
        refine ⟨hf, ?_, t⟩
        split at hs2
        · simp at hs2
          exact hs2.1
        · exact hs2

/-- Where a descent fails for another reason than a missing name, a walk does not end at nothing,
and not at a directory either. -/
theorem walk_of_descend_error {d : Disk} (fl : Bool) {links : Nat} {here : Location}
    {names : List Octets} (slash : Bool) {f : DiskFault}
    (h : d.descend links here names = .error f) (hf : f ≠ .notFound) :
    (∃ f', f' ≠ .notFound ∧ d.walk fl links slash here names = .error f') ∨
      ∃ spot e, d.walk fl links slash here names = .ok spot ∧ spot.entry = some e ∧
        e.kind ≠ .directory := by
  induction links, here, names using way_induction d generalizing slash with
  | nil links here =>
    rw [descend_nil] at h
    cases h
  | current links here names ih => simpa using ih slash (by simpa using h)
  | parent links here names ih => simpa using ih slash (by simpa using h)
  | long links here name names hn hl =>
    exact .inl ⟨.nameTooLong, by simp, walk_long hn hl⟩
  | missing links here name names hn hl he =>
    rw [descend_missing hn hl he] at h
    cases h
    exact absurd rfl hf
  | directory links here name names hn hl he ih =>
    rw [descend_directory hn hl he] at h
    rw [walk_directory hn hl he]
    exact ih slash h
  | file links here name names bytes hn hl he =>
    rw [walk_file hn hl he]
    by_cases hr : names = []
    · exact .inr ⟨_, .file bytes, if_pos hr, rfl, by simp [Entry.kind]⟩
    · exact .inl ⟨.notDirectory, by simp, if_neg hr⟩
  | noLink here name names target hn hl he =>
    rw [walk_noLink hn hl he]
    by_cases hc : names = [] ∧ !fl ∧ !slash
    · exact .inr ⟨_, .link target, if_pos hc, rfl, by simp [Entry.kind]⟩
    · exact .inl ⟨.tooManyLinks, by simp, if_neg hc⟩
  | link links here name names target hn hl he ih =>
    rw [descend_link hn hl he] at h
    rw [walk_link hn hl he]
    by_cases hc : names = [] ∧ !fl ∧ !slash
    · exact .inr ⟨_, .link target, if_pos hc, rfl, by simp [Entry.kind]⟩
    · split at h
      · cases h
        exact absurd rfl hf
      · rename_i ht
        rw [if_neg hc, if_neg ht]
        exact ih _ h

/-! ### Later disks -/

variable {d d' : Disk}

theorem KeepsWays.descend_ok (hk : KeepsWays d d') {links : Nat} {here : Location}
    {names : List Octets} {r : Nat × Location} (h : d.descend links here names = .ok r) :
    d'.descend links here names = .ok r := by
  induction links, here, names using way_induction d with
  | nil links here =>
    rw [descend_nil] at h ⊢
    exact h
  | current links here names ih => simpa using ih (by simpa using h)
  | parent links here names ih => simpa using ih (by simpa using h)
  | long links here name names hn hl =>
    rw [descend_long hn hl] at h
    cases h
  | missing links here name names hn hl he =>
    rw [descend_missing hn hl he] at h
    cases h
  | directory links here name names hn hl he ih =>
    rw [descend_directory hn hl he] at h
    rw [descend_directory hn hl (hk.directory _ he)]
    exact ih h
  | file links here name names bytes hn hl he =>
    rw [descend_file hn hl he] at h
    cases h
  | noLink here name names target hn hl he =>
    rw [descend_noLink hn hl he] at h
    cases h
  | link links here name names target hn hl he ih =>
    rw [descend_link hn hl he] at h
    rw [descend_link hn hl (hk.link _ _ he)]
    split at h
    · cases h
    · rename_i ht
      rw [if_neg ht]
      exact ih h

theorem Keeps.descend_error (hk : Keeps d d') {links : Nat} {here : Location} {names : List Octets}
    {f : DiskFault} (h : d.descend links here names = .error f) (hf : f ≠ .notFound) :
    d'.descend links here names = .error f := by
  induction links, here, names using way_induction d with
  | nil links here =>
    rw [descend_nil] at h
    cases h
  | current links here names ih => simpa using ih (by simpa using h)
  | parent links here names ih => simpa using ih (by simpa using h)
  | long links here name names hn hl =>
    rw [descend_long hn hl] at h ⊢
    exact h
  | missing links here name names hn hl he =>
    rw [descend_missing hn hl he] at h
    cases h
    exact absurd rfl hf
  | directory links here name names hn hl he ih =>
    rw [descend_directory hn hl he] at h
    rw [descend_directory hn hl (hk.directory he)]
    exact ih h
  | file links here name names bytes hn hl he =>
    obtain ⟨b', he'⟩ := hk.file he
    rw [descend_file hn hl he] at h
    rw [descend_file hn hl he', h]
  | noLink here name names target hn hl he =>
    rw [descend_noLink hn hl he] at h
    rw [descend_noLink hn hl (hk.link he), h]
  | link links here name names target hn hl he ih =>
    rw [descend_link hn hl he] at h
    rw [descend_link hn hl (hk.link he)]
    split at h
    · cases h
      exact absurd rfl hf
    · rename_i ht
      rw [if_neg ht]
      exact ih h

end ClassCensus.Disk
