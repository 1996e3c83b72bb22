import ClassCensus.Proofs.Disk.Places

/-!
# Making one directory

What making a directory does to a disk, for any path (`makeDir_ok`), and how paths that lead to a
directory already (`Ready`) and paths on which something stands in the way (`Stuck`) answer. Both
stay as they are on every later disk that keeps the entries.
-/

namespace ClassCensus.Disk

/-! ### Slashes at the end of a path -/

theorem split_slashes (a tail : Octets) (h : ∀ c ∈ tail, c = Octet.slash) :
    ∃ n, Text.split Octet.slash (a ++ tail) = Text.split Octet.slash a ++ List.replicate n [] := by
  induction tail generalizing a with
  | nil => exact ⟨0, by simp⟩
  | cons c tail ih =>
    obtain rfl : c = Octet.slash := h c (List.mem_cons_self ..)
    obtain ⟨n, hn⟩ := ih [] fun x hx => h x (List.mem_cons_of_mem _ hx)
    refine ⟨n + 1, ?_⟩
    rw [Text.split_append_sep]
    rw [List.nil_append] at hn
    rw [hn]
    rfl

theorem bare_eq (p : Path) :
    bare p = p ∨ (bare p).octets ≠ [] ∧
      ∃ tail, p.octets = (bare p).octets ++ tail ∧ ∀ c ∈ tail, c = Octet.slash := by
  by_cases hd : Text.dropEnd Octet.slash p.octets = []
  · exact .inl (by simp [bare, hd])
  · obtain ⟨tail, ht, hall⟩ := Text.dropEndWhile_eq (· = Octet.slash) p.octets
    have hb : (bare p).octets = Text.dropEnd Octet.slash p.octets := by simp [bare, hd]
    refine .inr ⟨?_, tail, by rw [hb]; exact ht, fun c hc => by simpa using hall c hc⟩
    intro h0
    rw [h0] at hb
    exact hd (by simpa using hb.symm)

theorem bare_of_no_slash {p : Path} (h : p.octets.getLast? ≠ some Octet.slash) : bare p = p := by
  rcases bare_eq p with h0 | ⟨-, tail, h0, hall⟩
  · exact h0
  · cases hl : tail.getLast? with
    | none =>
      rw [List.getLast?_eq_none_iff.mp hl, List.append_nil] at h0
      exact congrArg Path.mk h0.symm
    | some c =>
      rw [h0, List.getLast?_append, hl, hall c (List.mem_of_getLast? hl)] at h
      exact absurd rfl h

theorem bare_isPrefix (p : Path) : (bare p).octets <+: p.octets := by
  rcases bare_eq p with h | ⟨-, tail, h, -⟩
  · exact ⟨[], by rw [List.append_nil, h]⟩
  · rw [h]
    exact List.prefix_append ..

theorem namesOf_bare (p : Path) : namesOf (bare p).octets = namesOf p.octets := by
  rcases bare_eq p with h | ⟨-, tail, h, hall⟩
  · rw [h]
  · obtain ⟨n, hn⟩ := split_slashes (bare p).octets tail hall
    have hempty : (List.replicate n ([] : Octets)).filter (· ≠ []) = [] := by
      refine List.filter_eq_nil_iff.mpr ?_
      intro s hs
      rw [(List.mem_replicate.mp hs).2]
      simp
    rw [namesOf, namesOf, h, hn, List.filter_append, hempty, List.append_nil]

theorem startOf_bare (d : Disk) (p : Path) : d.startOf (bare p) = d.startOf p := by
  rcases bare_eq p with h | ⟨hne, tail, h, -⟩
  · rw [h]
  · refine startOf_congr d ?_
    cases hc : (bare p).octets with
    | nil => exact absurd hc hne
    | cons c cs => rw [h, hc]; simp

theorem checkPath_bare {p : Path} (h : checkPath p = .ok ()) : checkPath (bare p) = .ok () := by
  refine checkPath_of_isPrefix (bare_isPrefix p) ?_ h
  rcases bare_eq p with h0 | ⟨h0, -⟩
  · rw [h0]
    exact ((checkPath_ok_iff p).mp h).2.1
  · exact h0

/-- A directory is made at the end of the way of a path without its slashes, where nothing lies. -/
theorem locate_of_makeDir {d d' : Disk} {p : Path} (h : d.makeDir p = .ok d') :
    ∃ spot, d.locate false (bare p) = .ok spot ∧ spot.entry = none ∧
      d' = d.put spot.location .directory := by
  unfold makeDir at h
  rcases checkPath_cases p with hc | ⟨f, hc⟩
  · cases hs : d.locate false (bare p) with
    | error f => simp [hc, hs, bind, Except.bind] at h
    | ok spot =>
      cases he : spot.entry with
      | some e => simp [hc, hs, he, bind, Except.bind, throw, throwThe, MonadExceptOf.throw] at h
      | none =>
        simp only [hc, hs, he, bind, Except.bind, pure, Except.pure, Except.ok.injEq] at h
        exact ⟨spot, rfl, he, h.symm⟩
  · simp [hc, bind, Except.bind] at h

/-- Making a directory, for a path that can be asked for. -/
theorem makeDir_eq {d : Disk} {p : Path} (h : checkPath p = .ok ()) :
    ∃ slash, d.makeDir p =
      (d.walk false linkLimit slash (d.startOf p) (namesOf p.octets)).bind fun spot =>
        match spot.entry with
        | some _ => .error .exists
        | none => .ok (d.put spot.location .directory) := by
  refine ⟨decide ((bare p).octets.getLast? = some Octet.slash), ?_⟩
  simp only [makeDir, locate, h, checkPath_bare h, namesOf_bare, startOf_bare, bind, Except.bind]
  split
  · rfl
  · rename_i spot _
    cases spot.entry <;> rfl

theorem makeDir_of_check_error {d : Disk} {p : Path} {f : DiskFault}
    (h : checkPath p = .error f) : d.makeDir p = .error f := by
  simp [makeDir, h, bind, Except.bind]

/-! ### Ways to directories -/

/-- A path leads to a directory. -/
def Arrives (d : Disk) (p : Path) : Prop :=
  ∃ links l, d.Leads p links l ∧ d.entryAt l = some .directory

theorem Leads.unique {d : Disk} {p : Path} {k k' : Nat} {l l' : Location} (h : d.Leads p k l)
    (h' : d.Leads p k' l') : k = k' ∧ l = l' := by
  have := h.symm.trans h'
  simpa using this

theorem KeepsWays.leads {d d' : Disk} (hk : KeepsWays d d') {p : Path} {k : Nat} {l : Location}
    (h : d.Leads p k l) : d'.Leads p k l := by
  have hs : d'.startOf p = d.startOf p := by simp only [startOf, hk.home]
  rw [Leads, hs]
  exact hk.descend_ok h

theorem KeepsWays.arrives {d d' : Disk} (hk : KeepsWays d d') {p : Path} (h : d.Arrives p) :
    d'.Arrives p := by
  obtain ⟨k, l, hl, hd⟩ := h
  exact ⟨k, l, hk.leads hl, hk.directory l hd⟩

/-- A path that leads to a directory finds it. -/
theorem find_directory {d : Disk} {p : Path} {k : Nat} {l : Location} (hl : d.Leads p k l)
    (hd : d.entryAt l = some .directory) (hc : checkPath p = .ok ()) :
    d.find true p = .ok (l, .directory) := by
  obtain ⟨spot, hw, hspot⟩ := walk_of_descend true
    (decide (p.octets.getLast? = some Octet.slash)) hl hd
  have hw' : d.locate true p = .ok spot := by
    simp only [locate, hc, bind, Except.bind]
    exact hw
  rcases hspot with ⟨rfl, he⟩ | ⟨h0, -⟩
  · simp [find, hw', he, Entry.kind, bind, Except.bind, pure, Except.pure]
  · cases h0

/-- The status of a path that leads to a directory. -/
theorem status_directory {d : Disk} {p : Path} (h : d.Arrives p) (hc : checkPath p = .ok ()) :
    d.status p = .ok .directory := by
  obtain ⟨k, l, hl, hd⟩ := h
  simp [status, find_directory hl hd hc, Entry.kind, bind, Except.bind, pure, Except.pure]

theorem locate_of_status {d : Disk} {p : Path} {kind : EntryKind} (h : d.status p = .ok kind) :
    checkPath p = .ok () ∧ ∃ spot e, d.locate true p = .ok spot ∧ spot.entry = some e ∧
      e.kind = kind := by
  cases hl : d.locate true p with
  | error f => simp [status, find, hl, bind, Except.bind] at h
  | ok spot =>
    refine ⟨?_, spot, ?_⟩
    · rcases checkPath_cases p with hc | ⟨f, hc⟩
      · exact hc
      · rw [locate_of_check_error hc] at hl
        cases hl
    · cases he : spot.entry with
      | none => simp [status, find, hl, he, bind, Except.bind, throw, throwThe,
          MonadExceptOf.throw] at h
      | some e =>
        refine ⟨e, rfl, rfl, ?_⟩
        simp only [status, find, hl, he, bind, Except.bind] at h
        split at h
        · cases h
        · rename_i heq
          split at heq
          · cases heq
          · cases heq
            exact Except.ok.inj h

theorem arrives_of_status {d : Disk} {p : Path} (h : d.status p = .ok .directory) :
    checkPath p = .ok () ∧ d.Arrives p := by
  obtain ⟨hc, spot, e, hl, he, hk⟩ := locate_of_status h
  refine ⟨hc, ?_⟩
  have hdir : e = .directory := by
    cases e <;> simp [Entry.kind] at hk ⊢
  subst hdir
  simp only [locate, hc, bind, Except.bind] at hl
  obtain ⟨k, hd⟩ := descend_of_walk_dir hl he
  exact ⟨k, spot.location, hd, (walk_ok hl).1.trans he⟩

/-! ### One directory -/

/-- After a directory is made at the end of a way, the way leads to it. -/
theorem descend_put {d : Disk} {fl : Bool} {links : Nat} {here : Location} {names : List Octets}
    {slash : Bool} {spot : Spot} (h : d.walk fl links slash here names = .ok spot)
    (hs : spot.entry = none) :
    ∃ k, (d.put spot.location .directory).descend links here names = .ok (k, spot.location) := by
  obtain ⟨hentry, hdir⟩ := walk_ok h
  obtain ⟨dir, name, hloc, -⟩ := hdir hs
  have hne : spot.location ≠ [] := by simp [hloc]
  have hput := entryAt_put d hne .directory
  have hkeep : ∀ l e, d.entryAt l = some e → (d.put spot.location .directory).entryAt l = some e := by
    intro l e he
    rw [hput, if_neg, he]
    rintro rfl
    rw [hentry, hs] at he
    cases he
  generalize hd' : d.put spot.location .directory = d' at hput hkeep ⊢
  clear hd' hdir hloc
  induction links, here, names using way_induction d generalizing slash with
  | nil links here =>
    rw [walk_nil] at h
    split at h <;> cases h
    cases hs
  | current links here names ih => simpa using ih (by simpa using h)
  | parent links here names ih => simpa using ih (by simpa using h)
  | long links here name names hn hl =>
    rw [walk_long hn hl] at h
    cases h
  | missing links here name names hn hl he =>
    rw [walk_missing hn hl he] at h
    split at h <;> cases h
    rename_i hc
    rw [hc.1, descend_directory hn hl (by rw [hput, if_pos rfl]), descend_nil]
    exact ⟨links, rfl⟩
  | directory links here name names hn hl he ih =>
    rw [walk_directory hn hl he] at h
    rw [descend_directory hn hl (hkeep _ _ he)]
    exact ih h
  | file links here name names bytes hn hl he =>
    rw [walk_file hn hl he] at h
    split at h <;> cases h
    cases hs
  | noLink here name names target hn hl he =>
    rw [walk_noLink hn hl he] at h
    split at h <;> cases h
    cases hs
  | link links here name names target hn hl he ih =>
    rw [walk_link hn hl he] at h
    rw [descend_link hn hl (hkeep _ _ he)]
    split at h
    · cases h
      cases hs
    · split at h
      · cases h
      · rename_i ht
        rw [if_neg ht]
        exact ih h

/-- A directory that is made is new, lies in a directory, and is where the path leads from then
on. -/
theorem makeDir_ok {d d' : Disk} {p : Path} (h : d.makeDir p = .ok d') :
    checkPath p = .ok () ∧
      ∃ here name, d.entryAt (here ++ [name]) = none ∧ d.entryAt here = some .directory ∧
        d' = d.put (here ++ [name]) .directory ∧ ∃ k, d'.Leads p k (here ++ [name]) := by
  rcases checkPath_cases p with hc | ⟨f, hc⟩
  · refine ⟨hc, ?_⟩
    obtain ⟨slash, hm⟩ := makeDir_eq (d := d) hc
    rw [hm] at h
    cases hw : d.walk false linkLimit slash (d.startOf p) (namesOf p.octets) with
    | error f => simp [hw, Except.bind] at h
    | ok spot =>
      cases he : spot.entry with
      | some e => simp [hw, he, Except.bind] at h
      | none =>
        simp only [hw, he, Except.bind, Except.ok.injEq] at h
        obtain ⟨hentry, hdir⟩ := walk_ok hw
        obtain ⟨here, name, hloc, hhere⟩ := hdir he
        obtain ⟨k, hk⟩ := descend_put hw he
        rw [h, hloc] at hk
        refine ⟨here, name, by rw [← hloc, hentry, he], hhere, by rw [← h, hloc], k, ?_⟩
        have hs : d'.startOf p = d.startOf p := by
          rw [← h]
          rfl
        rw [Leads, hs]
        exact hk
  · rw [makeDir_of_check_error hc] at h
    cases h

/-! ### Ready and stuck paths -/

/-- A path leads to a directory, and can be asked for unless it is empty. -/
structure Ready (d : Disk) (p : Path) : Prop where
  check : p.octets = [] ∨ checkPath p = .ok ()
  arrives : d.Arrives p

/-- Something other than a missing entry stands in the way of a path. -/
structure Stuck (d : Disk) (p : Path) : Prop where
  ne_nil : p.octets ≠ []
  way : (∃ f, checkPath p = .error f) ∨
    ∃ f, f ≠ .notFound ∧ d.descend linkLimit (d.startOf p) p.steps = .error f

theorem KeepsWays.ready {d d' : Disk} (hk : KeepsWays d d') {p : Path} (h : d.Ready p) : d'.Ready p :=
  ⟨h.check, hk.arrives h.arrives⟩

theorem Keeps.stuck {d d' : Disk} (hk : Keeps d d') {p : Path} (h : d.Stuck p) : d'.Stuck p := by
  refine ⟨h.ne_nil, h.way.imp id ?_⟩
  rintro ⟨f, hf, hd⟩
  have hs : d'.startOf p = d.startOf p := by simp only [startOf, hk.home]
  exact ⟨f, hf, by rw [hs]; exact hk.descend_error hd hf⟩

/-- No path is both ready and stuck. -/
theorem Ready.not_stuck {d : Disk} {p : Path} (h : d.Ready p) : ¬d.Stuck p := by
  intro hs
  obtain ⟨k, l, hl, -⟩ := h.arrives
  rcases hs.way with ⟨f, hf⟩ | ⟨f, -, hf⟩
  · rcases h.check with h0 | h0
    · exact hs.ne_nil h0
    · rw [h0] at hf
      cases hf
  · rw [leads_iff.mp hl] at hf
    cases hf

/-- What is there already is not made again. -/
theorem Ready.makeDir {d : Disk} {p : Path} (h : d.Ready p) (hp : p.octets ≠ []) :
    d.makeDir p = .error .exists ∧ d.status p = .ok .directory := by
  have hc : checkPath p = .ok () := h.check.resolve_left hp
  refine ⟨?_, status_directory h.arrives hc⟩
  obtain ⟨k, l, hl, hd⟩ := h.arrives
  obtain ⟨slash, hm⟩ := makeDir_eq (d := d) hc
  obtain ⟨spot, hw, hspot⟩ := walk_of_descend false slash hl hd
  have he : ∃ e, spot.entry = some e := by
    rcases hspot with ⟨-, he⟩ | ⟨-, -, t, he⟩
    · exact ⟨_, he⟩
    · exact ⟨_, he⟩
  obtain ⟨e, he⟩ := he
  rw [hm, hw]
  simp only [Except.bind, he]

/-- Where something stands in the way no directory is made, and there is none. -/
theorem Stuck.makeDir {d : Disk} {p : Path} (h : d.Stuck p) :
    (∃ f, f ≠ .notFound ∧ d.makeDir p = .error f) ∧ d.status p ≠ .ok .directory := by
  rcases checkPath_cases p with hc | ⟨f, hc⟩
  · obtain ⟨f, hf, hd⟩ : ∃ f, f ≠ .notFound ∧
        d.descend linkLimit (d.startOf p) (namesOf p.octets) = .error f := by
      rcases h.way with ⟨f, h0⟩ | ⟨f, hf, hd⟩
      · rw [hc] at h0
        cases h0
      · exact ⟨f, hf, by rw [← descend_filter, filter_namesOf, hd]⟩
    constructor
    · obtain ⟨slash, hm⟩ := makeDir_eq (d := d) hc
      rw [hm]
      rcases walk_of_descend_error false slash hd hf with ⟨f', hf', h1⟩ | ⟨spot, e, h1, he, -⟩
      · exact ⟨f', hf', by rw [h1]; rfl⟩
      · exact ⟨.exists, by simp, by simp only [h1, Except.bind, he]⟩
    · intro h0
      obtain ⟨-, spot', e', h2, he', hk'⟩ := locate_of_status h0
      simp only [locate, hc, bind, Except.bind] at h2
      rcases walk_of_descend_error true (decide (p.octets.getLast? = some Octet.slash)) hd hf with
        ⟨f', -, h1⟩ | ⟨spot, e, h1, he, hk⟩
      · rw [h1] at h2
        cases h2
      · rw [h1] at h2
        cases h2
        rw [he] at he'
        cases he'
        exact hk hk'
  · constructor
    · exact ⟨f, checkPath_error h.ne_nil hc, makeDir_of_check_error hc⟩
    · rw [status_of_locate_error (locate_of_check_error hc)]
      simp

end ClassCensus.Disk
