import ClassCensus.Proofs.Disk.Clearing
import ClassCensus.Proofs.Disk.Same
import ClassCensus.Proofs.Disk.Walks

/-!
# Sites

The site of a path is where its last name lies, or where it would lie once the directories before it
are made (`Site`). A path has one site at most (`Site.unique`). What is made on the way of a path, what
is found at it and what lies below it shows that it has a site (`site_of_makeDir`, `site_of_find`,
`site_of_descend`); and on every disk with the same links these places are at the site, above it or
below it (`SiteOf.makeDir`, `SiteOf.find`, `SiteOf.descend`).
-/

namespace ClassCensus.Disk

variable {d d' : Disk} {p q : Path} {links : Nat} {here top base : Location} {name : Octets}
  {fl slash : Bool} {names front back : List Octets} {spot : Spot}

/-! ### The end of a way -/

/-- Ways lead to directories. -/
theorem directory_of_descend (ht : d.IsTree) {names : List Octets} {r : Nat × Location}
    (hh : d.entryAt here = some .directory) (h : d.descend links here names = .ok r) :
    d.entryAt r.2 = some .directory := by
  induction links, here, names using way_induction d with
  | nil links here =>
    rw [descend_nil] at h
    cases h
    exact hh
  | current links here rest ih => exact ih hh (by simpa [descend_current] using h)
  | parent links here rest ih =>
    refine ih ?_ (by simpa [descend_parent] using h)
    rcases here.eq_nil_or_concat with rfl | ⟨above, last, rfl⟩
    · exact hh
    · rw [List.concat_eq_append, List.dropLast_concat]
      exact ht.dir_of_below (List.cons_ne_nil last []) (by simpa using hh)
  | long links here name rest hn hlong =>
    rw [descend_long hn hlong] at h
    cases h
  | missing links here name rest hn hlong hnone =>
    rw [descend_missing hn hlong hnone] at h
    cases h
  | directory links here name rest hn hlong hdir ih =>
    rw [descend_directory hn hlong hdir] at h
    exact ih hdir h
  | file links here name rest bytes hn hlong hfile =>
    rw [descend_file hn hlong hfile] at h
    cases h
  | noLink here name rest target hn hlong hlink =>
    rw [descend_noLink hn hlong hlink] at h
    cases h
  | link links here name rest target hn hlong hlink ih =>
    rw [descend_link hn hlong hlink] at h
    split at h
    · cases h
    · refine ih ?_ h
      unfold linkStart
      split
      · rfl
      · exact hh

/-- What is not a directory lies under the last name of its way, unless this is a link that is followed. -/
theorem walk_last (h : d.walk fl links slash here names = .ok spot)
    (hspot : spot.entry ≠ some .directory) :
    ∃ front name k mid, names = front ++ [name] ∧ IsEntryName name ∧
      ¬nameLimit < name.length ∧ d.descend links here front = .ok (k, mid) ∧
      (spot.location = mid ++ [name] ∨
        (fl = true ∨ slash = true) ∧ ∃ t, d.entryAt (mid ++ [name]) = some (.link t)) := by
  -- a walk that ends without a name ends at a directory
  have hnil : ∀ k slash l, d.walk fl k slash l [] ≠ .ok spot := by
    intro k slash l h0
    rw [walk_nil] at h0
    split at h0
    · cases h0
      exact hspot rfl
    · cases h0
  rcases names.eq_nil_or_concat with rfl | ⟨front, name, rfl⟩
  · exact absurd h (hnil _ _ _)
  rw [List.concat_eq_append] at h ⊢
  rw [walk_append d fl links _ _ _ (List.cons_ne_nil _ _)] at h
  cases hdesc : d.descend links here front with
  | error f =>
    rw [hdesc] at h
    cases h
  | ok r =>
    obtain ⟨k, mid⟩ := r
    rw [hdesc] at h
    dsimp only [Except.bind] at h
    rw [walk_cons] at h
    split at h
    · exact absurd h (hnil _ _ _)
    split at h
    · exact absurd h (hnil _ _ _)
    split at h
    · cases h
    rename_i hcurrent hparent hshort
    refine ⟨front, name, k, mid, rfl, ⟨hcurrent, hparent⟩, hshort, hdesc, ?_⟩
    cases hentry : d.entryAt (mid ++ [name]) with
    | none =>
      rw [hentry] at h
      dsimp only at h
      split at h
      · cases h
        exact .inl rfl
      · cases h
    | some e =>
      rw [hentry] at h
      cases e with
      | directory => exact absurd h (hnil _ _ _)
      | file b =>
        simp only [if_true, Except.ok.injEq] at h
        exact .inl (h ▸ rfl)
      | link t =>
        dsimp only at h
        split at h
        · cases h
          exact .inl rfl
        · rename_i hfollowed
          refine .inr ⟨?_, t, rfl⟩
          cases fl <;> cases slash <;> simp_all

/-- A name that is no link is walked to below its directory. -/
theorem walk_name (hname : IsEntryName name) (hlink : ∀ t, d.entryAt (here ++ [name]) ≠ some (.link t))
    (h : d.walk fl links slash here [name] = .ok spot) : spot.location = here ++ [name] := by
  rw [walk_cons, if_neg hname.ne_current, if_neg hname.ne_parent] at h
  split at h
  · cases h
  cases hentry : d.entryAt (here ++ [name]) with
  | none =>
    rw [hentry] at h
    dsimp only at h
    split at h
    · cases h
      rfl
    · cases h
  | some e =>
    rw [hentry] at h
    cases e with
    | directory =>
      dsimp only at h
      rw [walk_nil] at h
      split at h
      · cases h
        rfl
      · cases h
    | file b =>
      simp only [if_true, Except.ok.injEq] at h
      exact h ▸ rfl
    | link t => exact absurd hentry (hlink t)

/-- What is no directory and is found at a path lies under its last step, or a link does. -/
theorem steps_of_find {l : Location} {e : Entry} (h : d.find fl p = .ok (l, e)) (he : e ≠ .directory) :
    ∃ front name k mid, p.steps = front ++ [name] ∧ IsEntryName name ∧
      d.descend linkLimit (d.startOf p) front = .ok (k, mid) ∧ d.entryAt (mid ++ [name]) ≠ none := by
  obtain ⟨-, spot, hwalk, -, hentry⟩ := find_ok h
  have hplace := (walk_ok hwalk).1.trans hentry
  obtain ⟨front, name, k, mid, hnames, hname, -, hlead, hspot⟩ := walk_last hwalk (by simp [hentry, he])
  refine ⟨front.filter (· ≠ [Octet.dot]), name, k, mid, ?_, hname,
    (descend_filter ..).trans hlead, ?_⟩
  · rw [← filter_namesOf, hnames, List.filter_append]
    simp [hname.ne_current]
  · rcases hspot with hloc | ⟨-, t, ht⟩
    · simp [← hloc, hplace]
    · simp [ht]

/-- A path with one more step than another one, whose place is vacant, leads nowhere, and nothing is found
at it. -/
theorem Vacant.lost (h : d.Vacant q) (hsteps : p.steps = q.steps ++ [name])
    (hstart : d.startOf p = d.startOf q) (hback : name ≠ [Octet.dot, Octet.dot]) :
    (∀ k l, ¬d.Leads p k l) ∧ ∀ fl r, d.find fl p ≠ .ok r := by
  have hname : IsEntryName name := by
    refine ⟨?_, hback⟩
    rintro rfl
    have hmem : [Octet.dot] ∈ p.steps := by simp [hsteps]
    rw [← filter_namesOf] at hmem
    simpa using (List.mem_filter.mp hmem).2
  have hmissing : ∀ {k l}, d.descend linkLimit (d.startOf p) q.steps = .ok (k, l) →
      d.entryAt (l ++ [name]) = none :=
    fun hd => h _ _ (leads_iff.mpr (hstart ▸ hd)) [name] (by simp)
  have hnowhere : ∀ k l, ¬d.Leads p k l := by
    intro k l hl
    rw [leads_iff, hsteps, descend_append] at hl
    cases hd : d.descend linkLimit (d.startOf p) q.steps with
    | error f => simp [hd, Except.bind] at hl
    | ok r =>
      simp only [hd, Except.bind] at hl
      by_cases hlong : nameLimit < name.length
      · rw [descend_long hname hlong] at hl
        cases hl
      · rw [descend_missing hname hlong (hmissing hd)] at hl
        cases hl
  refine ⟨hnowhere, ?_⟩
  rintro fl ⟨l, e⟩ hfind
  by_cases he : e = .directory
  · obtain ⟨⟨k, hl⟩, -⟩ := leads_of_find (he ▸ hfind)
    exact hnowhere k l hl
  · obtain ⟨front, last, k, mid, hlast, -, hd, hsome⟩ := steps_of_find hfind he
    obtain ⟨rfl, hname⟩ := List.append_inj' (hsteps.symm.trans hlast) rfl
    obtain rfl := List.singleton_inj.mp hname
    exact hsome (hmissing hd)

/-- Through directories only, a way ends where its names say. -/
theorem descend_along (hn : ∀ n ∈ names, IsEntryName n)
    (hlinks : ∀ part, part ≠ [] → part <+: names → ∀ t, d.entryAt (here ++ part) ≠ some (.link t))
    {r : Nat × Location} (h : d.descend links here names = .ok r) : r = (links, here ++ names) := by
  induction names generalizing here with
  | nil =>
    rw [descend_nil] at h
    cases h
    rw [List.append_nil]
  | cons name rest ih =>
    have hname := hn name (List.mem_cons_self ..)
    rw [descend_cons, if_neg hname.ne_current, if_neg hname.ne_parent] at h
    split at h
    · cases h
    cases hentry : d.entryAt (here ++ [name]) with
    | none =>
      rw [hentry] at h
      cases h
    | some e =>
      rw [hentry] at h
      cases e with
      | directory =>
        rw [ih (fun n hmem => hn n (List.mem_cons_of_mem _ hmem)) ?_ h, List.append_assoc]
        · rfl
        · intro part hne hpart
          rw [List.append_assoc]
          exact hlinks _ (List.cons_ne_nil _ _) (List.cons_prefix_cons.mpr ⟨rfl, hpart⟩)
      | file b => cases h
      | link t =>
        exact absurd hentry
          (hlinks _ (List.cons_ne_nil _ _) (List.cons_prefix_cons.mpr ⟨rfl, List.nil_prefix⟩) t)

/-! ### New directories -/

/-- Without the slashes at its end a path does not end with a slash, if it has names. -/
theorem getLast_bare (h : namesOf p.octets ≠ []) :
    (bare p).octets.getLast? ≠ some Octet.slash := by
  by_cases hd : Text.dropEnd Octet.slash p.octets = []
  · obtain ⟨tail, htail, hall⟩ := Text.dropEndWhile_eq (· = Octet.slash) p.octets
    obtain ⟨n, hn⟩ := split_slashes [] tail fun c hc => by simpa using hall c hc
    have hoctets : p.octets = [] ++ tail := by
      rw [htail]
      exact congrArg (· ++ tail) hd
    refine absurd ?_ h
    rw [namesOf, hoctets, hn]
    simp [Text.split]
  · have hb : (bare p).octets = Text.dropEnd Octet.slash p.octets := by simp [bare, hd]
    rw [hb, Text.dropEnd, Text.dropEndWhile, List.getLast?_reverse]
    intro hlast
    have hnot := List.head?_dropWhile_not (fun c => decide (c = Octet.slash)) p.octets.reverse
    rw [hlast] at hnot
    simp at hnot

/-- A directory that is made lies behind the way of the steps before its name. -/
theorem makeDir_steps (h : d.makeDir p = .ok d') :
    ∃ front name links here, p.steps = front ++ [name] ∧ IsEntryName name ∧
      ¬nameLimit < name.length ∧
      d.descend linkLimit (d.startOf p) front = .ok (links, here) ∧
      d.entryAt here = some .directory ∧ d.entryAt (here ++ [name]) = none ∧
      d' = d.put (here ++ [name]) .directory := by
  obtain ⟨spot, hspot, he, rfl⟩ := locate_of_makeDir h
  obtain ⟨-, hwalk⟩ := locate_eq_ok_iff.mp hspot
  rw [namesOf_bare, startOf_bare] at hwalk
  have hplace := (walk_ok hwalk).1
  obtain ⟨dir, last, hdir, hdirectory⟩ := (walk_ok hwalk).2 he
  obtain ⟨front, name, links, here, hnames, hname, hshort, hdesc, hloc⟩ :=
    walk_last hwalk (by simp [he])
  have hslash : (bare p).octets.getLast? ≠ some Octet.slash := getLast_bare (by simp [hnames])
  have hloc : spot.location = here ++ [name] := by simpa [hslash] using hloc
  obtain ⟨rfl, -⟩ := List.append_inj' (hdir.symm.trans hloc) rfl
  rw [hloc, he] at hplace
  refine ⟨front.filter (· ≠ [Octet.dot]), name, links, dir, ?_, hname, hshort, ?_, hdirectory,
    hplace, by rw [hloc]⟩
  · rw [← filter_namesOf, hnames, List.filter_append]
    simp [hname.ne_current]
  · rw [descend_filter, hdesc]

/-! ### The same links -/

/-- A disk with the links of another one. -/
structure SameLinks (d d' : Disk) : Prop where
  home : d'.home = d.home
  link : ∀ l t, d'.entryAt l = some (.link t) ↔ d.entryAt l = some (.link t)

theorem SameLinks.startOf (h : SameLinks d d') (p : Path) : d'.startOf p = d.startOf p := by
  simp only [Disk.startOf, h.home]

/-- With the same links, a way that exists on two disks leads to the same place. -/
theorem SameLinks.descend (h : SameLinks d d') {r r' : Nat × Location}
    (hd : d.descend links here names = .ok r) (hd' : d'.descend links here names = .ok r') :
    r' = r := by
  -- a name that both ways go through is a link on both disks or a directory on both
  have hboth : ∀ {l}, d.entryAt l = some .directory → ∀ t, d'.entryAt l ≠ some (.link t) := by
    intro l hl t hl'
    rw [(h.link l t).mp hl'] at hl
    cases hl
  induction links, here, names using way_induction d with
  | nil links here =>
    rw [descend_nil] at hd hd'
    cases hd
    cases hd'
    rfl
  | current links here rest ih => exact ih (descend_current.symm.trans hd) (descend_current.symm.trans hd')
  | parent links here rest ih => exact ih (descend_parent.symm.trans hd) (descend_parent.symm.trans hd')
  | long links here name rest hn hlong =>
    rw [descend_long hn hlong] at hd
    cases hd
  | missing links here name rest hn hlong hnone =>
    rw [descend_missing hn hlong hnone] at hd
    cases hd
  | directory links here name rest hn hlong hdir ih =>
    rw [descend_directory hn hlong hdir] at hd
    cases hentry : d'.entryAt (here ++ [name]) with
    | none =>
      rw [descend_missing hn hlong hentry] at hd'
      cases hd'
    | some e =>
      cases e with
      | directory => exact ih hd ((descend_directory hn hlong hentry).symm.trans hd')
      | file b =>
        rw [descend_file hn hlong hentry] at hd'
        cases hd'
      | link t => exact absurd hentry (hboth hdir t)
  | file links here name rest bytes hn hlong hfile =>
    rw [descend_file hn hlong hfile] at hd
    cases hd
  | noLink here name rest target hn hlong hlink =>
    rw [descend_noLink hn hlong hlink] at hd
    cases hd
  | link links here name rest target hn hlong hlink ih =>
    rw [descend_link hn hlong hlink] at hd
    rw [descend_link hn hlong ((h.link _ _).mpr hlink)] at hd'
    split at hd
    · cases hd
    · rename_i hne
      exact ih hd (by rwa [if_neg hne] at hd')

/-! ### Sites -/

/-- The names of a path cut in two, `front` leading to a directory and no name of `back` before the
last one being a link. -/
structure SiteOf (d : Disk) (p : Path) (front back : List Octets) (links : Nat) (base : Location) :
    Prop where
  steps : p.steps = front ++ back
  ends : back = [] → front = []
  leads : d.descend linkLimit (d.startOf p) front = .ok (links, base)
  directory : d.entryAt base = some .directory
  straight : ∀ part, part ≠ [] → part <+: back → part ≠ back →
    ∀ t, d.entryAt (base ++ part) ≠ some (.link t)

/-- The site of a path: where its last name lies, or would lie if the directories before it were there. -/
def Site (d : Disk) (p : Path) (top : Location) : Prop :=
  ∃ front back links base, SiteOf d p front back links base ∧ top = base ++ back

theorem isEntryName_of_mem_steps (hback : [Octet.dot, Octet.dot] ∉ p.steps) (hn : name ∈ p.steps) :
    IsEntryName name := by
  refine ⟨?_, fun h => hback (h ▸ hn)⟩
  rintro rfl
  rw [← filter_namesOf, List.mem_filter] at hn
  simp at hn

/-- A path that does not go back has one site at most. -/
theorem Site.unique (hback : [Octet.dot, Octet.dot] ∉ p.steps) {top' : Location} (h : Site d p top)
    (h' : Site d p top') : top = top' := by
  -- the longer front leads along the names that it has before the shorter one's end
  have key : ∀ {front back front' back' k k' base base'}, SiteOf d p front back k base →
      SiteOf d p front' back' k' base' → front <+: front' → base ++ back = base' ++ back' := by
    intro front back front' back' k k' base base' s s' hprefix
    obtain ⟨mid, rfl⟩ := hprefix
    have hmid : back = mid ++ back' :=
      List.append_cancel_left (s.steps.symm.trans (s'.steps.trans (List.append_assoc ..)))
    have hlead := s'.leads
    rw [descend_append, s.leads] at hlead
    have hends : back' = [] → mid = [] := fun h0 => (List.append_eq_nil_iff.mp (s'.ends h0)).2
    have hnames : ∀ n ∈ mid, IsEntryName n := fun n hn =>
      isEntryName_of_mem_steps hback (by rw [s.steps, hmid]; simp [hn])
    have hlinks : ∀ part, part ≠ [] → part <+: mid →
        ∀ t, d.entryAt (base ++ part) ≠ some (.link t) := by
      intro part hne hpart
      refine s.straight part hne (hmid ▸ hpart.trans (List.prefix_append ..)) ?_
      rintro rfl
      have hlen := hpart.length_le
      rw [hmid, List.length_append] at hlen
      have h0 : back' = [] := List.length_eq_zero_iff.mp (by omega)
      exact hne (by rw [hmid, h0, hends h0, List.append_nil])
    cases descend_along hnames hlinks hlead
    rw [hmid, List.append_assoc]
  obtain ⟨front, back, k, base, s, rfl⟩ := h
  obtain ⟨front', back', k', base', s', rfl⟩ := h'
  rcases List.prefix_or_prefix_of_prefix (s.steps ▸ List.prefix_append front back)
    (s'.steps ▸ List.prefix_append front' back') with h | h
  · exact key s s' h
  · exact (key s' s h).symm

/-- A name behind a way that leads to a directory is a site. -/
theorem site_of_steps (hsteps : p.steps = front ++ [name])
    (h : d.descend linkLimit (d.startOf p) front = .ok (links, here))
    (hdir : d.entryAt here = some .directory) : Site d p (here ++ [name]) := by
  refine ⟨front, [name], links, here, ⟨hsteps, (fun h => nomatch h), h, hdir, ?_⟩, rfl⟩
  intro part hne hpart hneq
  rw [← List.nil_append [name], List.prefix_concat_iff, List.nil_append] at hpart
  rcases hpart with h0 | h0
  · exact absurd h0 hneq
  · exact absurd (List.prefix_nil.mp h0) hne

theorem Site.of_same (hsame : Same d d') (h : Site d p top) : Site d' p top := by
  obtain ⟨front, back, k, base, s, rfl⟩ := h
  refine ⟨front, back, k, base, ⟨s.steps, s.ends, ?_, (hsame.entry _).trans s.directory, ?_⟩, rfl⟩
  · rw [hsame.startOf]
    exact hsame.keepsWays.descend_ok s.leads
  · intro part hne hpart hneq t
    rw [hsame.entry]
    exact s.straight part hne hpart hneq t

section Existence

variable (ht : d.IsTree) (hstart : d.entryAt (d.startOf p) = some .directory)
include ht hstart

/-- A path has a site if its way leads on, to names below it. -/
theorem site_of_descend {r : Nat × Location}
    (h : d.descend linkLimit (d.startOf p) (p.steps ++ names) = .ok r) : ∃ top, Site d p top := by
  rcases p.steps.eq_nil_or_concat with hnil | ⟨front, name, hsteps⟩
  · exact ⟨_, [], [], linkLimit, d.startOf p, ⟨hnil, fun _ => rfl, descend_nil .., hstart,
      fun part hne hpart => absurd (List.prefix_nil.mp hpart) hne⟩, rfl⟩
  · rw [List.concat_eq_append] at hsteps
    rw [hsteps, List.append_assoc, descend_append] at h
    cases hfront : d.descend linkLimit (d.startOf p) front with
    | error f =>
      rw [hfront] at h
      cases h
    | ok r => exact ⟨_, site_of_steps hsteps hfront (directory_of_descend ht hstart hfront)⟩

/-- A path has a site if a directory is made on the way of names below it. -/
theorem site_of_makeDir (h : d.makeDir q = .ok d') (hway : q.steps <+: p.steps ++ names)
    (hhead : d.startOf q = d.startOf p) : ∃ top, Site d p top := by
  obtain ⟨front, name, links, here, hsteps, -, -, hlead, hdir, hnone, -⟩ := makeDir_steps h
  rw [hhead] at hlead
  rcases List.prefix_or_prefix_of_prefix hway (List.prefix_append p.steps names) with hq | hp
  · -- the directory lies above the path or at it
    obtain ⟨rest, hrest⟩ := hq
    rw [hsteps, List.append_assoc] at hrest
    refine ⟨_, front, [name] ++ rest, links, here, ⟨hrest.symm, (fun h => nomatch h), hlead, hdir, ?_⟩,
      rfl⟩
    rintro part hne hpart - t he
    obtain ⟨a, part, rfl⟩ := List.exists_cons_of_ne_nil hne
    obtain ⟨rfl, -⟩ := List.cons_prefix_cons.mp hpart
    rcases eq_or_ne part [] with rfl | hpart'
    · rw [hnone] at he
      cases he
    · rw [List.append_cons, ht.none_below (by rw [hnone]; simp) hpart'] at he
      cases he
  · -- it lies below the path
    rw [hsteps] at hp
    rcases List.prefix_concat_iff.mp hp with hp | ⟨rest, hrest⟩
    · exact ⟨_, site_of_steps hp hlead hdir⟩
    · rw [← hrest] at hlead
      exact site_of_descend ht hstart hlead

/-- A path has a site if something is found at it. -/
theorem site_of_find {l : Location} {e : Entry} (h : d.find false p = .ok (l, e)) :
    ∃ top, Site d p top := by
  by_cases he : e = .directory
  · subst he
    obtain ⟨⟨k, hlead⟩, -⟩ := leads_of_find h
    have hlead : d.descend linkLimit (d.startOf p) (p.steps ++ []) = .ok (k, l) := by
      rw [List.append_nil]
      exact leads_iff.mp hlead
    exact site_of_descend ht hstart hlead
  · obtain ⟨front, name, k, mid, hsteps, -, hlead, -⟩ := steps_of_find h he
    exact ⟨_, site_of_steps hsteps hlead (directory_of_descend ht hstart hlead)⟩

end Existence

section Places

variable {d₀ : Disk} (s : SiteOf d₀ p front back links base) (hsame : SameLinks d₀ d)
  (hback : [Octet.dot, Octet.dot] ∉ p.steps)
  (hlinks : ∀ rest t, d₀.entryAt (base ++ back ++ rest) ≠ some (.link t))
  (hn : ∀ n ∈ names, IsEntryName n)

include s hsame hlinks in
theorem SiteOf.noLinks {part : List Octets} (hne : part ≠ []) (hpart : part <+: back ++ names)
    (t : Path) : d.entryAt (base ++ part) ≠ some (.link t) := by
  rw [Ne, hsame.link]
  rcases List.prefix_or_prefix_of_prefix hpart (List.prefix_append back names) with h | ⟨rest, rfl⟩
  · by_cases hall : part = back
    · subst hall
      simpa using hlinks [] t
    · exact s.straight part hne h hall t
  · rw [← List.append_assoc]
    exact hlinks rest t

include s hsame hback hlinks hn

/-- The ways of names below a path lead along the names behind its front. -/
theorem SiteOf.descend {sub : List Octets} (hsub : sub <+: back ++ names) {r : Nat × Location}
    (h : d.descend linkLimit (d.startOf p) (front ++ sub) = .ok r) : r = (links, base ++ sub) := by
  rw [descend_append, hsame.startOf] at h
  cases hfront : d.descend linkLimit (d₀.startOf p) front with
  | error f =>
    rw [hfront] at h
    cases h
  | ok r' =>
    rw [hfront, hsame.descend s.leads hfront] at h
    refine descend_along (fun n hmem => ?_) (fun part hne hpart => ?_) h
    · rcases List.mem_append.mp (hsub.subset hmem) with hmem | hmem
      · exact isEntryName_of_mem_steps hback (by rw [s.steps]; simp [hmem])
      · exact hn n hmem
    · exact s.noLinks hsame hlinks hne (hpart.trans hsub)

/-- A directory that is made on the way of names below a path lies at the site, above it or below it,
or where there was a directory. -/
theorem SiteOf.makeDir (h : d.makeDir q = .ok d') (hway : q.steps <+: p.steps ++ names)
    (hhead : d.startOf q = d.startOf p) :
    ∃ here name, d.entryAt (here ++ [name]) = none ∧ d' = d.put (here ++ [name]) .directory ∧
      (base ++ back <+: here ++ [name] ∨ here ++ [name] <+: base ++ back ∨
        d₀.entryAt (here ++ [name]) = some .directory) := by
  obtain ⟨before, name, k, here, hsteps, hname, hshort, hlead, -, hnone, rfl⟩ := makeDir_steps h
  refine ⟨here, name, hnone, rfl, ?_⟩
  rw [hhead] at hlead
  have hfront : front <+: p.steps ++ names := by
    rw [s.steps, List.append_assoc]
    exact List.prefix_append ..
  rw [hsteps] at hway
  have hcases : before ++ [name] <+: front ∨ front <+: before := by
    rcases List.prefix_or_prefix_of_prefix hway hfront with h | h
    · exact .inl h
    · rcases List.prefix_concat_iff.mp h with rfl | h
      · exact .inl List.prefix_rfl
      · exact .inr h
  rcases hcases with ⟨rest, hrest⟩ | ⟨sub, rfl⟩
  · -- on the way of the front there was a directory before
    right
    right
    have hlead₀ := s.leads
    rw [← hrest, List.append_assoc, descend_append] at hlead₀
    cases hbefore : d₀.descend linkLimit (d₀.startOf p) before with
    | error f =>
      rw [hbefore] at hlead₀
      cases hlead₀
    | ok r =>
      rw [hsame.startOf] at hlead
      obtain rfl := hsame.descend hbefore hlead
      rw [hbefore] at hlead₀
      cases hentry : d₀.entryAt (here ++ [name]) with
      | none =>
        exact absurd (hlead₀.symm.trans (descend_missing hname hshort hentry)) (by simp)
      | some e =>
        cases e with
        | directory => rfl
        | file b =>
          exact absurd (hlead₀.symm.trans (descend_file hname hshort hentry)) (by simp)
        | link t =>
          rw [(hsame.link _ _).mpr hentry] at hnone
          cases hnone
  · rw [s.steps, List.append_assoc, List.append_assoc, List.prefix_append_right_inj] at hway
    have hsub : sub <+: back ++ names := (List.prefix_append ..).trans hway
    have hplace := s.descend hsame hback hlinks hn hsub hlead
    obtain rfl : here = base ++ sub := (Prod.mk.inj hplace).2
    rw [List.append_assoc]
    rcases List.prefix_or_prefix_of_prefix hway (List.prefix_append back names) with h | h
    · exact .inr (.inl ((List.prefix_append_right_inj base).mpr h))
    · exact .inl ((List.prefix_append_right_inj base).mpr h)

/-- Names below a path are found below its site. -/
theorem SiteOf.locate_push {x : Octets} (hx : Path.IsName x) (hq : q.steps = p.steps ++ names)
    (hhead : d.startOf q = d.startOf p) (h : d.locate fl (q.push x) = .ok spot) :
    spot.location = base ++ back ++ names ++ [x] := by
  obtain ⟨hc, -⟩ := locate_eq_ok_iff.mp h
  rw [Disk.locate_push fl hx hc, hhead, hq, s.steps, List.append_assoc] at h
  cases hlead : d.descend linkLimit (d.startOf p) (front ++ (back ++ names)) with
  | error f =>
    rw [hlead] at h
    cases h
  | ok r =>
    rw [hlead] at h
    obtain rfl := s.descend hsame hback hlinks hn List.prefix_rfl hlead
    rw [List.append_assoc, List.append_assoc]
    have hplace := walk_name ⟨hx.ne_current, hx.ne_parent⟩ ?_ h
    · simpa using hplace
    · intro t
      rw [List.append_assoc, Ne, hsame.link]
      simpa using hlinks (names ++ [x]) t

omit hn in
/-- A path is found at its site. -/
theorem SiteOf.find {l : Location} {e : Entry} (h : d.find false p = .ok (l, e)) :
    l = base ++ back := by
  have hsub : back <+: back ++ [] := List.prefix_append ..
  have hnil : ∀ n ∈ ([] : List Octets), IsEntryName n := fun n h => nomatch h
  by_cases he : e = .directory
  · subst he
    obtain ⟨⟨k, hlead⟩, -⟩ := leads_of_find h
    rw [leads_iff, s.steps] at hlead
    exact (Prod.mk.inj (s.descend hsame hback hlinks hnil hsub hlead)).2
  · obtain ⟨-, spot, hwalk, rfl, hentry⟩ := find_ok h
    obtain ⟨before, name, k, mid, hnames, hname, -, hlead, hplace⟩ :=
      walk_last hwalk (by simp [hentry, he])
    have hsteps : p.steps = before.filter (· ≠ [Octet.dot]) ++ [name] := by
      rw [← filter_namesOf, hnames, List.filter_append]
      simp [hname.ne_current]
    rw [← descend_filter] at hlead
    rcases back.eq_nil_or_concat with rfl | ⟨initial, last, hconcat⟩
    · rw [s.steps, s.ends rfl] at hsteps
      simp at hsteps
    · rw [List.concat_eq_append] at hconcat
      subst hconcat
      rw [s.steps, ← List.append_assoc] at hsteps
      obtain ⟨hbefore, hlast⟩ := List.append_inj' hsteps rfl
      cases hlast
      rw [← hbefore] at hlead
      have hend := s.descend hsame hback hlinks hnil
        ((List.prefix_append initial [name]).trans hsub) hlead
      obtain rfl : mid = base ++ initial := (Prod.mk.inj hend).2
      rcases hplace with hplace | ⟨-, t, ht⟩
      · rw [hplace, List.append_assoc]
      · rw [List.append_assoc] at ht
        exact absurd ht (s.noLinks hsame hlinks (by simp) hsub t)

end Places

end ClassCensus.Disk
