import ClassCensus.Proofs.Disk.Walks
import Mathlib.Data.List.Basic

/-!
# The last name of a path

A path that ends in a name leads to an entry of this name, unless a link of this name leads on
(`location_of_endsIn`). A pushed name and a file name with an extension are such names
(`endsIn_push`, `endsIn_withExtension`). A path without a file name leads to directories only
(`directory_of_fileName`).
-/

namespace ClassCensus

/-! ### File names -/

theorem Path.steps_of_fileName {p : Path} {name : Octets} (h : p.fileName = some name) :
    p.steps.getLast? = some name ∧ name ≠ [Octet.dot, Octet.dot] := by
  rw [steps_eq_segments]
  simp only [fileName, components, List.getLast?_append, List.getLast?_map] at h
  cases hlast : (p.segments.2.filter fun s => !isIdle s).getLast? with
  | none =>
    rw [hlast] at h
    cases hhead : p.segments.1 <;> simp [hhead, PathHead.components] at h
  | some x =>
    rw [hlast] at h
    by_cases hx : x = [Octet.dot, Octet.dot]
    · simp [hx, componentOf] at h
    · simp only [Option.map_some, Option.some_or, componentOf, hx, if_false,
        Option.some.injEq] at h
      subst h
      exact ⟨rfl, hx⟩

theorem Path.fileName_of_steps {p : Path} {name : Octets} (h : p.steps.getLast? = some name)
    (hname : name ≠ [Octet.dot, Octet.dot]) : p.fileName = some name := by
  rw [steps_eq_segments] at h
  simp only [fileName, components, List.getLast?_append, List.getLast?_map]
  cases hlast : (p.segments.2.filter fun s => !isIdle s).getLast? with
  | none =>
    rw [hlast] at h
    cases h
  | some x =>
    rw [hlast] at h
    obtain rfl := Option.some.inj h
    simp [componentOf, hname]

theorem Path.stem_isPrefix (cs : Octets) : stem cs <+: cs := by
  unfold stem
  split
  · exact List.prefix_rfl
  · rename_i before after hcut
    rw [(Text.cutLast_eq_some.mp hcut).1]
    exact List.prefix_append _ _
  · exact List.prefix_rfl

/-- The last segment can be any other one that says something. -/
theorem Path.Fits.replace_last {head : PathHead} {front : List Octets} {x y : Octets}
    (h : Fits head (front ++ [x])) (hx : x ≠ []) (hy : y ≠ []) (hplain : Octet.slash ∉ y) :
    Fits head (front ++ [y]) := by
  refine ⟨?_, ?_, ?_⟩
  · intro s hs
    rcases List.mem_append.mp hs with hs | hs
    · exact h.plain s (List.mem_append_left _ hs)
    · rwa [List.mem_singleton.mp hs]
  · intro hhead
    cases front with
    | nil =>
      rcases h.current hhead with h0 | ⟨rest, h0⟩
      · cases h0
      · exact absurd (List.cons.inj h0).1 hx
    | cons a front =>
      rcases h.current hhead with h0 | ⟨rest, h0⟩
      · cases h0
      · exact .inr ⟨front ++ [y], by rw [List.cons_append, (List.cons.inj h0).1]⟩
  · intro hhead rest hrest
    cases front with
    | nil => exact absurd (List.cons.inj hrest).1 hy
    | cons a front =>
      rw [List.cons_append, (List.cons.inj hrest).1] at h
      have h0 := h.none hhead (front ++ [x]) rfl
      simp at h0

/-- What an extension is given to is a file name, or the path stays as it is and has none. -/
theorem Path.withExtension_cases (p : Path) {ext : Octets} (hext : Octet.slash ∉ ext) :
    (p.withExtension ext).fileName = none ∨
      ∃ front stem, Fits p.segments.1 (front ++ [stem ++ Octet.dot :: ext]) ∧
        p.withExtension ext = ofSegments p.segments.1 (front ++ [stem ++ Octet.dot :: ext]) := by
  have hidle : ∀ rest last, (dropIdle p.segments.2).reverse = last :: rest →
      dropIdle p.segments.2 = rest.reverse ++ [last] := by
    intro rest last h
    simpa using congrArg List.reverse h
  simp only [withExtension]
  split
  · rename_i last rest hrev
    have hlast := hidle _ _ hrev
    have hsays := isIdle_of_dropIdle_concat hlast
    split
    · rename_i hback
      refine .inl ?_
      have hsteps : p.steps.getLast? = some [Octet.dot, Octet.dot] := by
        rw [steps_eq_segments, ← filter_dropIdle, hlast, List.filter_append, hback]
        simp [isIdle]
      cases hname : p.fileName with
      | none => rfl
      | some name =>
        obtain ⟨h0, hne⟩ := steps_of_fileName hname
        rw [hsteps] at h0
        exact absurd (Option.some.inj h0).symm hne
    · have hfits : Fits p.segments.1 (rest.reverse ++ [last]) := hlast ▸ p.fits_dropIdle
      refine .inr ⟨rest.reverse, Path.stem last, hfits.replace_last ?_ (by simp) ?_, rfl⟩
      · rintro rfl
        simp [isIdle] at hsays
      · intro h0
        rcases List.mem_append.mp h0 with h0 | h0
        · exact hfits.plain last (by simp) ((stem_isPrefix last).subset h0)
        · rcases List.mem_cons.mp h0 with h0 | h0
          · cases h0
          · exact hext h0
  · rename_i hrev
    refine .inl ?_
    cases hname : p.fileName with
    | none => rfl
    | some name =>
      have hnil : dropIdle p.segments.2 = [] := by simpa using hrev
      have h0 := (steps_of_fileName hname).1
      rw [steps_eq_segments, ← filter_dropIdle, hnil] at h0
      cases h0

namespace Disk

/-- The names of a path end in this one. -/
def EndsIn (p : Path) (name : Octets) : Prop := ∃ names, namesOf p.octets = names ++ [name]

theorem endsIn_push (p : Path) {name : Octets} (hn : Path.IsName name) :
    EndsIn (p.push name) name :=
  ⟨_, namesOf_push p hn⟩

theorem endsIn_ofSegments {head : PathHead} {front : List Octets} {x : Octets}
    (h : Path.Fits head (front ++ [x])) (hx : x ≠ []) :
    EndsIn (Path.ofSegments head (front ++ [x])) x := by
  have hlast : ∀ before : Octets,
      (Text.split Octet.slash (before ++ Octet.slash :: x)).filter (· ≠ []) =
        (Text.split Octet.slash before).filter (· ≠ []) ++ [x] := by
    intro before
    rw [Text.split_append_sep, List.filter_append,
      Text.split_of_not_mem Octet.slash (h.plain x (by simp))]
    simp [hx]
  -- the name stands alone in the text, or behind a slash
  have hoctets : (Path.ofSegments head (front ++ [x])).octets = x ∨
      ∃ before, (Path.ofSegments head (front ++ [x])).octets = before ++ Octet.slash :: x := by
    rw [Path.octets_ofSegments]
    by_cases hfront : front = []
    · subst hfront
      cases head with
      | root => exact .inr ⟨[], rfl⟩
      | none => exact .inl rfl
      | current =>
        rcases h.current rfl with h0 | ⟨rest, h0⟩
        · cases h0
        · exact absurd (List.cons.inj h0).1 hx
    · refine .inr ⟨head.octets ++ Text.join [Octet.slash] front, ?_⟩
      rw [Text.join_append Octet.slash hfront (by simp), List.append_assoc]
      rfl
  rcases hoctets with h0 | ⟨before, h0⟩
  · refine ⟨[], ?_⟩
    rw [namesOf, h0, Text.split_of_not_mem Octet.slash (h.plain x (by simp))]
    simp [hx]
  · exact ⟨(Text.split Octet.slash before).filter (· ≠ []), by rw [namesOf, h0, hlast]⟩

/-- With an extension a path ends in a name that ends in the extension, if it has a file name at all. -/
theorem endsIn_withExtension (p : Path) {ext : Octets} (hext : Octet.slash ∉ ext) :
    (p.withExtension ext).fileName = none ∨
      ∃ stem, EndsIn (p.withExtension ext) (stem ++ Octet.dot :: ext) := by
  refine (p.withExtension_cases hext).imp id ?_
  rintro ⟨front, stem, hfits, heq⟩
  exact ⟨stem, heq ▸ endsIn_ofSegments hfits (by simp)⟩

/-! ### Where the last name leads -/

variable {d : Disk} {fl slash : Bool} {links : Nat} {here : Location} {names : List Octets}
  {spot : Spot}

/-- A walk ends at an entry of its last name, unless a link of this name leads on. -/
theorem location_of_walk {name : Octets} (hname : IsEntryName name)
    (hlink : ∀ here t, d.entryAt (here ++ [name]) ≠ some (.link t))
    (h : d.walk fl links slash here (names ++ [name]) = .ok spot) :
    ∃ here, spot.location = here ++ [name] := by
  rw [walk_append d fl links here names slash (List.cons_ne_nil _ _)] at h
  cases hd : d.descend links here names with
  | error f =>
    rw [hd] at h
    cases h
  | ok r =>
    obtain ⟨k, l⟩ := r
    rw [hd] at h
    dsimp only [Except.bind] at h
    refine ⟨l, ?_⟩
    by_cases hlong : nameLimit < name.length
    · rw [walk_long hname hlong] at h
      cases h
    · cases he : d.entryAt (l ++ [name]) with
      | none =>
        rw [walk_missing hname hlong he] at h
        split at h <;> cases h
        rfl
      | some e =>
        cases e with
        | directory =>
          rw [walk_directory hname hlong he, walk_nil] at h
          split at h <;> cases h
          rfl
        | file b =>
          rw [walk_file hname hlong he, if_pos rfl] at h
          cases h
          rfl
        | link t => exact absurd he (hlink l t)

theorem location_of_endsIn {p : Path} {name : Octets} (hname : IsEntryName name)
    (hlink : ∀ here t, d.entryAt (here ++ [name]) ≠ some (.link t)) (hp : EndsIn p name)
    (h : d.locate fl p = .ok spot) : ∃ here, spot.location = here ++ [name] := by
  obtain ⟨names, hnames⟩ := hp
  have hw := (locate_eq_ok_iff.mp h).2
  rw [hnames] at hw
  exact location_of_walk hname hlink hw

/-- A walk without a name at its end ends at a directory. -/
theorem directory_of_walk (h : d.walk fl links slash here names = .ok spot)
    (hback : ∀ name, (names.filter (· ≠ [Octet.dot])).getLast? = some name →
      name = [Octet.dot, Octet.dot]) :
    spot.entry = some .directory := by
  have hrest : ∀ {name : Octets} {rest : List Octets}, IsEntryName name →
      (∀ x, ((name :: rest).filter (· ≠ [Octet.dot])).getLast? = some x →
        x = [Octet.dot, Octet.dot]) →
      rest.filter (· ≠ [Octet.dot]) ≠ [] ∧
        ∀ x, (rest.filter (· ≠ [Octet.dot])).getLast? = some x → x = [Octet.dot, Octet.dot] := by
    intro name rest hn hx
    rw [List.filter_cons_of_pos (by simpa using hn.ne_current)] at hx
    have hne : rest.filter (· ≠ [Octet.dot]) ≠ [] := by
      intro h0
      rw [h0] at hx
      exact hn.ne_parent (hx name rfl)
    refine ⟨hne, fun x h0 => hx x ?_⟩
    rw [List.getLast?_cons_of_ne_nil hne]
    exact h0
  induction links, here, names using way_induction d generalizing slash with
  | nil links here =>
    rw [walk_nil] at h
    split at h <;> cases h
    rfl
  | current links here names ih =>
    exact ih (by simpa using h) (by simpa using hback)
  | parent links here names ih =>
    refine ih (by simpa using h) ?_
    intro x hx
    refine hback x ?_
    rw [List.filter_cons_of_pos (by simp), List.getLast?_cons, hx]
    rfl
  | long links here name names hn hlong =>
    rw [walk_long hn hlong] at h
    cases h
  | missing links here name names hn hlong hnone =>
    rw [walk_missing hn hlong hnone] at h
    split at h
    · rename_i hc
      exact absurd (by rw [hc.1]; rfl) (hrest hn hback).1
    · cases h
  | directory links here name names hn hlong hdir ih =>
    rw [walk_directory hn hlong hdir] at h
    exact ih h (hrest hn hback).2
  | file links here name names bytes hn hlong hfile =>
    rw [walk_file hn hlong hfile] at h
    split at h
    · rename_i hc
      exact absurd (by rw [hc]; rfl) (hrest hn hback).1
    · cases h
  | noLink here name names target hn hlong hlink =>
    rw [walk_noLink hn hlong hlink] at h
    split at h
    · rename_i hc
      exact absurd (by rw [hc.1]; rfl) (hrest hn hback).1
    · cases h
  | link links here name names target hn hlong hlink ih =>
    rw [walk_link hn hlong hlink] at h
    split at h
    · rename_i hc
      exact absurd (by rw [hc.1]; rfl) (hrest hn hback).1
    · split at h
      · cases h
      · refine ih h ?_
        intro x hx
        obtain ⟨hne, hlast⟩ := hrest hn hback
        rw [List.filter_append, List.getLast?_append_of_ne_nil _ hne] at hx
        exact hlast x hx

/-- A path without a file name leads to directories only. -/
theorem directory_of_fileName {p : Path} {l : Location} {e : Entry} (hp : p.fileName = none)
    (h : d.find fl p = .ok (l, e)) : e = .directory := by
  obtain ⟨spot, hs, -, he, -⟩ := find_eq_ok_iff.mp h
  have hdir := directory_of_walk (locate_eq_ok_iff.mp hs).2 (by
    intro name hname
    rw [filter_namesOf] at hname
    by_contra hne
    rw [Path.fileName_of_steps hname hne] at hp
    cases hp)
  rw [he] at hdir
  exact Option.some.inj hdir

/-! ### Links that are followed -/

/-- A walk that does not end at a link is the same when links are followed. -/
theorem walk_followed (h : d.walk false links slash here names = .ok spot)
    (hlink : ∀ t, spot.entry ≠ some (.link t)) : d.walk true links slash here names = .ok spot := by
  induction links, here, names using way_induction d generalizing slash with
  | nil links here => rw [walk_nil] at h ⊢; exact h
  | current links here names ih => simpa using ih (by simpa using h)
  | parent links here names ih => simpa using ih (by simpa using h)
  | long links here name names hn hlong => rw [walk_long hn hlong] at h ⊢; exact h
  | missing links here name names hn hlong hnone =>
    rw [walk_missing hn hlong hnone] at h ⊢
    exact h
  | directory links here name names hn hlong hdir ih =>
    rw [walk_directory hn hlong hdir] at h ⊢
    exact ih h
  | file links here name names bytes hn hlong hfile =>
    rw [walk_file hn hlong hfile] at h ⊢
    exact h
  | noLink here name names target hn hlong hto =>
    rw [walk_noLink hn hlong hto] at h
    split at h
    · cases h
      exact absurd rfl (hlink target)
    · cases h
  | link links here name names target hn hlong hto ih =>
    rw [walk_link hn hlong hto] at h
    rw [walk_link hn hlong hto, if_neg (by simp)]
    split at h
    · cases h
      exact absurd rfl (hlink target)
    · split at h
      · cases h
      · rename_i ht
        rw [if_neg ht]
        exact ih h

theorem locate_followed {p : Path} (h : d.locate false p = .ok spot)
    (hlink : ∀ t, spot.entry ≠ some (.link t)) : d.locate true p = .ok spot := by
  obtain ⟨hc, hw⟩ := locate_eq_ok_iff.mp h
  exact locate_eq_ok_iff.mpr ⟨hc, walk_followed hw hlink⟩

end Disk

end ClassCensus
