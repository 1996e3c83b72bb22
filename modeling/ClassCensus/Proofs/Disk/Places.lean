import ClassCensus.Proofs.Disk.Descent
import ClassCensus.Proofs.Path

/-!
# The place of a path

A path that ends with a name belongs to a place in the directory to which the rest of it leads. An
operation asks what lies at that place and nothing else: `At` says that a path belongs to a place,
`at_push` gives the place of a pushed name, and each operation has one lemma that tells its result
by the entry there.
-/

namespace ClassCensus.Disk

/-! ### Paths that can be asked for -/

theorem checkPath_ok_iff (p : Path) :
    checkPath p = .ok () ↔
      Octet.nul ∉ p.octets ∧ p.octets ≠ [] ∧ p.octets.length < pathLimit := by
  unfold checkPath
  split
  · simp_all
  · split
    · simp_all
    · split <;> simp_all

theorem checkPath_error {p : Path} {f : DiskFault} (hp : p.octets ≠ [])
    (h : checkPath p = .error f) : f ≠ .notFound := by
  unfold checkPath at h
  rintro rfl
  split at h
  · simp at h
  · split at h <;> simp at h

theorem checkPath_cases (p : Path) : checkPath p = .ok () ∨ ∃ f, checkPath p = .error f := by
  cases h : checkPath p with
  | ok u => exact .inl rfl
  | error f => exact .inr ⟨f, rfl⟩

/-- What stands at the beginning of a path can be asked for if the path can. -/
theorem checkPath_of_isPrefix {p q : Path} (h : p.octets <+: q.octets) (hp : p.octets ≠ [])
    (hq : checkPath q = .ok ()) : checkPath p = .ok () := by
  rw [checkPath_ok_iff] at hq ⊢
  have hs := h.length_le
  exact ⟨fun h0 => hq.1 (h.subset h0), hp, by omega⟩

/-- A shorter name can be pushed where a longer one can. -/
theorem checkPath_push_of_size {p : Path} {m n : Octets} (hm : Path.IsName m)
    (hn : Path.IsName n) (hz : Octet.nul ∈ m → Octet.nul ∈ n)
    (hs : m.length ≤ n.length) (h : checkPath (p.push n) = .ok ()) :
    checkPath (p.push m) = .ok () := by
  rw [checkPath_ok_iff, p.size_push hn, Path.octets_push p hn] at h
  rw [checkPath_ok_iff, p.size_push hm, Path.octets_push p hm]
  refine ⟨?_, fun h0 => hm.ne_nil (List.append_eq_nil_iff.mp h0).2, by omega⟩
  intro h0
  refine h.1 (List.mem_append.mpr ?_)
  exact (List.mem_append.mp h0).imp id hz

theorem isPrefix_push (p : Path) {n : Octets} (hn : Path.IsName n) :
    p.octets <+: (p.push n).octets := by
  rw [Path.octets_push p hn]
  refine List.IsPrefix.trans ?_ (List.prefix_append _ _)
  unfold Path.lead
  split
  · exact List.prefix_rfl
  · exact List.prefix_append _ _

theorem checkPath_of_push {p : Path} {n : Octets} (hn : Path.IsName n) (hp : p.octets ≠ [])
    (h : checkPath (p.push n) = .ok ()) : checkPath p = .ok () :=
  checkPath_of_isPrefix (isPrefix_push p hn) hp h

/-! ### Where a path leads -/

theorem filter_namesOf (p : Path) : (namesOf p.octets).filter (· ≠ [Octet.dot]) = p.steps := by
  rw [namesOf, List.filter_filter, Path.steps]
  refine List.filter_congr ?_
  intro s _
  by_cases h1 : s = [] <;> by_cases h2 : s = [Octet.dot] <;> simp_all [isIdle]

theorem leads_iff {d : Disk} {p : Path} {links : Nat} {l : Location} :
    d.Leads p links l ↔ d.descend linkLimit (d.startOf p) p.steps = .ok (links, l) := by
  rw [Leads, ← filter_namesOf, descend_filter]

theorem leads_of_empty {d : Disk} {p : Path} (h : p.octets = []) :
    d.Leads p linkLimit (d.startOf p) := by
  rw [leads_iff, Path.steps_of_empty h, descend_nil]

theorem startOf_congr (d : Disk) {p q : Path}
    (h : p.octets.head? = some Octet.slash ↔ q.octets.head? = some Octet.slash) :
    d.startOf p = d.startOf q := by
  simp only [startOf, h]

@[simp]
theorem startOf_push (d : Disk) (p : Path) {n : Octets} (hn : Path.IsName n) :
    d.startOf (p.push n) = d.startOf p := by
  refine startOf_congr d ?_
  rw [Path.octets_push p hn]
  rcases p.lead_cases with ⟨he, hl⟩ | ⟨a, hl, hp⟩
  · simp [hl, he, hn.head_ne]
  · cases a with
    | nil =>
      rcases hp with hp | ⟨h, -⟩
      · simp [hl, hp]
      · exact absurd rfl h
    | cons c a =>
      rcases hp with hp | ⟨-, hp, -⟩
      · simp [hl, hp]
      · simp [hl, hp]

theorem startOf_trimmed (d : Disk) (p : Path) : d.startOf p.trimmed = d.startOf p :=
  startOf_congr d p.head_trimmed

@[simp]
theorem leads_trimmed {d : Disk} {p : Path} {links : Nat} {l : Location} :
    d.Leads p.trimmed links l ↔ d.Leads p links l := by
  rw [leads_iff, leads_iff, startOf_trimmed, Path.steps_trimmed]

theorem descend_push (d : Disk) (p : Path) {n : Octets} (hn : Path.IsName n) :
    d.descend linkLimit (d.startOf (p.push n)) (p.push n).steps =
      (d.descend linkLimit (d.startOf p) p.steps).bind fun (k, h) => d.descend k h [n] := by
  rw [startOf_push d p hn, Path.steps_push p hn, descend_append]

theorem namesOf_push (p : Path) {n : Octets} (hn : Path.IsName n) :
    namesOf (p.push n).octets = namesOf p.octets ++ [n] := by
  have hlast : (Text.split Octet.slash n).filter (· ≠ []) = [n] := by
    rw [hn.split_eq]
    simp [hn.ne_nil]
  simp only [namesOf, Path.octets_push p hn]
  rcases p.lead_cases with ⟨he, hl⟩ | ⟨a, hl, hp | ⟨-, hp, -⟩⟩
  · rw [hl, he, List.nil_append, hlast]
    simp [Text.split]
  · have hp' : Text.split Octet.slash p.octets = Text.split Octet.slash a ++ [[]] := by
      rw [hp, Text.split_append_sep]
      rfl
    rw [hl, List.append_assoc, List.singleton_append, Text.split_append_sep, List.filter_append,
      hlast, hp']
    simp
  · rw [hl, List.append_assoc, List.singleton_append, Text.split_append_sep, List.filter_append,
      hlast, hp]

theorem getLast_push (p : Path) {n : Octets} (hn : Path.IsName n) :
    (p.push n).octets.getLast? ≠ some Octet.slash := by
  rw [Path.octets_push p hn, List.getLast?_append]
  cases h : n.getLast? with
  | none => exact absurd (List.getLast?_eq_none_iff.mp h) hn.ne_nil
  | some c =>
    rw [Option.some_or, ← h]
    exact hn.getLast_ne

/-- The way of a pushed name is the way of the path, and one step from there. -/
theorem locate_push {d : Disk} (fl : Bool) {p : Path} {n : Octets} (hn : Path.IsName n)
    (hc : checkPath (p.push n) = .ok ()) :
    d.locate fl (p.push n) =
      (d.descend linkLimit (d.startOf p) p.steps).bind fun (k, h) =>
        d.walk fl k false h [n] := by
  have hw := walk_append d fl linkLimit (d.startOf p) (namesOf p.octets) false
    (List.cons_ne_nil n [])
  rw [← descend_filter, filter_namesOf] at hw
  simp only [locate, hc, namesOf_push p hn, startOf_push d p hn, getLast_push p hn, decide_false]
  exact hw

theorem locate_of_check_error {d : Disk} {fl : Bool} {p : Path} {f : DiskFault}
    (h : checkPath p = .error f) : d.locate fl p = .error f := by
  simp only [locate, h]
  rfl

/-! ### Places -/

/-- A path belongs to a place: whoever goes there finds what lies at the place. -/
def At (d : Disk) (p : Path) (l : Location) : Prop :=
  ∀ fl, d.locate fl p = .ok ⟨l, d.entryAt l, false⟩

/-- The way of a pushed name ends at its place in the directory to which the path leads, unless a link
that is followed lies there. -/
theorem locate_push_place {d : Disk} {fl : Bool} {p : Path} {links : Nat} {h : Location}
    {n : Octets} (hn : Path.IsName n) (hl : d.Leads p links h) (hd : d.entryAt h = some .directory)
    (hc : checkPath (p.push n) = .ok ()) (hs : ¬nameLimit < n.length)
    (hk : fl = true → ∀ t, d.entryAt (h ++ [n]) ≠ some (.link t)) :
    d.locate fl (p.push n) = .ok ⟨h ++ [n], d.entryAt (h ++ [n]), false⟩ := by
  have hen : IsEntryName n := ⟨hn.ne_current, hn.ne_parent⟩
  rw [locate_push fl hn hc, leads_iff.mp hl]
  simp only [Except.bind]
  cases he : d.entryAt (h ++ [n]) with
  | none => rw [walk_missing hen hs he, if_pos ⟨rfl, (hasDir_iff d h).mpr hd⟩]
  | some e =>
    cases e with
    | directory =>
      rw [walk_directory hen hs he, walk_nil, if_pos ((hasDir_iff d _).mpr he)]
    | file bytes => rw [walk_file hen hs he, if_pos rfl]
    | link t =>
      have hstay : fl = false := Bool.eq_false_iff.mpr fun h0 => hk h0 t he
      cases links with
      | zero => rw [walk_noLink hen hs he, if_pos (by simp [hstay])]
      | succ links => rw [walk_link hen hs he, if_pos (by simp [hstay])]

/-- A pushed name belongs to its place in the directory to which the path leads, unless a link lies
there. -/
theorem at_push {d : Disk} {p : Path} {links : Nat} {h : Location} {n : Octets}
    (hn : Path.IsName n) (hl : d.Leads p links h) (hd : d.entryAt h = some .directory)
    (hc : checkPath (p.push n) = .ok ()) (hs : ¬nameLimit < n.length)
    (hk : ∀ t, d.entryAt (h ++ [n]) ≠ some (.link t)) : d.At (p.push n) (h ++ [n]) :=
  fun _ => locate_push_place hn hl hd hc hs fun _ => hk

theorem locate_push_long {d : Disk} {fl : Bool} {p : Path} {links : Nat} {h : Location}
    {n : Octets} (hn : Path.IsName n) (hl : d.Leads p links h)
    (hc : checkPath (p.push n) = .ok ()) (hs : nameLimit < n.length) :
    d.locate fl (p.push n) = .error .nameTooLong := by
  rw [locate_push fl hn hc, leads_iff.mp hl]
  exact walk_long ⟨hn.ne_current, hn.ne_parent⟩ hs

namespace At

variable {d : Disk} {p : Path} {l : Location}

theorem find_some (h : d.At p l) {e : Entry} (he : d.entryAt l = some e) (fl : Bool) :
    d.find fl p = .ok (l, e) := by
  simp [find, h fl, he, bind, Except.bind, pure, Except.pure]

theorem find_none (h : d.At p l) (he : d.entryAt l = none) (fl : Bool) :
    d.find fl p = .error .notFound := by
  simp only [find, h fl, he, bind, Except.bind]
  rfl

theorem write_ok (h : d.At p l) (he : d.entryAt l ≠ some .directory) (b : ByteArray) :
    d.write p b = .ok (d.put l (.file b)) := by
  have hk : (d.entryAt l).map Entry.kind ≠ some .directory := by
    cases hc : d.entryAt l with
    | none => simp
    | some e => cases e <;> simp_all [Entry.kind]
  simp [write, h true, Spot.kind?, hk, bind, Except.bind, pure, Except.pure]

theorem rename_dir (h : d.At p l) {b : ByteArray} (he : d.entryAt l = some (.file b)) {q : Path}
    {m : Location} (hq : d.At q m) (hm : d.entryAt m = some .directory) :
    d.rename p q = .error .isDirectory := by
  simp [rename, h.find_some he, hq false, hm, Spot.kind?, Entry.kind, bind, Except.bind, throw,
    throwThe, MonadExceptOf.throw]

theorem rename_ok (h : d.At p l) {b : ByteArray} (he : d.entryAt l = some (.file b)) {q : Path}
    {m : Location} (hq : d.At q m) (hm : d.entryAt m ≠ some .directory) (hne : m ≠ l) :
    d.rename p q = .ok ((d.erase l).put m (.file b)) := by
  have hk : (d.entryAt m).map Entry.kind ≠ some .directory := by
    cases hc : d.entryAt m with
    | none => simp
    | some e => cases e <;> simp_all [Entry.kind]
  simp [rename, h.find_some he, hq false, Spot.kind?, hk, hne, Entry.kind, bind, Except.bind, pure,
    Except.pure]

theorem rename_error (h : d.At p l) {b : ByteArray} (he : d.entryAt l = some (.file b)) {q : Path}
    {f : DiskFault} (hq : d.locate false q = .error f) : d.rename p q = .error f := by
  simp [rename, h.find_some he, hq, bind, Except.bind]

theorem removeFile_file (h : d.At p l) {b : ByteArray} (he : d.entryAt l = some (.file b)) :
    d.removeFile p = .ok (d.erase l) := by
  simp [removeFile, h.find_some he, bind, Except.bind, pure, Except.pure]

end At

theorem write_of_locate_error {d : Disk} {p : Path} {f : DiskFault}
    (h : d.locate true p = .error f) (b : ByteArray) : d.write p b = .error f := by
  simp [write, h, bind, Except.bind]

theorem status_of_locate_error {d : Disk} {p : Path} {f : DiskFault}
    (h : d.locate true p = .error f) : d.status p = .error f := by
  simp [status, find, h, bind, Except.bind]

end ClassCensus.Disk
