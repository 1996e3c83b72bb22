import ClassCensus.Proofs.Disk.Removal
import Mathlib.Data.List.Induction

/-!
# The ground below a root

A root that leads to a directory of a tree without links below it is a ground: names that are pushed
to the root lead straight down (`Ground.leads_pushAll`), so that different names are different
places.
-/

namespace ClassCensus

/-- A path with further names. -/
def Path.pushAll (p : Path) (names : List Octets) : Path := names.foldl Path.push p

namespace Path

theorem pushAll_concat (p : Path) (names : List Octets) (n : Octets) :
    p.pushAll (names ++ [n]) = (p.pushAll names).push n := by
  simp [pushAll]

theorem pushAll_append (p : Path) (names others : List Octets) :
    p.pushAll (names ++ others) = (p.pushAll names).pushAll others := List.foldl_append

theorem steps_pushAll (p : Path) {names : List Octets} (h : ∀ n ∈ names, IsName n) :
    (p.pushAll names).steps = p.steps ++ names := by
  induction names using List.reverseRecOn with
  | nil => simp [pushAll]
  | append_singleton names n ih =>
    have hn : IsName n := h n (by simp)
    rw [pushAll_concat, steps_push _ hn, ih fun x hx => h x (by simp [hx]), List.append_assoc]

theorem components_push (p : Path) {n : Octets} (hn : IsName n) :
    (p.push n).components = p.components ++ [.name n] := by
  obtain ⟨s, hs, hidle⟩ := p.segments_push
  have hfilter : s.filter (fun x => !isIdle x) = p.segments.2.filter fun x => !isIdle x := by
    rw [← filter_dropIdle, hidle, filter_dropIdle]
  have hname : componentOf n = .name n := by
    rw [componentOf, if_neg hn.ne_parent]
  simp only [components, hs n hn, List.filter_append, hfilter, List.map_append,
    List.append_assoc]
  simp [hn.not_idle, hname]

theorem components_pushAll (p : Path) {names : List Octets} (h : ∀ n ∈ names, IsName n) :
    (p.pushAll names).components = p.components ++ names.map .name := by
  induction names using List.reverseRecOn with
  | nil => simp [pushAll]
  | append_singleton names n ih =>
    have hn : IsName n := h n (by simp)
    rw [pushAll_concat, components_push _ hn, ih fun x hx => h x (by simp [hx]), List.map_append,
      List.append_assoc, List.map_singleton]

theorem lead_push (p : Path) {n : Octets} (hn : IsName n) :
    (p.push n).lead = p.lead ++ (n ++ [Octet.slash]) := by
  unfold lead
  rw [if_neg (by
    rintro (h | h)
    · exact p.octets_push_ne hn h
    · exact Disk.getLast_push p hn h), octets_push p hn, List.append_assoc]
  rfl

/-- Pushed names stand in the text with slashes between them. -/
theorem octets_pushAll_push (p : Path) {names : List Octets} {x : Octets}
    (h : ∀ n ∈ names, IsName n) (hx : IsName x) :
    ((p.pushAll names).push x).octets =
      p.lead ++ Text.join [Octet.slash] (names ++ [x]) := by
  induction names generalizing p with
  | nil => exact octets_push p hx
  | cons n names ih =>
    have hn : IsName n := h n (List.mem_cons_self ..)
    have hrest := ih (p.push n) fun y hy => h y (List.mem_cons_of_mem _ hy)
    have hjoin := Text.join_append Octet.slash (s := [n]) (t := names ++ [x]) (by simp) (by simp)
    rw [lead_push p hn] at hrest
    show (((p.push n).pushAll names).push x).octets = _
    rw [hrest, List.cons_append, List.append_assoc, List.append_assoc]
    exact congrArg _ hjoin.symm

end Path

namespace Disk

theorem startOf_pushAll (d : Disk) (p : Path) {names : List Octets}
    (h : ∀ n ∈ names, Path.IsName n) : d.startOf (p.pushAll names) = d.startOf p := by
  induction names using List.reverseRecOn with
  | nil => rfl
  | append_singleton names n ih =>
    rw [Path.pushAll_concat, startOf_push _ _ (h n (by simp)), ih fun x hx => h x (by simp [hx])]

theorem namesOf_pushAll (p : Path) {names : List Octets} (h : ∀ n ∈ names, Path.IsName n) :
    namesOf (p.pushAll names).octets = namesOf p.octets ++ names := by
  induction names using List.reverseRecOn with
  | nil => simp [Path.pushAll]
  | append_singleton names n ih =>
    rw [Path.pushAll_concat, namesOf_push _ (h n (by simp)), ih fun x hx => h x (by simp [hx]),
      List.append_assoc]

theorem isPrefix_pushAll (p : Path) {names : List Octets} (h : ∀ n ∈ names, Path.IsName n) :
    p.octets <+: (p.pushAll names).octets := by
  induction names using List.reverseRecOn with
  | nil => exact List.prefix_rfl
  | append_singleton names n ih =>
    rw [Path.pushAll_concat]
    exact (ih fun x hx => h x (by simp [hx])).trans (isPrefix_push _ (h n (by simp)))

theorem mem_pushAll {p : Path} {names : List Octets} (h : ∀ n ∈ names, Path.IsName n) {s : Octets}
    (hs : s ∈ names) {c : UInt8} (hc : c ∈ s) : c ∈ (p.pushAll names).octets := by
  induction names using List.reverseRecOn with
  | nil => cases hs
  | append_singleton names n ih =>
    have hn : Path.IsName n := h n (by simp)
    rw [Path.pushAll_concat]
    rcases List.mem_append.mp hs with hs | hs
    · exact (isPrefix_push _ hn).subset (ih (fun x hx => h x (by simp [hx])) hs)
    · obtain rfl := List.mem_singleton.mp hs
      rw [Path.octets_push _ hn]
      exact List.mem_append_right _ hc

theorem entry_of_walk {d : Disk} {fl : Bool} {links : Nat} {slash : Bool} {here : Location}
    {name : Octets} {rest : List Octets} {spot : Spot} {e : Entry} (hn : IsEntryName name)
    (h : d.walk fl links slash here (name :: rest) = .ok spot) (he : spot.entry = some e) :
    d.entryAt (here ++ [name]) ≠ none := by
  intro h0
  by_cases hl : nameLimit < name.length
  · rw [walk_long hn hl] at h
    cases h
  · rw [walk_missing hn hl h0] at h
    split at h
    · cases h
      cases he
    · cases h

/-- Where something is found below a root, the root leads to a directory that is not empty. -/
theorem arrives_of_find {d : Disk} (ht : d.IsTree) {root : Path} (hr : root.octets ≠ [])
    {names : List Octets} (hn : ∀ n ∈ names, Path.IsName n) {x : Octets} (hx : Path.IsName x)
    {fl : Bool} {r : Location × Entry} (h : d.find fl ((root.pushAll names).push x) = .ok r) :
    checkPath root = .ok () ∧ ∃ k top, d.Leads root k top ∧ d.entryAt top = some .directory ∧
      ∃ n, d.entryAt (top ++ [n]) ≠ none := by
  obtain ⟨hc, spot, hw, -, he⟩ := find_ok h
  have hall : ∀ n ∈ names ++ [x], Path.IsName n := by
    intro n hmem
    rcases List.mem_append.mp hmem with h0 | h0
    · exact hn n h0
    · rwa [List.mem_singleton.mp h0]
  rw [← Path.pushAll_concat] at hw hc
  refine ⟨checkPath_of_isPrefix (isPrefix_pushAll root hall) hr hc, ?_⟩
  rw [namesOf_pushAll root hall, startOf_pushAll d root hall,
    walk_append d fl linkLimit _ _ _ (by simp)] at hw
  cases hd : d.descend linkLimit (d.startOf root) (namesOf root.octets) with
  | error f =>
    rw [hd] at hw
    cases hw
  | ok kl =>
    obtain ⟨k, top⟩ := kl
    rw [hd] at hw
    obtain ⟨n, rest, hcons⟩ := List.exists_cons_of_ne_nil (l := names ++ [x]) (by simp)
    have hname : Path.IsName n := hall n (by rw [hcons]; exact List.mem_cons_self ..)
    simp only [Except.bind, hcons] at hw
    have hsome := entry_of_walk ⟨hname.ne_current, hname.ne_parent⟩ hw he
    obtain ⟨e, he⟩ := Option.ne_none_iff_exists'.mp hsome
    exact ⟨k, top, hd, ht.dir_of_below (by simp) he, n, hsome⟩

/-- A root leads to a directory of a tree, and no links lie below it. -/
structure Ground (d : Disk) (root : Path) (links : Nat) (top : Location) : Prop where
  tree : d.IsTree
  leads : d.Leads root links top
  directory : d.entryAt top = some .directory
  noLinks : ∀ rest, rest ≠ [] → ∀ t, d.entryAt (top ++ rest) ≠ some (.link t)

/-- Without links a descent goes straight down, through directories with short names. -/
theorem descend_straight {d : Disk} {links : Nat} {here : Location} {names : List Octets}
    (hn : ∀ n ∈ names, Path.IsName n)
    (hk : ∀ rest, rest ≠ [] → ∀ t, d.entryAt (here ++ rest) ≠ some (.link t))
    {r : Nat × Location} (h : d.descend links here names = .ok r) :
    r = (links, here ++ names) ∧ (names ≠ [] → d.entryAt (here ++ names) = some .directory) ∧
      ∀ n ∈ names, ¬nameLimit < n.length := by
  induction names generalizing here with
  | nil =>
    rw [descend_nil] at h
    simp only [Except.ok.injEq] at h
    simp [← h]
  | cons name rest ih =>
    have hname := hn name (List.mem_cons_self ..)
    have hen : IsEntryName name := ⟨hname.ne_current, hname.ne_parent⟩
    by_cases hl : nameLimit < name.length
    · rw [descend_long hen hl] at h
      cases h
    · cases he : d.entryAt (here ++ [name]) with
      | none =>
        rw [descend_missing hen hl he] at h
        cases h
      | some e =>
        cases e with
        | directory =>
          rw [descend_directory hen hl he] at h
          obtain ⟨hr, hdir, hshort⟩ := ih (fun n hx => hn n (List.mem_cons_of_mem _ hx)) (by
            intro r hr t
            rw [List.append_assoc]
            exact hk ([name] ++ r) (by simp) t) h
          rw [List.append_assoc, List.singleton_append] at hr hdir
          refine ⟨hr, fun _ => ?_, ?_⟩
          · by_cases hr : rest = []
            · rw [hr, he]
            · exact hdir hr
          · intro n hmem
            rcases List.mem_cons.mp hmem with rfl | hmem
            · exact hl
            · exact hshort n hmem
        | file b =>
          rw [descend_file hen hl he] at h
          cases h
        | link t => exact absurd he (hk [name] (by simp) t)

/-- Through directories with short names a descent goes all the way. -/
theorem descend_of_directory {d : Disk} (hd : d.IsTree) {links : Nat} {here : Location}
    {names : List Octets} (hn : ∀ n ∈ names, Path.IsName n)
    (hs : ∀ n ∈ names, ¬nameLimit < n.length)
    (h : names ≠ [] → d.entryAt (here ++ names) = some .directory) :
    d.descend links here names = .ok (links, here ++ names) := by
  induction names generalizing here with
  | nil => rw [descend_nil, List.append_nil]
  | cons name rest ih =>
    have hname := hn name (List.mem_cons_self ..)
    have hen : IsEntryName name := ⟨hname.ne_current, hname.ne_parent⟩
    have hall := h (by simp)
    have hsplit : here ++ name :: rest = (here ++ [name]) ++ rest := by simp
    have he : d.entryAt (here ++ [name]) = some .directory := by
      by_cases hr : rest = []
      · rw [← hall, hr]
      · exact hd.dir_of_below hr (hsplit ▸ hall)
    rw [descend_directory hen (hs name (List.mem_cons_self ..)) he, hsplit]
    exact ih (fun n hx => hn n (List.mem_cons_of_mem _ hx))
      (fun n hx => hs n (List.mem_cons_of_mem _ hx)) fun _ => hsplit ▸ hall

namespace Ground

variable {d d' : Disk} {root : Path} {links : Nat} {top : Location}

theorem of_keepsWays (g : Ground d root links top) (hk : KeepsWays d d') (ht : d'.IsTree)
    (hl : ∀ rest, rest ≠ [] → ∀ t, d'.entryAt (top ++ rest) ≠ some (.link t)) :
    Ground d' root links top :=
  ⟨ht, hk.leads g.leads, hk.directory top g.directory, hl⟩

theorem addsDirs {within : Location → Prop} (g : Ground d root links top)
    (h : AddsDirs within d d') (ht : d'.IsTree) : Ground d' root links top := by
  refine g.of_keepsWays h.keeps.ways ht ?_
  intro rest hr t he
  have h0 := h.entry_of_ne (l := top ++ rest) (by simp [he])
  rw [he] at h0
  exact g.noLinks rest hr t h0.symm

theorem descend_pushAll (g : Ground d root links top) {names : List Octets}
    (hn : ∀ n ∈ names, Path.IsName n) :
    d.descend linkLimit (d.startOf (root.pushAll names)) (root.pushAll names).steps =
      d.descend links top names := by
  rw [startOf_pushAll d root hn, Path.steps_pushAll root hn, descend_append, leads_iff.mp g.leads]
  rfl

/-- Pushed names lead straight down. -/
theorem leads_pushAll (g : Ground d root links top) {names : List Octets}
    (hn : ∀ n ∈ names, Path.IsName n) {k : Nat} {l : Location}
    (h : d.Leads (root.pushAll names) k l) :
    k = links ∧ l = top ++ names ∧ d.entryAt (top ++ names) = some .directory ∧
      ∀ n ∈ names, ¬nameLimit < n.length := by
  rw [leads_iff, g.descend_pushAll hn] at h
  obtain ⟨hr, hdir, hshort⟩ := descend_straight hn g.noLinks h
  cases hr
  refine ⟨rfl, rfl, ?_, hshort⟩
  by_cases hnames : names = []
  · rw [hnames, List.append_nil]
    exact g.directory
  · exact hdir hnames

theorem leads_of_arrives (g : Ground d root links top) {names : List Octets}
    (hn : ∀ n ∈ names, Path.IsName n) (h : d.Arrives (root.pushAll names)) :
    d.Leads (root.pushAll names) links (top ++ names) ∧
      d.entryAt (top ++ names) = some .directory := by
  obtain ⟨k, l, hl, -⟩ := h
  obtain ⟨rfl, rfl, hd, -⟩ := g.leads_pushAll hn hl
  exact ⟨hl, hd⟩

/-- What is found at a pushed name is what lies at its place, if the path can be asked for and its
names are short. -/
theorem find_push_iff (g : Ground d root links top) {names : List Octets} {x : Octets}
    (hn : ∀ n ∈ names, Path.IsName n) (hx : Path.IsName x) {fl : Bool} {r : Location × Entry} :
    d.find fl ((root.pushAll names).push x) = .ok r ↔
      checkPath ((root.pushAll names).push x) = .ok () ∧
        (∀ n ∈ names ++ [x], ¬nameLimit < n.length) ∧
        ∃ e, d.entryAt (top ++ names ++ [x]) = some e ∧ r = (top ++ names ++ [x], e) := by
  have hkey : ∀ t, d.entryAt (top ++ names ++ [x]) ≠ some (.link t) := by
    intro t
    rw [List.append_assoc]
    exact g.noLinks (names ++ [x]) (by simp) t
  constructor
  · intro h
    obtain ⟨hc, spot, hw, -⟩ := find_ok h
    have hloc : d.locate fl ((root.pushAll names).push x) = .ok spot := by
      simp only [locate, hc, bind, Except.bind]
      exact hw
    rw [locate_push fl hx hc] at hloc
    cases hd : d.descend linkLimit (d.startOf (root.pushAll names)) (root.pushAll names).steps with
    | error f =>
      rw [hd] at hloc
      cases hloc
    | ok kl =>
      obtain ⟨k, l⟩ := kl
      have hl : d.Leads (root.pushAll names) k l := leads_iff.mpr hd
      obtain ⟨rfl, rfl, hdir, hshort⟩ := g.leads_pushAll hn hl
      have hlast : ¬nameLimit < x.length := by
        intro h0
        rw [hd] at hloc
        simp only [Except.bind] at hloc
        rw [walk_long ⟨hx.ne_current, hx.ne_parent⟩ h0] at hloc
        cases hloc
      have hat := at_push hx hl hdir hc hlast hkey
      refine ⟨hc, ?_, ?_⟩
      · intro n hmem
        rcases List.mem_append.mp hmem with h0 | h0
        · exact hshort n h0
        · rwa [List.mem_singleton.mp h0]
      · cases he : d.entryAt (top ++ names ++ [x]) with
        | none =>
          rw [hat.find_none he] at h
          cases h
        | some e =>
          rw [hat.find_some he] at h
          cases h
          exact ⟨e, rfl, rfl⟩
  · rintro ⟨hc, hshort, e, he, rfl⟩
    have hdir : d.entryAt (top ++ names) = some .directory := g.tree.dir_of_below (by simp) he
    have hd : d.descend links top names = .ok (links, top ++ names) :=
      descend_of_directory g.tree hn (fun n h0 => hshort n (by simp [h0])) fun _ => hdir
    have hl : d.Leads (root.pushAll names) links (top ++ names) := by
      rw [leads_iff, g.descend_pushAll hn, hd]
    exact (at_push hx hl hdir hc (hshort x (by simp)) hkey).find_some he fl

/-- What is found at a pushed name, or why nothing is found, depends on the entry at its place. -/
theorem find_push_congr (g : Ground d root links top) (g' : Ground d' root links top)
    {names : List Octets} {x : Octets} (hn : ∀ n ∈ names, Path.IsName n) (hx : Path.IsName x)
    (hs : ∀ n ∈ names, ¬nameLimit < n.length)
    (hd : d.entryAt (top ++ names) = some .directory)
    (hd' : d'.entryAt (top ++ names) = some .directory)
    (he : d'.entryAt (top ++ names ++ [x]) = d.entryAt (top ++ names ++ [x])) (fl : Bool) :
    d'.find fl ((root.pushAll names).push x) = d.find fl ((root.pushAll names).push x) := by
  have hleads : ∀ {d : Disk}, Ground d root links top →
      d.entryAt (top ++ names) = some .directory →
      d.Leads (root.pushAll names) links (top ++ names) := by
    intro d g hd
    rw [leads_iff, g.descend_pushAll hn, descend_of_directory g.tree hn hs fun _ => hd]
  have hlocate : d'.locate fl ((root.pushAll names).push x) =
      d.locate fl ((root.pushAll names).push x) := by
    rcases checkPath_cases ((root.pushAll names).push x) with hc | ⟨f, hc⟩
    · by_cases hl : nameLimit < x.length
      · rw [locate_push_long hx (hleads g hd) hc hl, locate_push_long hx (hleads g' hd') hc hl]
      · have hkey : ∀ {d : Disk}, Ground d root links top → ∀ t,
            d.entryAt (top ++ names ++ [x]) ≠ some (.link t) := by
          intro d g t
          rw [List.append_assoc]
          exact g.noLinks (names ++ [x]) (by simp) t
        rw [at_push hx (hleads g hd) hd hc hl (hkey g) fl,
          at_push hx (hleads g' hd') hd' hc hl (hkey g') fl, he]
    · rw [locate_of_check_error hc, locate_of_check_error hc]
  simp only [find, hlocate]

end Ground

end Disk

end ClassCensus
