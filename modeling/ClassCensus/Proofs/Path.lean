import ClassCensus.Disk.Operation

/-!
# Paths and their steps

The steps of a path are its names without those that stay where they are. A path with one more name
has one more step (`Path.steps_push`), and a path has the steps of its parent and one more
(`Path.steps_of_parent`). Pushing a name and asking for the parent, the file name or another
extension of the result answers as one would expect (`Path.parent_push`, `Path.fileName_push`,
`Path.withExtension_push`).
-/

namespace ClassCensus

/-! ### Splitting -/

namespace Text

variable {α : Type}

/-- A list is cut in one way at the first element that is not of a kind. -/
theorem append_inj_of_kind {P : α → Prop} {a b s t : List α} (ha : ∀ x ∈ a, P x)
    (hb : ∀ x ∈ b, P x) (hs : ∀ x ∈ s.head?, ¬P x) (ht : ∀ x ∈ t.head?, ¬P x)
    (h : a ++ s = b ++ t) : a = b ∧ s = t := by
  induction a generalizing b with
  | nil =>
    cases b with
    | nil => exact ⟨rfl, h⟩
    | cons y b =>
      have hy := hb y (List.mem_cons_self ..)
      exact absurd hy (hs y (by rw [← List.nil_append s, h]; rfl))
  | cons x a ih =>
    have hx := ha x (List.mem_cons_self ..)
    cases b with
    | nil => exact absurd hx (ht x (by rw [← List.nil_append t, ← h]; rfl))
    | cons y b =>
      obtain ⟨rfl, hrest⟩ := List.cons.inj h
      obtain ⟨rfl, rfl⟩ := ih (fun x hx => ha x (List.mem_cons_of_mem _ hx))
        (fun x hx => hb x (List.mem_cons_of_mem _ hx)) hrest
      exact ⟨rfl, rfl⟩

/-- Two lists are cut in one way before an element that the first parts do not have. -/
theorem append_inj_of_head? {k : α} {a b s t : List α} (ha : k ∉ a) (hb : k ∉ b)
    (hs : ∀ x ∈ s.head?, x = k) (ht : ∀ x ∈ t.head?, x = k) (h : a ++ s = b ++ t) :
    a = b ∧ s = t :=
  append_inj_of_kind (P := (· ≠ k)) (fun _ hx => ne_of_mem_of_not_mem hx ha)
    (fun _ hx => ne_of_mem_of_not_mem hx hb) (fun x hx hne => hne (hs x hx))
    (fun x hx hne => hne (ht x hx)) h

/-- A list is cut in one way at the first place where a separator stands. -/
theorem append_sep_inj {sep : α} {a b s t : List α} (ha : sep ∉ a) (hb : sep ∉ b)
    (h : a ++ sep :: s = b ++ sep :: t) : a = b ∧ s = t := by
  have hcut := append_inj_of_head? ha hb (by simp) (by simp) h
  exact ⟨hcut.1, (List.cons.inj hcut.2).2⟩

theorem join_append (sep : α) {s t : List (List α)} (ha : s ≠ []) (hb : t ≠ []) :
    join [sep] (s ++ t) = join [sep] s ++ sep :: join [sep] t := by
  induction s with
  | nil => exact absurd rfl ha
  | cons a s ih =>
    cases s with
    | nil =>
      cases t with
      | nil => exact absurd rfl hb
      | cons b t => simp [join]
    | cons a2 s =>
      have h := ih (by simp)
      simp only [List.cons_append, join] at h ⊢
      rw [h]
      simp

theorem join_concat_append (sep : α) (as : List (List α)) (x y : List α) :
    join [sep] (as ++ [x]) ++ y = join [sep] (as ++ [x ++ y]) := by
  by_cases h : as = []
  · simp [h, join]
  · rw [join_append sep h (by simp), join_append sep h (by simp), List.append_assoc]
    rfl

theorem mem_join {sep c : α} {pieces : List (List α)} (h : c ∈ join [sep] pieces) :
    c = sep ∨ ∃ piece ∈ pieces, c ∈ piece := by
  induction pieces with
  | nil => cases h
  | cons piece rest ih =>
    cases rest with
    | nil => exact .inr ⟨piece, List.mem_cons_self .., h⟩
    | cons next rest =>
      rw [join, List.append_assoc, List.mem_append, List.mem_append, List.mem_singleton] at h
      rcases h with h | h | h
      · exact .inr ⟨piece, List.mem_cons_self .., h⟩
      · exact .inl h
      · rcases ih h with h | ⟨piece', hpiece', h⟩
        · exact .inl h
        · exact .inr ⟨piece', List.mem_cons_of_mem _ hpiece', h⟩

theorem head?_join {sep x : List α} {xs : List (List α)} (h : x ≠ []) :
    (join sep (x :: xs)).head? = x.head? := by
  obtain ⟨c, cs, rfl⟩ := List.exists_cons_of_ne_nil h
  cases xs <;> simp [join]

theorem join_isPrefix (sep : α) {as bs : List (List α)} (h : as <+: bs) :
    join [sep] as <+: join [sep] bs := by
  obtain ⟨rest, rfl⟩ := h
  by_cases ha : as = []
  · subst ha
    exact List.nil_prefix
  · by_cases hr : rest = []
    · simp [hr]
    · rw [join_append sep ha hr]
      exact List.prefix_append ..

section Split

variable [DecidableEq α] (sep : α)

theorem split_append_sep (a b : List α) :
    split sep (a ++ sep :: b) = split sep a ++ split sep b := by
  induction a with
  | nil => simp [split]
  | cons c a ih =>
    by_cases hc : c = sep
    · simp [split, hc, ih]
    · cases h : split sep a with
      | nil => exact absurd h (split_ne_nil sep a)
      | cons piece rest => simp [split, hc, ih, h]

theorem split_of_not_mem {a : List α} (h : sep ∉ a) : split sep a = [a] := by
  induction a with
  | nil => rfl
  | cons c a ih =>
    have hc : c ≠ sep := fun e => h (e ▸ List.mem_cons_self ..)
    have ha : sep ∉ a := fun e => h (List.mem_cons_of_mem _ e)
    simp [split, hc, ih ha]

theorem not_mem_of_mem_split {cs piece : List α} (h : piece ∈ split sep cs) : sep ∉ piece := by
  induction cs generalizing piece with
  | nil =>
    simp only [split, List.mem_singleton] at h
    simp [h]
  | cons c cs ih =>
    simp only [split] at h
    by_cases hc : c = sep
    · rw [if_pos hc, List.mem_cons] at h
      rcases h with rfl | h
      · simp
      · exact ih h
    · rw [if_neg hc] at h
      cases hs : split sep cs with
      | nil => exact absurd hs (split_ne_nil sep cs)
      | cons first rest =>
        rw [hs] at h ih
        rcases List.mem_cons.mp h with rfl | h
        · have hf := ih (List.mem_cons_self ..)
          simp [Ne.symm hc, hf]
        · exact ih (List.mem_cons_of_mem _ h)

theorem split_join {pieces : List (List α)} (hne : pieces ≠ []) (h : ∀ p ∈ pieces, sep ∉ p) :
    split sep (join [sep] pieces) = pieces := by
  induction pieces with
  | nil => exact absurd rfl hne
  | cons p rest ih =>
    have hp := split_of_not_mem sep (h p (List.mem_cons_self ..))
    cases rest with
    | nil => simpa [join] using hp
    | cons q rest =>
      have hrest := ih (by simp) fun x hx => h x (List.mem_cons_of_mem _ hx)
      have hjoin : join [sep] (p :: q :: rest) = p ++ sep :: join [sep] (q :: rest) := by
        simp [join]
      rw [hjoin, split_append_sep, hp, hrest]
      rfl

/-- A string is its pieces, joined again. -/
theorem join_splitString (sep : Char) (s : String) :
    join [sep] ((splitString sep s).map String.toList) = s.toList := by
  have hid : String.toList ∘ String.ofList = id := by
    funext cs
    exact String.toList_ofList
  rw [splitString, List.map_map, hid, List.map_id, join_split]

end Split

end Text

/-! ### Idle segments -/

theorem dropIdle_isPrefix (s : List Octets) : dropIdle s <+: s := by
  rw [dropIdle, ← List.reverse_suffix, List.reverse_reverse]
  exact List.dropWhile_suffix _

theorem filter_dropIdle (s : List Octets) :
    (dropIdle s).filter (fun x => !isIdle x) = s.filter fun x => !isIdle x := by
  have key : ∀ t : List Octets,
      (t.dropWhile isIdle).filter (fun x => !isIdle x) = t.filter fun x => !isIdle x := by
    intro t
    induction t with
    | nil => rfl
    | cons x t ih =>
      by_cases hx : isIdle x = true
      · simp [hx, ih]
      · simp [hx]
  rw [dropIdle, List.filter_reverse, key, List.filter_reverse, List.reverse_reverse]

theorem dropIdle_concat (s : List Octets) {x : Octets} (hx : isIdle x = false) :
    dropIdle (s ++ [x]) = s ++ [x] := by
  simp [dropIdle, hx]

theorem dropIdle_concat_idle (s : List Octets) {x : Octets} (hx : isIdle x = true) :
    dropIdle (s ++ [x]) = dropIdle s := by
  simp [dropIdle, hx]

theorem isIdle_of_dropIdle_concat {s r : List Octets} {x : Octets}
    (h : dropIdle s = r ++ [x]) : isIdle x = false := by
  have hx : (s.reverse.dropWhile isIdle).head? = some x := by
    have := congrArg List.reverse h
    simp only [dropIdle, List.reverse_reverse, List.reverse_append, List.reverse_cons,
      List.reverse_nil, List.nil_append, List.singleton_append] at this
    simp [this]
  have := List.head?_dropWhile_not isIdle s.reverse
  rw [hx] at this
  simpa using this

namespace Path

/-! ### Segments -/

theorem segments_root {p : Path} {t : Octets} (h : p.octets = Octet.slash :: t) :
    p.segments = (.root, Text.split Octet.slash t) := by
  simp [segments, h]

theorem segments_current {p : Path} (h : p.octets = [Octet.dot]) : p.segments = (.current, []) := by
  simp [segments, h]

theorem segments_below {p : Path} {t : Octets} (h : p.octets = Octet.dot :: Octet.slash :: t) :
    p.segments = (.current, [] :: Text.split Octet.slash t) := by
  simp [segments, h, Text.afterPrefix?]

theorem segments_none {p : Path} (h1 : p.octets.head? ≠ some Octet.slash)
    (h2 : p.octets ≠ [Octet.dot]) (h3 : ∀ rest, p.octets ≠ Octet.dot :: Octet.slash :: rest) :
    p.segments = (.none, Text.split Octet.slash p.octets) := by
  have hprefix : Text.afterPrefix? [Octet.dot, Octet.slash] p.octets = none := by
    rw [Option.eq_none_iff_forall_ne_some]
    intro rest hrest
    exact h3 rest (Text.afterPrefix?_eq_some.mp hrest)
  rw [segments, if_neg h1, if_neg h2, hprefix]

/-- The form of a path by its first bytes. -/
inductive Form (cs : Octets) : Prop where
  | root (rest : Octets) (octets : cs = Octet.slash :: rest)
  | current (octets : cs = [Octet.dot])
  | below (rest : Octets) (octets : cs = Octet.dot :: Octet.slash :: rest)
  | none (root : cs.head? ≠ some Octet.slash) (current : cs ≠ [Octet.dot])
      (below : ∀ rest, cs ≠ Octet.dot :: Octet.slash :: rest)

theorem form (cs : Octets) : Form cs := by
  by_cases h1 : cs.head? = some Octet.slash
  · obtain ⟨rest, h⟩ := List.head?_eq_some_iff.mp h1
    exact .root rest h
  · by_cases h2 : cs = [Octet.dot]
    · exact .current h2
    · by_cases h3 : ∃ rest, cs = Octet.dot :: Octet.slash :: rest
      · obtain ⟨rest, h⟩ := h3
        exact .below rest h
      · exact .none h1 h2 fun rest h => h3 ⟨rest, h⟩

/-- Segments that can follow the beginning of a path. -/
structure Fits (head : PathHead) (segments : List Octets) : Prop where
  plain : ∀ s ∈ segments, Octet.slash ∉ s
  current : head = .current → segments = [] ∨ ∃ rest, segments = [] :: rest
  none : head = .none → ∀ rest, segments = [] :: rest → rest = []

theorem Fits.of_isPrefix {head : PathHead} {s t : List Octets} (h : Fits head t) (hp : s <+: t) :
    Fits head s := by
  obtain ⟨rest, rfl⟩ := hp
  refine ⟨fun x hx => h.plain x (List.mem_append_left _ hx), ?_, ?_⟩
  · intro hh
    cases s with
    | nil => exact .inl rfl
    | cons a s =>
      rcases h.current hh with h0 | ⟨r, h0⟩
      · simp at h0
      · simp only [List.cons_append, List.cons.injEq] at h0
        exact .inr ⟨s, by rw [h0.1]⟩
  · rintro hh r rfl
    have := h.none hh (r ++ rest) (by simp)
    exact (List.append_eq_nil_iff.mp this).1

theorem fits_segments (p : Path) : Fits p.segments.1 p.segments.2 := by
  cases form p.octets with
  | root rest hc =>
    rw [segments_root hc]
    exact ⟨fun s h => Text.not_mem_of_mem_split Octet.slash h, by simp, by simp⟩
  | current hc =>
    rw [segments_current hc]
    exact ⟨by simp, by simp, by simp⟩
  | below rest hc =>
    rw [segments_below hc]
    refine ⟨?_, by simp, by simp⟩
    intro s h
    rcases List.mem_cons.mp h with rfl | h
    · simp
    · exact Text.not_mem_of_mem_split Octet.slash h
  | none h1 h2 h3 =>
    rw [segments_none h1 h2 h3]
    refine ⟨fun s h => Text.not_mem_of_mem_split Octet.slash h, by simp, ?_⟩
    intro _ rest hrest
    cases hc : p.octets with
    | nil =>
      simp only [hc, Text.split, List.cons.injEq] at hrest
      exact hrest.2.symm
    | cons c cs =>
      have hne : c ≠ Octet.slash := by
        rintro rfl
        simp [hc] at h1
      simp only [hc, Text.split, if_neg hne] at hrest
      split at hrest <;> simp at hrest

/-- A path is its beginning and its segments. -/
theorem ofSegments_segments (p : Path) : ofSegments p.segments.1 p.segments.2 = p := by
  have key : p.segments.1.octets ++ Text.join [Octet.slash] p.segments.2 = p.octets := by
    cases form p.octets with
    | root rest hc => simp [segments_root hc, hc, PathHead.octets, Text.join_split]
    | current hc => simp [segments_current hc, hc, PathHead.octets, Text.join]
    | below rest hc =>
      rw [segments_below hc, hc]
      have h := Text.join_append Octet.slash (s := [[]]) (by simp)
        (Text.split_ne_nil Octet.slash rest)
      simp only [List.singleton_append] at h
      simp [h, PathHead.octets, Text.join, Text.join_split]
    | none h1 h2 h3 => simp [segments_none h1 h2 h3, PathHead.octets, Text.join_split]
  rw [ofSegments, key]

theorem octets_inj {p q : Path} : p.octets = q.octets ↔ p = q := by
  cases p
  cases q
  exact ⟨congrArg Path.mk, congrArg Path.octets⟩

theorem octets_ofSegments (head : PathHead) (segments : List Octets) :
    (ofSegments head segments).octets = head.octets ++ Text.join [Octet.slash] segments := by
  simp [ofSegments]

theorem octets_eq (p : Path) :
    p.octets = p.segments.1.octets ++ Text.join [Octet.slash] p.segments.2 := by
  rw [← octets_ofSegments, ofSegments_segments]

/-! ### Steps -/

/-- The names of a path without those that stay where they are. -/
def steps (p : Path) : List Octets := (Text.split Octet.slash p.octets).filter fun s => !isIdle s

theorem steps_of_empty {p : Path} (h : p.octets = []) : p.steps = [] := by
  simp [steps, h, Text.split, isIdle]

theorem steps_ofSegments {head : PathHead} {segments : List Octets}
    (h : Fits head segments) :
    (ofSegments head segments).steps =
      (segments.filter fun s => !isIdle s) := by
  have hjoin :
      (Text.split Octet.slash (Text.join [Octet.slash] segments)).filter (fun s => !isIdle s) =
        segments.filter fun s => !isIdle s := by
    by_cases hs : segments = []
    · subst hs
      rfl
    · rw [Text.split_join Octet.slash hs h.plain]
  rw [steps, octets_ofSegments]
  cases head with
  | root => simpa [PathHead.octets, Text.split, isIdle] using hjoin
  | none => simpa [PathHead.octets] using hjoin
  | current =>
    rcases h.current rfl with rfl | ⟨rest, rfl⟩
    · rfl
    · by_cases hr : rest = []
      · subst hr
        rfl
      · have hrest : ∀ s ∈ rest, Octet.slash ∉ s := fun s hs =>
          h.plain s (List.mem_cons_of_mem _ hs)
        have hwritten : PathHead.current.octets ++ Text.join [Octet.slash] ([] :: rest) =
            [Octet.dot] ++ Octet.slash :: Text.join [Octet.slash] rest := by
          have := Text.join_append Octet.slash (s := [[]]) (by simp) hr
          simp only [List.singleton_append] at this
          simp [this, PathHead.octets, Text.join]
        rw [hwritten, Text.split_append_sep, Text.split_join Octet.slash hr hrest]
        rfl

theorem steps_eq_segments (p : Path) :
    p.steps = (p.segments.2.filter fun s => !isIdle s) := by
  rw [← steps_ofSegments p.fits_segments, ofSegments_segments]

/-- Whether a path begins at the root, told by its segments. -/
theorem head_ofSegments {head : PathHead} {segments : List Octets}
    (h : Fits head segments) :
    (ofSegments head segments).octets.head? = some Octet.slash ↔ head = .root := by
  rw [octets_ofSegments]
  cases head with
  | root => simp [PathHead.octets]
  | current => simp [PathHead.octets]
  | none =>
    simp only [PathHead.octets, List.nil_append, reduceCtorEq, iff_false]
    cases segments with
    | nil => simp [Text.join]
    | cons s rest =>
      have hs : Octet.slash ∉ s := h.plain s (List.mem_cons_self ..)
      cases s with
      | nil =>
        rw [h.none rfl rest rfl]
        simp [Text.join]
      | cons c s =>
        have hc : c ≠ Octet.slash := fun e => hs (e ▸ List.mem_cons_self ..)
        cases rest <;> simp [Text.join, hc]

theorem head_octets (p : Path) :
    p.octets.head? = some Octet.slash ↔ p.segments.1 = .root := by
  have h := head_ofSegments p.fits_segments
  rwa [ofSegments_segments] at h

/-! ### Pushing a name -/

/-- A name of an entry of a directory. -/
structure IsName (n : Octets) : Prop where
  ne_nil : n ≠ []
  ne_current : n ≠ [Octet.dot]
  ne_parent : n ≠ [Octet.dot, Octet.dot]
  plain : Octet.slash ∉ n

namespace IsName

variable {n : Octets}

/-- The names that stay where they are or go back are shorter than this. -/
theorem of_long (hlong : 2 < n.length) (hplain : Octet.slash ∉ n) : IsName n := by
  refine ⟨?_, ?_, ?_, hplain⟩
  all_goals
    rintro rfl
    exact absurd hlong (by decide)

theorem not_idle (hn : IsName n) : isIdle n = false := by
  simp [isIdle, hn.ne_nil, hn.ne_current]

theorem split_eq (hn : IsName n) : Text.split Octet.slash n = [n] :=
  Text.split_of_not_mem Octet.slash hn.plain

theorem head_ne (hn : IsName n) : n.head? ≠ some Octet.slash := by
  intro h
  exact hn.plain (List.mem_of_mem_head? h)

theorem getLast_ne (hn : IsName n) : n.getLast? ≠ some Octet.slash := by
  intro h
  exact hn.plain (List.mem_of_getLast? h)

end IsName

theorem isName_withExtension {stem ext : Octets} (hstem : Octet.slash ∉ stem)
    (hext : Octet.slash ∉ ext) (hlong : 2 ≤ ext.length) : IsName (stem ++ Octet.dot :: ext) := by
  refine .of_long ?_ (by simp [hstem, hext])
  rw [List.length_append, List.length_cons]
  omega

/-- What stands before a name that is pushed to a path. -/
def lead (p : Path) : Octets :=
  if p.octets = [] ∨ p.octets.getLast? = some Octet.slash then p.octets
  else p.octets ++ [Octet.slash]

theorem octets_push_of_head (p : Path) {part : Octets} (h : part.head? ≠ some Octet.slash) :
    (p.push part).octets = p.lead ++ part := by
  have habs : (Path.mk part).isAbsolute = false := by
    rw [isAbsolute, decide_eq_false_iff_not, ← head_octets]
    exact h
  simp only [push, habs, lead, Bool.false_eq_true, if_false]
  split <;> simp

theorem octets_push (p : Path) {n : Octets} (hn : IsName n) :
    (p.push n).octets = p.lead ++ n := p.octets_push_of_head hn.head_ne

theorem octets_push_ne (p : Path) {n : Octets} (hn : IsName n) : (p.push n).octets ≠ [] := by
  rw [octets_push p hn]
  exact fun h => hn.ne_nil (List.append_eq_nil_iff.mp h).2

theorem size_push (p : Path) {n : Octets} (hn : IsName n) :
    (p.push n).octets.length = p.lead.length + n.length := by
  rw [octets_push p hn, List.length_append]

/-- What stands before a pushed name is empty or ends with a slash. -/
theorem lead_cases (p : Path) :
    (p.octets = [] ∧ p.lead = []) ∨
      ∃ a, p.lead = a ++ [Octet.slash] ∧ (p.octets = a ++ [Octet.slash] ∨
        a ≠ [] ∧ p.octets = a ∧ a.getLast? ≠ some Octet.slash) := by
  by_cases he : p.octets = []
  · exact .inl ⟨he, by simp [lead, he]⟩
  · by_cases hl : p.octets.getLast? = some Octet.slash
    · obtain ⟨a, ha⟩ := List.getLast?_eq_some_iff.mp hl
      exact .inr ⟨a, by simp [lead, ha], .inl ha⟩
    · exact .inr ⟨_, by simp [lead, he, hl], .inr ⟨he, rfl, hl⟩⟩

/-- A pushed name is one more step. -/
theorem steps_push (p : Path) {n : Octets} (hn : IsName n) :
    (p.push n).steps = p.steps ++ [n] := by
  have hlast : (Text.split Octet.slash n).filter (fun s => !isIdle s) = [n] := by
    rw [hn.split_eq]
    simp [hn.not_idle]
  rw [steps, octets_push p hn, steps]
  rcases p.lead_cases with ⟨he, hl⟩ | ⟨a, hl, hp | ⟨-, hp, -⟩⟩
  · rw [hl, he, List.nil_append, hlast]
    simp [Text.split, isIdle]
  · have hp' : Text.split Octet.slash p.octets = Text.split Octet.slash a ++ [[]] := by
      rw [hp, Text.split_append_sep]
      rfl
    rw [hl, List.append_assoc, List.singleton_append, Text.split_append_sep, List.filter_append,
      hlast, hp']
    simp [isIdle]
  · rw [hl, List.append_assoc, List.singleton_append, Text.split_append_sep, List.filter_append,
      hlast, hp]

/-- What stands before a slash makes the same segments whatever follows the slash. -/
theorem segments_before_slash (a : Octets) :
    ∃ head s,
      (∀ (q : Path) (t : Octets), q.octets = a ++ Octet.slash :: t →
        q.segments = (head, s ++ Text.split Octet.slash t)) ∧
      ∀ q : Path, a ≠ [] → q.octets = a →
        q.segments.1 = head ∧ dropIdle q.segments.2 = dropIdle s := by
  cases form a with
  | root rest h =>
    subst h
    refine ⟨.root, Text.split Octet.slash rest, ?_, ?_⟩
    · intro q t hq
      rw [segments_root (t := rest ++ Octet.slash :: t) hq, Text.split_append_sep]
    · intro q _ hq
      rw [segments_root hq]
      exact ⟨rfl, rfl⟩
  | current h =>
    subst h
    refine ⟨.current, [[]], ?_, ?_⟩
    · intro q t hq
      rw [segments_below (t := t) hq]
      rfl
    · intro q _ hq
      rw [segments_current hq]
      exact ⟨rfl, rfl⟩
  | below rest h =>
    subst h
    refine ⟨.current, [] :: Text.split Octet.slash rest, ?_, ?_⟩
    · intro q t hq
      rw [segments_below (t := rest ++ Octet.slash :: t) hq, Text.split_append_sep]
      rfl
    · intro q _ hq
      rw [segments_below hq]
      exact ⟨rfl, rfl⟩
  | none h1 h2 h3 =>
    cases a with
    | nil =>
      refine ⟨.root, [], ?_, fun q h => absurd rfl h⟩
      intro q t hq
      rw [segments_root hq]
      rfl
    | cons c cs =>
      refine ⟨.none, Text.split Octet.slash (c :: cs), ?_, ?_⟩
      · intro q t hq
        rw [segments_none, hq, Text.split_append_sep]
        · rw [hq]
          exact h1
        · rw [hq]
          simp
        · intro rest hrest
          rw [hq] at hrest
          cases cs with
          | nil =>
            simp only [List.cons_append, List.cons.injEq] at hrest
            exact h2 (by rw [hrest.1])
          | cons c2 cs =>
            simp only [List.cons_append, List.cons.injEq] at hrest
            exact h3 cs (by rw [hrest.1, hrest.2.1])
      · intro q _ hq
        rw [segments_none (hq ▸ h1) (hq ▸ h2) (hq ▸ h3), hq]
        exact ⟨rfl, rfl⟩

/-- A pushed name is the last segment, after segments that do not depend on it. -/
theorem segments_push (p : Path) :
    ∃ s, (∀ n, IsName n → (p.push n).segments = (p.segments.1, s ++ [n])) ∧
      dropIdle s = dropIdle p.segments.2 := by
  rcases p.lead_cases with ⟨he, hl⟩ | ⟨a, hl, hp⟩
  · refine ⟨[], ?_, by simp [segments, he, Text.afterPrefix?, Text.split, dropIdle, isIdle]⟩
    intro n hn
    have hc : (p.push n).octets = n := by rw [octets_push p hn, hl, List.nil_append]
    have hhead : p.segments.1 = .none := by simp [segments, he, Text.afterPrefix?]
    rw [segments_none, hc, hn.split_eq, hhead, List.nil_append]
    · rw [hc]
      exact hn.head_ne
    · rw [hc]
      exact hn.ne_current
    · intro rest h
      refine hn.plain ?_
      rw [← hc, h]
      simp
  · obtain ⟨head, s, hslash, hself⟩ := segments_before_slash a
    have hpush : ∀ n, IsName n → (p.push n).segments = (head, s ++ [n]) := by
      intro n hn
      rw [hslash (p.push n) n, hn.split_eq]
      rw [octets_push p hn, hl, List.append_assoc, List.singleton_append]
    rcases hp with hp | ⟨ha, hp, -⟩
    · have hseg := hslash p [] hp
      refine ⟨s, fun n hn => by rw [hpush n hn, hseg], ?_⟩
      rw [hseg]
      exact (dropIdle_concat_idle s rfl).symm
    · obtain ⟨hhead, hidle⟩ := hself p ha hp
      exact ⟨s, fun n hn => by rw [hpush n hn, hhead], hidle.symm⟩

/-! ### Parents, file names and extensions -/

/-- A path without idle segments at its end. -/
def trimmed (p : Path) : Path := ofSegments p.segments.1 (dropIdle p.segments.2)

theorem fits_dropIdle (p : Path) : Fits p.segments.1 (dropIdle p.segments.2) :=
  p.fits_segments.of_isPrefix (dropIdle_isPrefix _)

theorem trimmed_isPrefix (p : Path) : p.trimmed.octets <+: p.octets := by
  rw [trimmed, octets_ofSegments, p.octets_eq, List.prefix_append_right_inj]
  exact Text.join_isPrefix Octet.slash (dropIdle_isPrefix _)

@[simp]
theorem steps_trimmed (p : Path) : p.trimmed.steps = p.steps := by
  rw [trimmed, steps_ofSegments p.fits_dropIdle, filter_dropIdle, steps_eq_segments]

theorem head_trimmed (p : Path) :
    p.trimmed.octets.head? = some Octet.slash ↔ p.octets.head? = some Octet.slash := by
  rw [trimmed, head_ofSegments p.fits_dropIdle, head_octets]

theorem parent_push (p : Path) {n : Octets} (hn : IsName n) :
    (p.push n).parent = some p.trimmed := by
  obtain ⟨s, hs, hidle⟩ := p.segments_push
  simp only [parent, hs n hn, dropIdle_concat s hn.not_idle, List.reverse_append,
    List.reverse_cons, List.reverse_nil, List.nil_append, List.singleton_append,
    List.reverse_reverse, hidle, trimmed]

/-- A path that ends with a name has nothing to trim. -/
theorem trimmed_push (p : Path) {n : Octets} (hn : IsName n) : (p.push n).trimmed = p.push n := by
  obtain ⟨s, hs, -⟩ := p.segments_push
  have h := ofSegments_segments (p.push n)
  rw [trimmed, hs n hn] at *
  simpa only [dropIdle_concat s hn.not_idle] using h

theorem fileName_push (p : Path) {n : Octets} (hn : IsName n) : (p.push n).fileName = some n := by
  obtain ⟨s, hs, -⟩ := p.segments_push
  have hlast : (p.push n).components.getLast? = some (.name n) := by
    simp [components, hs n hn, List.filter_append, hn.not_idle, componentOf, hn.ne_parent]
  simp [fileName, hlast]

/-- A name without dots is its own stem. -/
theorem stem_of_not_mem {cs : Octets} (h : Octet.dot ∉ cs) : stem cs = cs := by
  simp [stem, Text.cutLast_eq_none.mpr h]

theorem withExtension_push (p : Path) {n ext : Octets} (hn : IsName n) (hdot : Octet.dot ∉ n)
    (hne : IsName (n ++ Octet.dot :: ext)) :
    (p.push n).withExtension ext = p.push (n ++ Octet.dot :: ext) := by
  obtain ⟨s, hs, -⟩ := p.segments_push
  have h := ofSegments_segments (p.push (n ++ Octet.dot :: ext))
  rw [hs _ hne] at h
  simp only [withExtension, hs n hn, dropIdle_concat s hn.not_idle, List.reverse_append,
    List.reverse_cons, List.reverse_nil, List.nil_append, List.singleton_append,
    List.reverse_reverse, hn.ne_parent, if_false, stem_of_not_mem hdot]
  exact h

/-- The steps of a path are those of its parent and one more. -/
theorem steps_of_parent {p q : Path} (h : p.parent = some q) :
    q.octets = [] ∨ (q.octets.head? = some Octet.slash ↔ p.octets.head? = some Octet.slash) ∧
      ∃ name, p.steps = q.steps ++ [name] := by
  simp only [parent] at h
  split at h
  · rename_i last rest hrev
    have hidle : dropIdle p.segments.2 = rest.reverse ++ [last] := by
      have := congrArg List.reverse hrev
      simpa using this
    have hpre : dropIdle rest.reverse <+: p.segments.2 :=
      ((dropIdle_isPrefix _).trans (by rw [hidle]; exact List.prefix_append ..)).trans
        (dropIdle_isPrefix p.segments.2)
    have hfits := p.fits_segments.of_isPrefix hpre
    cases h
    refine .inr ⟨?_, last, ?_⟩
    · rw [head_ofSegments hfits, head_octets]
    · rw [steps_eq_segments p, ← filter_dropIdle, hidle, steps_ofSegments hfits, filter_dropIdle,
        List.filter_append]
      have hl : isIdle last = false := isIdle_of_dropIdle_concat hidle
      simp [hl]
  · split at h
    · cases h
      exact .inl rfl
    · cases h

theorem parent_mem_components (p : Path) :
    Component.parent ∈ p.components ↔ [Octet.dot, Octet.dot] ∈ p.steps := by
  have hhead : Component.parent ∉ p.segments.1.components := by
    cases p.segments.1 <;> simp [PathHead.components]
  have hcomp : ∀ s : Octets, componentOf s = Component.parent ↔ s = [Octet.dot, Octet.dot] := by
    intro s
    by_cases h : s = [Octet.dot, Octet.dot] <;> simp [componentOf, h]
  simp only [components, List.mem_append, hhead, false_or, List.mem_map, steps_eq_segments, hcomp,
    exists_eq_right]

end Path

end ClassCensus
