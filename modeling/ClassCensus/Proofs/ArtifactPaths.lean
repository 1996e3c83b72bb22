import ClassCensus.Proofs.Disk.Ground
import ClassCensus.Proofs.Disk.Retaining
import ClassCensus.Proofs.Generation.Entries
import ClassCensus.Proofs.Generation.Places

/-!
# The layout of artifacts

Where the artifacts of classes lie, as paths. For any root and any class name the dump and the metrics
file are two names in one directory, or both are the path of the class and have no file name
(`ArtifactPaths.ofClass_cases`). They lie below the root unless a segment of the class name begins with a
slash or all of them are empty (`IsInner.ofClass`). Main statement: artifacts of well-formed class names
keep apart, from each other, from the directories of each other, and from temporary files
(`artifacts_apart`).
-/

namespace ClassCensus

/-! ### Components -/

namespace Path

theorem fileName_congr {p q : Path} (h : p.components = q.components) : p.fileName = q.fileName := by
  rw [fileName, fileName, h]

/-- A path leads through another one: it has the components of that one, and more. -/
def IsAbove (p q : Path) : Prop := ∃ rest, rest ≠ [] ∧ q.components = p.components ++ rest

end Path

/-! ### Artifacts of any class name -/

namespace Path

/-- In front of the last segment stands a path that names are pushed to. -/
theorem exists_push_eq {head : PathHead} {front : List Octets} {last : Octets}
    (h : Fits head (front ++ [last])) (hlast : last ≠ []) :
    ∃ dir : Path, dir.steps = (front.filter fun s => !isIdle s) ∧
      (dir.octets.head? = some Octet.slash ↔ head = .root) ∧
      ∀ n, IsName n → dir.push n = ofSegments head (front ++ [n]) := by
  -- the directory is written with a slash at its end
  have hfits : Fits head (front ++ [[]]) := by
    refine ⟨?_, ?_, ?_⟩
    · intro s hs
      rcases List.mem_append.mp hs with hs | hs
      · exact h.plain s (List.mem_append_left _ hs)
      · simp [List.mem_singleton.mp hs]
    · intro hhead
      rcases h.current hhead with h0 | ⟨rest, h0⟩
      · simp at h0
      · cases front with
        | nil => exact absurd (List.cons.inj h0).1 hlast
        | cons a front => exact .inr ⟨front ++ [[]], by rw [List.cons_append, (List.cons.inj h0).1]⟩
    · intro hhead rest hrest
      cases front with
      | nil => exact (List.cons.inj hrest).2.symm
      | cons a front =>
        rw [List.cons_append, (List.cons.inj hrest).1] at h
        exact absurd (h.none hhead _ rfl) (by simp)
  refine ⟨ofSegments head (front ++ [[]]), ?_, head_ofSegments hfits, ?_⟩
  · rw [steps_ofSegments hfits, List.filter_append]
    simp [isIdle]
  intro n hn
  have hlead : (ofSegments head (front ++ [[]])).lead =
      head.octets ++ Text.join [Octet.slash] (front ++ [[]]) := by
    rw [lead, if_pos, octets_ofSegments]
    by_cases hfront : front = []
    · subst hfront
      cases head with
      | root => exact .inr rfl
      | none => exact .inl rfl
      | current =>
        rcases h.current rfl with h0 | ⟨rest, h0⟩
        · cases h0
        · exact absurd (List.cons.inj h0).1 hlast
    · refine .inr ?_
      rw [octets_ofSegments, Text.join_append Octet.slash hfront (by simp)]
      simp [Text.join]
  rw [← octets_inj, octets_push _ hn, hlead, octets_ofSegments, List.append_assoc,
    Text.join_concat_append, List.nil_append]

/-- The last segment that says something is the last step. -/
theorem steps_of_dropIdle {p : Path} {rest : List Octets} {last : Octets}
    (h : (dropIdle p.segments.2).reverse = last :: rest) :
    p.steps = (rest.reverse.filter fun s => !isIdle s) ++ [last] := by
  have hsegments : dropIdle p.segments.2 = rest.reverse ++ [last] := by
    simpa using congrArg List.reverse h
  have hlast := isIdle_of_dropIdle_concat hsegments
  rw [steps_eq_segments, ← filter_dropIdle, hsegments, List.filter_append]
  simp [hlast]

theorem withExtension_of_nameless {p : Path} (h : p.fileName = none) (ext : Octets) :
    p.withExtension ext = p := by
  simp only [withExtension]
  split
  · rename_i last rest hrev
    split
    · rfl
    · rename_i hback
      have hlast : p.steps.getLast? = some last := by
        rw [steps_of_dropIdle hrev, List.getLast?_concat]
      rw [fileName_of_steps hlast] at h
      · cases h
      · exact hback
  · rfl

/-- With another extension a path has another name in the same directory. -/
theorem withExtension_of_fileName {p : Path} {name : Octets} (h : p.fileName = some name) :
    ∃ dir : Path, p.steps = dir.steps ++ [name] ∧
      (dir.octets.head? = some Octet.slash ↔ p.octets.head? = some Octet.slash) ∧
      ∀ ext, Octet.slash ∉ ext → 2 ≤ ext.length →
        p.withExtension ext = dir.push (stem name ++ Octet.dot :: ext) := by
  obtain ⟨hlast, hback⟩ := steps_of_fileName h
  cases hrev : (dropIdle p.segments.2).reverse with
  | nil =>
    have hnil : dropIdle p.segments.2 = [] := by simpa using hrev
    rw [steps_eq_segments, ← filter_dropIdle, hnil] at hlast
    cases hlast
  | cons last rest =>
    have hsteps := steps_of_dropIdle hrev
    obtain rfl : last = name := by
      rw [hsteps, List.getLast?_concat] at hlast
      exact Option.some.inj hlast
    have hidle : dropIdle p.segments.2 = rest.reverse ++ [last] := by
      simpa using congrArg List.reverse hrev
    have hfits : Fits p.segments.1 (rest.reverse ++ [last]) := hidle ▸ p.fits_dropIdle
    have hplain : Octet.slash ∉ last := hfits.plain last (by simp)
    have hne : last ≠ [] := by
      rintro rfl
      exact absurd (isIdle_of_dropIdle_concat hidle) (by decide)
    obtain ⟨dir, hdir, hhead, hpush⟩ := exists_push_eq hfits hne
    refine ⟨dir, by rw [hsteps, hdir], hhead.trans p.head_octets.symm, ?_⟩
    intro ext hext hlong
    rw [hpush _ (isName_withExtension
      (fun h0 => hplain ((stem_isPrefix last).subset h0)) hext hlong)]
    have hnot : last ≠ [Octet.dot, Octet.dot] := by
      rintro rfl
      exact hback rfl
    simp only [withExtension, hrev, if_neg hnot]

end Path

/-! ### Names of artifacts -/

/-- A temporary name ends in its extension, which is not the one of an artifact. -/
theorem temporaryName_ne_withExtension {name stem ext : Octets} {stamp : Stamp}
    (hext : ext.getLast?.any (· ≠ 'p'.toUInt8)) :
    temporaryName name stamp ≠ stem ++ Octet.dot :: ext := by
  intro h
  have hlast : (stem ++ Octet.dot :: ext).getLast? = some 'p'.toUInt8 := by
    obtain ⟨front, hfront⟩ := isTemporaryName_temporaryName name stamp
    have hend : Text.bytesOf ".tmp" = Text.bytesOf ".tm" ++ ['p'.toUInt8] := rfl
    rw [← h, ← hfront, hend, ← List.append_assoc, List.getLast?_concat]
  rw [List.getLast?_append, List.getLast?_cons] at hlast
  cases he : ext.getLast? with
  | none =>
    rw [he] at hext
    cases hext
  | some c =>
    rw [he] at hlast hext
    obtain rfl : c = 'p'.toUInt8 := Option.some.inj hlast
    simp at hext

/-- The names of the dump and the metrics file of one class. -/
structure PairNames (x y : Octets) : Prop where
  dump : Path.IsName x
  metrics : Path.IsName y
  ne : x ≠ y
  dump_ne : ∀ n stamp, temporaryName n stamp ≠ x
  metrics_ne : ∀ n stamp, temporaryName n stamp ≠ y
  shorter : Shorter x y

theorem PairNames.of_stem {stem : Octets} (h : Octet.slash ∉ stem) :
    PairNames (stem ++ Octet.dot :: ArtifactPaths.dumpExtension)
      (stem ++ Octet.dot :: ArtifactPaths.metricsExtension) := by
  refine ⟨Path.isName_withExtension h (by decide) (by decide),
    Path.isName_withExtension h (by decide) (by decide), ?_,
    fun _ _ => temporaryName_ne_withExtension (by decide),
    fun _ _ => temporaryName_ne_withExtension (by decide), .of_stem stem⟩
  intro h0
  exact absurd (List.append_cancel_left h0) (by decide)

/-- The artifacts of a class are two files in one directory, or the path of the class has no file name
and stands for both of them. -/
theorem ArtifactPaths.ofClass_cases (root : Path) (n : String) :
    ((base root n).fileName = none ∧ ofClass root n = ⟨base root n, base root n⟩) ∨
      ∃ (dir : Path) (last x y : Octets), (base root n).steps = dir.steps ++ [last] ∧
        (dir.octets.head? = some Octet.slash ↔ (base root n).octets.head? = some Octet.slash) ∧
        PairNames x y ∧ ofClass root n = ⟨dir.push x, dir.push y⟩ := by
  cases hname : (base root n).fileName with
  | none =>
    refine .inl ⟨rfl, ?_⟩
    simp only [ofClass, Path.withExtension_of_nameless hname]
  | some last =>
    obtain ⟨dir, hsteps, hhead, hext⟩ := Path.withExtension_of_fileName hname
    have hstem : Octet.slash ∉ Path.stem last := fun h0 =>
      (isName_of_fileName hname).plain ((Path.stem_isPrefix _).subset h0)
    refine .inr ⟨dir, last, _, _, hsteps, hhead, .of_stem hstem, ?_⟩
    simp only [ofClass]
    rw [hext _ (by decide) (by decide), hext _ (by decide) (by decide)]

/-! ### Temporary files -/

/-- No temporary file has the path of an artifact of a class, whatever the name of the class is. -/
theorem temporary_apart (dir root : Path) {name : Octets} (hname : Path.IsName name) (stamp : Stamp)
    (k : String) :
    (dir.push (temporaryName name stamp)).components ≠
        (ArtifactPaths.ofClass root k).dump.components ∧
      (dir.push (temporaryName name stamp)).components ≠
        (ArtifactPaths.ofClass root k).metrics.components := by
  have hfile := Path.fileName_push dir (isName_temporaryName hname stamp)
  have key : ∀ q : Path, q.fileName ≠ some (temporaryName name stamp) →
      (dir.push (temporaryName name stamp)).components ≠ q.components := by
    intro q hq h
    exact hq (Path.fileName_congr h ▸ hfile)
  rcases ArtifactPaths.ofClass_cases root k with ⟨hnone, heq⟩ | ⟨place, -, x, y, -, -, hxy, heq⟩
  · rw [heq]
    exact ⟨key _ (by simp [hnone]), key _ (by simp [hnone])⟩
  · rw [heq]
    refine ⟨key _ ?_, key _ ?_⟩
    · rw [Path.fileName_push _ hxy.dump]
      exact fun h => hxy.dump_ne _ _ (Option.some.inj h).symm
    · rw [Path.fileName_push _ hxy.metrics]
      exact fun h => hxy.metrics_ne _ _ (Option.some.inj h).symm

/-- A path has temporary files beside it, and none of them has the path of an artifact of a class below
some root. -/
def Path.TemporariesApart (p : Path) : Prop :=
  ∃ dir name, p.parent = some dir ∧ p.fileName = some name ∧
    ∀ (stamp : Stamp) (root : Path) (className : String),
      (dir.push (temporaryName name stamp)).components ≠
          (ArtifactPaths.ofClass root className).dump.components ∧
        (dir.push (temporaryName name stamp)).components ≠
          (ArtifactPaths.ofClass root className).metrics.components

theorem Path.temporariesApart_push (dir : Path) {name : Octets} (hname : IsName name) :
    (dir.push name).TemporariesApart :=
  ⟨_, _, dir.parent_push hname, dir.fileName_push hname,
    fun stamp root k => temporary_apart _ root hname stamp k⟩

/-! ### Artifacts of well-formed names -/

section WellFormed

variable {n m : String} {root p q : Path}

/-- A path below a root: directories without dots in their names, and then a name with a dot. -/
structure Path.LiesBelow (root p : Path) (place : Location) : Prop where
  components : p.components = root.components ++ place.map .name
  dotless : ∀ s ∈ place.dropLast, Octet.dot ∉ s
  dotted : ∃ last, place.getLast? = some last ∧ Octet.dot ∈ last

/-- An artifact is not a directory on the way to another one. -/
theorem Path.LiesBelow.not_isAbove {a b : Location} (hp : root.LiesBelow p a)
    (hq : root.LiesBelow q b) : ¬p.IsAbove q := by
  rintro ⟨rest, hne, h⟩
  rw [hp.components, hq.components, List.append_assoc, List.append_cancel_left_eq] at h
  obtain ⟨last, hlast, hdot⟩ := hp.dotted
  obtain ⟨front, rfl⟩ := List.getLast?_eq_some_iff.mp hlast
  refine hq.dotless last ?_ hdot
  have hmem : Component.name last ∈ (b.map Component.name).dropLast := by
    rw [h, List.dropLast_append_of_ne_nil hne]
    simp
  rw [← List.map_dropLast] at hmem
  obtain ⟨s, hs, hname⟩ := List.mem_map.mp hmem
  cases hname
  exact hs

theorem liesBelow_dump (root : Path) (hn : WellFormed n) :
    root.LiesBelow (ArtifactPaths.ofClass root n).dump (dumpPlace [] n) := by
  refine ⟨?_, ?_, dumpName n, by simp [dumpPlace], by simp [dumpName]⟩
  · rw [artifactPaths_eq hn, Path.components_push _ hn.dumpName,
      Path.components_pushAll _ fun _ => hn.package]
    simp [dumpPlace]
  · intro s hs
    exact dot_not_mem_package (n := n) (by simpa [dumpPlace] using hs)

theorem liesBelow_metrics (root : Path) (hn : WellFormed n) :
    root.LiesBelow (ArtifactPaths.ofClass root n).metrics (metricsPlace [] n) := by
  refine ⟨?_, ?_, metricsName n, by simp [metricsPlace], by simp [metricsName]⟩
  · rw [artifactPaths_eq hn, Path.components_push _ hn.metricsName,
      Path.components_pushAll _ fun _ => hn.package]
    simp [metricsPlace]
  · intro s hs
    exact dot_not_mem_package (n := n) (by simpa [metricsPlace] using hs)

theorem temporariesApart_dump (root : Path) (hn : WellFormed n) :
    (ArtifactPaths.ofClass root n).dump.TemporariesApart := by
  rw [artifactPaths_eq hn]
  exact Path.temporariesApart_push _ hn.dumpName

theorem temporariesApart_metrics (root : Path) (hn : WellFormed n) :
    (ArtifactPaths.ofClass root n).metrics.TemporariesApart := by
  rw [artifactPaths_eq hn]
  exact Path.temporariesApart_push _ hn.metricsName

theorem Path.LiesBelow.place_eq {a b : Location} (hp : root.LiesBelow p a)
    (hq : root.LiesBelow q b) (h : p.components = q.components) : a = b := by
  rw [hp.components, hq.components, List.append_cancel_left_eq] at h
  exact List.map_injective_iff.mpr (fun _ _ => Component.name.inj) h

/-- Artifacts of well-formed class names keep apart. Those of different classes are different paths, as
are the two of one class; none is a directory on the way to another one; all lie below the root, in
a directory for each name of the package; and a temporary file beside one of them has the path of no
artifact of any class. -/
theorem artifacts_apart (root : Path) (hn : WellFormed n) (hm : WellFormed m) :
    let a := ArtifactPaths.ofClass root n
    let b := ArtifactPaths.ofClass root m
    a.dump.components ≠ a.metrics.components ∧
      (n ≠ m → ([a.dump, a.metrics, b.dump, b.metrics].map Path.components).Nodup) ∧
      (∀ p ∈ [a.dump, a.metrics, b.dump, b.metrics],
        ∀ q ∈ [a.dump, a.metrics, b.dump, b.metrics], ¬p.IsAbove q) ∧
      a.dump.components =
        root.components ++ (packageOf n).map .name ++ [.name (dumpName n)] ∧
      a.metrics.components =
        root.components ++ (packageOf n).map .name ++ [.name (metricsName n)] ∧
      a.dump.TemporariesApart ∧ a.metrics.TemporariesApart := by
  intro a b
  have hda : root.LiesBelow a.dump _ := liesBelow_dump root hn
  have hma : root.LiesBelow a.metrics _ := liesBelow_metrics root hn
  have hdb : root.LiesBelow b.dump _ := liesBelow_dump root hm
  have hmb : root.LiesBelow b.metrics _ := liesBelow_metrics root hm
  have htda : a.dump.TemporariesApart := temporariesApart_dump root hn
  have htma : a.metrics.TemporariesApart := temporariesApart_metrics root hn
  clear_value a b
  refine ⟨?_, ?_, ?_, ?_, ?_, htda, htma⟩
  · exact fun h => dumpPlace_ne_metricsPlace (hda.place_eq hma h)
  · intro hne
    simp only [List.map_cons, List.map_nil, List.nodup_cons, List.mem_cons, List.not_mem_nil,
      or_false, not_or, not_false_eq_true, List.nodup_nil, and_true]
    refine ⟨⟨?_, ?_, ?_⟩, ⟨?_, ?_⟩, ?_⟩
    · exact fun h => dumpPlace_ne_metricsPlace (hda.place_eq hma h)
    · exact fun h => hne (dumpPlace_inj (hda.place_eq hdb h))
    · exact fun h => dumpPlace_ne_metricsPlace (hda.place_eq hmb h)
    · exact fun h => dumpPlace_ne_metricsPlace (hma.place_eq hdb h).symm
    · exact fun h => hne (metricsPlace_inj (hma.place_eq hmb h))
    · exact fun h => dumpPlace_ne_metricsPlace (hdb.place_eq hmb h)
  · have hlies : ∀ p ∈ [a.dump, a.metrics, b.dump, b.metrics], ∃ place, root.LiesBelow p place := by
      simp only [List.mem_cons, List.not_mem_nil, or_false]
      rintro p (rfl | rfl | rfl | rfl)
      exacts [⟨_, hda⟩, ⟨_, hma⟩, ⟨_, hdb⟩, ⟨_, hmb⟩]
    intro p hp q hq
    obtain ⟨_, hp⟩ := hlies p hp
    obtain ⟨_, hq⟩ := hlies q hq
    exact hp.not_isAbove hq
  · simpa [dumpPlace] using hda.components
  · simpa [metricsPlace] using hma.components

/-- One class in the package that has the name of another one, with the extension of a dump behind it. -/
theorem artifacts_apart_nested :
    WellFormed "a.B" ∧ WellFormed "a.B.ir" ∧
      (([(ArtifactPaths.ofClass ⟨"out"⟩ "a.B").dump, (ArtifactPaths.ofClass ⟨"out"⟩ "a.B").metrics,
        (ArtifactPaths.ofClass ⟨"out"⟩ "a.B.ir").dump,
        (ArtifactPaths.ofClass ⟨"out"⟩ "a.B.ir").metrics].map Path.components).Nodup) :=
  have hB : WellFormed "a.B" := by decide
  have hir : WellFormed "a.B.ir" := by decide
  ⟨hB, hir, (artifacts_apart ⟨"out"⟩ hB hir).2.1 (by decide)⟩

end WellFormed

/-! ### Inner class names -/

theorem Text.mem_of_mem_split {α : Type} [DecidableEq α] {sep c : α} {cs piece : List α}
    (h : piece ∈ split sep cs) (hc : c ∈ piece) : c ∈ cs := by
  induction cs generalizing piece with
  | nil =>
    obtain rfl := List.mem_singleton.mp h
    exact hc
  | cons x cs ih =>
    rw [split] at h
    split at h
    · rcases List.mem_cons.mp h with rfl | h
      · cases hc
      · exact List.mem_cons_of_mem _ (ih h hc)
    · split at h
      · obtain rfl := List.mem_singleton.mp h
        exact List.mem_singleton.mp hc ▸ List.mem_cons_self ..
      · rename_i first rest hsplit
        rcases List.mem_cons.mp h with rfl | h
        · rcases List.mem_cons.mp hc with rfl | hc
          · exact List.mem_cons_self ..
          · exact List.mem_cons_of_mem _ (ih (hsplit ▸ List.mem_cons_self ..) hc)
        · exact List.mem_cons_of_mem _ (ih (hsplit ▸ List.mem_cons_of_mem _ h) hc)

namespace Path

/-- A part that does not begin at the root adds its steps. -/
theorem steps_push_of_head (p : Path) {part : Octets} (h : part.head? ≠ some Octet.slash) :
    (p.push part).steps = p.steps ++ (Path.mk part).steps := by
  have hoctets := p.octets_push_of_head h
  unfold steps
  rw [← List.filter_append, hoctets]
  rcases p.lead_cases with ⟨hempty, hlead⟩ | ⟨a, hlead, hp⟩
  · rw [hlead, hempty]
    rfl
  · rw [hlead, List.append_assoc, List.singleton_append, Text.split_append_sep]
    rcases hp with hp | ⟨-, hp, -⟩
    · rw [hp, Text.split_append_sep]
      simp [Text.split, isIdle, List.filter_append]
    · rw [hp]

theorem head_push_of_head (p : Path) {part : Octets} (h : part.head? ≠ some Octet.slash) :
    (p.push part).octets.head? = some Octet.slash ↔ p.octets.head? = some Octet.slash := by
  rw [p.octets_push_of_head h]
  rcases p.lead_cases with ⟨hempty, hlead⟩ | ⟨a, hlead, hp | ⟨hne, hp, -⟩⟩
  · rw [hlead, hempty, List.nil_append]
    exact iff_of_false h (by simp)
  · rw [hlead, hp, List.head?_append_of_ne_nil _ (by simp)]
  · rw [hlead, hp, List.append_assoc, List.head?_append_of_ne_nil _ hne]

theorem push_of_head (p : Path) {part : Octets} (h : part.head? = some Octet.slash) :
    p.push part = ⟨part⟩ := by
  have habs : (Path.mk part).isAbsolute = true := by
    simpa [isAbsolute] using (head_octets ⟨part⟩).mp h
  rw [push, if_pos habs]

/-- The steps of a part without dots are names without dots. -/
theorem dotless_of_mem_steps {s n : Octets} (hs : Octet.dot ∉ s) (hn : n ∈ (Path.mk s).steps) :
    IsName n ∧ Octet.dot ∉ n := by
  obtain ⟨hsplit, hidle⟩ := List.mem_filter.mp hn
  have hdot : Octet.dot ∉ n := fun h => hs (Text.mem_of_mem_split hsplit h)
  refine ⟨⟨?_, ?_, ?_, Text.not_mem_of_mem_split Octet.slash hsplit⟩, hdot⟩
  · rintro rfl
    simp [isIdle] at hidle
  · exact fun h0 => hdot (h0 ▸ by decide)
  · exact fun h0 => hdot (h0 ▸ by decide)

/-- A part that is not empty and does not begin with a slash has a step, if it is without dots. -/
theorem steps_ne_nil {s : Octets} (hs : Octet.dot ∉ s) (hne : s ≠ [])
    (hhead : s.head? ≠ some Octet.slash) : (Path.mk s).steps ≠ [] := by
  cases s with
  | nil => exact absurd rfl hne
  | cons c cs =>
    have hc : c ≠ Octet.slash := by simpa using hhead
    have hdot : c ≠ Octet.dot := fun h => hs (h ▸ List.mem_cons_self ..)
    obtain ⟨first, rest, hsplit⟩ :
        ∃ first rest, Text.split Octet.slash (c :: cs) = (c :: first) :: rest := by
      rw [Text.split, if_neg hc]
      split
      · exact ⟨[], [], rfl⟩
      · exact ⟨_, _, rfl⟩
    simp [steps, hsplit, isIdle, hdot]

end Path

namespace ArtifactPaths

/-- The path of a class, if no segment begins with a slash. -/
theorem steps_base (root : Path) {n : String}
    (h : ∀ s ∈ segmentsOf n, s.head? ≠ some Octet.slash) :
    (base root n).steps = root.steps ++ (segmentsOf n).flatMap (fun s => (Path.mk s).steps) ∧
      ((base root n).octets.head? = some Octet.slash ↔ root.octets.head? = some Octet.slash) := by
  unfold base
  generalize segmentsOf n = segments at h ⊢
  induction segments generalizing root with
  | nil => simp
  | cons s rest ih =>
    have hs := h s (List.mem_cons_self ..)
    obtain ⟨hsteps, hhead⟩ := ih (root.push s) fun t ht => h t (List.mem_cons_of_mem _ ht)
    rw [List.foldl_cons, hsteps, hhead, Path.steps_push_of_head _ hs, Path.head_push_of_head _ hs,
      List.flatMap_cons, List.append_assoc]
    exact ⟨rfl, Iff.rfl⟩

end ArtifactPaths

/-- A class name whose artifacts lie below the output root: no segment begins with a slash, and not all
of them are empty. -/
structure IsInner (n : String) : Prop where
  relative : ∀ s ∈ Text.splitString '.' n, s.toList.head? ≠ some '/'
  segment : ∃ s ∈ Text.splitString '.' n, s ≠ ""

theorem isInner_iff {n : String} :
    IsInner n ↔ (∀ s ∈ Text.splitString '.' n, s.toList.head? ≠ some '/') ∧
      ∃ s ∈ Text.splitString '.' n, s ≠ "" :=
  ⟨fun h => ⟨h.relative, h.segment⟩, fun h => ⟨h.1, h.2⟩⟩

instance (n : String) : Decidable (IsInner n) := decidable_of_iff _ isInner_iff.symm

theorem IsInner.head_ne {n : String} (h : IsInner n) {s : Octets} (hs : s ∈ segmentsOf n) :
    s.head? ≠ some Octet.slash := by
  obtain ⟨t, ht, rfl⟩ := List.mem_map.mp hs
  exact fun h0 => h.relative t ht ((Text.head?_bytesOf_iff (by decide)).mp h0)

theorem IsInner.exists_ne_nil {n : String} (h : IsInner n) : ∃ s ∈ segmentsOf n, s ≠ [] := by
  obtain ⟨t, ht, hne⟩ := h.segment
  exact ⟨_, List.mem_map_of_mem ht, fun h0 => hne (Text.bytesOf_inj.mp h0)⟩

/-- The artifacts of an inner class are two files in one directory, at names below the output root. -/
theorem IsInner.ofClass {n : String} (h : IsInner n) (root : Path) :
    ∃ (dir : Path) (names : List Octets) (x y : Octets), dir.steps = root.steps ++ names ∧
      (∀ s ∈ names, Path.IsName s) ∧
      (dir.octets.head? = some Octet.slash ↔ root.octets.head? = some Octet.slash) ∧
      PairNames x y ∧ ArtifactPaths.ofClass root n = ⟨dir.push x, dir.push y⟩ := by
  obtain ⟨hsteps, hhead⟩ := ArtifactPaths.steps_base root fun s => h.head_ne
  generalize hnames : (segmentsOf n).flatMap (fun s => (Path.mk s).steps) = names at hsteps
  have hisName : ∀ s ∈ names, Path.IsName s := by
    intro s hs
    rw [← hnames] at hs
    obtain ⟨segment, hsegment, hs⟩ := List.mem_flatMap.mp hs
    exact (Path.dotless_of_mem_steps (dot_not_mem_segment hsegment) hs).1
  have hne : names ≠ [] := by
    obtain ⟨s, hs, hne⟩ := h.exists_ne_nil
    intro h0
    rw [h0, List.flatMap_eq_nil_iff] at hnames
    exact Path.steps_ne_nil (dot_not_mem_segment hs) hne (h.head_ne hs) (hnames s hs)
  rcases ArtifactPaths.ofClass_cases root n with ⟨hnone, -⟩ | ⟨dir, last, x, y, hdir, hdirHead, hxy, hof⟩
  · obtain ⟨last, hlast⟩ := List.getLast?_isSome.mpr hne |> Option.isSome_iff_exists.mp
    have hname := hisName last (List.mem_of_getLast? hlast)
    have hbase : (ArtifactPaths.base root n).steps.getLast? = some last := by
      rw [hsteps, List.getLast?_append, hlast]
      rfl
    rw [Path.fileName_of_steps hbase hname.ne_parent] at hnone
    cases hnone
  · refine ⟨dir, names.dropLast, x, y, ?_, fun s hs => hisName s (names.dropLast_subset hs),
      hdirHead.trans hhead, hxy, hof⟩
    have hdrop := congrArg List.dropLast (hdir.symm.trans hsteps)
    rwa [List.dropLast_concat, List.dropLast_append_of_ne_nil hne] at hdrop

/-! ### Directories of artifacts -/

/-- The path of a class lies at names without dots below the root of a run, or below the root of all
paths. -/
theorem ArtifactPaths.base_cases (root : Path) (n : String) :
    ∃ names, (∀ s ∈ names, Path.IsName s ∧ Octet.dot ∉ s) ∧
      ((base root n).steps = root.steps ++ names ∧
          ((base root n).octets.head? = some Octet.slash ↔ root.octets.head? = some Octet.slash) ∨
        (base root n).steps = names) := by
  unfold base
  have hdotless : ∀ s ∈ segmentsOf n, Octet.dot ∉ s := fun s => dot_not_mem_segment
  generalize segmentsOf n = segments at hdotless ⊢
  induction segments using List.reverseRecOn with
  | nil => exact ⟨[], by simp, .inl (by simp)⟩
  | append_singleton segments s ih =>
    have hs := hdotless s (by simp)
    obtain ⟨names, hnames, hbase⟩ := ih fun t ht => hdotless t (by simp [ht])
    rw [List.foldl_append, List.foldl_cons, List.foldl_nil]
    generalize List.foldl Path.push root segments = p at hbase ⊢
    by_cases hhead : s.head? = some Octet.slash
    · refine ⟨(Path.mk s).steps, fun t => Path.dotless_of_mem_steps hs, .inr ?_⟩
      rw [Path.push_of_head p hhead]
    · refine ⟨names ++ (Path.mk s).steps, ?_, ?_⟩
      · intro t ht
        rcases List.mem_append.mp ht with ht | ht
        · exact hnames t ht
        · exact Path.dotless_of_mem_steps hs ht
      · rw [Path.steps_push_of_head p hhead, Path.head_push_of_head p hhead]
        rcases hbase with ⟨hbase, hroot⟩ | hbase
        · exact .inl ⟨by rw [hbase, List.append_assoc], hroot⟩
        · exact .inr (by rw [hbase])

/-- The directory of artifacts is empty, lies on the way of names without dots below the root of a run, or
consists of names without dots. -/
theorem ArtifactPaths.parent_cases {root dir : Path} {n : String}
    (h : (ofClass root n).parent = some dir) :
    dir.octets = [] ∨ ∃ names, (∀ s ∈ names, Path.IsName s ∧ Octet.dot ∉ s) ∧
      (dir.steps <+: root.steps ++ names ∧
          (dir.octets.head? = some Octet.slash ↔ root.octets.head? = some Octet.slash) ∨
        dir.steps <+: names) := by
  -- the directory has the steps of the path of the class but the last one
  have habove : dir.octets = [] ∨ dir.steps <+: (base root n).steps ∧
      (dir.octets.head? = some Octet.slash ↔ (base root n).octets.head? = some Octet.slash) := by
    rcases ofClass_cases root n with ⟨-, hof⟩ | ⟨dir', last, x, y, hsteps, hhead, hxy, hof⟩
    · rw [hof] at h
      refine (Path.steps_of_parent h).imp_right fun ⟨hhead, name, hsteps⟩ => ⟨?_, hhead⟩
      exact hsteps ▸ List.prefix_append ..
    · rw [hof] at h
      obtain rfl := Option.some.inj ((dir'.parent_push hxy.dump).symm.trans h)
      rw [Path.steps_trimmed, Path.head_trimmed]
      exact .inr ⟨hsteps ▸ List.prefix_append .., hhead⟩
  refine habove.imp_right fun ⟨hdir, hdirHead⟩ => ?_
  obtain ⟨names, hnames, hbase⟩ := base_cases root n
  refine ⟨names, hnames, ?_⟩
  rcases hbase with ⟨hsteps, hhead⟩ | hsteps
  · exact .inl ⟨hsteps ▸ hdir, hdirHead.trans hhead⟩
  · exact .inr (hsteps ▸ hdir)

end ClassCensus
