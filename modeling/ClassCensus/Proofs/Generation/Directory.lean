import ClassCensus.Generation.Directory
import ClassCensus.Proofs.Disk.Obstacle
import ClassCensus.Proofs.Disk.Sites
import ClassCensus.Proofs.Job

/-!
# Making directories with those above them

`makeDirs` adds directories and does nothing else (`ensures_makeDirs`). If its path goes back from
directories only (`Disk.Forward`), the directory at its end is new and empty (`Disk.Vacant`) or nothing
has happened. Below a ground it ends with a path that is ready or with one that is stuck
(`ensures_makeDirs_package`), and on either of them a further call changes nothing
(`ensures_of_ready`, `ensures_of_stuck`).
-/

namespace ClassCensus

open Disk

/-! ### Looking at paths -/

theorem run_pathExists (path : Path) (w : World) :
    (pathExists path).run w = ((w.disk.status path).isOk, w) := by
  have hstep : (Job.ofStep (.status path)).run w = (w.disk.status path, w) := rfl
  unfold pathExists
  refine (Job.run_bind (Job.ofStep (.status path)) _ w).trans ?_
  rw [hstep]
  dsimp only
  cases w.disk.status path with
  | ok kind => rfl
  | error f => rfl

theorem run_isDirectory (path : Path) (w : World) :
    (isDirectory path).run w = (decide (w.disk.status path = .ok .directory), w) := by
  have hstep : (Job.ofStep (.status path)).run w = (w.disk.status path, w) := rfl
  unfold isDirectory
  refine (Job.run_bind (Job.ofStep (.status path)) _ w).trans ?_
  rw [hstep]
  dsimp only
  cases w.disk.status path with
  | ok kind =>
    simp only [Except.ok.injEq]
    rfl
  | error f => rfl

/-! ### Rules -/

section Rules

variable {w : World} {inv : World → Prop} {p : Path}

theorem ensures_isDirectory {post : Bool → World → Prop} (hi : inv w)
    (h : ∀ b : Bool, (b = true ↔ w.disk.status p = .ok .directory) → post b w) :
    (isDirectory p).Ensures w inv post := by
  have hp : w.perform (.status p) = (w.disk.status p, w) := rfl
  refine Job.Ensures.bind (.ofStep hi ?_)
  rw [hp]
  cases hs : w.disk.status p with
  | ok kind => exact .done (h _ (by simp [hs]))
  | error f => exact .done (h _ (by simp [hs]))

variable {post : Except DiskFault Unit → World → Prop}

/-- What follows when a directory could not be made: it may be there already. -/
theorem ensures_unlessDirectory {f : DiskFault} (hi : inv w)
    (hdir : w.disk.status p = .ok .directory → post (.ok ()) w)
    (hno : w.disk.status p ≠ .ok .directory → post (.error f) w) :
    Job.Ensures (do if ← isDirectory p then return .ok () else return .error f) w inv post := by
  refine Job.Ensures.bind (ensures_isDirectory hi ?_)
  intro b hb
  cases b with
  | true => exact .done (hdir (hb.mp rfl))
  | false => exact .done (hno fun h => by simpa using hb.mpr h)

theorem ensures_ensureDir (hi : inv w)
    (hok : ∀ d', w.disk.makeDir p = .ok d' →
      inv { w with disk := d' } ∧ post (.ok ()) { w with disk := d' })
    (hdir : ∀ f, w.disk.makeDir p = .error f → w.disk.status p = .ok .directory →
      post (.ok ()) w)
    (hno : ∀ f, w.disk.makeDir p = .error f → w.disk.status p ≠ .ok .directory →
      post (.error f) w) :
    (ensureDir p).Ensures w inv post := by
  have hp : w.perform (.makeDir p) = w.change (w.disk.makeDir p) := rfl
  cases hm : w.disk.makeDir p with
  | ok d' =>
    rw [hm] at hp
    refine Job.Ensures.bind (.ofStep ?_ ?_)
    · rw [hp]
      exact (hok d' hm).1
    · rw [hp]
      exact .done (hok d' hm).2
  | error f =>
    rw [hm] at hp
    refine Job.Ensures.bind (.ofStep ?_ ?_)
    · rw [hp]
      exact hi
    · rw [hp]
      exact ensures_unlessDirectory hi (hdir f hm) (hno f hm)

/-- One round of `makeDirsWithin`, by what making the directory itself gives. -/
theorem ensures_makeDirsWithin {steps : Nat} (hi : inv w)
    (hempty : p.octets = [] → post (.ok ()) w)
    (hok : ∀ d', p.octets ≠ [] → w.disk.makeDir p = .ok d' →
      inv { w with disk := d' } ∧ post (.ok ()) { w with disk := d' })
    (hdir : ∀ f, p.octets ≠ [] → f ≠ .notFound → w.disk.makeDir p = .error f →
      w.disk.status p = .ok .directory → post (.ok ()) w)
    (hno : ∀ f, p.octets ≠ [] → f ≠ .notFound → w.disk.makeDir p = .error f →
      w.disk.status p ≠ .ok .directory → post (.error f) w)
    (htop : p.octets ≠ [] → w.disk.makeDir p = .error .notFound → p.parent = none →
      ∀ f, post (.error f) w)
    (hup : ∀ q, p.octets ≠ [] → w.disk.makeDir p = .error .notFound → p.parent = some q →
      (makeDirsWithin steps q).Ensures w inv fun r w1 =>
        match r with
        | .ok () => (ensureDir p).Ensures w1 inv post
        | .error f => post (.error f) w1) :
    (makeDirsWithin (steps + 1) p).Ensures w inv post := by
  by_cases he : p.octets = []
  · simp only [makeDirsWithin, he, if_true]
    exact .done (hempty he)
  have hp : w.perform (.makeDir p) = w.change (w.disk.makeDir p) := rfl
  simp only [makeDirsWithin, he, if_false]
  refine Job.Ensures.bind ?_
  cases hm : w.disk.makeDir p with
  | ok d' =>
    rw [hm] at hp
    refine .ofStep ?_ ?_
    · rw [hp]
      exact (hok d' he hm).1
    · rw [hp]
      exact .done (hok d' he hm).2
  | error f =>
    rw [hm] at hp
    refine .ofStep ?_ ?_
    · rw [hp]
      exact hi
    · rw [hp]
      by_cases hf : f = .notFound
      · subst hf
        simp only [World.change]
        cases hq : p.parent with
        | none => exact .done (htop he hm hq _)
        | some q =>
          refine Job.Ensures.bind ((hup q he hm hq).post ?_)
          intro r w1 hr
          cases r with
          | ok u => exact hr
          | error f => exact .done hr
      · have hrest := ensures_unlessDirectory (p := p) hi (hdir f he hf hm) (hno f he hf hm)
        cases f with
        | notFound => exact absurd rfl hf
        | _ => exact hrest

end Rules

/-! ### Any path -/

/-- Wherever a path goes back it has come to a directory. -/
def Disk.Forward (d : Disk) (p : Path) : Prop :=
  ∀ before after, p.steps = before ++ [Octet.dot, Octet.dot] :: after → ∃ links l,
    d.descend linkLimit (d.startOf p) before = .ok (links, l) ∧ d.entryAt l = some .directory

theorem Disk.forward_of_no_back {d : Disk} {p : Path} (h : [Octet.dot, Octet.dot] ∉ p.steps) :
    d.Forward p := by
  intro before after hsteps
  rw [hsteps] at h
  exact absurd (by simp) h

/-- A path that goes back once, at its beginning, goes back from the directory where it begins. -/
theorem Disk.forward_of_parent_first {d : Disk} {p : Path} (rest : List Octets)
    (hd : d.entryAt (d.startOf p) = some .directory)
    (hsteps : p.steps = [Octet.dot, Octet.dot] :: rest)
    (hrest : [Octet.dot, Octet.dot] ∉ rest) : d.Forward p := by
  intro before after h
  rw [hsteps] at h
  cases before with
  | nil => exact ⟨_, _, descend_nil .., hd⟩
  | cons x before =>
    rw [(List.cons.inj h).2] at hrest
    exact absurd (by simp) hrest

theorem Disk.KeepsWays.forward {d d' : Disk} (hk : KeepsWays d d') {p : Path} (h : d.Forward p) :
    d'.Forward p := by
  intro before after hsteps
  obtain ⟨links, l, hl, hd⟩ := h before after hsteps
  rw [hk.startOf]
  exact ⟨links, l, hk.descend_ok hl, hk.directory l hd⟩

/-- Only directories are made between two worlds. If the path does not go back before it has come to a
directory, nothing is made, or what is found at its end is new and the place there is vacant. -/
structure Made (p : Path) (w m : World) : Prop where
  process : m.process = w.process
  clock : m.clock = w.clock
  adds : AddsDirs (fun _ => True) w.disk m.disk
  tree : m.disk.IsTree
  vacant : w.disk.Forward p → m.disk = w.disk ∨ m.disk.Vacant p
  new : w.disk.Forward p → m.disk = w.disk ∨
    ∀ l e, m.disk.find false p = .ok (l, e) → w.disk.entryAt l = none

namespace Made

variable {p q : Path} {w m : World}

theorem refl (ht : w.disk.IsTree) : Made p w w :=
  ⟨rfl, rfl, .refl _, ht, fun _ => .inl rfl, fun _ => .inl rfl⟩

/-- A directory that is made is vacant. -/
theorem makeDir {d' : Disk} (h : Made p w m) (hm : m.disk.makeDir p = .ok d') :
    Made p w { m with disk := d' } ∧ d'.Ready p := by
  have hnew : ∀ l e, d'.find false p = .ok (l, e) → w.disk.entryAt l = none := by
    intro l e hfind
    exact h.adds.none_before (entryAt_of_find_made hm hfind)
  obtain ⟨hc, here, name, hnone, hhere, rfl, k, hk⟩ := makeDir_ok hm
  have hne : here ++ [name] ≠ [] := by simp
  have hput := entryAt_put m.disk hne .directory
  refine ⟨⟨h.process, h.clock, h.adds.trans (.put hne hnone trivial),
    h.tree.put hhere (.inl rfl), fun _ => .inr ?_, fun _ => .inr hnew⟩, .inr hc, k, _, hk, by
      rw [hput, if_pos rfl]⟩
  intro k' l hl rest hr
  obtain ⟨-, rfl⟩ := hk.unique hl
  have hlen : here ++ [name] ++ rest ≠ here ++ [name] := by
    intro h0
    exact hr (by simpa using h0)
  rw [hput, if_neg hlen]
  exact h.tree.none_below (by simp [hnone]) hr

/-- Where the place of the parent is vacant the path does not lead anywhere, and nothing is found at
it. -/
theorem of_parent (h : Made q w m) (hq : p.parent = some q) (ht : q.octets = [] → m.disk = w.disk)
    (ha : w.disk.Arrives q → m.disk = w.disk) : Made p w m := by
  have hcases : w.disk.Forward p → m.disk = w.disk ∨
      (∀ k l, ¬m.disk.Leads p k l) ∧ ∀ fl r, m.disk.find fl p ≠ .ok r := by
    intro hp
    rcases Path.steps_of_parent hq with h0 | ⟨hhead, name, hsteps⟩
    · exact .inl (ht h0)
    have hstart : ∀ d : Disk, d.startOf p = d.startOf q := fun d => startOf_congr d hhead.symm
    have hforward : w.disk.Forward q := by
      intro before after hback
      rw [← hstart]
      exact hp before (after ++ [name]) (by rw [hsteps, hback]; simp)
    rcases h.vacant hforward with hd | hv
    · exact .inl hd
    by_cases hback : name = [Octet.dot, Octet.dot]
    · obtain ⟨k, l, hl, hd⟩ := hp q.steps [] (by rw [hsteps, hback])
      rw [hstart] at hl
      exact .inl (ha ⟨k, l, leads_iff.mpr hl, hd⟩)
    · exact .inr (hv.lost hsteps (hstart _) hback)
  refine ⟨h.process, h.clock, h.adds, h.tree, fun hp => ?_, fun hp => ?_⟩
  · exact (hcases hp).imp_right fun hlost k l hl => absurd hl (hlost.1 k l)
  · exact (hcases hp).imp_right fun hlost l e hfind => absurd hfind (hlost.2 _ _)

end Made

/-- What is to be shown of a world in which directories are being made. -/
structure Making (p : Path) (w m : World) : Prop where
  made : Made p w m
  empty : p.octets = [] → m.disk = w.disk
  arrives : w.disk.Arrives p → m.disk = w.disk

theorem Making.refl {p : Path} {w : World} (ht : w.disk.IsTree) : Making p w w :=
  ⟨.refl ht, fun _ => rfl, fun _ => rfl⟩

/-- A path that leads to a directory is not made, and nothing above it is missing. -/
theorem Disk.Arrives.makeDir {d : Disk} {p : Path} (h : d.Arrives p) (hp : p.octets ≠ []) :
    ∃ f, f ≠ .notFound ∧ d.makeDir p = .error f := by
  rcases checkPath_cases p with hc | ⟨f, hc⟩
  · exact ⟨.exists, by simp, (Ready.makeDir ⟨.inr hc, h⟩ hp).1⟩
  · exact ⟨f, checkPath_error hp hc, makeDir_of_check_error hc⟩

theorem ensures_makeDirsWithin_made (steps : Nat) (p : Path) (w : World) (ht : w.disk.IsTree) :
    (makeDirsWithin steps p).Ensures w (Making p w) fun r w' =>
      Making p w w' ∧ (r = .ok () → p.octets = [] ∨ w'.disk.Ready p) := by
  induction steps generalizing p with
  | zero => exact .done ⟨.refl ht, by simp⟩
  | succ steps ih =>
    have hw : Making p w w := .refl ht
    have hready : ∀ {m : World}, m.disk.status p = .ok .directory → m.disk.Ready p := by
      intro m hs
      obtain ⟨hc, ha⟩ := arrives_of_status hs
      exact ⟨.inr hc, ha⟩
    refine ensures_makeDirsWithin hw ?_ ?_ ?_ ?_ ?_ ?_
    · exact fun he => ⟨hw, fun _ => .inl he⟩
    · intro d' hp hm
      obtain ⟨hmade, hr⟩ := hw.made.makeDir hm
      have hnew : Making p w { w with disk := d' } := by
        refine ⟨hmade, fun h0 => absurd h0 hp, fun ha => ?_⟩
        obtain ⟨f, -, h0⟩ := ha.makeDir hp
        rw [hm] at h0
        cases h0
      exact ⟨hnew, hnew, fun _ => .inr hr⟩
    · exact fun f _ _ _ hs => ⟨hw, fun _ => .inr (hready hs)⟩
    · exact fun f _ _ _ _ => ⟨hw, by simp⟩
    · exact fun _ _ _ f => ⟨hw, by simp⟩
    · intro q hp hm hq
      have hnot : ¬w.disk.Arrives p := by
        intro ha
        obtain ⟨f, hf, h0⟩ := ha.makeDir hp
        rw [hm] at h0
        exact hf (Except.error.inj h0).symm
      have hof : ∀ {m : World}, Made p w m → Making p w m :=
        fun h => ⟨h, fun h0 => absurd h0 hp, fun ha => absurd ha hnot⟩
      have hup : ∀ {m : World}, Making q w m → Made p w m :=
        fun h => h.made.of_parent hq h.empty h.arrives
      refine (ih q).mono (fun m h => hof (hup h)) ?_
      intro r w1 h1
      have hw1 := hup h1.1
      cases r with
      | error f => exact ⟨hof hw1, by simp⟩
      | ok u =>
        refine ensures_ensureDir (hof hw1) ?_ ?_ ?_
        · intro d' hm1
          obtain ⟨hmade, hr⟩ := hw1.makeDir hm1
          exact ⟨hof hmade, hof hmade, fun _ => .inr hr⟩
        · exact fun f _ hs => ⟨hof hw1, fun _ => .inr (hready hs)⟩
        · exact fun f _ _ => ⟨hof hw1, by simp⟩

/-- Making directories adds directories and does nothing else, and if it succeeds the path is
ready. -/
theorem ensures_makeDirs (p : Path) (w : World) (ht : w.disk.IsTree) :
    (makeDirs p).Ensures w (Made p w) fun r w' =>
      Made p w w' ∧ (p.octets = [] → w'.disk = w.disk) ∧
        (r = .ok () → p.octets = [] ∨ w'.disk.Ready p) :=
  (ensures_makeDirsWithin_made _ p w ht).mono (fun _ h => h.made)
    fun _ _ h => ⟨h.1.made, h.1.empty, h.2⟩

/-! ### Ready and stuck paths -/

theorem ensures_of_ready {p : Path} {w : World} (h : w.disk.Ready p) (steps : Nat) :
    (makeDirsWithin (steps + 1) p).Ensures w (· = w) fun r w' => r = .ok () ∧ w' = w := by
  refine ensures_makeDirsWithin rfl ?_ ?_ ?_ ?_ ?_ ?_
  · exact fun _ => ⟨rfl, rfl⟩
  · intro d' hp hm
    rw [(h.makeDir hp).1] at hm
    cases hm
  · exact fun _ _ _ _ _ => ⟨rfl, rfl⟩
  · exact fun f hp _ _ hs => absurd (h.makeDir hp).2 hs
  · intro hp hm
    rw [(h.makeDir hp).1] at hm
    cases hm
  · intro q hp hm
    rw [(h.makeDir hp).1] at hm
    cases hm

theorem ensures_of_stuck {p : Path} {w : World} (h : w.disk.Stuck p) (steps : Nat) :
    (makeDirsWithin (steps + 1) p).Ensures w (· = w) fun r w' =>
      (∃ f, r = .error f ∧ w.disk.makeDir p = .error f) ∧ w' = w := by
  obtain ⟨⟨f, hf, hm⟩, hs⟩ := h.makeDir
  have hfound : w.disk.makeDir p ≠ .error .notFound := by
    rw [hm]
    exact fun h0 => hf (Except.error.inj h0)
  refine ensures_makeDirsWithin rfl ?_ ?_ ?_ ?_ ?_ ?_
  · exact fun h0 => absurd h0 h.ne_nil
  · intro d' _ hok
    rw [hm] at hok
    cases hok
  · exact fun _ _ _ _ h0 => absurd h0 hs
  · exact fun f _ _ h0 _ => ⟨⟨f, rfl, h0⟩, rfl⟩
  · exact fun _ h0 => absurd h0 hfound
  · exact fun q _ h0 => absurd h0 hfound

/-! ### Package directories -/

/-- The directory of a package below a root. -/
def packageDir (root : Path) (package : List Octets) : Path := (root.pushAll package).trimmed

/-- The places of a package and of those it lies in, below a top. -/
def WithinPackage (top : Location) (package : List Octets) (l : Location) : Prop :=
  ∃ part, part ≠ [] ∧ part <+: package ∧ l = top ++ part

/-- The fault that keeps the directory of a package below a top from being made. -/
def packageFault (d : Disk) (root : Path) (top : Location) (package : List Octets) :
    Option DiskFault :=
  if (packageDir root package).octets = [] then none
  else
    match checkPath (packageDir root package) with
    | .error f => some f
    | .ok () => d.obstacle top package

/-- The names of a package that are directories once its directory has been made, or as much of it
as can be made. -/
def pavable (d : Disk) (root : Path) (top : Location) (package : List Octets) : List Octets :=
  match checkPath (packageDir root package) with
  | .error _ => []
  | .ok () => d.passable top package

theorem pavable_isPrefix (d : Disk) (root : Path) (top : Location) (package : List Octets) :
    pavable d root top package <+: package := by
  unfold pavable
  split
  · exact List.nil_prefix
  · exact passable_isPrefix d top package

/-- What keeps a directory from being made depends on the files on the way. -/
theorem packageFault_congr {d d' : Disk} {root : Path} {top : Location} {package : List Octets}
    (h : ∀ part, part ≠ [] → part <+: package → d'.blocks (top ++ part) = d.blocks (top ++ part)) :
    packageFault d' root top package = packageFault d root top package ∧
      pavable d' root top package = pavable d root top package := by
  obtain ⟨hobstacle, hpassable⟩ := obstacle_congr h
  constructor
  · simp only [packageFault, hobstacle]
  · simp only [pavable, hpassable]

theorem packageDir_concat (root : Path) (package : List Octets) {n : Octets}
    (hn : Path.IsName n) :
    packageDir root (package ++ [n]) = (root.pushAll package).push n := by
  rw [packageDir, Path.pushAll_concat, Path.trimmed_push _ hn]

/-- A package that has names has a directory with a path. -/
theorem text_packageDir {root : Path} {package : List Octets} (hn : ∀ n ∈ package, Path.IsName n)
    (hne : package ≠ []) : (packageDir root package).octets ≠ [] := by
  intro h0
  have h1 : (packageDir root package).steps = root.steps ++ package := by
    rw [packageDir, Path.steps_trimmed, Path.steps_pushAll root hn]
  exact hne (List.append_eq_nil_iff.mp (h1.symm.trans (Path.steps_of_empty h0))).2

theorem Disk.Stuck.push {d : Disk} {p : Path} (h : d.Stuck p.trimmed) {n : Octets}
    (hn : Path.IsName n) : d.Stuck (p.push n) := by
  have hpt : p.octets ≠ [] := by
    intro h0
    have h1 := p.trimmed_isPrefix
    rw [h0] at h1
    exact h.ne_nil (List.prefix_nil.mp h1)
  refine ⟨p.octets_push_ne hn, ?_⟩
  rcases h.way with ⟨f, hf⟩ | ⟨f, hf, hd⟩
  · rcases checkPath_cases (p.push n) with hc | hc
    · have h1 := checkPath_of_isPrefix p.trimmed_isPrefix h.ne_nil (checkPath_of_push hn hpt hc)
      rw [h1] at hf
      cases hf
    · exact .inl hc
  · refine .inr ⟨f, hf, ?_⟩
    rw [startOf_trimmed, Path.steps_trimmed] at hd
    rw [descend_push d p hn, hd]
    rfl

namespace Disk.Ground

variable {d : Disk} {root : Path} {links : Nat} {top : Location} {package : List Octets}

theorem arrives_of_descend (g : Ground d root links top) (hn : ∀ n ∈ package, Path.IsName n)
    {r : Nat × Location} (h : d.descend links top package = .ok r) :
    d.Arrives (packageDir root package) := by
  obtain ⟨rfl, hdir, -⟩ := descend_straight hn g.noLinks h
  refine ⟨links, top ++ package, ?_, ?_⟩
  · rw [packageDir, leads_trimmed, leads_iff, g.descend_pushAll hn, h]
  · by_cases hp : package = []
    · rw [hp, List.append_nil]
      exact g.directory
    · exact hdir hp

/-- The directory of a package is ready, or stuck, or an entry on its way is missing. -/
theorem package_cases (g : Ground d root links top) (hn : ∀ n ∈ package, Path.IsName n) :
    d.Ready (packageDir root package) ∨ d.Stuck (packageDir root package) ∨
      (checkPath (packageDir root package) = .ok () ∧
        d.descend links top package = .error .notFound) := by
  have hsteps : d.descend linkLimit (d.startOf (packageDir root package))
      (packageDir root package).steps = d.descend links top package := by
    rw [packageDir, startOf_trimmed, Path.steps_trimmed, g.descend_pushAll hn]
  cases hd : d.descend links top package with
  | ok r =>
    have ha := g.arrives_of_descend hn hd
    by_cases ht : (packageDir root package).octets = []
    · exact .inl ⟨.inl ht, ha⟩
    · rcases checkPath_cases (packageDir root package) with hc | hc
      · exact .inl ⟨.inr hc, ha⟩
      · exact .inr (.inl ⟨ht, .inl hc⟩)
  | error f =>
    have ht : (packageDir root package).octets ≠ [] := by
      refine text_packageDir hn ?_
      rintro rfl
      rw [descend_nil] at hd
      cases hd
    rcases checkPath_cases (packageDir root package) with hc | hc
    · by_cases hf : f = .notFound
      · exact .inr (.inr ⟨hc, by rw [hf]⟩)
      · exact .inr (.inl ⟨ht, .inr ⟨f, hf, by rw [hsteps, hd]⟩⟩)
    · exact .inr (.inl ⟨ht, .inl hc⟩)

/-- The directory of a package is reached from the top. -/
theorem walk_packageDir (g : Ground d root links top) (hn : ∀ n ∈ package, Path.IsName n)
    (hne : package ≠ []) (fl slash : Bool) :
    d.walk fl linkLimit slash (d.startOf (packageDir root package))
        (namesOf (packageDir root package).octets) = d.walk fl links slash top package := by
  have hdir : packageDir root package = root.pushAll package := by
    obtain ⟨init, n, rfl⟩ := (List.eq_nil_or_concat package).resolve_left hne
    have hname : Path.IsName n := hn n (by simp)
    rw [List.concat_eq_append, packageDir_concat root init hname, Path.pushAll_concat]
  have hl : d.descend linkLimit (d.startOf root) (namesOf root.octets) = .ok (links, top) :=
    g.leads
  rw [hdir, startOf_pushAll d root hn, namesOf_pushAll root hn, walk_append d fl _ _ _ slash hne, hl]
  rfl

/-- The fault on the way of a stuck package is that of making its directory, and what is pavable is
there. -/
theorem fault_of_stuck (g : Ground d root links top) (hn : ∀ n ∈ package, Path.IsName n)
    (h : d.Stuck (packageDir root package)) {f : DiskFault}
    (hm : d.makeDir (packageDir root package) = .error f) :
    packageFault d root top package = some f ∧
      ∀ part, part ≠ [] → part <+: pavable d root top package →
        d.entryAt (top ++ part) = some .directory := by
  rcases checkPath_cases (packageDir root package) with hc | ⟨f', hc⟩
  · obtain ⟨f', hf', hd⟩ : ∃ f', f' ≠ .notFound ∧ d.descend links top package = .error f' := by
      rcases h.way with ⟨f', h0⟩ | ⟨f', hf', h0⟩
      · rw [hc] at h0
        cases h0
      · rw [packageDir, startOf_trimmed, Path.steps_trimmed, g.descend_pushAll hn] at h0
        exact ⟨f', hf', h0⟩
    have hne : package ≠ [] := by
      rintro rfl
      rw [descend_nil] at hd
      cases hd
    obtain ⟨slash, hmake⟩ := makeDir_eq (d := d) hc
    rw [g.walk_packageDir hn hne] at hmake
    obtain ⟨fault, hobstacle, hdirs, hwalk⟩ :=
      obstacle_of_descend_error hn g.noLinks slash hd hf'
    have hfault : d.makeDir (packageDir root package) = .error fault := by
      rw [hmake]
      rcases hwalk with h0 | ⟨rfl, spot, e, h0, he⟩
      · rw [h0]
        rfl
      · simp only [h0, Except.bind, he]
    rw [hm] at hfault
    cases hfault
    simp only [packageFault, pavable, h.ne_nil, if_false, hc]
    exact ⟨hobstacle, hdirs⟩
  · rw [makeDir_of_check_error hc] at hm
    cases hm
    simp only [packageFault, pavable, h.ne_nil, if_false, hc, List.prefix_nil]
    exact ⟨trivial, fun part hne hpre => absurd hpre hne⟩

/-- Nothing keeps the directory of a package from being made that is ready. -/
theorem no_fault_of_ready (g : Ground d root links top) (hn : ∀ n ∈ package, Path.IsName n)
    (h : d.Ready (packageDir root package)) :
    packageFault d root top package = none ∧
      ∀ part, part ≠ [] → part <+: package → d.entryAt (top ++ part) = some .directory := by
  obtain ⟨k, l, hl, -⟩ := h.arrives
  rw [packageDir, leads_trimmed] at hl
  have hl' := hl
  rw [leads_iff, g.descend_pushAll hn] at hl'
  obtain ⟨-, -, hdir, -⟩ := g.leads_pushAll hn hl
  constructor
  · rcases h.check with ht | hc
    · simp only [packageFault, ht, if_true]
    · simp only [packageFault, hc, no_obstacle_of_descend hn g.noLinks hl', ite_self]
  · rintro part - ⟨rest, rfl⟩
    by_cases hr : rest = []
    · rwa [hr, List.append_nil] at hdir
    · rw [← List.append_assoc] at hdir
      exact g.tree.dir_of_below hr hdir

/-- Where an entry on the way of a package is missing, its directory is made if that entry is the
last one. -/
theorem makeDir_missing (g : Ground d root links top) {n : Octets}
    (hn : ∀ x ∈ package ++ [n], Path.IsName x)
    (hc : checkPath (packageDir root (package ++ [n])) = .ok ())
    (hd : d.descend links top (package ++ [n]) = .error .notFound) :
    (∃ d', d.makeDir (packageDir root (package ++ [n])) = .ok d') ∨
      (d.makeDir (packageDir root (package ++ [n])) = .error .notFound ∧
        ¬d.Arrives (packageDir root package)) := by
  have hname : Path.IsName n := hn n (by simp)
  have hpack : ∀ x ∈ package, Path.IsName x := fun x hx => hn x (by simp [hx])
  have hen : IsEntryName n := ⟨hname.ne_current, hname.ne_parent⟩
  rw [packageDir_concat root package hname] at hc ⊢
  obtain ⟨slash, hm⟩ := makeDir_eq (d := d) hc
  have hw := walk_append d false linkLimit (d.startOf (root.pushAll package))
    (namesOf (root.pushAll package).octets) slash (List.cons_ne_nil n [])
  rw [← descend_filter, filter_namesOf, g.descend_pushAll hpack] at hw
  rw [hm, startOf_push _ _ hname, namesOf_push _ hname, hw]
  rw [descend_append] at hd
  cases hp : d.descend links top package with
  | error f =>
    rw [hp] at hd
    simp only [Except.bind, Except.error.injEq] at hd
    subst hd
    refine .inr ⟨rfl, ?_⟩
    intro ha
    obtain ⟨k, l, hl, -⟩ := ha
    rw [packageDir, leads_trimmed, leads_iff, g.descend_pushAll hpack, hp] at hl
    cases hl
  | ok r =>
    obtain ⟨rfl, hdir, -⟩ := descend_straight hpack g.noLinks hp
    rw [hp] at hd
    simp only [Except.bind] at hd ⊢
    by_cases hlong : nameLimit < n.length
    · rw [descend_long hen hlong] at hd
      cases hd
    · cases he : d.entryAt (top ++ package ++ [n]) with
      | none =>
        have hhere : d.entryAt (top ++ package) = some .directory := by
          by_cases h0 : package = []
          · rw [h0, List.append_nil]
            exact g.directory
          · exact hdir h0
        rw [walk_missing hen hlong he, if_pos ⟨rfl, (hasDir_iff d _).mpr hhere⟩]
        exact .inl ⟨_, rfl⟩
      | some e =>
        cases e with
        | directory =>
          rw [descend_directory hen hlong he, descend_nil] at hd
          cases hd
        | file b =>
          rw [descend_file hen hlong he] at hd
          cases hd
        | link t =>
          rw [List.append_assoc] at he
          exact absurd he (g.noLinks (package ++ [n]) (by simp) t)

/-- What keeps the directory above from being made is a long name, if an entry on the way is
missing. -/
theorem packageFault_concat (g : Ground d root links top) {n : Octets} (hname : Path.IsName n)
    (hn : ∀ x ∈ package, Path.IsName x)
    (hc : checkPath (packageDir root (package ++ [n])) = .ok ())
    (hd : d.descend links top (package ++ [n]) = .error .notFound) {f : DiskFault}
    (hf : packageFault d root top package = some f) :
    packageFault d root top (package ++ [n]) = some f := by
  have hfilled : (packageDir root (package ++ [n])).octets ≠ [] := ((checkPath_ok_iff _).mp hc).2.1
  simp only [packageFault] at hf
  split at hf
  · cases hf
  · rename_i ht
    have hprefix : (packageDir root package).octets <+:
        (packageDir root (package ++ [n])).octets := by
      rw [packageDir_concat root package hname]
      exact (Path.trimmed_isPrefix _).trans (isPrefix_push _ hname)
    rw [checkPath_of_isPrefix hprefix ht hc] at hf
    have hlong : f = .nameTooLong := by
      by_contra hne
      have hblocked : d.descend links top package = .error .notDirectory :=
        descend_of_blocked g.tree hn g.noLinks hf hne
      rw [descend_append, hblocked] at hd
      cases hd
    simp only [packageFault, hfilled, if_false, hc]
    rw [hlong] at hf ⊢
    exact obstacle_append_long hf [n]

end Disk.Ground

/-- Between two worlds nothing happens but that directories of a package are made. -/
structure Grown (top : Location) (package : List Octets) (w m : World) : Prop where
  process : m.process = w.process
  clock : m.clock = w.clock
  adds : AddsDirs (WithinPackage top package) w.disk m.disk
  tree : m.disk.IsTree
  short : ∀ part, m.disk.entryAt (top ++ part) ≠ w.disk.entryAt (top ++ part) →
    ∀ x ∈ part, ¬nameLimit < x.length

namespace Grown

variable {root : Path} {links : Nat} {top : Location} {package : List Octets} {w m : World}

theorem refl (ht : w.disk.IsTree) : Grown top package w w :=
  ⟨rfl, rfl, .refl _, ht, fun _ h => absurd rfl h⟩

theorem ground (h : Grown top package w m) (g : Ground w.disk root links top) :
    Ground m.disk root links top := g.addsDirs h.adds h.tree

theorem extend {n : Octets} (h : Grown top package w m) : Grown top (package ++ [n]) w m := by
  refine ⟨h.process, h.clock, h.adds.weaken ?_, h.tree, h.short⟩
  rintro l ⟨part, hne, hpre, rfl⟩
  exact ⟨part, hne, hpre.trans (List.prefix_append ..), rfl⟩

/-- The directory of a package that is made lies at the place of the package. -/
theorem makeDir (h : Grown top package w m) (g : Ground w.disk root links top)
    (hn : ∀ n ∈ package, Path.IsName n) (hne : package ≠ []) {d' : Disk}
    (hm : m.disk.makeDir (packageDir root package) = .ok d') :
    Grown top package w { m with disk := d' } ∧ d'.Ready (packageDir root package) := by
  obtain ⟨hc, here, name, hnone, hhere, rfl, k, hk⟩ := makeDir_ok hm
  have hl : here ++ [name] ≠ [] := by simp
  have hput := entryAt_put m.disk hl .directory
  have htree : (m.disk.put (here ++ [name]) .directory).IsTree := h.tree.put hhere (.inl rfl)
  have hadd : AddsDirs (fun _ => True) m.disk (m.disk.put (here ++ [name]) .directory) :=
    .put hl hnone trivial
  have g' := (h.ground g).addsDirs hadd htree
  have hk' := hk
  rw [packageDir, leads_trimmed] at hk'
  obtain ⟨-, hplace, -, hshort⟩ := g'.leads_pushAll hn hk'
  refine ⟨⟨h.process, h.clock, h.adds.trans (.put hl hnone ?_), htree, ?_⟩, .inr hc, k, _, hk, by
    rw [hput, if_pos rfl]⟩
  · exact ⟨package, hne, List.prefix_rfl, hplace⟩
  · intro part hchange
    by_cases hpart : top ++ part = here ++ [name]
    · rw [hplace] at hpart
      rw [List.append_cancel_left hpart]
      exact hshort
    · refine h.short part ?_
      rwa [hput, if_neg hpart] at hchange

end Grown

/-- Below a ground, making the directory of a package adds directories of the package only. It
succeeds with a ready path and fails with a stuck one. -/
theorem ensures_makeDirs_package {root : Path} {links : Nat} {top : Location} {w : World}
    (g : Ground w.disk root links top) (package : List Octets)
    (hn : ∀ n ∈ package, Path.IsName n) {steps : Nat} (hs : package.length < steps) :
    (makeDirsWithin steps (packageDir root package)).Ensures w (Grown top package w)
      fun r w' => Grown top package w w' ∧
        match r with
        | .ok () => w'.disk.Ready (packageDir root package)
        | .error f => w'.disk.Stuck (packageDir root package) ∧
            packageFault w.disk root top package = some f := by
  have hw : ∀ {package}, Grown top package w w := .refl g.tree
  induction package using List.reverseRecOn generalizing steps with
  | nil =>
    obtain ⟨steps, rfl⟩ : ∃ k, steps = k + 1 := ⟨steps - 1, by simp at hs; omega⟩
    rcases g.package_cases hn with hr | hr | ⟨-, hd⟩
    · exact (ensures_of_ready hr steps).mono (fun m hm => by rw [hm]; exact hw)
        fun r w' h => by rw [h.1, h.2]; exact ⟨hw, hr⟩
    · refine (ensures_of_stuck hr steps).mono (fun m hm => by rw [hm]; exact hw) ?_
      rintro r w' ⟨⟨f, rfl, hm⟩, rfl⟩
      exact ⟨hw, hr, (g.fault_of_stuck hn hr hm).1⟩
    · rw [descend_nil] at hd
      cases hd
  | append_singleton package n ih =>
    obtain ⟨steps, rfl⟩ : ∃ k, steps = k + 1 := ⟨steps - 1, by simp at hs; omega⟩
    have hname : Path.IsName n := hn n (by simp)
    have hpack : ∀ x ∈ package, Path.IsName x := fun x hx => hn x (by simp [hx])
    rcases g.package_cases hn with hr | hr | ⟨hc, hd⟩
    · exact (ensures_of_ready hr steps).mono (fun m hm => by rw [hm]; exact hw)
        fun r w' h => by rw [h.1, h.2]; exact ⟨hw, hr⟩
    · refine (ensures_of_stuck hr steps).mono (fun m hm => by rw [hm]; exact hw) ?_
      rintro r w' ⟨⟨f, rfl, hm⟩, rfl⟩
      exact ⟨hw, hr, (g.fault_of_stuck hn hr hm).1⟩
    · have hready : ∀ {m : World}, m.disk.status (packageDir root (package ++ [n])) =
          .ok .directory → m.disk.Ready (packageDir root (package ++ [n])) := by
        intro m h0
        obtain ⟨hc, ha⟩ := arrives_of_status h0
        exact ⟨.inr hc, ha⟩
      have hfilled : (packageDir root (package ++ [n])).octets ≠ [] :=
        ((checkPath_ok_iff _).mp hc).2.1
      have hparent : (packageDir root (package ++ [n])).parent =
          some (packageDir root package) := by
        rw [packageDir_concat root package hname, Path.parent_push _ hname]
        rfl
      refine ensures_makeDirsWithin hw ?_ ?_ ?_ ?_ ?_ ?_
      · exact fun h0 => absurd h0 hfilled
      · intro d' _ hm
        obtain ⟨hg, hr⟩ := hw.makeDir g hn (by simp) hm
        exact ⟨hg, hg, hr⟩
      · exact fun f _ _ _ hs => ⟨hw, hready hs⟩
      · intro f _ hf hm
        rcases g.makeDir_missing hn hc hd with ⟨d', hok⟩ | ⟨hmiss, -⟩
        · rw [hok] at hm
          cases hm
        · rw [hmiss] at hm
          cases hm
          exact absurd rfl hf
      · intro _ _ h0
        rw [hparent] at h0
        cases h0
      · intro q _ _ hq
        rw [hparent] at hq
        cases hq
        have hlen : package.length < steps := by
          simp only [List.length_append, List.length_singleton] at hs
          omega
        refine (ih hpack hlen).mono (fun m hm => hm.extend) ?_
        rintro r w1 ⟨hg1, hr1⟩
        cases r with
        | error f =>
          have hstuck : w1.disk.Stuck (root.pushAll package).trimmed := hr1.1
          refine ⟨hg1.extend, ?_, ?_⟩
          · rw [packageDir_concat root package hname]
            exact hstuck.push hname
          · exact g.packageFault_concat hname hpack hc hd hr1.2
        | ok u =>
          -- the directory above is there now, so whatever stands at the last name decides
          have g1 := hg1.ground g
          refine ensures_ensureDir hg1.extend ?_ ?_ ?_
          · intro d' hm
            obtain ⟨hg, hr⟩ := hg1.extend.makeDir g hn (by simp) hm
            exact ⟨hg, hg, hr⟩
          · exact fun f _ hs => ⟨hg1.extend, hready hs⟩
          · intro f hm hno
            rcases g1.package_cases hn with h1 | h1 | ⟨hc1, hd1⟩
            · exact absurd (h1.makeDir hfilled).2 hno
            · refine ⟨hg1.extend, h1, ?_⟩
              rw [← (packageFault_congr fun part _ _ => hg1.adds.blocks_eq (top ++ part)).1]
              exact (g1.fault_of_stuck hn h1 hm).1
            · rcases g1.makeDir_missing hn hc1 hd1 with ⟨d', hok⟩ | ⟨-, hnot⟩
              · rw [hok] at hm
                cases hm
              · exact absurd (Ready.arrives hr1) hnot

theorem length_filter_split (sep : UInt8) (cs : Octets) :
    ((Text.split sep cs).filter fun s => !isIdle s).length ≤ cs.length := by
  induction cs with
  | nil => simp [Text.split, isIdle]
  | cons c cs ih =>
    by_cases hc : c = sep
    · simp only [Text.split, hc, if_true, List.length_cons]
      rw [List.filter_cons_of_neg (by simp [isIdle])]
      omega
    · cases h : Text.split sep cs with
      | nil => exact absurd h (Text.split_ne_nil sep cs)
      | cons piece rest =>
        rw [h] at ih
        simp only [Text.split, hc, if_false, h, List.length_cons]
        have hhead : (((c :: piece) :: rest).filter fun s => !isIdle s).length ≤
            (rest.filter fun s => !isIdle s).length + 1 := by
          rw [List.filter_cons]
          split
          · simp
          · omega
        have hrest := ((List.sublist_cons_self piece rest).filter fun s => !isIdle s).length_le
        omega

/-- A path has no more steps than bytes. -/
theorem Path.length_steps_le (p : Path) : p.steps.length ≤ p.octets.length :=
  length_filter_split Octet.slash _

/-- As `ensures_makeDirs_package`, with as many rounds as `makeDirs` has. A directory that is ready
or stuck is left alone. -/
theorem ensures_makeDirs_below {root : Path} {links : Nat} {top : Location} {w : World}
    (g : Ground w.disk root links top) (package : List Octets)
    (hn : ∀ n ∈ package, Path.IsName n) :
    (makeDirs (packageDir root package)).Ensures w (Grown top package w)
      fun r w' => Grown top package w w' ∧
        (w.disk.Ready (packageDir root package) ∨ w.disk.Stuck (packageDir root package) →
          w' = w) ∧
        match r with
        | .ok () => w'.disk.Ready (packageDir root package)
        | .error f => w'.disk.Stuck (packageDir root package) ∧
            packageFault w.disk root top package = some f := by
  have hlen : package.length < (packageDir root package).octets.length + 1 := by
    have h1 := (packageDir root package).length_steps_le
    rw [packageDir, Path.steps_trimmed, Path.steps_pushAll root hn, List.length_append] at h1
    rw [packageDir]
    omega
  have h := ensures_makeDirs_package g package hn hlen
  refine ⟨h.moments, h.result.1, ?_, h.result.2⟩
  rintro (hr | hr)
  · exact (ensures_of_ready hr _).result.2
  · exact (ensures_of_stuck hr _).result.2

/-- Between two disks the directory of a package is made, or as much of it as can be made. -/
structure Paved (root : Path) (top : Location) (package : List Octets) (d d' : Disk) : Prop where
  home : d'.home = d.home
  directory : ∀ l, WithinPackage top (pavable d root top package) l →
    d'.entryAt l = some .directory
  other : ∀ l, ¬WithinPackage top (pavable d root top package) l → d'.entryAt l = d.entryAt l

/-- Nothing but a directory is where a part of a package has been made. -/
theorem Grown.paved {root : Path} {links : Nat} {top : Location} {package : List Octets}
    {w m : World} (h : Grown top package w m) (g : Ground w.disk root links top)
    (hn : ∀ n ∈ package, Path.IsName n)
    (hsame : w.disk.Stuck (packageDir root package) → m.disk = w.disk)
    (hr : m.disk.Ready (packageDir root package) ∨ m.disk.Stuck (packageDir root package)) :
    Paved root top package w.disk m.disk := by
  have g' := h.ground g
  have hblocks : ∀ l, m.disk.blocks l = w.disk.blocks l := h.adds.blocks_eq
  have hpavable : pavable m.disk root top package = pavable w.disk root top package :=
    (packageFault_congr fun part _ _ => hblocks (top ++ part)).2
  refine ⟨h.adds.home, ?_, ?_⟩
  · rintro l ⟨part, hne, hpre, rfl⟩
    rcases hr with hr | hr
    · exact (g'.no_fault_of_ready hn hr).2 part hne (hpre.trans (pavable_isPrefix ..))
    · obtain ⟨⟨f, -, hm⟩, -⟩ := hr.makeDir
      rw [← hpavable] at hpre
      exact (g'.fault_of_stuck hn hr hm).2 part hne hpre
  · intro l hl
    by_contra hne
    rcases h.adds.entry l with h0 | ⟨h0, hdir, part, hpart, hpre, rfl⟩
    · exact hne h0
    · -- every name of a place that was made is short, and nothing blocks the way to it
      refine hl ⟨part, hpart, ?_, rfl⟩
      have hstems : ∀ stem, stem ≠ [] → stem <+: part → w.disk.blocks (top ++ stem) = false := by
        rintro stem - ⟨rest, rfl⟩
        rw [← hblocks]
        refine blocks_eq_false.mpr (.inr ?_)
        by_cases hrest : rest = []
        · rwa [hrest, List.append_nil] at hdir
        · rw [← List.append_assoc] at hdir
          exact h.tree.dir_of_below hrest hdir
      have hpassable := isPrefix_passable hpre (h.short part hne) hstems
      unfold pavable
      split
      · rename_i f hc
        have hnames : package ≠ [] := by
          rintro rfl
          exact hpart (List.prefix_nil.mp hpre)
        rw [hsame ⟨text_packageDir hn hnames, .inl ⟨f, hc⟩⟩] at hne
        exact absurd rfl hne
      · exact hpassable

end ClassCensus
