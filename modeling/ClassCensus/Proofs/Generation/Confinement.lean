import ClassCensus.Engine.Snapshot
import ClassCensus.Proofs.ArtifactPaths
import ClassCensus.Proofs.Disk.Sites
import ClassCensus.Proofs.Generation.Story
import ClassCensus.Proofs.Generation.TurnSteps

/-!
# Confinement

A run stays at its output root, the directories above it that are missing, and what lies below it
(`OutputPlace`): every step of a run changes entries there only (`Confinable.perform`), and so at every
moment of a run nothing else has changed (`generate_confined`). Class names are any with a segment that
is not empty and without segments that begin with a slash. Other names lead out of the output root
(`generate_escapes`).
-/

namespace ClassCensus

namespace Disk

/-! ### Changes within places -/

/-- Entries that are not in some places stay, and links stay wherever they are. -/
structure ChangesIn (places : Location → Prop) (d d' : Disk) : Prop where
  home : d'.home = d.home
  entry : ∀ l, d'.entryAt l = d.entryAt l ∨
    places l ∧ (∀ t, d.entryAt l ≠ some (.link t)) ∧ ∀ t, d'.entryAt l ≠ some (.link t)

namespace ChangesIn

variable {places : Location → Prop} {d d' d'' : Disk}

theorem refl (d : Disk) : ChangesIn places d d := ⟨rfl, fun _ => .inl rfl⟩

theorem trans (h : ChangesIn places d d') (h' : ChangesIn places d' d'') : ChangesIn places d d'' := by
  refine ⟨h'.home.trans h.home, fun l => ?_⟩
  rcases h.entry l with hl | ⟨hplace, hold, hmid⟩
  · rw [← hl]
    exact h'.entry l
  · refine .inr ⟨hplace, hold, ?_⟩
    rcases h'.entry l with hl | ⟨-, -, hnew⟩
    · rwa [hl]
    · exact hnew

theorem sameLinks (h : ChangesIn places d d') : SameLinks d d' := by
  refine ⟨h.home, fun l t => ?_⟩
  rcases h.entry l with hl | ⟨-, hold, hnew⟩
  · rw [hl]
  · exact iff_of_false (hnew t) (hold t)

theorem put {l : Location} {e : Entry} (hl : l ≠ []) (hplace : places l)
    (hold : ∀ t, d.entryAt l ≠ some (.link t)) (hnew : ∀ t, e ≠ .link t) :
    ChangesIn places d (d.put l e) := by
  refine ⟨rfl, fun k => ?_⟩
  rw [entryAt_put d hl]
  by_cases hk : k = l
  · subst hk
    exact .inr ⟨hplace, hold, fun t => by simpa using hnew t⟩
  · exact .inl (if_neg hk)

theorem of_part (h : Part d' d)
    (hplace : ∀ l, d'.entryAt l ≠ d.entryAt l → places l ∧ ∀ t, d.entryAt l ≠ some (.link t)) :
    ChangesIn places d d' := by
  refine ⟨h.home, fun l => ?_⟩
  by_cases hl : d'.entryAt l = d.entryAt l
  · exact .inl hl
  · refine .inr ⟨(hplace l hl).1, (hplace l hl).2, ?_⟩
    rw [(h.entry l).resolve_right hl]
    simp

theorem erase {l : Location} (hplace : places l) (hold : ∀ t, d.entryAt l ≠ some (.link t)) :
    ChangesIn places d (d.erase l) := by
  refine .of_part (.erase d l) fun k hk => ?_
  by_cases hkl : k = l
  · exact hkl ▸ ⟨hplace, hold⟩
  · refine absurd ?_ hk
    by_cases hl : l = []
    · rw [hl, entryAt_erase_root]
    · rw [entryAt_erase d hl, if_neg hkl]

end ChangesIn

end Disk

open Disk

/-- The places of a run below a root: the site of the root, what is missing above it, and everything
below it. -/
def OutputPlace (d : Disk) (root : Path) (l : Location) : Prop :=
  ∃ top, Site d root top ∧ (top <+: l ∨ l <+: top ∧ d.entryAt l = none)

/-- A disk on which the output root does not go back, and has no links at or below its site. -/
structure Confinable (d : Disk) (root : Path) : Prop where
  sound : d.Sound
  forward : [Octet.dot, Octet.dot] ∉ root.steps
  noLinks : ∀ top, Site d root top → ∀ rest t, d.entryAt (top ++ rest) ≠ some (.link t)

namespace Confinable

variable {d₀ d d' : Disk} {root q dir : Path} {names : List Octets} {x : Octets}

section Places

variable (c : Confinable d₀ root) (h : ChangesIn (OutputPlace d₀ root) d₀ d)

include c h

/-- A root without a site is left alone; so what leads to a site of it does so on the first disk. -/
theorem site (hsite : d.IsTree → d.entryAt (d.startOf root) = some .directory →
    ∃ top, Site d root top) : ∃ top, Site d₀ root top := by
  by_contra hnone
  have hsame : Same d₀ d := by
    refine ⟨h.home, fun l => (h.entry l).resolve_right ?_⟩
    rintro ⟨⟨top, htop, -⟩, -⟩
    exact hnone ⟨top, htop⟩
  obtain ⟨top, htop⟩ := hsite (hsame.isTree c.sound.tree) (by
    rw [hsame.startOf, hsame.entry]
    exact c.sound.start root)
  exact hnone ⟨top, htop.of_same hsame.symm⟩

theorem noLinks_at {top : Location} (htop : Site d₀ root top) (rest : List Octets) (t : Path) :
    d.entryAt (top ++ rest) ≠ some (.link t) := by
  rw [Ne, h.sameLinks.link]
  exact c.noLinks top htop rest t

variable (hn : ∀ n ∈ names, Path.IsName n)

include hn

/-- A directory that is made on the way of names below the root lies at a place of the run. -/
theorem makeDir (hmade : d.makeDir q = .ok d') (hway : q.steps <+: root.steps ++ names)
    (hhead : d.startOf q = d.startOf root) : ChangesIn (OutputPlace d₀ root) d d' := by
  obtain ⟨top, htop⟩ := c.site h fun ht hstart => site_of_makeDir ht hstart hmade hway hhead
  obtain ⟨front, back, links, base, s, rfl⟩ := id htop
  obtain ⟨here, name, hnone, rfl, hplace⟩ := s.makeDir h.sameLinks c.forward (c.noLinks _ htop)
    (fun n hmem => ⟨(hn n hmem).ne_current, (hn n hmem).ne_parent⟩) hmade hway hhead
  refine .put (by simp) ?_ (by simp [hnone]) (by simp)
  rcases hplace with hbelow | habove | hdir
  · exact ⟨_, htop, .inl hbelow⟩
  · rcases h.entry (here ++ [name]) with hsame | ⟨hplace, -⟩
    · exact ⟨_, htop, .inr ⟨habove, hsame.symm.trans hnone⟩⟩
    · exact hplace
  · refine ((h.entry (here ++ [name])).resolve_left ?_).1
    rw [hnone, hdir]
    simp

variable (hdir : dir.steps = root.steps ++ names) (hhead : d.startOf dir = d.startOf root)
  (hx : Path.IsName x)

include hdir hhead hx

/-- What a name below the root leads to lies at a place of the run, and is no link. -/
theorem place_of_locate {fl : Bool} {spot : Spot} (hspot : d.locate fl (dir.push x) = .ok spot) :
    OutputPlace d₀ root spot.location ∧ ∀ t, d.entryAt spot.location ≠ some (.link t) := by
  obtain ⟨top, htop⟩ := c.site h fun ht hstart => by
    rw [Disk.locate_push fl hx (locate_eq_ok_iff.mp hspot).1, hhead, hdir] at hspot
    cases hlead : d.descend linkLimit (d.startOf root) (root.steps ++ names) with
    | error f =>
      rw [hlead] at hspot
      cases hspot
    | ok r => exact site_of_descend ht hstart hlead
  obtain ⟨front, back, links, base, s, rfl⟩ := id htop
  have hplace := s.locate_push h.sameLinks c.forward (c.noLinks _ htop)
    (fun n hmem => ⟨(hn n hmem).ne_current, (hn n hmem).ne_parent⟩) hx hdir hhead hspot
  rw [hplace, List.append_assoc]
  exact ⟨⟨_, htop, .inl (List.prefix_append ..)⟩, c.noLinks_at h htop _⟩

theorem place_of_find {l : Location} {e : Entry} (hfind : d.find false (dir.push x) = .ok (l, e)) :
    OutputPlace d₀ root l ∧ d.entryAt l = some e ∧ ∀ t, e ≠ .link t := by
  obtain ⟨spot, hspot, rfl, he, -⟩ := find_eq_ok_iff.mp hfind
  obtain ⟨hplace, hlink⟩ := place_of_locate c h hn hdir hhead hx hspot
  have hentry : d.entryAt spot.location = some e := by
    rw [(walk_ok (locate_eq_ok_iff.mp hspot).2).1, he]
  exact ⟨hplace, hentry, fun t ht => hlink t (hentry.trans (by rw [ht]))⟩

theorem write {bytes : ByteArray} (hwrite : d.write (dir.push x) bytes = .ok d') :
    ChangesIn (OutputPlace d₀ root) d d' := by
  obtain ⟨spot, hspot, -, hne, -, hlink, rfl⟩ := write_ok hwrite
  exact .put hne (place_of_locate c h hn hdir hhead hx hspot).1 hlink (by simp)

theorem removeFile (hremove : d.removeFile (dir.push x) = .ok d') :
    ChangesIn (OutputPlace d₀ root) d d' := by
  obtain ⟨l, e, hfind, -, rfl⟩ := removeFile_ok hremove
  obtain ⟨hplace, hentry, hlink⟩ := place_of_find c h hn hdir hhead hx hfind
  exact .erase hplace fun t ht => hlink t (Option.some.inj (hentry.symm.trans ht))

theorem rename {dir' : Path} {x' : Octets} (hdir' : dir'.steps = root.steps ++ names)
    (hhead' : d.startOf dir' = d.startOf root) (hx' : Path.IsName x')
    (hrename : d.rename (dir'.push x') (dir.push x) = .ok d') :
    ChangesIn (OutputPlace d₀ root) d d' := by
  obtain ⟨l, e, spot, hfind, hspot, -, hnot, -, rfl⟩ := rename_ok hrename
  obtain ⟨hplace, hlink⟩ := place_of_locate c h hn hdir hhead hx hspot
  obtain ⟨hplace', hentry', hlink'⟩ := place_of_find c h hn hdir' hhead' hx' hfind
  split
  · exact .refl d
  · have herase : ChangesIn (OutputPlace d₀ root) d (d.erase l) :=
      .erase hplace' fun t ht => hlink' t (Option.some.inj (hentry'.symm.trans ht))
    refine herase.trans (.put ?_ hplace ?_ hlink')
    · intro h0
      exact hnot (by rw [h0, entryAt_root])
    · intro t ht
      rcases (Part.erase d l).entry spot.location with h0 | h0
      · rw [h0] at ht
        cases ht
      · exact hlink t (h0 ▸ ht)

end Places

/-! ### Steps of a run -/

section Steps

variable {m : World} {s : Step}

theorem changesIn_change {places : Location → Prop} {r : Except DiskFault Disk}
    (h : ∀ d', r = .ok d' → ChangesIn places m.disk d') :
    ChangesIn places m.disk (m.change r).2.disk := by
  cases r with
  | error f => exact .refl _
  | ok d' => exact h d' rfl

theorem changesIn_asks {places : Location → Prop} (h : s.Asks) :
    ChangesIn places m.disk (m.perform s).2.disk := by
  rw [(World.passes_perform (w := m) h).disk]
  exact .refl _

variable (c : Confinable d₀ root) (h : ChangesIn (OutputPlace d₀ root) d₀ m.disk)
  (hn : ∀ n ∈ names, Path.IsName n) (hdir : dir.steps = root.steps ++ names)
  (hhead : dir.octets.head? = some Octet.slash ↔ root.octets.head? = some Octet.slash)

include c h hn hdir hhead

theorem perform_makes (hs : s.Makes dir) :
    ChangesIn (OutputPlace d₀ root) m.disk (m.perform s).2.disk := by
  rcases hs with hs | ⟨q, hq, rfl⟩
  · exact changesIn_asks hs
  · exact changesIn_change fun d' hmade =>
      c.makeDir h hn hmade (hdir ▸ hq.steps) (startOf_congr _ (hq.head.trans hhead))

theorem perform_writes (hx : Path.IsName x) (hs : s.Writes (dir.push x)) :
    ChangesIn (OutputPlace d₀ root) m.disk (m.perform s).2.disk := by
  -- a temporary file is another name in the directory
  have htmp : ∀ {temporary : Path}, (dir.push x).IsTemporary temporary →
      ∃ x', Path.IsName x' ∧ temporary = dir.trimmed.push x' := by
    rintro _ ⟨dir', name, stamp, hparent, hname, rfl⟩
    obtain rfl := Option.some.inj ((dir.parent_push hx).symm.trans hparent)
    obtain rfl := Option.some.inj ((dir.fileName_push hx).symm.trans hname)
    exact ⟨_, isName_temporaryName hx stamp, rfl⟩
  have hsteps : dir.trimmed.steps = root.steps ++ names := dir.steps_trimmed.trans hdir
  have hstart : m.disk.startOf dir = m.disk.startOf root := startOf_congr _ hhead
  have htrimmed : m.disk.startOf dir.trimmed = m.disk.startOf root :=
    (startOf_trimmed _ dir).trans hstart
  cases hs with
  | asks hs => exact changesIn_asks hs
  | write bytes ht =>
    obtain ⟨x', hx', rfl⟩ := htmp ht
    exact changesIn_change fun d' hwrite => c.write h hn hsteps htrimmed hx' hwrite
  | rename ht =>
    obtain ⟨x', hx', rfl⟩ := htmp ht
    exact changesIn_change fun d' hrename =>
      c.rename h hn hdir hstart hx hsteps htrimmed hx' hrename
  | remove ht =>
    obtain ⟨x', hx', rfl⟩ := htmp ht
    exact changesIn_change fun d' hremove => c.removeFile h hn hsteps htrimmed hx' hremove

omit hn hdir hhead

theorem perform_turn {n : String} (hn : IsInner n) (hs : TurnStep (.ofClass root n) s) :
    ChangesIn (OutputPlace d₀ root) m.disk (m.perform s).2.disk := by
  obtain ⟨dir, names, x, y, hdir, hnames, hhead, hxy, hof⟩ := hn.ofClass root
  rw [hof] at hs
  cases hs with
  | makes hparent hs =>
    obtain rfl := Option.some.inj ((dir.parent_push hxy.dump).symm.trans hparent)
    exact c.perform_makes h hnames (dir.steps_trimmed.trans hdir) (dir.head_trimmed.trans hhead) hs
  | metrics hs => exact c.perform_writes h hnames hdir hhead hxy.metrics hs
  | dump hs => exact c.perform_writes h hnames hdir hhead hxy.dump hs
  | discard =>
    exact changesIn_change fun d' hremove =>
      c.removeFile h hnames hdir (startOf_congr _ hhead) hxy.metrics hremove

theorem site_of_find_root {l : Location} {e : Entry} (hfind : m.disk.find false root = .ok (l, e)) :
    Site d₀ root l := by
  obtain ⟨top, htop⟩ := c.site h fun ht hstart => site_of_find ht hstart hfind
  obtain ⟨front, back, links, base, s, rfl⟩ := id htop
  exact s.find h.sameLinks c.forward (c.noLinks _ htop) hfind ▸ htop

/-- A step of a run over inner class names changes entries at places of the run only. -/
theorem perform {classNames : List String} (hnames : ∀ n ∈ classNames, IsInner n)
    (hs : RunStep root classNames s) :
    ChangesIn (OutputPlace d₀ root) m.disk (m.perform s).2.disk := by
  cases hs with
  | asks hs => exact changesIn_asks hs
  | makes hs =>
    have hnone : ∀ n ∈ ([] : List Octets), Path.IsName n := fun n hn => nomatch hn
    exact c.perform_makes h hnone (List.append_nil _).symm Iff.rfl hs
  | removeFile =>
    refine changesIn_change fun d' hremove => ?_
    obtain ⟨l, e, hfind, -, rfl⟩ := removeFile_ok hremove
    have hsite := c.site_of_find_root h hfind
    refine .erase ⟨l, hsite, .inl List.prefix_rfl⟩ fun t => ?_
    simpa using c.noLinks_at h hsite [] t
  | removeTree =>
    change ChangesIn _ m.disk (m.disk.removeTree root).2
    cases hfind : m.disk.find false root with
    | error f =>
      simp only [removeTree, hfind]
      exact .refl _
    | ok r =>
      obtain ⟨l, e⟩ := r
      have hsite := c.site_of_find_root h hfind
      refine .of_part (part_removeTree _ _) fun k hk => ?_
      obtain ⟨rest, rfl⟩ := not_imp_comm.mp (entryAt_removeTree hfind) hk
      exact ⟨⟨l, hsite, .inl (List.prefix_append ..)⟩, c.noLinks_at h hsite rest⟩
  | turn hn hs => exact c.perform_turn h (hnames _ hn) hs

end Steps

end Confinable

/-! ### Runs -/

variable {ε : Type} [ClassEngine ε] {p : Plan ε} {w : World} {names : List String}

/-- A run changes entries at its output root, at missing directories above it, and below it only, at
every moment and whatever it results in. -/
theorem generate_confined (hquiet : p.PrintsQuietly) (hnames : ∀ n ∈ names, IsInner n)
    (hw : w.disk.Sound) (hroot : Component.parent ∉ p.root.components)
    (hlinks : ∀ top, Site w.disk p.root top → ∀ rest t, w.disk.entryAt (top ++ rest) ≠ some (.link t)) :
    Attempt.Ensures (p.generate names) w
      (fun m => ChangesIn (OutputPlace w.disk p.root) w.disk m.disk)
      fun _ w' => ChangesIn (OutputPlace w.disk p.root) w.disk w'.disk := by
  have c : Confinable w.disk p.root := ⟨hw, (p.root.parent_mem_components).not.mp hroot, hlinks⟩
  have hstep : ∀ (m : World) s, RunStep p.root names s →
      ChangesIn (OutputPlace w.disk p.root) w.disk m.disk →
        ChangesIn (OutputPlace w.disk p.root) w.disk (m.perform s).2.disk :=
    fun m s hs h => h.trans (c.perform h hnames hs)
  exact (Plan.performs_generate hquiet names).ensures hstep (.refl w.disk)

/-- A generation below `out` for classes with names of any form. -/
def anyNamed (names : List String) (replace : Bool) : Plan SnapshotEngine :=
  ⟨⟨SnapshotEngine.ofClasses (names.map .named), names, "none"⟩, syntheticName, ⟨"out"⟩, replace⟩

theorem printsQuietly_anyNamed (names : List String) (replace : Bool) :
    (anyNamed names replace).PrintsQuietly := fun _ => .done trivial

/-- A run with odd names, in place of an older output root and beside another file. -/
theorem generate_confined_to_out :
    let names := ["p.X", "a//b.Y/"]
    let start : World := ⟨⟨[(["keep"], .file ⟨#[1]⟩), (["out"], .directory),
      (["out", "old"], .file ⟨#[2]⟩)], []⟩, 7, 1, []⟩
    let p := anyNamed names true
    p.PrintsQuietly ∧ (∀ n ∈ names, IsInner n) ∧ start.disk.Sound ∧
      Component.parent ∉ p.root.components ∧
      (∀ top, Site start.disk p.root top →
        ∀ rest t, start.disk.entryAt (top ++ rest) ≠ some (.link t)) ∧
      ∃ report w', (p.generate names).run.run start = (.ok report, w') ∧
        report.generated = names ∧ w'.disk.status ⟨"out/a/b/Y.ir"⟩ = .ok .file ∧
        ChangesIn (OutputPlace start.disk p.root) start.disk w'.disk := by
  intro names start p
  have hquiet : p.PrintsQuietly := printsQuietly_anyNamed names true
  have hnames : ∀ n ∈ names, IsInner n := by decide +kernel
  have hsound : start.disk.Sound := .of_entries (by decide +kernel) (by decide)
  have hroot : Component.parent ∉ p.root.components := by decide +kernel
  have hplain : start.disk.Plain := by decide +kernel
  have hlinks : ∀ top, Site start.disk p.root top →
      ∀ rest t, start.disk.entryAt (top ++ rest) ≠ some (.link t) := by
    intro top _ rest t
    by_cases hl : top ++ rest = []
    · rw [hl, entryAt_root]
      simp
    · exact hplain.noLinks hl
  have hgenerated : ((p.generate names).run.run start).1.toOption.map (·.generated) = some names := by
    decide +kernel
  have hthere : ((p.generate names).run.run start).2.disk.status ⟨"out/a/b/Y.ir"⟩ = .ok .file := by
    decide +kernel
  have hconfined : ChangesIn (OutputPlace start.disk p.root) start.disk
      ((p.generate names).run.run start).2.disk :=
    (generate_confined hquiet hnames hsound hroot hlinks).result
  rcases hrun : (p.generate names).run.run start with ⟨r, w'⟩
  rw [hrun] at hgenerated hthere hconfined
  cases r with
  | error e => cases hgenerated
  | ok report =>
    exact ⟨hquiet, hnames, hsound, hroot, hlinks, report, w', rfl, Option.some.inj hgenerated, hthere,
      hconfined⟩

/-- A class whose name is empty gets its artifacts beside the output root, and one whose name begins with
a slash gets them wherever the name says. -/
theorem generate_escapes :
    let start : World := ⟨⟨[(["etc"], .directory), (["home"], .directory)], ["home"]⟩, 7, 1, []⟩
    ∀ name ∈ ["", "/etc/X"], ∃ report w' place,
      ((anyNamed [name] false).generate [name]).run.run start = (.ok report, w') ∧
        report.generated = [name] ∧ start.disk.entryAt place = none ∧ w'.disk.entryAt place ≠ none ∧
        ¬OutputPlace start.disk ⟨"out"⟩ place := by
  intro start
  have hsteps : (Path.mk "out").steps = [] ++ (["out"] : Location) := by decide +kernel
  have hsite : Site start.disk ⟨"out"⟩ ["home", "out"] := site_of_steps hsteps (descend_nil ..) rfl
  have houtside : ∀ place, ¬(["home", "out"] : Location) <+: place → ¬place <+: ["home", "out"] →
      ¬OutputPlace start.disk ⟨"out"⟩ place := by
    rintro place hbelow habove ⟨top, htop, h⟩
    obtain rfl := htop.unique (by decide +kernel) hsite
    exact h.elim hbelow fun h => habove h.1
  have hrun : ∀ name place,
      (((anyNamed [name] false).generate [name]).run.run start).1.toOption.map (·.generated) =
          some [name] →
        (((anyNamed [name] false).generate [name]).run.run start).2.disk.entryAt place ≠ none →
          ∃ report w', ((anyNamed [name] false).generate [name]).run.run start = (.ok report, w') ∧
            report.generated = [name] ∧ w'.disk.entryAt place ≠ none := by
    intro name place hgenerated hthere
    rcases hrun : ((anyNamed [name] false).generate [name]).run.run start with ⟨r, w'⟩
    rw [hrun] at hgenerated hthere
    cases r with
    | error e => cases hgenerated
    | ok report => exact ⟨report, w', rfl, Option.some.inj hgenerated, hthere⟩
  intro name hname
  rcases List.mem_pair.mp hname with rfl | rfl
  · obtain ⟨report, w', h1, h2, h3⟩ := hrun "" ["home", "out.ir"] (by decide +kernel)
      (Option.isSome_iff_ne_none.mp (by decide +kernel))
    exact ⟨report, w', _, h1, h2, rfl, h3, houtside _ (by decide) (by decide)⟩
  · obtain ⟨report, w', h1, h2, h3⟩ := hrun "/etc/X" ["etc", "X.ir"] (by decide +kernel)
      (Option.isSome_iff_ne_none.mp (by decide +kernel))
    exact ⟨report, w', _, h1, h2, rfl, h3, houtside _ (by decide) (by decide)⟩

end ClassCensus
