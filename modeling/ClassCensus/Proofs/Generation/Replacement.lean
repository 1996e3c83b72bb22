import ClassCensus.Proofs.Disk.Clearing
import ClassCensus.Proofs.Generation.Lone

/-!
# Replacing what is there

A run that replaces artifacts begins with an empty output root, whatever was there before
(`cleared_alike`). So two runs over disks that differ only at the root and below it have the same
report and leave the same disk (`generate_forgets`).
-/

namespace ClassCensus

open Disk

/-- Nothing lies at a path, and wherever it goes back it has come to a directory. -/
structure Disk.Absent (d : Disk) (p : Path) : Prop where
  linkStatus : d.linkStatus p = .error .notFound
  forward : d.Forward p

/-- Two disks that differ at most at the place of a name and below it. Either the path leads to the
directory of that name without going through its place, or the disks do not differ, and then the path
goes back only if nothing lies at its end. -/
inductive Disk.DifferBelow (p : Path) (name : Octets) (d d' : Disk) : Prop where
  | anchored {links : Nat} {dir : Location} (anchored : Anchored d p name links dir)
      (same : Same (d.without (dir ++ [name])) (d'.without (dir ++ [name])))
  | equal (back : [Octet.dot, Octet.dot] ∉ (p.push name).steps ∨ d.Absent (p.push name))
      (same : Same d d')

variable {ε : Type} [ClassEngine ε] {s : Setup ε} {links : Nat} {top : Location} {n : String}
  {w w' w1 w2 m m' m1 : World} {names : List String} {p : Path} {name : Octets} {dir : Location}

/-! ### A cleared root -/

/-- A name in a directory can be asked for, and between two disks everything at and below its place
has been removed. -/
structure Disk.ClearedAt (p : Path) (name : Octets) (dir : Location) (d d' : Disk) : Prop where
  check : checkPath (p.push name) = .ok ()
  short : ¬nameLimit < name.length
  same : Same (d.without (dir ++ [name])) d'

/-- An output root that is removed leaves the disk without what lay at its place. -/
theorem ensures_removeOutputRoot_anchored (ht : w.disk.IsTree)
    (a : Anchored w.disk p name links dir) (hname : Path.IsName name) :
    Attempt.Ensures (removeOutputRoot (p.push name)) w (fun _ => True) fun r w1 =>
      r = .ok () → ClearedAt p name dir w.disk w1.disk := by
  have hperf : w.perform (.linkStatus (p.push name)) = (w.disk.linkStatus (p.push name), w) := rfl
  have hfailed : ∀ {f : DiskFault}, f ≠ .notFound → w.disk.linkStatus (p.push name) = .error f →
      Attempt.Ensures (removeOutputRoot (p.push name)) w (fun _ => True) fun r w1 =>
        r = .ok () → ClearedAt p name dir w.disk w1.disk := by
    intro f hf hs
    refine .bind (.ofJob (.ofStep trivial ?_))
    rw [hperf, hs]
    cases f with
    | notFound => exact absurd rfl hf
    | _ => exact .throw (by simp)
  rcases checkPath_cases (p.push name) with hc | ⟨f, hc⟩
  · by_cases hs : nameLimit < name.length
    · refine hfailed (f := .nameTooLong) (by simp) ?_
      simp [linkStatus, find, a.locate_long hname hc hs, bind, Except.bind]
    · have hdone : ∀ {m : World}, Same (w.disk.without (dir ++ [name])) m.disk →
          Attempt.Ensures (Attempt.ofJob (Job.tell (.artifactsRemoved (p.push name)))) m
            (fun _ => True) fun r w1 => r = .ok () → ClearedAt p name dir w.disk w1.disk :=
        fun hm => .ofJob (.ofStep trivial fun _ => ⟨hc, hs, hm⟩)
      refine .bind (.ofJob (.ofStep trivial ?_))
      rw [hperf]
      cases he : w.disk.entryAt (dir ++ [name]) with
      | none =>
        have hstatus : w.disk.linkStatus (p.push name) = .error .notFound := by
          simp [linkStatus, a.find_none hname hc hs he, bind, Except.bind]
        rw [hstatus]
        exact .pure fun _ => ⟨hc, hs, ht.same_without (by simp) he⟩
      | some e =>
        rw [linkStatus_of_find (a.find_some hname hc hs he)]
        by_cases hdir : e = .directory
        · subst hdir
          have hperf2 : w.perform (.removeTree (p.push name)) =
              (.ok (), { w with disk := w.disk.without (dir ++ [name]) }) := by
            simp only [World.perform, a.removeTree hname hc hs he]
          refine .bind (.atPath (.ofStep trivial ?_))
          rw [hperf2]
          exact hdone (.refl _)
        · have hkind : e.kind ≠ .directory := by
            cases e <;> simp_all [Entry.kind]
          have hperf2 : w.perform (.removeFile (p.push name)) =
              (.ok (), { w with disk := w.disk.erase (dir ++ [name]) }) := by
            simp only [World.perform, a.removeFile hname hc hs he hdir, World.change]
          simp only [hkind, if_false]
          refine .bind (.atPath (.ofStep trivial ?_))
          rw [hperf2]
          exact hdone (ht.same_erase (by simp) (by simpa [he] using hdir))
  · refine hfailed (checkPath_error (p.octets_push_ne hname) hc) ?_
    simp [linkStatus, find, locate_of_check_error hc, bind, Except.bind]

theorem ensures_makeDirs_of_ok {root : Path} {d' : Disk} (hroot : root.octets ≠ [])
    (h : w.disk.makeDir root = .ok d') :
    (makeDirs root).Ensures w (fun _ => True) fun r w1 => r = .ok () ∧ w1.disk = d' := by
  have hperf : w.perform (.makeDir root) = (.ok (), { w with disk := d' }) := by
    simp only [World.perform, h, World.change]
  simp only [makeDirs, makeDirsWithin, hroot, if_false]
  refine .bind (.ofStep trivial ?_)
  rw [hperf]
  exact .done ⟨rfl, rfl⟩

/-- What a disk is when its output root is an empty directory and all else is as it was. -/
def Disk.renewed (d : Disk) (place : Location) : Disk := (d.without place).put place .directory

/-- A run that replaces artifacts comes to its classes with its output root renewed. -/
theorem ensures_opening_anchored (ht : w.disk.IsTree) (hrep : s.replace = true)
    (hroot : s.root = p.push name) (hname : Path.IsName name)
    (a : Anchored w.disk p name links dir) :
    Attempt.Ensures s.opening w (fun _ => True) fun r w1 =>
      r = .ok () → ¬nameLimit < name.length ∧
        Same (w.disk.renewed (dir ++ [name])) w1.disk := by
  simp only [Setup.opening, hrep, if_true, hroot]
  refine .bind ((ensures_removeOutputRoot_anchored ht a hname).post ?_)
  intro r w1 hr
  cases r with
  | error e => simp
  | ok u =>
    have hcleared := hr rfl
    have hmake := a.makeDir hname hcleared.check hcleared.short hcleared.same
    refine .atPath ((ensures_makeDirs_of_ok (p.octets_push_ne hname) hmake).post ?_)
    rintro r w2 ⟨-, hdisk⟩ -
    rw [hdisk]
    exact ⟨hcleared.short, hcleared.same.put (by simp) .directory⟩

theorem cleared_of_renewed {d d' : Disk} (ht : d'.IsTree) (hroot : s.root = p.push name)
    (hname : Path.IsName name) (hs : ¬nameLimit < name.length)
    (a : Anchored d p name links dir) (h : Same (d.renewed (dir ++ [name])) d') :
    Cleared s links (dir ++ [name]) d' := by
  have hne : dir ++ [name] ≠ [] := by simp
  have hentry : ∀ k, d'.entryAt k = if k = dir ++ [name] then some .directory
      else if dir ++ [name] <+: k then none else d.entryAt k := by
    intro k
    rw [h.entry, renewed, entryAt_put _ hne, entryAt_without d hne]
  have hplace : d'.entryAt (dir ++ [name]) = some .directory := by rw [hentry, if_pos rfl]
  have hkept : KeepsWays (d.without (dir ++ [name])) (d.renewed (dir ++ [name])) := by
    have hnone : (d.without (dir ++ [name])).entryAt (dir ++ [name]) = none := by
      rw [entryAt_without d hne, if_pos List.prefix_rfl]
    have hadds : AddsDirs (fun _ => True) (d.without (dir ++ [name])) (d.renewed (dir ++ [name])) :=
      .put hne hnone trivial
    exact hadds.keeps.ways
  have hway : d'.Leads p links dir := h.keepsWays.leads (hkept.leads a.leads)
  refine .of_empty ht ?_ hplace ?_
  · rw [hroot, leads_iff, descend_push d' p hname, leads_iff.mp hway]
    simp only [Except.bind]
    rw [descend_directory ⟨hname.ne_current, hname.ne_parent⟩ hs hplace, descend_nil]
  · intro rest hr
    rw [hentry, if_neg (by simpa using hr), if_pos (List.prefix_append ..)]

theorem cleared_of_vacant {d : Disk} (ht : d.IsTree) (ha : d.Arrives s.root) (hv : d.Vacant s.root) :
    ∃ links top, Cleared s links top d := by
  obtain ⟨links, top, hl, hd⟩ := ha
  exact ⟨links, top, .of_empty ht hl hd (hv links top hl)⟩

/-- Where nothing lies at the output root, a run that replaces artifacts comes to its classes with a
cleared one. -/
theorem ensures_opening_absent (ht : w.disk.IsTree) (hrep : s.replace = true)
    (hroot : s.root.octets ≠ []) (h : w.disk.Absent s.root) :
    Attempt.Ensures s.opening w (fun _ => True) fun r w1 =>
      r = .ok () → ∃ links top, Cleared s links top w1.disk := by
  have hperf : w.perform (.linkStatus s.root) = (.error .notFound, w) := by
    simp only [World.perform, h.linkStatus]
  have hremove : Attempt.Ensures (removeOutputRoot s.root) w (fun _ => True) fun r w1 =>
      r = .ok () ∧ w1 = w := by
    refine .bind (.ofJob (.ofStep trivial ?_))
    rw [hperf]
    exact .pure ⟨rfl, rfl⟩
  have hvacant := vacant_of_linkStatus ht hroot h.linkStatus
  simp only [Setup.opening, hrep, if_true]
  refine .bind (Job.Ensures.post hremove ?_)
  rintro r w1 ⟨rfl, rfl⟩
  refine .atPath ((ensures_makeDirs s.root w1 ht).mono (fun _ _ => trivial) ?_)
  rintro r w2 ⟨hmade, -, hready⟩ hok
  have hr : r = .ok () := by
    cases r with
    | ok u => rfl
    | error f => cases hok
  refine cleared_of_vacant hmade.tree ((hready hr).resolve_left hroot).arrives ?_
  rcases hmade.vacant h.forward with h0 | h0
  · rwa [h0]
  · exact h0

/-- Over disks that differ only at the root and below it, two runs that replace artifacts come to their
classes alike, with a cleared root. -/
theorem cleared_alike (hrep : s.replace = true) (hroot : s.root = p.push name)
    (hname : Path.IsName name) (hw : w.disk.IsTree) (hm : m.disk.IsTree)
    (hdiff : DifferBelow p name w.disk m.disk) (h : s.opening.run.run w = (.ok (), w1))
    (h' : s.opening.run.run m = (.ok (), m1)) :
    ∃ links top, Cleared s links top w1.disk ∧ Same w1.disk m1.disk := by
  have hopen := (ensures_opening (s := s) hw).result
  rw [h] at hopen
  cases hdiff with
  | @anchored links dir a same =>
    have hrenewed := (ensures_opening_anchored hw hrep hroot hname a).result
    have hrenewed' := (ensures_opening_anchored hm hrep hroot hname (a.of_same same)).result
    rw [h] at hrenewed
    rw [h'] at hrenewed'
    obtain ⟨hs, hsame⟩ := hrenewed rfl
    refine ⟨links, dir ++ [name], cleared_of_renewed hopen.1.tree hroot hname hs a hsame, ?_⟩
    exact (hsame.symm.trans (same.put (by simp) .directory)).trans (hrenewed' rfl).2
  | equal back same =>
    -- the openings are the same run twice, and what remains is that the root is cleared
    have hne : s.root.octets ≠ [] := by
      rw [hroot]
      exact p.octets_push_ne hname
    have hsame := (opening_same (s := s) same).2
    rw [h, h'] at hsame
    rw [← hroot] at back
    have hclear : ∃ links top, Cleared s links top w1.disk := by
      rcases back with back | absent
      · have hopened := hopen.2.1 rfl
        exact cleared_of_vacant hopen.1.tree (hopened.ready.resolve_left hne).arrives
          (hopened.vacant hrep hne (Setup.goesForward_of_no_back back))
      · have hcleared := (ensures_opening_absent hw hrep hne absent).result
        rw [h] at hcleared
        exact hcleared rfl
    obtain ⟨links, top, hclear⟩ := hclear
    exact ⟨links, top, hclear, hsame⟩

/-! ### What is left below the root -/

theorem Fate.of_result_generated {fate : Fate} (h : fate.result = .ok .generated) :
    ∃ b, fate = .generated b := by
  cases fate with
  | generated b => exact ⟨b, rfl⟩
  | skipped => cases h
  | failed e => cases h
  | withdrawn e => cases h

/-- Below a top lies nothing but directories of packages of classes that are named, and the pairs of
classes that a report says were generated. -/
structure Setup.Accounted (s : Setup ε) (names : List String) (report : GenerationReport)
    (top : Location) (d : Disk) : Prop where
  entry : ∀ rest, rest ≠ [] → ∀ e, d.entryAt (top ++ rest) = some e →
    (e = .directory ∧ ∃ n ∈ names, rest <+: packageOf n) ∨
      ∃ n ∈ report.generated, top ++ rest = dumpPlace top n ∨ top ++ rest = metricsPlace top n
  files : ∀ n ∈ report.generated, ∃ b, s.contents n = some b ∧
    d.entryAt (dumpPlace top n) = some (.file b.dump) ∧
    d.entryAt (metricsPlace top n) = some (.file b.metrics)

namespace Setup.Course

variable {vs : List TimedVisit}

theorem mem_generated :
    n ∈ (reportOf .empty vs).generated ↔ ∃ v ∈ vs, v.result = .ok .generated ∧ v.className = n := by
  simp only [reportOf, GenerationReport.foldl_add, GenerationReport.empty, List.nil_append,
    List.mem_filterMap, List.mem_map, Visit.generated?_eq_some, exists_exists_and_eq_and]

theorem skipped_eq_nil (hrep : s.replace = true) (h : s.Course links top names w w' vs) :
    (reportOf .empty vs).skipped = [] := by
  simp only [reportOf, GenerationReport.foldl_add, GenerationReport.empty, List.nil_append,
    List.filterMap_eq_nil_iff, List.mem_map, forall_exists_index, and_imp,
    forall_apply_eq_imp_iff₂]
  intro v hv
  refine Option.eq_none_iff_forall_ne_some.mpr fun n hn => ?_
  have hresult := (h.result v hv).symm.trans (Visit.skipped?_eq_some.mp hn).1
  generalize hfate : s.fateAt top w.process w.disk v = fate at hresult
  cases fate with
  | skipped =>
    have hpresent : s.Present v.className w.disk := fate_skipped hfate
    rw [hpresent.1] at hrep
    cases hrep
  | generated b => cases hresult
  | failed e => cases hresult
  | withdrawn e => cases hresult

/-- A run that starts on a cleared root accounts for everything below it. -/
theorem accounted (h : s.Course links top names w w' vs) (hclear : Cleared s links top w.disk) :
    s.Accounted names (reportOf .empty vs) top w'.disk := by
  constructor
  · intro rest hr e he
    by_cases hmark : ∃ x, s.AllLeave top w.process w.disk vs (top ++ rest) x
    · obtain ⟨x, v, hv, hx⟩ := hmark
      have hentry := h.leaves.mark _ x ⟨v, hv, hx⟩
      rw [he] at hentry
      have hgenerated : ∀ {b}, s.fateAt top w.process w.disk v = .generated b →
          v.className ∈ (reportOf .empty vs).generated := by
        intro b hb
        refine mem_generated.mpr ⟨v, hv, ?_, rfl⟩
        rw [h.result v hv, hb]
        rfl
      generalize hl : top ++ rest = l at hx
      generalize hfate : s.fateAt top w.process w.disk v = fate at hx
      cases hx with
      | directory tried within =>
        obtain ⟨part, -, hpart, rfl⟩ := within.mono (pavable_isPrefix ..)
        refine .inl ⟨Option.some.inj hentry, v.className, h.className_mem hv, ?_⟩
        rwa [List.append_cancel_left hl]
      | dump => exact .inr ⟨v.className, hgenerated hfate, .inl rfl⟩
      | metrics => exact .inr ⟨v.className, hgenerated hfate, .inr rfl⟩
      | nothing => cases hentry
    · rw [h.leaves.other _ fun x hx => hmark ⟨x, hx⟩, hclear.empty rest hr] at he
      cases he
  · intro n hn
    obtain ⟨v, hv, hr, rfl⟩ := mem_generated.mp hn
    obtain ⟨b, hb⟩ := Fate.of_result_generated ((h.result v hv).symm.trans hr)
    refine ⟨b, (fate_generated hb).1, h.leaves.mark _ _ ⟨v, hv, ?_⟩, h.leaves.mark _ _ ⟨v, hv, ?_⟩⟩
    · rw [hb]
      exact .dump
    · rw [hb]
      exact .metrics

end Setup.Course

/-! ### Two runs that replace artifacts -/

/-- Two runs that replace artifacts, on disks that differ only at the output root and below it, have
the same report, skip nothing and leave the same disk, with nothing below the root that the report does
not account for. The numbers in the names of temporary files have to be of one length. -/
theorem generate_forgets {r r' : GenerationReport} (hrep : s.replace = true)
    (hroot : s.root = p.push name) (hname : Path.IsName name) (hw : w.disk.IsTree)
    (hm : m.disk.IsTree) (hdiff : DifferBelow p name w.disk m.disk)
    (hn : ∀ n ∈ names, WellFormed n) (hlengths : World.SameLengths w w' m m')
    (h : (s.generate names).run.run w = (.ok r, w'))
    (h' : (s.generate names).run.run m = (.ok r', m')) :
    r.Alike r' ∧ (r.skipped = [] ∧ r'.skipped = []) ∧ Same w'.disk m'.disk ∧
      ∃ links top, w'.disk.Leads s.root links top ∧ s.Accounted names r top w'.disk := by
  obtain ⟨w1, -, h1, -, -⟩ := run_generate h
  obtain ⟨m1, -, h1', -, -⟩ := run_generate h'
  obtain ⟨links, top, hclear, hsame⟩ := cleared_alike hrep hroot hname hw hm hdiff h1 h1'
  have hclear' := hclear.of_same hsame
  obtain ⟨w2, hends, hpass⟩ :=
    ends_of_generate h1 hclear.ground hclear.fresh hn (.inr hrep) h
  obtain ⟨m2, hends', hpass'⟩ :=
    ends_of_generate h1' hclear'.ground hclear'.fresh hn (.inr hrep) h'
  have hopen := (ensures_opening (s := s) hw).result
  have hopen' := (ensures_opening (s := s) hm).result
  rw [h1] at hopen
  rw [h1'] at hopen'
  cases hends with
  | report course =>
    cases hends' with
    | report course' =>
      have hbegin := Setup.begin_alike hopen.1 hopen'.1 hclear.ground hsame hn hlengths course
        course' hpass hpass'
      refine ⟨course.reports_alike hbegin course' rfl, ⟨course.skipped_eq_nil hrep,
        course'.skipped_eq_nil hrep⟩, ?_, links, top, ?_, ?_⟩
      · rw [hpass.disk, hpass'.disk]
        exact course.same_end hbegin course' fun _ => .rfl
      · rw [hpass.disk]
        exact course.ground.leads
      · rw [hpass.disk]
        exact course.accounted hclear

/-- The output root is a tree at one time and a link at another one. -/
theorem generate_forgets_tree_and_link :
    ∃ (start start' : Disk) (r r' : GenerationReport) (w' m' : World),
      start.linkStatus ⟨"w/../out/p"⟩ = .ok .file ∧
      start'.linkStatus ⟨"w/../out"⟩ = .ok .link ∧
      ((Setup.ofClasses [.named "p.X"] ⟨"w/../out"⟩ true).generate ["p.X", "Gone", "p.X"]).run.run
        ⟨start, 7, 1, []⟩ = (.ok r, w') ∧
      ((Setup.ofClasses [.named "p.X"] ⟨"w/../out"⟩ true).generate ["p.X", "Gone", "p.X"]).run.run
        ⟨start', 8, 2, []⟩ = (.ok r', m') ∧
      r.generated = ["p.X", "p.X"] ∧ r.failures.map (·.className) = ["Gone"] ∧ r.Alike r' ∧
      Same w'.disk m'.disk := by
  let start : Disk := ⟨[(["w"], .directory), (["out"], .directory), (["out", "p"], .file .empty),
    (["out", "old.ir"], .file .empty)], []⟩
  let start' : Disk := ⟨[(["w"], .directory), (["out"], .link ⟨"w"⟩)], []⟩
  have hdiff : DifferBelow ⟨"w/.."⟩ "out" start start' := by
    have hrest : start.without ["out"] = start'.without ["out"] := rfl
    have hanchored : Anchored start ⟨"w/.."⟩ "out" linkLimit [] := ⟨rfl, rfl⟩
    refine .anchored hanchored ?_
    rw [List.nil_append, hrest]
    exact .refl _
  obtain ⟨r, w', h, hgenerated, -, hfailed, hclock⟩ := Setup.exists_of_ending (show
    (Setup.ofClasses [.named "p.X"] ⟨"w/../out"⟩ true).ending ["p.X", "Gone", "p.X"]
      ⟨start, 7, 1, []⟩ = (.ok (["p.X", "p.X"], [], ["Gone"]), 5) by decide +kernel)
  obtain ⟨r', m', h', -, -, -, hclock'⟩ := Setup.exists_of_ending (show
    (Setup.ofClasses [.named "p.X"] ⟨"w/../out"⟩ true).ending ["p.X", "Gone", "p.X"]
      ⟨start', 8, 2, []⟩ = (.ok (["p.X", "p.X"], [], ["Gone"]), 6) by decide +kernel)
  have hlengths : World.SameLengths ⟨start, 7, 1, []⟩ w' ⟨start', 8, 2, []⟩ m' := by
    refine ⟨by decide, ?_, by decide, ?_⟩
    · rw [hclock]
      decide
    · rw [hclock']
      decide
  obtain ⟨halike, -, hsame, -⟩ := generate_forgets rfl rfl ⟨by decide, by decide, by decide, by decide⟩
    (.of_entries (by decide +kernel)) (.of_entries (by decide +kernel)) hdiff (by decide +kernel)
    hlengths h h'
  exact ⟨start, start', r, r', w', m', by decide +kernel, by decide +kernel, h, h', hgenerated,
    hfailed, halike, hsame⟩

/-- The old output is not always forgotten. Below a root that goes back, through a directory that is yet to
be made or through one that lies at the root itself, other things are found in the end. Where the way to
the directory of the root goes through the root, two runs leave different disks. A class with a long
name is generated or not, as the number of the process is short or long. -/
theorem generate_remembers :
    (∃ start : Disk, start.Sound ∧
      let out := (Setup.ofClasses [] ⟨"gone/../old"⟩ true).shows [] ⟨start, 7, 1, []⟩
      out.1 = .ok ([], []) ∧ out.2.linkStatus ⟨"gone/../old/stray.txt"⟩ = .ok .file) ∧
    (∃ start : Disk, start.Sound ∧
      let out := (Setup.ofClasses [] ⟨"out/b/../../out"⟩ true).shows [] ⟨start, 7, 1, []⟩
      out.1 = .ok ([], []) ∧ out.2.linkStatus ⟨"out/b/../../out/b"⟩ = .ok .directory) ∧
    (∃ start start' : Disk, start.Sound ∧ start'.Sound ∧
      (∃ links, start.Leads ⟨"a/out/x"⟩ links ["a"]) ∧
      Same (start.without ["a", "out"]) (start'.without ["a", "out"]) ∧
      let out := (Setup.ofClasses [] ⟨"a/out/x/out"⟩ true).shows [] ⟨start, 7, 1, []⟩
      let out' := (Setup.ofClasses [] ⟨"a/out/x/out"⟩ true).shows [] ⟨start', 7, 1, []⟩
      out.1 = .ok ([], []) ∧ out'.1 = .ok ([], []) ∧
        out.2.linkStatus ⟨"a/out"⟩ = .ok .directory ∧ out'.2.linkStatus ⟨"a/out"⟩ = .ok .link) ∧
    (∃ n, WellFormed n ∧
      ((Setup.ofClasses [.named n] ⟨"out"⟩ true).shows [n] ⟨.blank [], 7, 1, []⟩).1 =
        .ok ([n], []) ∧
      ((Setup.ofClasses [.named n] ⟨"out"⟩ true).shows [n] ⟨.blank [], 10, 1, []⟩).1 =
        .ok ([], [n])) := by
  refine ⟨?_, ?_, ?_, ?_⟩
  · let start : Disk := ⟨[(["old"], .directory), (["old", "stray.txt"], .file .empty)], []⟩
    exact ⟨start, .of_entries (by decide +kernel) (by decide), by decide +kernel, by decide +kernel⟩
  · let start : Disk := ⟨[(["out"], .directory), (["out", "b"], .directory)], []⟩
    exact ⟨start, .of_entries (by decide +kernel) (by decide), by decide +kernel, by decide +kernel⟩
  · let start : Disk := ⟨[(["a"], .directory), (["a", "out"], .directory),
      (["a", "out", "x"], .link ⟨".."⟩), (["b"], .directory), (["b", "x"], .directory)], []⟩
    let start' : Disk := ⟨[(["a"], .directory), (["a", "out"], .link ⟨"../b"⟩),
      (["b"], .directory), (["b", "x"], .directory)], []⟩
    have hrest : start.without ["a", "out"] = start'.without ["a", "out"] := rfl
    refine ⟨start, start', .of_entries (by decide +kernel) (by decide),
      .of_entries (by decide +kernel) (by decide), ⟨39, rfl⟩, ?_, by decide +kernel,
      by decide +kernel, by decide +kernel, by decide +kernel⟩
    rw [hrest]
    exact .refl _
  · obtain ⟨n, hn, hshows⟩ := long_name_shows true
    exact ⟨n, hn, hshows 7, hshows 10⟩

end ClassCensus
