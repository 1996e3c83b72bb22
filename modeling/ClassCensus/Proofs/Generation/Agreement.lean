import ClassCensus.Proofs.Generation.Lone

/-!
# The report agrees with the disk

What a run says of a class is what the disk shows in the end (`generate_agrees`): the pair of a class
that was generated is in place, what was there of a skipped class is unchanged, and the dump of a class
that failed, and was not generated at another turn, is not found. Where artifacts are kept, nothing else on
the disk is changed but that directories are made.
-/

namespace ClassCensus

open Disk

/-- A path is that of a file with these bytes. -/
structure Disk.IsFile (d : Disk) (p : Path) (bytes : ByteArray) : Prop where
  linkStatus : d.linkStatus p = .ok .file
  read : d.read p = .ok bytes

/-- Three lists interleave to a fourth one that keeps the order of each. -/
inductive Interleaves {α : Type} : List α → List α → List α → List α → Prop where
  | nil : Interleaves [] [] [] []
  | first (a : α) {l1 l2 l3 l : List α} (h : Interleaves l1 l2 l3 l) :
      Interleaves (a :: l1) l2 l3 (a :: l)
  | second (a : α) {l1 l2 l3 l : List α} (h : Interleaves l1 l2 l3 l) :
      Interleaves l1 (a :: l2) l3 (a :: l)
  | third (a : α) {l1 l2 l3 l : List α} (h : Interleaves l1 l2 l3 l) :
      Interleaves l1 l2 (a :: l3) (a :: l)

theorem Interleaves.length {α : Type} {l1 l2 l3 l : List α} (h : Interleaves l1 l2 l3 l) :
    l1.length + l2.length + l3.length = l.length := by
  induction h with
  | nil => rfl
  | first a h ih =>
    simp only [List.length_cons]
    omega
  | second a h ih =>
    simp only [List.length_cons]
    omega
  | third a h ih =>
    simp only [List.length_cons]
    omega

theorem interleaves_visits (vs : List Visit) :
    Interleaves (vs.filterMap Visit.generated?) (vs.filterMap Visit.skipped?)
      ((vs.filterMap Visit.failure?).map (·.className)) (vs.map Visit.className) := by
  induction vs with
  | nil => exact .nil
  | cons v vs ih =>
    obtain ⟨n, d, r⟩ := v
    cases r with
    | error e => exact .third n ih
    | ok o =>
      cases o with
      | generated => exact .first n ih
      | skipped => exact .second n ih

variable {ε : Type} [ClassEngine ε]

namespace Setup.Story

variable {s : Setup ε} {names : List String} {links : Nat} {top : Location} {w w1 w2 w' : World}
  {report : GenerationReport}

theorem interleaves (h : s.Story names links top w w1 w2 w' report) :
    Interleaves report.generated report.skipped (report.failures.map (·.className)) names := by
  have h1 := interleaves_visits (s.trace names w)
  rw [h.classes] at h1
  rw [h.report_eq]
  exact h1

theorem total (h : s.Story names links top w w1 w2 w' report) : report.total = names.length := by
  have h1 := h.interleaves.length
  rw [List.length_map] at h1
  exact h1

end Setup.Story

/-! ### Agreement -/

/-- The report of a run and the disk that it leaves agree. -/
structure Setup.Agrees (s : Setup ε) (names : List String) (w : World) (report : GenerationReport)
    (w' : World) : Prop where
  interleaves :
    Interleaves report.generated report.skipped (report.failures.map (·.className)) names
  total : report.total = names.length
  generated : ∀ n ∈ report.generated, ∃ c text, s.session.resolve n = .ok c ∧
    s.printed c = .ok text ∧ w'.disk.IsFile (s.paths n).dump text.toUTF8 ∧
    w'.disk.IsFile (s.paths n).metrics (ClassRecord.ofClass s.isStack c).toText.toUTF8
  traced : report = (s.trace names w).foldl .add .empty
  reached : ∀ v ∈ s.trace names w, v.result = .ok .skipped →
    ∃ kind, v.before.status (s.paths v.className).dump = .ok kind
  skipped : ∀ n ∈ report.skipped, (∃ kind, w.disk.linkStatus (s.paths n).dump = .ok kind) →
    ∀ fl, w'.disk.find fl (s.paths n).dump = w.disk.find fl (s.paths n).dump ∧
      w'.disk.find fl (s.paths n).metrics = w.disk.find fl (s.paths n).metrics
  failed : ∀ f ∈ report.failures, f.className ∉ report.generated →
    (∀ kind, w'.disk.linkStatus (s.paths f.className).dump ≠ .ok kind) ∧
      ∀ kind, w'.disk.linkStatus (s.paths f.className).metrics = .ok kind →
        w.disk.linkStatus (s.paths f.className).metrics = .ok kind
  apart : (s.replace = true → names.Nodup ∨
      (Nat.toDigits 10 w'.clock).length = (Nat.toDigits 10 w.clock).length) →
    ∀ f ∈ report.failures, f.className ∉ report.generated
  frame : s.replace = false → ∃ k top, w'.disk.Leads s.root k top ∧
    ∀ l, w'.disk.entryAt l = w.disk.entryAt l ∨
      (∃ n ∈ report.generated, l = dumpPlace top n ∨ l = metricsPlace top n) ∨
      (w.disk.entryAt l = none ∧ w'.disk.entryAt l = some .directory ∧
        ∀ rest, rest ≠ [] → l = top ++ rest → ∃ n ∈ names, rest <+: packageOf n)

namespace Setup.Story

variable {s : Setup ε} {names : List String} {links : Nat} {top : Location} {w w1 w2 w' : World}
  {report : GenerationReport} {n : String} {v : Visit}

theorem generated_files (h : s.Story names links top w w1 w2 w' report)
    (hn : ∀ n ∈ names, WellFormed n) (hv : v ∈ s.trace names w)
    (hr : v.result = .ok .generated) :
    ∃ c text, s.session.resolve v.className = .ok c ∧ s.printed c = .ok text ∧
      w'.disk.IsFile (s.paths v.className).dump text.toUTF8 ∧
      w'.disk.IsFile (s.paths v.className).metrics
        (ClassRecord.ofClass s.isStack c).toText.toUTF8 := by
  obtain ⟨b, stamp, hs⟩ := h.visited.standing h.fresh hv hr
  rw [← h.passes.disk] at hs
  have hwf := h.wellFormed hn hv
  obtain ⟨c, text, hres, hprint, hb⟩ := s.printed_of_contents hs.contents
  have hdump := find_dump h.ground_end hwf hs.nameable hs.dump
  have hmetrics := find_metrics h.ground_end hwf hs.nameable hs.metrics
  have hfile : ∀ {p : Path} {l : Location} {bytes : ByteArray},
      (∀ fl, w'.disk.find fl p = .ok (l, .file bytes)) → w'.disk.IsFile p bytes :=
    fun hp => ⟨linkStatus_of_find (hp false), read_of_find (hp true)⟩
  refine ⟨c, text, hres, hprint, ?_, ?_⟩
  · rw [hb] at hdump
    exact hfile hdump
  · rw [hb] at hmetrics
    exact hfile hmetrics

/-- At its start a run over classes finds the disk of the whole run, or nothing below its root. -/
theorem start_cases (h : s.Story names links top w w1 w2 w' report) (hw : w.disk.IsTree)
    (hback : s.GoesForward w.disk) :
    w1.disk = w.disk ∨ ∀ rest, rest ≠ [] → w1.disk.entryAt (top ++ rest) = none := by
  have hopen := (ensures_opening (s := s) hw).result
  rw [h.opening] at hopen
  exact (hopen.1.disk hback).imp id fun hv => hv links top h.ground_start.leads

/-- A dump that is found before the run is present when the run comes to its classes, if artifacts are
kept. -/
theorem found_before (h : s.Story names links top w w1 w2 w' report) (hw : w.disk.IsTree)
    (hback : s.GoesForward w.disk) (hrep : s.replace = false) (hn : WellFormed n) {fl : Bool}
    {r : Location × Entry} (hr : w.disk.find fl (s.paths n).dump = .ok r) :
    w1.disk = w.disk ∧ s.Present n w1.disk := by
  have hopen := (ensures_opening (s := s) hw).result
  rw [h.opening] at hopen
  obtain ⟨hmade, hempty, -⟩ := hopen.2.2 hrep
  have hsame : w1.disk = w.disk := by
    by_cases h0 : s.root.octets = []
    · exact hempty h0
    · rcases h.start_cases hw hback with h1 | h1
      · exact h1
      · rw [dumpPath_eq s hn] at hr
        obtain ⟨-, k, l, hl, -, x, hx⟩ :=
          arrives_of_find hw h0 (fun _ hx => hn.package hx) hn.dumpName hr
        obtain ⟨-, rfl⟩ := h.ground_start.leads.unique (hmade.adds.keeps.ways.leads hl)
        obtain ⟨e, he⟩ := Option.ne_none_iff_exists'.mp hx
        obtain ⟨e', he', -⟩ := hmade.adds.keeps.entry _ e he
        rw [h1 [x] (by simp)] at he'
        cases he'
  refine ⟨hsame, ?_⟩
  rw [← hsame] at hr
  obtain ⟨hc, hs, e, he, -⟩ := (find_dump_iff h.ground_start hn).mp hr
  exact .of_find hrep ((find_dump_iff h.ground_start hn).mpr ⟨hc, hs, e, he, rfl⟩)

theorem skipped_same (h : s.Story names links top w w1 w2 w' report) (hw : w.disk.IsTree)
    (hback : s.GoesForward w.disk) (hrep : s.replace = false) (hn : WellFormed n)
    {r : Location × Entry} (hr : w.disk.find false (s.paths n).dump = .ok r) (fl : Bool) :
    w'.disk.find fl (s.paths n).dump = w.disk.find fl (s.paths n).dump ∧
      w'.disk.find fl (s.paths n).metrics = w.disk.find fl (s.paths n).metrics := by
  obtain ⟨hsame, hpres⟩ := h.found_before hw hback hrep hn hr
  have hnames : ∀ x ∈ packageOf n, Path.IsName x := fun _ hx => hn.package hx
  have hskip : ∀ v ∈ s.trace names w, v.className = n → v.result ≠ .ok .generated := by
    intro v hv hc h0
    have h1 := Visited.skipped_of_present h.visited h.fresh hn hpres hv hc
    rw [h0] at h1
    cases h1
  obtain ⟨hdump, hmetrics⟩ := h.entries_eq hskip
  rw [← hsame] at hr ⊢
  obtain ⟨-, hs, e, he, -⟩ := (find_dump_iff h.ground_start hn).mp hr
  rw [dumpPath_eq s hn, metricsPath_eq s hn]
  have hshort : ∀ x ∈ packageOf n, ¬nameLimit < x.length := fun x hx => hs x (by simp [hx])
  have hdir : w1.disk.entryAt (top ++ packageOf n) = some .directory :=
    h.ground_start.tree.dir_of_below (by simp) he
  have hdir' := h.effects.keeps.directory hdir
  exact ⟨h.ground_start.find_push_congr h.ground_end hnames hn.dumpName hshort hdir hdir' hdump fl,
    h.ground_start.find_push_congr h.ground_end hnames hn.metricsName hshort hdir hdir' hmetrics fl⟩

/-- What is found of the metrics file of a class that failed was found before. -/
theorem failed_metrics (h : s.Story names links top w w1 w2 w' report) (hw : w.disk.IsTree)
    (hback : s.GoesForward w.disk) (hn : WellFormed n)
    (hsame : ∀ u ∈ s.trace names w, u.className = n → u.result ≠ .ok .generated) {fl : Bool}
    {r : Location × Entry} (hr : w'.disk.find fl (s.paths n).metrics = .ok r) :
    w.disk.find fl (s.paths n).metrics = .ok r := by
  obtain ⟨hc, hs, x, hx, rfl⟩ := (find_metrics_iff h.ground_end hn).mp hr
  have hx1 : w1.disk.entryAt (metricsPlace top n) = some x := by
    rw [← (h.entries_eq hsame).2]
    exact hx
  rcases h.start_cases hw hback with h0 | h0
  · rw [← h0]
    exact (find_metrics_iff h.ground_start hn).mpr ⟨hc, hs, x, hx1, rfl⟩
  · rw [metricsPlace, List.append_assoc, h0 _ (by simp)] at hx1
    cases hx1

/-- Where artifacts are kept a run changes the places of the classes that it generated, and makes
directories: those of packages of its classes, and others only outside of its root. -/
theorem frame (h : s.Story names links top w w1 w2 w' report) (hw : w.disk.IsTree)
    (hback : s.GoesForward w.disk) (hrep : s.replace = false) (l : Location) :
    w'.disk.entryAt l = w.disk.entryAt l ∨
      (∃ n ∈ report.generated, l = dumpPlace top n ∨ l = metricsPlace top n) ∨
      (w.disk.entryAt l = none ∧ w'.disk.entryAt l = some .directory ∧
        ∀ rest, rest ≠ [] → l = top ++ rest → ∃ n ∈ names, rest <+: packageOf n) := by
  have hopen := (ensures_opening (s := s) hw).result
  rw [h.opening] at hopen
  obtain ⟨hmade, -⟩ := hopen.2.2 hrep
  have hstart : w1.disk.entryAt l = w.disk.entryAt l ∨
      (w.disk.entryAt l = none ∧ w1.disk.entryAt l = some .directory ∧
        ∀ rest, rest ≠ [] → l ≠ top ++ rest) := by
    rcases h.start_cases hw hback with h0 | h0
    · exact .inl (by rw [h0])
    · refine (hmade.adds.entry l).imp id ?_
      rintro ⟨hnone, hdir, -⟩
      refine ⟨hnone, hdir, ?_⟩
      rintro rest hr rfl
      rw [h0 rest hr] at hdir
      cases hdir
  rcases h.effects.entry l with e2 | ⟨v, hv, hr, hl⟩ | ⟨n2, e2, v, hv, hl⟩
  · rcases hstart with e1 | ⟨n1, e1, hout⟩
    · exact .inl (e2.trans e1)
    · exact .inr (.inr ⟨n1, e2.trans e1, fun rest hr hl => absurd hl (hout rest hr)⟩)
  · exact .inr (.inl ⟨v.className, h.mem_generated.mpr ⟨v, hv, hr, rfl⟩, hl⟩)
  · refine .inr (.inr ⟨?_, e2, ?_⟩)
    · rcases hstart with e1 | ⟨-, e1, -⟩
      · exact e1 ▸ n2
      · rw [n2] at e1
        cases e1
    · obtain ⟨part, -, hpart, rfl⟩ := hl
      intro rest _ hrest
      rw [← List.append_cancel_left hrest]
      refine ⟨v.className, ?_, hpart⟩
      rw [← h.classes]
      exact List.mem_map_of_mem hv

end Setup.Story

/-- A run that has a report comes to its classes below a root that is clear, or where nothing lies. -/
theorem exists_story {s : Setup ε} {names : List String} {w w' : World} {report : GenerationReport}
    (hw : w.disk.Sound) (hn : ∀ n ∈ names, WellFormed n) (hback : s.GoesForward w.disk)
    (hclear : s.replace = false → s.Clear w) (hroot : s.replace = true → s.root.octets ≠ [])
    (h : (s.generate names).run.run w = (.ok report, w')) :
    ∃ links top w1 w2, s.Story names links top w w1 w2 w' report ∧
      (s.replace = true → ∀ rest, rest ≠ [] → w1.disk.entryAt (top ++ rest) = none) := by
  refine story_of_generate hn (P := fun _ top w1 => s.replace = true →
    ∀ rest, rest ≠ [] → w1.disk.entryAt (top ++ rest) = none) (fun w1 h1 => ?_) h
  cases hrep : s.replace with
  | false =>
    obtain ⟨links, top, hp, hf⟩ := poised_of_clear hw (hclear hrep) hrep h1
    exact ⟨links, top, hp, hf, by simp⟩
  | true =>
    obtain ⟨links, top, hp, hf, hnone⟩ := poised_of_vacant hw.tree hrep (hroot hrep) hback h1
    exact ⟨links, top, hp, hf, fun _ => hnone⟩

/-- A run that has a report leaves the disk that the report tells of. If the root goes back, then from
directories that are there when it is made. Where artifacts are kept, the place of the root is clear;
where they are replaced, the root has a name. -/
theorem generate_agrees {s : Setup ε} {names : List String} {w w' : World}
    {report : GenerationReport} (hw : w.disk.Sound) (hn : ∀ n ∈ names, WellFormed n)
    (hback : s.GoesForward w.disk) (hclear : s.replace = false → s.Clear w)
    (hroot : s.replace = true → s.root.octets ≠ [])
    (h : (s.generate names).run.run w = (.ok report, w')) : s.Agrees names w report w' := by
  obtain ⟨links, top, w1, w2, story, hempty⟩ := exists_story hw hn hback hclear hroot h
  refine ⟨story.interleaves, story.total, ?_, story.report, ?_, ?_, ?_, ?_, ?_⟩
  · intro n hmem
    obtain ⟨v, hv, hr, rfl⟩ := story.mem_generated.mp hmem
    exact story.generated_files hn hv hr
  · intro v hv hr
    exact (story.reached hv hr).2
  · rintro n hmem ⟨kind, hk⟩ fl
    obtain ⟨v, hv, hr, rfl⟩ := story.mem_skipped.mp hmem
    obtain ⟨r, hfind, -⟩ := find_of_linkStatus hk
    exact story.skipped_same hw.tree hback (story.reached hv hr).1 (story.wellFormed hn hv) hfind fl
  · intro f hmem hnot
    obtain ⟨v, hv, hr, hc⟩ := story.mem_failures.mp hmem
    have hwf := story.wellFormed hn hv
    have hsame : ∀ u ∈ s.trace names w, u.className = v.className → u.result ≠ .ok .generated :=
      fun u hu hcu hgen => hnot (story.mem_generated.mpr ⟨u, hu, hgen, hcu.trans hc⟩)
    rw [← hc]
    constructor
    · intro kind hk
      obtain ⟨r, hfind, -⟩ := find_of_linkStatus hk
      exact story.failed_dump hwf hsame hempty hv hr hfind
    · intro kind hk
      obtain ⟨r, hfind, rfl⟩ := find_of_linkStatus hk
      exact linkStatus_of_find (story.failed_metrics hw.tree hback hwf hsame hfind)
  · intro hclock f hmem hgen
    obtain ⟨v, hv, hr, hc⟩ := story.mem_failures.mp hmem
    obtain ⟨u, hu, hru, hcu⟩ := story.mem_generated.mp hgen
    exact story.failed_not_generated hw.tree hclock hv hr u hu (hcu.trans hc.symm) hru
  · intro hrep
    exact ⟨links, top, story.ground_end.leads, story.frame hw.tree hback hrep⟩

/-- Beside the home directory a class is generated, one is skipped and one is missing. -/
theorem generate_agrees_in_each_way :
    ∃ start r w', start.Sound ∧
      ((Setup.ofClasses [.named "p.X"] ⟨"../out"⟩ false).generate ["p.X", "Old", "Gone"]).run.run
        ⟨start, 7, 1, []⟩ = (.ok r, w') ∧
      r.generated = ["p.X"] ∧ r.skipped = ["Old"] ∧ r.failures.map (·.className) = ["Gone"] ∧
      (Setup.ofClasses [.named "p.X"] ⟨"../out"⟩ false).Agrees ["p.X", "Old", "Gone"]
        ⟨start, 7, 1, []⟩ r w' := by
  let start : Disk :=
    ⟨[(["w"], .directory), (["out"], .directory), (["out", "Old.ir"], .file .empty)], ["w"]⟩
  have hsound : start.Sound := .of_entries (by decide +kernel) (by decide +kernel)
  have hreport : (((Setup.ofClasses [.named "p.X"] ⟨"../out"⟩ false).generate
      ["p.X", "Old", "Gone"]).run.run ⟨start, 7, 1, []⟩).1.map
        (fun r => (r.generated, r.skipped, r.failures.map (·.className))) =
      .ok (["p.X"], ["Old"], ["Gone"]) := by
    decide +kernel
  have hforward : (Setup.ofClasses [.named "p.X"] ⟨"../out"⟩ false).GoesForward start :=
    forward_of_parent_first ["out"] (hsound.start _) (by decide +kernel) (by decide)
  have hclear : (Setup.ofClasses [.named "p.X"] ⟨"../out"⟩ false).Clear ⟨start, 7, 1, []⟩ :=
    .of_plain (by decide +kernel)
  rcases hrun : ((Setup.ofClasses [.named "p.X"] ⟨"../out"⟩ false).generate
    ["p.X", "Old", "Gone"]).run.run ⟨start, 7, 1, []⟩ with ⟨r, w'⟩
  rw [hrun] at hreport
  cases r with
  | error e => cases hreport
  | ok r =>
    have hagrees := generate_agrees hsound (by decide +kernel) hforward (fun _ => hclear)
      (fun h => by cases h) hrun
    obtain ⟨hgenerated, hrest⟩ := Prod.ext_iff.mp (Except.ok.inj hreport)
    obtain ⟨hskipped, hfailures⟩ := Prod.ext_iff.mp hrest
    exact ⟨start, r, w', hsound, hrun, hgenerated, hskipped, hfailures, hagrees⟩

/-- A class that is named twice fails at its second turn, and its dump is there. -/
theorem failed_class_has_dump : ∃ n, WellFormed n ∧
    let out := (Setup.ofClasses [.named n] ⟨"out"⟩ true).shows [n, n] ⟨.blank [], 7, 9, []⟩
    out.1 = .ok ([n], [n]) ∧
      out.2.linkStatus (ArtifactPaths.ofClass ⟨"out"⟩ n).dump = .ok .file := by
  obtain ⟨n, hn, hshows⟩ := long_name_shows_twice
  refine ⟨n, hn, hshows, ?_⟩
  have hsound : (Disk.blank []).Sound := .of_entries (by decide) (by decide)
  have hnames : ∀ x ∈ [n, n], WellFormed x := by simpa using hn
  have hback : [Octet.dot, Octet.dot] ∉ Path.steps ⟨"out"⟩ := by decide +kernel
  have hroot : (Path.mk "out").octets ≠ [] := by decide
  rcases hrun : ((Setup.ofClasses [.named n] ⟨"out"⟩ true).generate [n, n]).run.run
    ⟨.blank [], 7, 9, []⟩ with ⟨r, w'⟩
  simp only [Setup.shows, hrun] at hshows ⊢
  cases r with
  | error e => cases hshows
  | ok report =>
    obtain ⟨links, top, w1, w2, story, -⟩ := exists_story hsound hnames
      (Setup.goesForward_of_no_back hback) (fun h => by cases h) (fun _ => hroot) hrun
    have hgenerated : report.generated = [n] := (Prod.ext_iff.mp (Except.ok.inj hshows)).1
    obtain ⟨v, hv, hr, hname⟩ := story.mem_generated.mp (hgenerated ▸ List.mem_singleton_self n)
    obtain ⟨_, _, -, -, hdump, -⟩ := story.generated_files hnames hv hr
    rw [hname] at hdump
    exact hdump.linkStatus

/-- The report and the disk do not agree on every root, nor in every world. An empty root is not
removed, so that the dump of a class that failed may be a directory. Below a root that goes back,
what was there comes to light. A temporary file of a time to come is lost. A class that is named twice
can be generated and fail then, when the clock has one digit more. -/
theorem generate_disagrees :
    (∃ start : Disk, start.Sound ∧
      let out := (Setup.ofClasses [.named "X"] ⟨""⟩ true).shows ["X"] ⟨start, 7, 1, []⟩
      out.1 = .ok ([], ["X"]) ∧
        out.2.linkStatus (ArtifactPaths.ofClass ⟨""⟩ "X").dump = .ok .directory) ∧
    (∃ start : Disk, start.Sound ∧
      let out := (Setup.ofClasses [] ⟨"gone/../old"⟩ false).shows ["X"] ⟨start, 7, 1, []⟩
      out.1 = .ok ([], ["X"]) ∧
        start.linkStatus (ArtifactPaths.ofClass ⟨"gone/../old"⟩ "X").metrics = .error .notFound ∧
        out.2.linkStatus (ArtifactPaths.ofClass ⟨"gone/../old"⟩ "X").metrics = .ok .file) ∧
    (∃ start : Disk, start.Sound ∧
      let out := (Setup.ofClasses [.named "X"] ⟨"out"⟩ false).shows ["X"] ⟨start, 7, 1, []⟩
      out.1 = .ok (["X"], []) ∧
        start.linkStatus ⟨"out/.X.json.7.1.tmp"⟩ = .ok .file ∧
        out.2.linkStatus ⟨"out/.X.json.7.1.tmp"⟩ = .error .notFound) ∧
    ∃ n, WellFormed n ∧
      let out := (Setup.ofClasses [.named n] ⟨"out"⟩ true).shows [n, n] ⟨.blank [], 7, 9, []⟩
      out.1 = .ok ([n], [n]) ∧
        out.2.linkStatus (ArtifactPaths.ofClass ⟨"out"⟩ n).dump = .ok .file := by
  refine ⟨?_, ?_, ?_, failed_class_has_dump⟩
  · let start : Disk := ⟨[(["X.ir"], .directory)], []⟩
    exact ⟨start, .of_entries (by decide +kernel) (by decide), by decide +kernel, by decide +kernel⟩
  · let start : Disk := ⟨[(["old"], .directory), (["old", "X.json"], .file .empty)], []⟩
    exact ⟨start, .of_entries (by decide +kernel) (by decide), by decide +kernel, by decide +kernel,
      by decide +kernel⟩
  · let start : Disk :=
      ⟨[(["out"], .directory), (["out", ".X.json.7.1.tmp"], .file .empty)], []⟩
    exact ⟨start, .of_entries (by decide +kernel) (by decide), by decide +kernel, by decide +kernel,
      by decide +kernel⟩

end ClassCensus
