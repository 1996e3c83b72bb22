import ClassCensus.Proofs.Generation.Idempotence
import ClassCensus.Proofs.Generation.SameOpening
import ClassCensus.Proofs.Generation.TwoRuns

/-!
# A class on its own

A class that is the only one of a run, below an output root with nothing in it, fails for one reason
only: its name and the numbers of its temporary file are too long together (`lone_shows`). So the same
run is a success of one process and a failure of another one, and a class that is named twice can be a
success at first and a failure then (`long_name_shows_twice`).
-/

namespace ClassCensus

open Disk

variable {ε : Type} [ClassEngine ε] {s : Setup ε} {links : Nat} {top : Location} {n : String}
  {w w' : World}

/-! ### An empty root -/

/-- The output root leads to an empty directory of a tree. -/
structure Cleared (s : Setup ε) (links : Nat) (top : Location) (d : Disk) : Prop where
  ground : Ground d s.root links top
  empty : ∀ rest, rest ≠ [] → d.entryAt (top ++ rest) = none

namespace Cleared

variable {d d' : Disk}

theorem of_empty (ht : d.IsTree) (hl : d.Leads s.root links top)
    (hd : d.entryAt top = some .directory)
    (he : ∀ rest, rest ≠ [] → d.entryAt (top ++ rest) = none) : Cleared s links top d := by
  refine ⟨⟨ht, hl, hd, ?_⟩, he⟩
  intro rest hr t
  rw [he rest hr]
  simp

theorem of_same (h : Cleared s links top d) (hs : Same d d') : Cleared s links top d' :=
  ⟨hs.ground h.ground, fun rest hr => (hs.entry _).trans (h.empty rest hr)⟩

theorem nothing (h : Cleared s links top d) (package : List Octets) (x : Octets) :
    d.entryAt (top ++ package ++ [x]) = none := by
  rw [List.append_assoc]
  exact h.empty _ (by simp)

theorem fresh (h : Cleared s links top w.disk) : Fresh top w := fun _ _ _ _ => h.nothing _ _

theorem hasDir_eq (h : Cleared s links top d) (package : List Octets) (x : Octets) :
    d.hasDir (top ++ package ++ [x]) = false := by
  rw [Bool.eq_false_iff, Ne, hasDir_iff, h.nothing]
  simp

theorem not_present (h : Cleared s links top d) (hn : WellFormed n) : ¬s.Present n d := by
  rintro ⟨-, kind, hk⟩
  obtain ⟨r, hfind, -⟩ := find_of_status hk
  obtain ⟨-, -, e, he, -⟩ := (find_dump_iff h.ground hn).mp hfind
  rw [dumpPlace, h.nothing] at he
  cases he

end Cleared

/-! ### One class below an empty root -/

/-- A class whose directory can be made and that can be printed is generated if there is room for its
files, and else it fails. -/
theorem Cleared.fate_cases {d : Disk} {c : ClassDef} {text : String} (h : Cleared s links top d)
    (stamp : Stamp) (hn : WellFormed n)
    (hfault : packageFault d s.root top (packageOf n) = none)
    (hc : s.session.resolve n = .ok c) (ht : s.printed c = .ok text) :
    (s.Room n stamp → (s.fate top stamp d n).result = .ok .generated) ∧
      (¬s.Room n stamp → ∃ e, (s.fate top stamp d n).result = .error e) := by
  have habsent := h.not_present hn
  constructor
  · intro room
    have hmetrics : s.metricsFault top stamp d n = none :=
      writeFault_eq_none.mpr ⟨room, h.hasDir_eq _ _⟩
    have hdump : d.hasDir (dumpPlace top n) = false := h.hasDir_eq _ _
    simp only [Setup.fate, habsent, if_false, hfault, hc, ht, hmetrics, hdump, Bool.false_eq_true,
      Fate.result]
  · intro room
    have hmetrics : s.metricsFault top stamp d n ≠ none :=
      fun h0 => room (writeFault_eq_none.mp h0).1
    obtain ⟨⟨p, f⟩, hf⟩ := Option.ne_none_iff_exists'.mp hmetrics
    refine ⟨.ofFault p f, ?_⟩
    simp only [Setup.fate, habsent, if_false, hfault, hc, ht, hf, Fate.result]

/-- Of a single class the outcome is decided at the beginning, if printing is prompt. -/
theorem Setup.Course.lone {vs : List TimedVisit} (h : s.Course links top [n] w w' vs)
    (hp : s.Prompt) : ∃ v, vs = [v] ∧ v.className = n ∧
      v.result = (s.fate top ⟨w.process, w.clock⟩ w.disk n).result := by
  obtain ⟨v, rfl, hv⟩ := List.map_eq_singleton_iff.mp h.classes
  have htime := h.prompt hp v rfl
  have hresult := h.result v (List.mem_singleton_self v)
  rw [Setup.fateAt, htime, hv] at hresult
  exact ⟨v, rfl, hv, hresult⟩

/-! ### A directory with a short name -/

theorem writable_out {name : Octets} {stamp : Stamp} (hn : Path.IsName name)
    (hz : Octet.nul ∉ name) :
    Writable ⟨"out"⟩ name stamp ↔ (temporaryName name stamp).length ≤ nameLimit := by
  refine ⟨fun h => Nat.le_of_not_lt h.short, fun h => ?_⟩
  have hsize := length_lt_temporaryName name stamp
  have hcheck : ∀ {p : Path} {x : Octets}, p.lead = Text.bytesOf "out/" → Path.IsName x →
      Octet.nul ∉ x → x.length ≤ nameLimit → checkPath (p.push x) = .ok () := by
    intro p x hp hx hzero hle
    have hlead : (Text.bytesOf "out/").length = 4 := rfl
    have hnul : Octet.nul ∉ Text.bytesOf "out/" := by decide
    have hlimit : nameLimit = 255 := rfl
    have hpath : pathLimit = 4096 := rfl
    rw [checkPath_ok_iff, p.size_push hx, Path.octets_push p hx, hp]
    exact ⟨fun h0 => (List.mem_append.mp h0).elim hnul hzero, by simp [hx.ne_nil], by omega⟩
  refine ⟨?_, Nat.not_lt.mpr h, ?_⟩
  · refine hcheck (by decide +kernel) (isName_temporaryName hn stamp) ?_ h
    exact fun h0 => hz (nul_mem_temporaryName_iff.mp h0)
  · exact hcheck (by decide +kernel) hn hz (by omega)

theorem splitString_of_dotless (h : '.' ∉ n.toList) : Text.splitString '.' n = [n] := by
  rw [Text.splitString, Text.split_of_not_mem _ h, List.map_singleton, String.ofList_toList]

theorem packageOf_of_dotless (h : '.' ∉ n.toList) : packageOf n = [] := by
  rw [packageOf, segmentsOf, splitString_of_dotless h]
  rfl

theorem shortOf_of_dotless (h : '.' ∉ n.toList) : shortOf n = Text.bytesOf n := by
  rw [shortOf, segmentsOf, splitString_of_dotless h]
  rfl

theorem wellFormed_of_dotless (hne : n ≠ "") (hdot : '.' ∉ n.toList) (hslash : '/' ∉ n.toList) :
    WellFormed n := by
  intro x hx
  rw [splitString_of_dotless hdot, List.mem_singleton] at hx
  exact hx ▸ ⟨hne, hslash⟩

/-- There is room for the files of a class of the default package if its name and the numbers are not
too long together. -/
theorem room_out (stamp : Stamp) (hn : WellFormed n) (hdot : '.' ∉ n.toList)
    (hz : '\x00' ∉ n.toList) (hroot : s.root = ⟨"out"⟩) :
    s.Room n stamp ↔ n.utf8ByteSize + digitCount stamp.process + digitCount stamp.time ≤ 243 := by
  have hzero : Octet.nul ∉ metricsName n := by
    have hname : Octet.nul ∉ Text.bytesOf n := fun h0 =>
      hz ((Text.mem_bytesOf_iff (by decide)).mp h0)
    have hext : Octet.nul ∉ Octet.dot :: ArtifactPaths.metricsExtension := by decide
    rw [metricsName, shortOf_of_dotless hdot]
    exact fun h0 => (List.mem_append.mp h0).elim hname hext
  have hsize : (Text.shown (metricsName n)).utf8ByteSize = n.utf8ByteSize + 5 := by
    have h1 : ".".utf8ByteSize = 1 := rfl
    have h2 : "json".utf8ByteSize = 4 := rfl
    rw [metricsName, shortOf_of_dotless hdot, ArtifactPaths.metricsExtension, shown_append_dot,
      Text.shown_bytesOf, String.utf8ByteSize_append, String.utf8ByteSize_append, h1, h2]
  have hlimit : nameLimit = 255 := rfl
  rw [Setup.Room, packageOf_of_dotless hdot, hroot,
    show Path.pushAll ⟨"out"⟩ [] = ⟨"out"⟩ from rfl, writable_out hn.metricsName hzero,
    size_temporaryName, size_toString, size_toString, hsize, digitCount, digitCount]
  omega

theorem packageFault_out (d : Disk) (top : Location) (h : packageOf n = []) :
    packageFault d ⟨"out"⟩ top (packageOf n) = none := by
  have hcheck : checkPath (packageDir ⟨"out"⟩ []) = .ok () := by decide +kernel
  rw [h, packageFault, hcheck]
  simp only [obstacle, ite_self]

/-- Where nothing is, the output root of a run without classes is made. -/
theorem opening_out_blank (replace : Bool) :
    let out := (Setup.ofClasses [] ⟨"out"⟩ replace).opening.run.run ⟨.blank [], 0, 1, []⟩
    out.1 = .ok () ∧ out.2.disk.entries.map (·.1) = ([["out"]] : List Location) ∧
      out.2.disk.hasDir ["out"] = true ∧ out.2.disk.Leads ⟨"out"⟩ linkLimit ["out"] := by
  unfold Disk.Leads
  revert replace
  decide +kernel

/-- Where nothing is, a run comes to its classes with an empty output root. -/
theorem opening_out (hroot : s.root = ⟨"out"⟩) (process clock : Nat) :
    ∃ w1, s.opening.run.run ⟨.blank [], process, clock, []⟩ = (.ok (), w1) ∧ w1.process = process ∧
      w1.clock = clock ∧ Cleared s linkLimit ["out"] w1.disk := by
  obtain ⟨hresult, hkeys, hdir, hleads⟩ := opening_out_blank s.replace
  have hblank : (Disk.blank []).IsTree := .of_entries (by decide)
  have hsame := opening_same (s := s) (w := ⟨.blank [], 0, 1, []⟩)
    (m := ⟨.blank [], process, clock, []⟩) (.refl _)
  have hopened := (ensures_opening (s := s) (w := ⟨.blank [], process, clock, []⟩) hblank).result.1
  -- what is opened does not depend on the session
  have hopening : s.opening = (Setup.ofClasses [] ⟨"out"⟩ s.replace).opening := by
    simp only [Setup.opening, hroot]
    rfl
  rcases hrun : s.opening.run.run ⟨.blank [], process, clock, []⟩ with ⟨r, w1⟩
  rw [hrun, hopening] at hsame
  rw [hrun] at hopened
  refine ⟨w1, by rw [show r = .ok () from hsame.1.trans hresult], hopened.process, hopened.clock, ?_⟩
  refine Cleared.of_same (.of_empty (hsame.2.symm.isTree hopened.tree) ?_
    ((hasDir_iff _ _).mp hdir) ?_) hsame.2
  · rw [hroot]
    exact hleads
  · intro rest hr
    rw [Option.eq_none_iff_forall_ne_some]
    intro e he
    have hmem := List.mem_map_of_mem (f := (·.1)) (mem_of_entryAt (by simp) he)
    rw [hkeys] at hmem
    simp [hr] at hmem

/-! ### Long names and long numbers -/

theorem resolve_named (n : String) (root : Path) (replace : Bool) :
    (Setup.ofClasses [.named n] root replace).session.resolve n = .ok (.named n) := by
  simp [Setup.ofClasses, Session.resolve, ClassEngine.resolve, SnapshotEngine.resolve,
    SnapshotEngine.ofClasses, Sorting.sort, Sorting.insert, SnapshotEngine.reset,
    SnapshotEngine.place?, SnapshotEngine.dropRepeated, SnapshotEngine.dropRepeatedAfter,
    SnapshotEngine.indexFrom, ClassDef.named]

/-- A class of the default package with nothing beside it is generated if its name and the number of
the process are not too long together, and else it fails. -/
theorem Cleared.shows {replace : Bool} {w w1 : World} (hne : n ≠ "") (hdot : '.' ∉ n.toList)
    (hslash : '/' ∉ n.toList) (hz : '\x00' ∉ n.toList)
    (hopen : (Setup.ofClasses [.named n] ⟨"out"⟩ replace).opening.run.run w = (.ok (), w1))
    (hclear : Cleared (Setup.ofClasses [.named n] ⟨"out"⟩ replace) linkLimit ["out"] w1.disk)
    (hclock : w1.clock = 1) :
    ((Setup.ofClasses [.named n] ⟨"out"⟩ replace).shows [n] w).1 =
      if n.utf8ByteSize + digitCount w1.process ≤ 242 then .ok ([n], []) else .ok ([], [n]) := by
  have hn := wellFormed_of_dotless hne hdot hslash
  have hresolve := resolve_named n ⟨"out"⟩ replace
  rcases hrun : ((Setup.ofClasses [.named n] ⟨"out"⟩ replace).generate [n]).run.run w with ⟨r, w'⟩
  obtain ⟨w2, hends, -⟩ := ends_of_generate hopen hclear.ground hclear.fresh
    (fun x hx => List.mem_singleton.mp hx ▸ hn) (.inl (List.nodup_singleton n)) hrun
  have hroom := room_out ⟨w1.process, w1.clock⟩ hn hdot hz
    (show (Setup.ofClasses [.named n] ⟨"out"⟩ replace).root = ⟨"out"⟩ from rfl)
  have hone : digitCount 1 = 1 := rfl
  simp only [hclock, hone] at hroom
  cases hends with
  | aborted mem resolve fatal =>
    rw [List.mem_singleton.mp mem, hresolve] at resolve
    cases resolve
  | report course =>
    obtain ⟨v, rfl, hname, hresult⟩ := course.lone fun _ _ => rfl
    rw [hclock] at hresult
    obtain ⟨hgenerated, hfailed⟩ := hclear.fate_cases ⟨w1.process, 1⟩ hn
      (packageFault_out w1.disk ["out"] (packageOf_of_dotless hdot)) hresolve rfl
    simp only [Setup.shows, hrun, Setup.reportOf, List.map_singleton, List.foldl_cons,
      List.foldl_nil, Except.map]
    by_cases hshort : n.utf8ByteSize + digitCount w1.process ≤ 242
    · rw [hgenerated (hroom.mpr (by omega))] at hresult
      simp [GenerationReport.add, GenerationReport.addGenerated, GenerationReport.empty, hresult,
        hname, hshort]
    · obtain ⟨e, he⟩ := hfailed fun h0 => hshort (by have := hroom.mp h0; omega)
      rw [he] at hresult
      simp [GenerationReport.add, GenerationReport.addFailure, GenerationReport.empty, hresult,
        hname, hshort]

theorem lone_shows (hne : n ≠ "") (hdot : '.' ∉ n.toList) (hslash : '/' ∉ n.toList)
    (hz : '\x00' ∉ n.toList) (process : Nat) (replace : Bool) :
    ((Setup.ofClasses [.named n] ⟨"out"⟩ replace).shows [n] ⟨.blank [], process, 1, []⟩).1 =
      if n.utf8ByteSize + digitCount process ≤ 242 then .ok ([n], []) else .ok ([], [n]) := by
  obtain ⟨w1, hopen, rfl, hclock, hclear⟩ :=
    opening_out (s := Setup.ofClasses [.named n] ⟨"out"⟩ replace) rfl process 1
  exact hclear.shows hne hdot hslash hz hopen hclock

/-- A name of a given length without dots or slashes. -/
def nameOfLength (length : Nat) : String := String.ofList (List.replicate length 'X')

theorem size_nameOfLength (length : Nat) : (nameOfLength length).utf8ByteSize = length := by
  rw [nameOfLength, size_ofList, List.length_replicate]
  intro c hc
  rw [List.eq_of_mem_replicate hc]
  rfl

theorem not_mem_nameOfLength (length : Nat) {c : Char} (h : c ≠ 'X') :
    c ∉ (nameOfLength length).toList := by
  rw [nameOfLength, String.toList_ofList]
  exact fun h0 => h (List.eq_of_mem_replicate h0)

theorem nameOfLength_ne {length : Nat} (h : length ≠ 0) : nameOfLength length ≠ "" := by
  intro h0
  have hsize := size_nameOfLength length
  rw [h0] at hsize
  exact h hsize.symm

/-- A name of 241 bytes leaves room for one digit of the number of a process. -/
theorem exists_long_name : ∃ n, n ≠ "" ∧ '.' ∉ n.toList ∧ '/' ∉ n.toList ∧ '\x00' ∉ n.toList ∧
    ∀ process, n.utf8ByteSize + digitCount process ≤ 242 ↔ digitCount process ≤ 1 := by
  refine ⟨nameOfLength 241, nameOfLength_ne (by decide), not_mem_nameOfLength 241 (by decide),
    not_mem_nameOfLength 241 (by decide), not_mem_nameOfLength 241 (by decide), fun process => ?_⟩
  rw [size_nameOfLength]
  omega

theorem long_name_shows (replace : Bool) : ∃ n, WellFormed n ∧ ∀ process,
    ((Setup.ofClasses [.named n] ⟨"out"⟩ replace).shows [n] ⟨.blank [], process, 1, []⟩).1 =
      if digitCount process ≤ 1 then .ok ([n], []) else .ok ([], [n]) := by
  obtain ⟨n, hne, hdot, hslash, hzero, hshort⟩ := exists_long_name
  refine ⟨n, wellFormed_of_dotless hne hdot hslash, fun process => ?_⟩
  rw [lone_shows hne hdot hslash hzero]
  simp only [hshort]

/-- It makes no difference whether the root has been made by another process. -/
theorem long_name_shows_in_parts : ∃ n, WellFormed n ∧
    let s := Setup.ofClasses [.named n] ⟨"out"⟩ false
    let first := s.shows [] ⟨.blank [], 7, 1, []⟩
    first.1 = .ok ([], []) ∧
      (∀ process, (s.shows [n] ⟨first.2, process, 1, []⟩).1 =
        if digitCount process ≤ 1 then .ok ([n], []) else .ok ([], [n])) ∧
      ∀ process, (s.shows [n] ⟨.blank [], process, 1, []⟩).1 =
        if digitCount process ≤ 1 then .ok ([n], []) else .ok ([], [n]) := by
  obtain ⟨n, hne, hdot, hslash, hzero, hshort⟩ := exists_long_name
  refine ⟨n, wellFormed_of_dotless hne hdot hslash, ?_⟩
  intro s first
  obtain ⟨w1, hopen, -, hclock, hclear⟩ := opening_out (s := s) rfl 7 1
  have hnone : (s.generateAll .empty []).run.run w1 = (.ok .empty, w1) := rfl
  obtain ⟨w', hrun, hpasses⟩ := Setup.generate_of_runs hopen hnone
  have hfirst : first = (.ok ([], []), w1.disk) := by
    simp only [first, Setup.shows, hrun, hpasses.disk]
    rfl
  have hcheck : checkPath ⟨"out"⟩ = .ok () := by decide +kernel
  have hready : w1.disk.Ready s.root :=
    ⟨.inr hcheck, linkLimit, ["out"], hclear.ground.leads, hclear.ground.directory⟩
  rw [hfirst]
  refine ⟨rfl, fun process => ?_, fun process => ?_⟩
  · have hopened : s.opening.run.run ⟨w1.disk, process, 1, []⟩ =
        (.ok (), ⟨w1.disk, process, 1, []⟩) := Setup.opening_of_ready rfl hready
    have hshows := Cleared.shows (w := ⟨w1.disk, process, 1, []⟩) hne hdot hslash hzero hopened hclear rfl
    simp only [hshort] at hshows
    exact hshows
  · have hshows := lone_shows hne hdot hslash hzero process false
    simp only [hshort] at hshows
    exact hshows

/-- A class that is named twice is generated when the clock reads one digit and fails when it reads two. -/
theorem long_name_shows_twice : ∃ n, WellFormed n ∧
    ((Setup.ofClasses [.named n] ⟨"out"⟩ true).shows [n, n] ⟨.blank [], 7, 9, []⟩).1 =
      .ok ([n], [n]) := by
  obtain ⟨n, hne, hdot, hslash, hzero, hshort⟩ := exists_long_name
  have hn := wellFormed_of_dotless hne hdot hslash
  have hresolve := resolve_named n ⟨"out"⟩ true
  refine ⟨n, hn, ?_⟩
  obtain ⟨w1, hopen, hprocess, hclock, hclear⟩ :=
    opening_out (s := Setup.ofClasses [.named n] ⟨"out"⟩ true) rfl 7 9
  rcases hrun : ((Setup.ofClasses [.named n] ⟨"out"⟩ true).generate [n, n]).run.run
    ⟨.blank [], 7, 9, []⟩ with ⟨r, w'⟩
  obtain ⟨w2, hends, -⟩ := ends_of_generate hopen hclear.ground hclear.fresh
    (by simpa using hn) (.inr rfl) hrun
  have hroom : ∀ time, (Setup.ofClasses [.named n] ⟨"out"⟩ true).Room n ⟨7, time⟩ ↔
      n.utf8ByteSize + digitCount 7 + digitCount time ≤ 243 :=
    fun time => room_out ⟨7, time⟩ hn hdot hzero rfl
  have hfate := fun time => hclear.fate_cases ⟨7, time⟩ hn
    (packageFault_out w1.disk ["out"] (packageOf_of_dotless hdot)) hresolve rfl
  have hone : digitCount 7 = 1 ∧ digitCount 9 = 1 ∧ digitCount 10 = 2 := ⟨rfl, rfl, rfl⟩
  have hlong := hshort 7
  have htooLong := hshort 10
  cases hends with
  | aborted mem resolve fatal =>
    obtain rfl : _ = n := by simpa using mem
    rw [hresolve] at resolve
    cases resolve
  | @report _ vs course =>
    obtain ⟨v, rest, rfl, hv, hrest⟩ := List.map_eq_cons_iff.mp course.classes
    obtain ⟨u, rfl, hu⟩ := List.map_eq_singleton_iff.mp hrest
    have hfirst := course.result v (by simp)
    have hsecond := course.result u (by simp)
    have htime : v.time = 9 := (course.prompt (fun _ _ => rfl) v rfl).trans hclock
    rw [Setup.fateAt, hprocess, htime, hv, (hfate 9).1 ((hroom 9).mpr (by omega))] at hfirst
    have hlater : 10 ≤ u.time := by
      have hspaced := List.rel_of_pairwise_cons course.spaced (List.mem_singleton_self u) hfirst
      omega
    have hdigits : digitCount 10 ≤ digitCount u.time := digitCount_mono hlater
    obtain ⟨e, he⟩ := (hfate u.time).2 fun h0 => by
      have := (hroom u.time).mp h0
      omega
    rw [Setup.fateAt, hprocess, hu, he] at hsecond
    simp [Setup.shows, hrun, Setup.reportOf, Except.map, GenerationReport.add,
      GenerationReport.addGenerated, GenerationReport.addFailure, GenerationReport.empty, hfirst,
      hsecond, hv, hu]

end ClassCensus
