import ClassCensus.Proofs.Generation.WholeRun

/-!
# Dumps come in pairs

Whatever generations have been made on an output root, finished or stopped between two of their
steps, a dump that is there is a file, its metrics file is there as well, and both are of one class of
one of these generations (`History.dumps_are_paired`). The invariant that carries this is `Tidy`: it
speaks of everything below the root, and each change of a class preserves it (`Tidy.change`).
-/

namespace ClassCensus

open Disk

/-! ### What generations leave behind -/

/-- Below a place there are no links, no directories with a dot in their names, and no dumps without
a metrics file of the same origin. -/
structure Tidy (origin : String → Contents → Prop) (root : Path) (top : Location) (d : Disk) :
    Prop where
  noLinks : ∀ rest, rest ≠ [] → ∀ t, d.entryAt (top ++ rest) ≠ some (.link t)
  dotless : ∀ rest x, d.entryAt (top ++ rest ++ [x]) = some .directory → Octet.dot ∉ x
  pair : ∀ n, WellFormed n → ∀ e, d.entryAt (dumpPlace top n) = some e →
    Nameable root n ∧ ∃ b, origin n b ∧ e = .file b.dump ∧
      d.entryAt (metricsPlace top n) = some (.file b.metrics)

namespace Tidy

variable {origin origin' : String → Contents → Prop} {root : Path} {top : Location} {d d' : Disk}

theorem of_empty (h : ∀ rest, rest ≠ [] → d.entryAt (top ++ rest) = none) :
    Tidy origin root top d := by
  refine ⟨?_, ?_, ?_⟩
  · intro rest hr t
    rw [h rest hr]
    simp
  · intro rest x hx
    rw [List.append_assoc, h _ (by simp)] at hx
    cases hx
  · intro n _ e he
    rw [dumpPlace, List.append_assoc, h _ (by simp)] at he
    cases he

theorem weaken (h : Tidy origin root top d) (ho : ∀ n b, origin n b → origin' n b) :
    Tidy origin' root top d := by
  refine ⟨h.noLinks, h.dotless, ?_⟩
  intro n hn e he
  obtain ⟨hname, b, hb, hpair⟩ := h.pair n hn e he
  exact ⟨hname, b, ho n b hb, hpair⟩

theorem not_directory (h : Tidy origin root top d) {rest : Location} {x : Octets}
    (hx : Octet.dot ∈ x) : d.entryAt (top ++ rest ++ [x]) ≠ some .directory :=
  fun h0 => h.dotless rest x h0 hx

/-- A change that leaves the two places of each class alone keeps its pair. -/
theorem pair_of_same (h : Tidy origin root top d)
    (hd : ∀ n, WellFormed n → d'.entryAt (dumpPlace top n) = d.entryAt (dumpPlace top n))
    (hm : ∀ n, WellFormed n → d'.entryAt (metricsPlace top n) = d.entryAt (metricsPlace top n))
    (n : String) (hn : WellFormed n) (e : Entry) (he : d'.entryAt (dumpPlace top n) = some e) :
    Nameable root n ∧ ∃ b, origin n b ∧ e = .file b.dump ∧
      d'.entryAt (metricsPlace top n) = some (.file b.metrics) := by
  rw [hd n hn] at he
  rw [hm n hn]
  exact h.pair n hn e he

variable {ε : Type} [ClassEngine ε] {s : Setup ε} {n : String}

/-- Every change of a class preserves what generations leave behind, if the contents of the class
are of the origin that is spoken of, and of no other where artifacts are replaced. -/
theorem change (h : Tidy origin s.root top d) (hc : ClassChange s top n d d')
    (hown : ∀ b, s.contents n = some b → origin n b)
    (honly : s.replace = true → ∀ b, origin n b → s.contents n = some b) :
    Tidy origin s.root top d' := by
  refine ⟨?_, ?_, ?_⟩
  · intro rest hr t h0
    exact h.noLinks rest hr t (hc.link h0)
  · intro rest x hx
    rcases hc.directory hx with h0 | h0
    · exact h.dotless rest x h0
    · exact dotless_of_withinPackage h0 rfl
  · cases hc with
    | directories adds tree =>
      have hsame : ∀ l, ¬WithinPackage top (packageOf n) l → d'.entryAt l = d.entryAt l := by
        intro l hl
        rcases adds.entry l with h0 | ⟨-, -, h0⟩
        · exact h0
        · exact absurd h0 hl
      exact h.pair_of_same (fun m _ => hsame _ not_withinPackage_dumpPlace)
        fun m _ => hsame _ not_withinPackage_metricsPlace
    | temporary name stamp bytes here free =>
      refine h.pair_of_same ?_ ?_
      · intro m hm
        rw [entryAt_put d temporaryPlace_ne_nil, if_neg (temporaryPlace_ne_dumpPlace hm).symm]
      · intro m hm
        rw [entryAt_put d temporaryPlace_ne_nil, if_neg (temporaryPlace_ne_metricsPlace hm).symm]
    | discard name stamp file =>
      refine h.pair_of_same ?_ ?_
      · intro m hm
        rw [entryAt_erase d temporaryPlace_ne_nil, if_neg (temporaryPlace_ne_dumpPlace hm).symm]
      · intro m hm
        rw [entryAt_erase d temporaryPlace_ne_nil,
          if_neg (temporaryPlace_ne_metricsPlace hm).symm]
    | @metrics b contents here free absent =>
      intro m hm e he
      rw [entryAt_put d metricsPlace_ne_nil, if_neg dumpPlace_ne_metricsPlace] at he
      obtain ⟨hname, b', hb', rfl, hpair⟩ := h.pair m hm e he
      refine ⟨hname, b', hb', rfl, ?_⟩
      rw [entryAt_put d metricsPlace_ne_nil]
      by_cases hmn : m = n
      · subst hmn
        -- a dump that is there is of the same contents, or it would have been kept
        cases hrep : s.replace with
        | false =>
          rw [absent hrep] at he
          cases he
        | true =>
          have hsame := (honly hrep b' hb').symm.trans contents
          cases hsame
          rw [if_pos rfl]
      · rw [if_neg fun h0 => hmn (metricsPlace_inj h0)]
        exact hpair
    | @dump b contents here free nameable pair =>
      intro m hm e he
      rw [entryAt_put d dumpPlace_ne_nil] at he
      rw [entryAt_put d dumpPlace_ne_nil, if_neg dumpPlace_ne_metricsPlace.symm]
      by_cases hmn : m = n
      · subst hmn
        rw [if_pos rfl] at he
        cases he
        exact ⟨nameable, b, hown b contents, rfl, pair⟩
      · rw [if_neg fun h0 => hmn (dumpPlace_inj h0)] at he
        exact h.pair m hm e he

end Tidy

/-- A tree that is tidy wherever a root leads, and that has the ways of a base beside the root. -/
structure TidyRoot (base : Disk) (origin : String → Contents → Prop) (root : Path) (d : Disk) :
    Prop where
  tree : d.IsTree
  footing : Footing base root d
  tidy : checkPath root = .ok () → ∀ k top, d.Leads root k top →
    d.entryAt top = some .directory → Tidy origin root top d

namespace TidyRoot

variable {base : Disk} {origin origin' : String → Contents → Prop} {root : Path} {d : Disk}

theorem of_vacant (ht : d.IsTree) (hf : Footing base root d) (h : d.Vacant root) :
    TidyRoot base origin root d :=
  ⟨ht, hf, fun _ k top hl _ => .of_empty (h k top hl)⟩

theorem of_absent (ht : d.IsTree) (h : ∀ kind, d.status root ≠ .ok kind) :
    TidyRoot (d.removeTree root).2 origin root d :=
  ⟨ht, .of_absent h, fun hc k top hl hd => absurd (status_directory ⟨k, top, hl, hd⟩ hc) (h _)⟩

theorem weaken (h : TidyRoot base origin root d) (ho : ∀ n b, origin n b → origin' n b) :
    TidyRoot base origin' root d :=
  ⟨h.tree, h.footing, fun hc k top hl hd => (h.tidy hc k top hl hd).weaken ho⟩

theorem of_ground {links : Nat} {top : Location} (g : Ground d root links top)
    (hf : Footing base root d) (h : Tidy origin root top d) : TidyRoot base origin root d := by
  refine ⟨g.tree, hf, ?_⟩
  intro _ k l hl _
  obtain ⟨-, rfl⟩ := g.leads.unique hl
  exact h

end TidyRoot

/-! ### One generation -/

section Generation

variable {ε : Type} [ClassEngine ε] {s : Setup ε} {base : Disk}
  {origin : String → Contents → Prop} {names : List String} {w : World}

/-- What a generation adds to the contents that are spoken of. -/
def Setup.Origin (s : Setup ε) (names : List String) (origin : String → Contents → Prop)
    (n : String) (b : Contents) : Prop :=
  origin n b ∨ (n ∈ names ∧ s.contents n = some b)

/-- The classes of a run, below a tidy root. -/
theorem ensures_generateAll_tidy {links : Nat} {top : Location} (g : Ground w.disk s.root links top)
    (hf : Footing base s.root w.disk) (hn : ∀ n ∈ names, WellFormed n) (h : Tidy origin s.root top w.disk)
    (hown : ∀ n ∈ names, ∀ b, s.contents n = some b → origin n b)
    (honly : s.replace = true → ∀ n b, origin n b → s.contents n = some b) :
    Attempt.Ensures (s.generateAll .empty names) w (fun m => TidyRoot base origin s.root m.disk)
      fun _ w' => TidyRoot base origin s.root w'.disk := by
  have hp : s.Poised links top w := by
    refine ⟨g, ?_, ?_⟩
    · intro n name t _
      refine h.not_directory ?_
      rw [octets_temporaryName]
      simp
    · intro _ n
      refine h.not_directory ?_
      simp [dumpName]
  have hduring : ∀ m, s.During top names w m → TidyRoot base origin s.root m.disk := by
    intro m hm
    have hall := hm.preserves
      (P := fun d => Ground d s.root links top ∧ Footing base s.root d ∧ Tidy origin s.root top d)
      (fun n hmem d d' hc h0 => by
        obtain ⟨g0, hf0, h0⟩ := h0
        exact ⟨hc.ground g0, hf0.of_keepsWays g0.leads g0.directory (hc.keepsWays g0),
          h0.change hc (hown n hmem) fun hr b => honly hr n b⟩) ⟨g, hf, h⟩
    exact .of_ground hall.1 hall.2.1 hall.2.2
  refine ((ensures_generateAll hp hn .empty).last (.refl w)).mono hduring ?_
  rintro r w' ⟨-, hm⟩
  exact hduring w' hm

/-- A generation leaves a tidy root tidy, at every moment of it and in the end. -/
theorem ensures_generate_tidy (hne : s.root.octets ≠ []) (hb : base.IsTree)
    (hforward : base.Forward s.root) (hn : ∀ n ∈ names, WellFormed n) (h : TidyRoot base origin s.root w.disk) :
    Attempt.Ensures (s.generate names) w
      (fun m => TidyRoot base (s.Origin names origin) s.root m.disk)
      fun _ w' => TidyRoot base (s.Origin names origin) s.root w'.disk := by
  have hgoes := Setup.goesForward_of_footing hb hforward h.footing
  have hopen : ∀ m, s.Opening w m → TidyRoot base (s.Origin names origin) s.root m.disk := by
    intro m hm
    rcases hm.disk hgoes with h0 | h0
    · rw [h0]
      exact h.weaken fun _ _ => .inl
    · exact .of_vacant hm.tree (hm.footing base hb hforward h.footing) h0
  refine ensures_generate (fun m event hm => hm) ((ensures_opening h.tree).mono hopen ?_)
  rintro r w1 ⟨hm, hopened, -⟩
  cases r with
  | error e => exact hopen w1 hm
  | ok u =>
    obtain ⟨hready, hvacant⟩ := hopened rfl
    obtain ⟨hcheck, k, top, hl, hd⟩ := hready.resolve_left hne
    have hc : checkPath s.root = .ok () := hcheck.resolve_left hne
    have hf := (hopen w1 hm).footing
    have htidy := (hopen w1 hm).tidy hc k top hl hd
    have g : Ground w1.disk s.root k top := ⟨hm.tree, hl, hd, htidy.noLinks⟩
    refine Job.Ensures.mono (?_ : Attempt.Ensures _ w1
      (fun m => TidyRoot base (s.Origin names origin) s.root m.disk)
      fun _ w2 => TidyRoot base (s.Origin names origin) s.root w2.disk) (fun m h0 => h0) ?_
    · cases hrep : s.replace with
      | false =>
        exact ensures_generateAll_tidy g hf hn htidy (fun n hmem b hb => .inr ⟨hmem, hb⟩)
          (by simp [hrep])
      | true =>
        -- the root is vacant, so what will be there is of this generation
        have hempty : Tidy (s.Origin names fun _ _ => False) s.root top w1.disk :=
          .of_empty (hvacant hrep hne hgoes k top hl)
        refine (ensures_generateAll_tidy g hf hn hempty (fun n hmem b hb => .inr ⟨hmem, hb⟩) ?_).mono
          (fun m h0 => h0.weaken fun n b hb => .inr ?_) fun _ w2 h0 => h0.weaken fun n b hb => .inr ?_
        · intro _ n b hb
          exact (hb.resolve_left id).2
        · exact hb.resolve_left id
        · exact hb.resolve_left id
    · intro r w2 h0
      exact ⟨h0, fun _ => h0⟩

end Generation

/-! ### Histories -/

/-- A generation on a root. -/
structure GenerationCall (root : Path) where
  engine : Type
  [isEngine : ClassEngine engine]
  setup : Setup engine
  names : List String
  rooted : setup.root = root
  wellFormed : ∀ n ∈ names, WellFormed n

attribute [instance] GenerationCall.isEngine

namespace GenerationCall

variable {root : Path}

/-- The call for classes that are given. -/
def ofClasses (classes : List ClassDef) (names : List String) (h : ∀ n ∈ names, WellFormed n)
    (replace : Bool) : GenerationCall root where
  engine := SnapshotEngine
  setup := .ofClasses classes root replace
  names
  rooted := rfl
  wellFormed := h

def job (call : GenerationCall root) : Job (Except CensusError GenerationReport) :=
  (call.setup.generate call.names).run

/-- What a class and the texts of its artifacts are in a call that names it. -/
structure Makes (call : GenerationCall root) (n : String) (dump metrics : ByteArray) : Prop where
  named : n ∈ call.names
  resolved : ∃ c text, call.setup.session.resolve n = .ok c ∧ call.setup.printed c = .ok text ∧
    dump = text.toUTF8 ∧ metrics = (ClassRecord.ofClass call.setup.isStack c).toText.toUTF8

theorem ensures_job (call : GenerationCall root) {base : Disk} {origin : String → Contents → Prop}
    {w : World} (hne : root.octets ≠ []) (hb : base.IsTree) (hforward : base.Forward root)
    (h : TidyRoot base origin root w.disk) :
    call.job.Ensures w
      (fun m => TidyRoot base (call.setup.Origin call.names origin) root m.disk)
      fun _ w' => TidyRoot base (call.setup.Origin call.names origin) root w'.disk := by
  obtain ⟨engine, setup, names, rooted, wellFormed⟩ := call
  subst rooted
  exact ensures_generate_tidy hne hb hforward wellFormed h

end GenerationCall

/-- The disks that calls on a root can lead to. Each call is run to its end or stopped after one of
its steps, by any process at any time. -/
inductive History (root : Path) (start : Disk) : List (GenerationCall root) → Disk → Prop where
  | start : History root start [] start
  | finished {calls : List (GenerationCall root)} {d : Disk} (past : History root start calls d)
      (call : GenerationCall root) (w : World) (disk : w.disk = d) :
      History root start (call :: calls) (call.job.run w).2.disk
  | stopped {calls : List (GenerationCall root)} {d : Disk} (past : History root start calls d)
      (call : GenerationCall root) (w : World) (disk : w.disk = d) (m : World)
      (moment : m ∈ call.job.moments w) : History root start (call :: calls) m.disk

namespace History

variable {root : Path} {base start d : Disk} {calls : List (GenerationCall root)}

/-- The contents that the calls of a history can have written. -/
def Origin (calls : List (GenerationCall root)) (n : String) (b : Contents) : Prop :=
  ∃ call ∈ calls, n ∈ call.names ∧ call.setup.contents n = some b

/-- What was there at the start goes on bearing the root, so that every call finds it tidy. -/
theorem tidy (h : History root start calls d) (hne : root.octets ≠ []) (hb : base.IsTree)
    (hforward : base.Forward root) (hstart : TidyRoot base (fun _ _ => False) root start) :
    TidyRoot base (Origin calls) root d := by
  have hstep : ∀ (call : GenerationCall root) (calls : List (GenerationCall root)) n b,
      call.setup.Origin call.names (Origin calls) n b → Origin (call :: calls) n b := by
    rintro call calls n b (⟨c, hmem, hc⟩ | hc)
    · exact ⟨c, List.mem_cons_of_mem _ hmem, hc⟩
    · exact ⟨call, List.mem_cons_self .., hc⟩
  induction h with
  | start => exact hstart.weaken fun _ _ h => h.elim
  | finished past call w disk ih =>
    rw [← disk] at ih
    exact (call.ensures_job hne hb hforward ih).result.weaken (hstep call _)
  | stopped past call w disk m moment ih =>
    rw [← disk] at ih
    exact ((call.ensures_job hne hb hforward ih).moments m moment).weaken (hstep call _)

/-- A dump that is there is a file, and so is its metrics file, and one call of the history that names
the class has made both of them out of one class. Nothing is found at the root at the start. If its path
goes back, then from directories that are there, and not through a link at its own end. -/
theorem dumps_are_paired (h : History root start calls d) (ht : start.IsTree)
    (habsent : ∀ kind, start.status root ≠ .ok kind) (hne : root.octets ≠ [])
    (hforward : (start.removeTree root).2.Forward root) {n : String} (hn : WellFormed n)
    (hdump : ∃ kind, d.status (ArtifactPaths.ofClass root n).dump = .ok kind ∨
      d.linkStatus (ArtifactPaths.ofClass root n).dump = .ok kind) :
    ∃ call ∈ calls, ∃ dump metrics, call.Makes n dump metrics ∧
      d.linkStatus (ArtifactPaths.ofClass root n).dump = .ok .file ∧
      d.read (ArtifactPaths.ofClass root n).dump = .ok dump ∧
      d.linkStatus (ArtifactPaths.ofClass root n).metrics = .ok .file ∧
      d.read (ArtifactPaths.ofClass root n).metrics = .ok metrics := by
  have htidy := h.tidy hne (isTree_removeTree ht root) hforward (.of_absent ht habsent)
  have hnames : ∀ x ∈ packageOf n, Path.IsName x := fun _ hx => hn.package hx
  have hfound : ∃ fl r, d.find fl (ArtifactPaths.ofClass root n).dump = .ok r := by
    obtain ⟨kind, h0 | h0⟩ := hdump
    · obtain ⟨r, hr, -⟩ := find_of_status h0
      exact ⟨true, r, hr⟩
    · obtain ⟨r, hr, -⟩ := find_of_linkStatus h0
      exact ⟨false, r, hr⟩
  obtain ⟨fl, r, hr⟩ := hfound
  rw [artifactPaths_eq hn root] at hr ⊢
  dsimp only at hr ⊢
  obtain ⟨hc, k, top, hl, hd, -⟩ := arrives_of_find htidy.tree hne hnames hn.dumpName hr
  have hbelow := htidy.tidy hc k top hl hd
  have g : Ground d root k top := ⟨htidy.tree, hl, hd, hbelow.noLinks⟩
  obtain ⟨-, -, e, he, -⟩ := (g.find_push_iff hnames hn.dumpName).mp hr
  obtain ⟨hname, b, ⟨call, hmem, hnamed, hb⟩, rfl, hpair⟩ := hbelow.pair n hn e he
  obtain ⟨c, text, hres, hprint, hcontents⟩ := call.setup.printed_of_contents hb
  have hdumpAt : ∀ fl, d.find fl ((root.pushAll (packageOf n)).push (dumpName n)) =
      .ok (dumpPlace top n, .file b.dump) := fun fl =>
    (g.find_push_iff hnames hn.dumpName).mpr
      ⟨(hname.dump hn).1, (hname.dump hn).2, _, he, rfl⟩
  have hmetricsAt : ∀ fl, d.find fl ((root.pushAll (packageOf n)).push (metricsName n)) =
      .ok (metricsPlace top n, .file b.metrics) := fun fl =>
    (g.find_push_iff hnames hn.metricsName).mpr ⟨hname.path, hname.short, _, hpair, rfl⟩
  have hmakes : call.Makes n b.dump b.metrics :=
    ⟨hnamed, c, text, hres, hprint, by rw [hcontents], by rw [hcontents]⟩
  refine ⟨call, hmem, b.dump, b.metrics, hmakes, ?_, ?_, ?_, ?_⟩
  · exact linkStatus_of_find (hdumpAt false)
  · exact read_of_find (hdumpAt true)
  · exact linkStatus_of_find (hmetricsAt false)
  · exact read_of_find (hmetricsAt true)

/-- A class is generated beside the home directory, and kept in a second call that names it. -/
theorem dumps_are_paired_after_two_calls :
    ∃ d call n, History ⟨"../out"⟩ (.blank ["w"]) [call, call] d ∧
      ∃ c ∈ [call, call], ∃ dump metrics, c.Makes n dump metrics ∧
        d.linkStatus (ArtifactPaths.ofClass ⟨"../out"⟩ n).dump = .ok .file ∧
        d.read (ArtifactPaths.ofClass ⟨"../out"⟩ n).dump = .ok dump ∧
        d.linkStatus (ArtifactPaths.ofClass ⟨"../out"⟩ n).metrics = .ok .file ∧
        d.read (ArtifactPaths.ofClass ⟨"../out"⟩ n).metrics = .ok metrics := by
  let call : GenerationCall ⟨"../out"⟩ :=
    .ofClasses [.named "p.X"] ["p.X"] (by decide +kernel) false
  let w1 : World := (call.job.run ⟨.blank ["w"], 7, 1, []⟩).2
  let w2 : World := (call.job.run w1).2
  have hhistory : History ⟨"../out"⟩ (.blank ["w"]) [call, call] w2.disk :=
    .finished (.finished .start call ⟨.blank ["w"], 7, 1, []⟩ rfl) call w1 rfl
  have habsent : (Disk.blank ["w"]).status ⟨"../out"⟩ = .error .notFound := by decide +kernel
  have hhome : ((Disk.blank ["w"]).removeTree ⟨"../out"⟩).2.hasDir ["w"] = true := by decide +kernel
  have hforward : ((Disk.blank ["w"]).removeTree ⟨"../out"⟩).2.Forward ⟨"../out"⟩ :=
    forward_of_parent_first ["out"] ((hasDir_iff _ _).mp hhome) (by decide +kernel) (by decide)
  have hfound : w2.disk.linkStatus (ArtifactPaths.ofClass ⟨"../out"⟩ "p.X").dump = .ok .file := by
    decide +kernel
  exact ⟨w2.disk, call, "p.X", hhistory, hhistory.dumps_are_paired (.of_entries (by decide))
    (by simp [habsent]) (by decide) hforward (by decide +kernel) ⟨_, .inr hfound⟩⟩

/-- One call on a root where nothing is found at the start leaves a dump there without a metrics
file. -/
def Unpaired (root : Path) : Prop :=
  ∃ start call d, start.IsTree ∧ start.status root = .error .notFound ∧
    History root start [call] d ∧ WellFormed "X" ∧
    d.linkStatus (ArtifactPaths.ofClass root "X").dump = .ok .file ∧
    d.linkStatus (ArtifactPaths.ofClass root "X").metrics = .error .notFound

/-- If a root is empty or goes back, a call that names no class can bring a dump to light that has no
metrics file. -/
theorem dumps_are_not_paired : Unpaired ⟨""⟩ ∧ Unpaired ⟨"gone/../old"⟩ := by
  let start : Disk :=
    ⟨[(["X.ir"], .file .empty), (["old"], .directory), (["old", "X.ir"], .file .empty)], []⟩
  have htree : start.IsTree := .of_entries (by decide +kernel)
  constructor
  · exact ⟨start, .ofClasses [] [] (by decide) false, _, htree, by decide +kernel,
      .finished .start _ ⟨start, 7, 1, []⟩ rfl, by decide +kernel, by decide +kernel,
      by decide +kernel⟩
  · exact ⟨start, .ofClasses [] [] (by decide) false, _, htree, by decide +kernel,
      .finished .start _ ⟨start, 7, 1, []⟩ rfl, by decide +kernel, by decide +kernel,
      by decide +kernel⟩

end History

end ClassCensus
