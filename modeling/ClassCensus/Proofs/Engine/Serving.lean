import ClassCensus.Proofs.Engine.ByName
import ClassCensus.Proofs.Generation.Idempotence
import ClassCensus.Proofs.Generation.Recovery
import ClassCensus.Proofs.Lifecycle
import ClassCensus.Proofs.Text.Bytes

/-!
# What an engine of classes serves

An engine that is built from classes represents them by their names (`SnapshotEngine.Represents`). While
it is edited it keeps its index and the classes that it was built from (`SnapshotEngine.Serves`), even if
an edit gives a class another name. So whatever is done with it, the same names are resolved, and a reset
leads back to the engine as it was built (`Lifecycle.engine_represents_its_classes`).
-/

namespace ClassCensus

namespace SnapshotEngine

/-! ### Representation -/

/-- An engine that represents classes by their names. -/
structure Represents (e : SnapshotEngine) (cs : List ClassDef) : Prop where
  names : ∀ n, n ∈ ClassEngine.classNames e ↔ n ∈ cs.map (·.name)
  /-- The names are in the order of their bytes, and none occurs twice. -/
  ordered : (ClassEngine.classNames e).Pairwise fun m n => Text.bytesOf m < Text.bytesOf n
  /-- The index leads to the places of the names, and from no other name anywhere. -/
  indexed : ∀ n i, e.place? n = some i ↔ (ClassEngine.classNames e)[i]? = some n
  resolves : ∀ n, (∃ c, e.resolve n = .ok c) ↔ n ∈ cs.map (·.name)
  /-- Of several classes with one name the first one is resolved. -/
  first : ∀ n c, e.resolve n = .ok c ↔ cs.find? (fun d => d.name = n) = some c
  named : ∀ n c, e.resolve n = .ok c → c.name = n

theorem represents_ofClasses (cs : List ClassDef) : (ofClasses cs).Represents cs := by
  have hfirst : ∀ n c, (ofClasses cs).resolve n = .ok c ↔
      cs.find? (fun d => d.name = n) = some c := by
    intro n c
    rw [resolve_ofClasses]
    cases cs.find? (fun d => d.name = n) with
    | none => exact ⟨fun h => (nomatch h), fun h => (nomatch h)⟩
    | some d => rw [Except.ok.injEq, Option.some.injEq]
  refine ⟨?_, ?_, fun n i => place?_ofClasses, ?_, hfirst, ?_⟩
  · intro n
    rw [mem_classNames_ofClasses, List.mem_map]
  · exact (pairwise_classNames cs).imp Text.bytesOf_lt_iff.mpr
  · intro n
    simp only [hfirst, ← Option.isSome_iff_exists, List.find?_isSome, decide_eq_true_eq, List.mem_map]
  · intro n c hc
    have hname := List.find?_some ((hfirst n c).mp hc)
    exact of_decide_eq_true hname

/-! ### Edits -/

/-- An engine that was built from classes, after any edits and resets. -/
structure Serves (e : SnapshotEngine) (cs : List ClassDef) : Prop where
  pristine : e.pristine = (ofClasses cs).pristine
  indexed : e.Indexed

variable {cs : List ClassDef} {e e' : SnapshotEngine} {n : String}
  {change : ClassDef → ClassDef}

theorem serves_ofClasses (cs : List ClassDef) : (ofClasses cs).Serves cs := ⟨rfl, indexed_reset _⟩

namespace Serves

theorem reset_eq (h : e.Serves cs) : e.reset = ofClasses cs := by
  show _ = (ofClasses cs).reset
  rw [reset, reset, h.pristine]

theorem reset (h : e.Serves cs) : e.reset.Serves cs := h.reset_eq ▸ serves_ofClasses cs

/-- The names of the classes are resolved, whatever the edits were. -/
theorem resolves_iff (h : e.Serves cs) (n : String) :
    (∃ c, e.resolve n = .ok c) ↔ n ∈ cs.map (·.name) := by
  have hmem : n ∈ e.pristine.map (·.name) ↔ n ∈ cs.map (·.name) := by
    rw [h.pristine]
    exact (represents_ofClasses cs).names n
  rw [← hmem]
  constructor
  · rintro ⟨c, hc⟩
    by_contra hn
    rw [resolve_of_not_mem h.indexed hn] at hc
    cases hc
  · exact resolve_of_mem h.indexed

/-- An edit succeeds for the names of the classes. It changes what this one name resolves to. -/
theorem edit_eq (h : e.Serves cs) (n : String) (change : ClassDef → ClassDef) :
    match e.edit n change with
    | .ok e' => e'.Serves cs ∧ n ∈ cs.map (·.name) ∧ e'.resolve n = (e.resolve n).map change ∧
        ∀ m, m ≠ n → e'.resolve m = e.resolve m
    | .error error => n ∉ cs.map (·.name) ∧ error = absent n := by
  by_cases hn : n ∈ cs.map (·.name)
  · obtain ⟨c, hc⟩ := (h.resolves_iff n).mpr hn
    obtain ⟨e', hedit, hindexed, hpristine, hresolve⟩ := resolve_edit h.indexed hc change
    rw [hedit]
    refine ⟨⟨hpristine.trans h.pristine, hindexed⟩, hn, ?_, ?_⟩
    · rw [hresolve, if_pos rfl]
    · intro m hm
      rw [hresolve, if_neg hm]
  · have hplace : e.place? n = none := by
      by_contra hsome
      obtain ⟨i, hi⟩ := Option.ne_none_iff_exists'.mp hsome
      obtain ⟨c, -, hc⟩ := resolve_of_place h.indexed hi
      exact hn ((h.resolves_iff n).mp ⟨c, hc⟩)
    rw [edit, hplace]
    exact ⟨hn, rfl⟩

theorem edit (h : e.Serves cs) (hedit : e.edit n change = .ok e') : e'.Serves cs := by
  have hcases := h.edit_eq n change
  rw [hedit] at hcases
  exact hcases.1

end Serves

end SnapshotEngine

/-! ### Histories -/

namespace Lifecycle

variable {cs : List ClassDef} {stage stage' : Stage} {w w' : World}

theorem lasting_serves (cs : List ClassDef) : Lasting (·.Serves cs) where
  edit hedit h := h.edit hedit
  reset h := h.reset

/-- The engine serves classes, and an open analysis lists their names. -/
structure Stage.Serves (stage : Stage) (cs : List ClassDef) : Prop where
  engine : stage.engine.Serves cs
  names : ∀ a, stage = .busy a →
    a.applicationClasses = ClassEngine.classNames (SnapshotEngine.ofClasses cs)

theorem Stage.Serves.perform {act : Act} (h : stage.Serves cs)
    (hact : act.perform stage w = some (stage', w')) : stage'.Serves cs := by
  refine ⟨(lasting_serves cs).perform hact h.engine, ?_⟩
  rintro b rfl
  cases act with
  | openWith transform isStack layout =>
    cases stage with
    | busy a => cases hact
    | idle e =>
      rw [Act.perform, run_openWith] at hact
      cases hopened : Session.opened e transform with
      | error error =>
        rw [hopened] at hact
        cases hact
      | ok opened =>
        rw [hopened] at hact
        cases hact
        rw [← h.engine.reset_eq]
        exact (run_of_opened hopened).1
  | ask q =>
    cases stage with
    | idle e => cases hact
    | busy a =>
      cases hact
      exact h.names b rfl
  | close => cases stage <;> cases hact
  | edit className change =>
    cases stage with
    | idle e => cases hact
    | busy a =>
      cases hact
      exact h.names a rfl
  | reset => cases stage <;> cases hact

theorem Stage.Serves.performAll {history : List Act} (h : stage.Serves cs)
    (hhistory : performAll history stage w = some (stage', w')) : stage'.Serves cs := by
  induction history generalizing stage w with
  | nil =>
    cases hhistory
    exact h
  | cons act rest ih =>
    obtain ⟨⟨next, w1⟩, hact, hrest⟩ := Option.bind_eq_some_iff.mp hhistory
    exact ih (h.perform hact) hrest

/-- All classes that an open analysis lists are resolved. -/
theorem Stage.Serves.resolves {a : Analysis SnapshotEngine} (h : (Stage.busy a).Serves cs) :
    ∀ n ∈ a.applicationClasses, ∃ c, a.session.resolve n = .ok c := by
  intro n hn
  rw [h.names a rfl, (SnapshotEngine.represents_ofClasses cs).names] at hn
  exact (h.engine.resolves_iff n).mpr hn

/-- All signatures of the application classes are found. -/
theorem Stage.Serves.unresolved_eq_nil {a : Analysis SnapshotEngine}
    (h : (Stage.busy a).Serves cs) (v : World) :
    ((a.allSignatures a.applicationClasses).run v).1.2 = [] := by
  have hanswer : ((a.allSignatures a.applicationClasses).run v).1.2 =
      a.session.unresolved a.applicationClasses := by
    have hrun := Job.run_bind (Job.tellAll (a.session.signatureEvents a.applicationClasses))
      (fun _ => .done (a.session.allSignatures a.applicationClasses)) v
    exact congrArg (·.1.2) hrun
  rw [hanswer, Session.unresolved, List.filter_eq_nil_iff]
  intro n hn
  obtain ⟨c, hc⟩ := h.resolves n hn
  simp [hc, Except.toOption]

/-- When all application classes are generated, only a file can be the reason for a failure. -/
theorem Stage.Serves.generate_fails_at_files {a : Analysis SnapshotEngine}
    (h : (Stage.busy a).Serves cs) (root : Path) (replace : Bool) (v : World) :
    match ((a.generate a.applicationClasses root replace).run.run v).1 with
    | .ok report => ∀ f ∈ report.failures, f.error.variant = .file
    | .error error => error.variant = .file := by
  let p : Plan SnapshotEngine := ⟨a.session, a.isStack, root, replace⟩
  have hfile : ∀ path problem, (CensusError.file path problem).variant = .file := fun _ _ => rfl
  have hresolved : ∀ n ∈ a.applicationClasses, ∀ error, p.session.resolve n = .error error →
      error.variant = .file := by
    intro n hn error herror
    obtain ⟨c, hc⟩ := h.resolves n hn
    rw [show p.session.resolve n = .ok c from hc] at herror
    cases herror
  rcases hrun : (a.generate a.applicationClasses root replace).run.run v with ⟨r, v'⟩
  cases r with
  | ok report =>
    exact Plan.failures_of_report (P := (·.variant = .file)) (p := p) hfile hresolved hrun
  | error error =>
    exact Plan.failsAs_generate (P := (·.variant = .file)) (p := p) hfile hresolved v error v' hrun

/-- An engine that is built from classes has their names in the order of their bytes, with an index of
their places, and resolves each name to the first class that has it; the order in which classes are
given matters only among those of one name. Whatever is done with it in sessions and between them, the
same names are resolved, an edit through one name changes what no other one resolves to, and a reset
leads back to the engine as it was built. So in every session all application classes are resolved: none
is missing among all signatures, and when all of them are generated nothing but a file can be a reason for
a failure. -/
theorem engine_represents_its_classes (cs : List ClassDef) :
    (SnapshotEngine.ofClasses cs).Represents cs ∧
    (∀ ds : List ClassDef,
      (∀ n, ds.filter (fun c => c.name = n) = cs.filter (fun c => c.name = n)) →
      SnapshotEngine.ofClasses ds = SnapshotEngine.ofClasses cs) ∧
    ∀ {history stage w w'}, performAll history (.idle (.ofClasses cs)) w = some (stage, w') →
      stage.engine.reset = SnapshotEngine.ofClasses cs ∧
      (∀ n, (∃ c, stage.engine.resolve n = .ok c) ↔ n ∈ cs.map (·.name)) ∧
      (∀ n change,
        match stage.engine.edit n change with
        | .ok e => n ∈ cs.map (·.name) ∧ e.resolve n = (stage.engine.resolve n).map change ∧
            ∀ m, m ≠ n → e.resolve m = stage.engine.resolve m
        | .error error => n ∉ cs.map (·.name) ∧ error = SnapshotEngine.absent n) ∧
      ∀ a, stage = .busy a →
        (∀ n ∈ a.applicationClasses, ∃ c, a.session.resolve n = .ok c) ∧
        (∀ v, ((a.allSignatures a.applicationClasses).run v).1.2 = []) ∧
        ∀ root replace v,
          match ((a.generate a.applicationClasses root replace).run.run v).1 with
          | .ok report => ∀ f ∈ report.failures, f.error.variant = .file
          | .error error => error.variant = .file := by
  refine ⟨SnapshotEngine.represents_ofClasses cs, ?_, ?_⟩
  · intro ds hsame
    refine SnapshotEngine.ofClasses_eq_of_find? fun n => ?_
    rw [← List.head?_filter, ← List.head?_filter, hsame]
  intro history stage w w' hhistory
  have hstart : (Stage.idle (.ofClasses cs)).Serves cs :=
    ⟨SnapshotEngine.serves_ofClasses cs, fun _ h => nomatch h⟩
  have hserves := hstart.performAll hhistory
  refine ⟨hserves.engine.reset_eq, hserves.engine.resolves_iff, ?_, ?_⟩
  · intro n change
    have hedit := hserves.engine.edit_eq n change
    cases hresult : stage.engine.edit n change with
    | ok e =>
      rw [hresult] at hedit
      exact hedit.2
    | error error =>
      rw [hresult] at hedit
      exact hedit
  rintro a rfl
  exact ⟨hserves.resolves, hserves.unresolved_eq_nil, hserves.generate_fails_at_files⟩

/-- Three classes, two of them with one name, in another order; and a session in which the one that is
served got a new name. -/
theorem engine_represents_its_classes_of_two_names :
    let first : ClassDef := { ClassDef.named "p.B" with modifiers := ["final"] }
    let other := ClassDef.named "p.A"
    let second := ClassDef.named "p.B"
    let classes := [first, other, second]
    let rename (c : ClassDef) : ClassDef := { c with name := "q.Z" }
    let history : List Act := [.openWith .none syntheticName default, .edit "p.B" rename]
    let w : World := ⟨.blank ["home"], 7, 0, []⟩
    (∀ n, [other, first, second].filter (fun c => c.name = n) =
        classes.filter (fun c => c.name = n)) ∧
      SnapshotEngine.ofClasses [other, first, second] = SnapshotEngine.ofClasses classes ∧
      ∃ a w', performAll history (.idle (.ofClasses classes)) w = some (.busy a, w') ∧
        a.session.engine.classes = [other, rename first] ∧
        a.session.engine.reset = SnapshotEngine.ofClasses classes ∧
        ("p.B" ∈ a.applicationClasses ∧ ∃ c, a.session.resolve "p.B" = .ok c) ∧
        ¬∃ c, a.session.resolve "q.Z" = .ok c := by
  intro first other second classes rename history w
  obtain ⟨-, hreordered, hhistories⟩ := engine_represents_its_classes classes
  have hfilter : ∀ n, [other, first, second].filter (fun c => c.name = n) =
      classes.filter (fun c => c.name = n) := by
    intro n
    by_cases hn : n = "p.A"
    · subst hn
      decide +kernel
    · have hother : decide (other.name = n) = false := decide_eq_false (Ne.symm hn)
      simp [classes, List.filter_cons, hother]
  have hperform : ∃ w', performAll history (.idle (.ofClasses classes)) w =
      some (.busy (withEngine ⟨⟨(SnapshotEngine.ofClasses classes).reset, ["p.A", "p.B"], "none"⟩,
        syntheticName, default⟩ (edited (.ofClasses classes) "p.B" rename)), w') := by
    have hnames : ClassEngine.classNames (SnapshotEngine.ofClasses classes) = ["p.A", "p.B"] := by
      decide +kernel
    rw [← hnames]
    exact ⟨_, rfl⟩
  obtain ⟨w', hw'⟩ := hperform
  obtain ⟨hreset, hresolves, -, hsession⟩ := hhistories hw'
  have hlisted : "p.B" ∈ ["p.A", "p.B"] := by decide
  refine ⟨hfilter, hreordered _ hfilter, _, w', hw', by decide +kernel, hreset,
    ⟨hlisted, (hsession _ rfl).1 "p.B" hlisted⟩, ?_⟩
  exact fun hfound => absurd ((hresolves "q.Z").mp hfound) (by decide +kernel)

end Lifecycle

end ClassCensus
