import ClassCensus.Proofs.Generation.Entries
import ClassCensus.Proofs.Performing

/-!
# The steps of a turn

Which paths a turn touches: the directory of the artifacts and those above it are made, temporary files
are written beside the two artifacts and moved or removed, and the metrics file may be removed
(`TurnStep`). A turn performs no other steps (`Plan.performs_generateClass`), and a run performs besides
the steps of its turns only those that clear and make the output root (`Plan.performs_generate`).
-/

namespace ClassCensus

open Disk

/-- A path on the way of another one. -/
structure Path.OnWay (q p : Path) : Prop where
  ne_nil : q.octets ≠ []
  steps : q.steps <+: p.steps
  head : q.octets.head? = some Octet.slash ↔ p.octets.head? = some Octet.slash

/-- A step that asks, or makes a directory on the way of a path. -/
def Step.Makes (p : Path) (s : Step) : Prop := s.Asks ∨ ∃ q, q.OnWay p ∧ s = .makeDir q

/-- A temporary file beside a path. -/
def Path.IsTemporary (path temporary : Path) : Prop :=
  ∃ dir name stamp, path.parent = some dir ∧ path.fileName = some name ∧
    temporary = dir.push (temporaryName name stamp)

/-- A step that writes a temporary file beside a path, moves it to the path or removes it, or asks. -/
inductive Step.Writes (path : Path) : Step → Prop where
  | asks {s : Step} (h : s.Asks) : Writes path s
  | write {temporary : Path} (bytes : ByteArray) (h : path.IsTemporary temporary) :
      Writes path (.write temporary bytes)
  | rename {temporary : Path} (h : path.IsTemporary temporary) : Writes path (.rename temporary path)
  | remove {temporary : Path} (h : path.IsTemporary temporary) : Writes path (.removeFile temporary)

/-- A step of a turn for artifacts. -/
inductive TurnStep (paths : ArtifactPaths) : Step → Prop where
  | makes {dir : Path} {s : Step} (hdir : paths.parent = some dir) (h : s.Makes dir) :
      TurnStep paths s
  | metrics {s : Step} (h : s.Writes paths.metrics) : TurnStep paths s
  | dump {s : Step} (h : s.Writes paths.dump) : TurnStep paths s
  | discard : TurnStep paths (.removeFile paths.metrics)

theorem TurnStep.asks {paths : ArtifactPaths} {s : Step} (h : s.Asks) : TurnStep paths s :=
  .dump (.asks h)

/-- A step of a run over classes: of a turn, or one that clears or makes the output root. -/
inductive RunStep (root : Path) (names : List String) : Step → Prop where
  | asks {s : Step} (h : s.Asks) : RunStep root names s
  | makes {s : Step} (h : s.Makes root) : RunStep root names s
  | removeFile : RunStep root names (.removeFile root)
  | removeTree : RunStep root names (.removeTree root)
  | turn {n : String} {s : Step} (hn : n ∈ names) (h : TurnStep (.ofClass root n) s) :
      RunStep root names s

/-! ### Directories -/

theorem performs_isDirectory {P : Step → Prop} (h : ∀ s : Step, s.Asks → P s) (p : Path) :
    (isDirectory p).Performs P := by
  refine Job.Performs.bind (.ofStep (h _ trivial)) fun r => ?_
  cases r <;> exact .done _

theorem performs_makeDirsWithin (steps : Nat) (p : Path) :
    (makeDirsWithin steps p).Performs (Step.Makes p) := by
  induction steps generalizing p with
  | zero => exact .done _
  | succ steps ih =>
    unfold makeDirsWithin
    by_cases ht : p.octets = []
    · simp only [ht, if_true]
      exact .done _
    simp only [ht, if_false]
    have hself : Step.Makes p (.makeDir p) := .inr ⟨p, ⟨ht, List.prefix_rfl, Iff.rfl⟩, rfl⟩
    have hunless : ∀ f : DiskFault, Job.Performs (Step.Makes p)
        (do if ← isDirectory p then return Except.ok () else return .error f) := by
      intro f
      refine Job.Performs.bind (performs_isDirectory (fun _ h => .inl h) p) fun b => ?_
      cases b <;> exact .done _
    refine Job.Performs.bind (.ofStep hself) fun r => ?_
    cases r with
    | ok u => exact .done _
    | error f =>
      cases f with
      | notFound =>
        cases hq : p.parent with
        | none => exact .done _
        | some q =>
          refine Job.Performs.bind ?_ fun r => ?_
          · rcases Path.steps_of_parent hq with h0 | ⟨hhead, name, hsteps⟩
            · -- nothing is made at an empty path
              cases steps with
              | zero => exact .done _
              | succ steps =>
                unfold makeDirsWithin
                simp only [h0, if_true]
                exact .done _
            · refine (ih q).mono fun s hs => hs.imp id ?_
              rintro ⟨x, hx, rfl⟩
              exact ⟨x, ⟨hx.ne_nil, hx.steps.trans (hsteps ▸ List.prefix_append ..),
                hx.head.trans hhead⟩, rfl⟩
          · cases r with
            | error f => exact .done _
            | ok u =>
              refine Job.Performs.bind (.ofStep hself) fun r => ?_
              cases r with
              | ok u => exact .done _
              | error f => exact hunless f
      | _ => exact hunless _

theorem performs_makeDirs (p : Path) : (makeDirs p).Performs (Step.Makes p) :=
  performs_makeDirsWithin _ p

/-! ### Files -/

theorem performs_writeInPlace (path : Path) (bytes : ByteArray) :
    Attempt.Performs (Step.Writes path) (writeInPlace path bytes) := by
  unfold writeInPlace
  cases hdir : path.parent with
  | none => exact .done _
  | some dir =>
    cases hname : path.fileName with
    | none => exact .done _
    | some name =>
      refine .bind (.ofJob (.ofStep (.asks trivial))) fun stamp => ?_
      have htmp : path.IsTemporary (dir.push (temporaryName name stamp)) :=
        ⟨dir, name, stamp, hdir, hname, rfl⟩
      refine .bind (.atPath (.ofStep (.write bytes htmp))) fun _ => ?_
      refine .bind (.ofJob (.ofStep (.rename htmp))) fun r => ?_
      cases r with
      | ok u => exact .done _
      | error f => exact .bind (.ofJob (.ofStep (.remove htmp))) fun _ => .done _

theorem performs_writePair (paths : ArtifactPaths) (dump metrics : ByteArray) :
    Attempt.Performs (TurnStep paths) (writePair paths dump metrics) := by
  have hwrite : ∀ (path : Path) (bytes : ByteArray),
      (∀ s, Step.Writes path s → TurnStep paths s) →
        Attempt.Performs (TurnStep paths) (writeInPlace path bytes) :=
    fun path bytes h => (performs_writeInPlace path bytes).mono h
  refine .bind (hwrite _ metrics fun _ => .metrics) fun _ => ?_
  refine .tryCatch (hwrite _ dump fun _ => .dump) fun e => ?_
  refine .bind (.ofJob (Job.Performs.bind (.ofStep .discard) fun r => ?_)) fun _ => .done _
  cases r with
  | ok u => exact .done _
  | error f => cases f <;> first | exact .done _ | exact .ofStep (.asks trivial)

/-! ### Turns -/

variable {ε : Type} [ClassEngine ε]

theorem performs_makeParent (paths : ArtifactPaths) :
    Attempt.Performs (TurnStep paths) (makeParent paths) := by
  unfold makeParent
  split
  · rename_i dir hdir
    exact .atPath ((performs_makeDirs dir).mono fun _ => .makes hdir)
  · exact .done _

theorem performs_isPresent (replace : Bool) (paths : ArtifactPaths) :
    Attempt.Performs (TurnStep paths) (isPresent replace paths) := by
  unfold isPresent
  split
  · exact .done _
  · refine .ofJob (Job.Performs.bind (.ofStep (.asks trivial)) fun r => ?_)
    cases r <;> exact .done _

theorem performs_generateArtifacts {session : Session ε}
    (hquiet : ∀ c, (ClassEngine.dump session.engine c).OnlyAsks) (isStack : NamingConvention)
    (paths : ArtifactPaths) (n : String) :
    Attempt.Performs (TurnStep paths) (generateArtifacts session isStack paths n) := by
  have hasks : ∀ {α : Type} {R : α → Prop} {job : Job α}, job.Asking R →
      job.Performs (TurnStep paths) :=
    fun h => (Job.Performs.of_asking h).mono fun _ => .asks
  unfold generateArtifacts
  refine .bind (performs_makeParent paths) fun _ => ?_
  refine .bind (.ofExcept _) fun c => ?_
  refine .bind (.atPath (hasks (hquiet c))) fun text => ?_
  refine .bind (.ofJob (hasks (.of_yields (Job.yields_tellAll _)))) fun _ => ?_
  exact .bind (performs_writePair paths _ _) fun _ => .ofJob (.ofStep (.asks trivial))

/-- A turn touches the paths of its artifacts, if the engine changes nothing while it prints. -/
theorem Plan.performs_generateClass {p : Plan ε} (hquiet : p.PrintsQuietly) (n : String) :
    Attempt.Performs (TurnStep (p.paths n)) (p.generateClass n) := by
  have hstep : p.generateClass n = (do
      if ← isPresent p.replace (p.paths n) then
        Attempt.ofJob (Job.tell (.artifactsPresent n))
        return .skipped
      else
        generateArtifacts p.session p.isStack (p.paths n) n
        return .generated) := rfl
  rw [hstep]
  refine .bind (performs_isPresent p.replace (p.paths n)) fun present => ?_
  cases present with
  | true =>
    rw [if_pos rfl]
    exact .bind (.ofJob (.ofStep (.asks trivial))) fun _ => .pure _
  | false =>
    rw [if_neg Bool.false_ne_true]
    exact .bind (performs_generateArtifacts hquiet p.isStack (p.paths n) n) fun _ => .pure _

/-! ### Runs -/

theorem performs_removeOutputRoot (root : Path) (names : List String) :
    Attempt.Performs (RunStep root names) (removeOutputRoot root) := by
  have htell : ∀ e : Event, Attempt.Performs (RunStep root names) (Attempt.ofJob (Job.tell e)) :=
    fun _ => .ofJob (.ofStep (.asks trivial))
  unfold removeOutputRoot
  refine .bind (.ofJob (.ofStep (.asks trivial))) fun r => ?_
  cases r with
  | error f => cases f <;> exact .done _
  | ok kind =>
    by_cases hkind : kind = .directory
    · simp only [hkind, if_true]
      exact .bind (.atPath (.ofStep .removeTree)) fun _ => htell _
    · simp only [hkind, if_false]
      exact .bind (.atPath (.ofStep .removeFile)) fun _ => htell _

theorem Plan.performs_generateAll {p : Plan ε} (hquiet : p.PrintsQuietly) (names : List String)
    (report : GenerationReport) :
    Attempt.Performs (RunStep p.root names) (p.generateAll report names) := by
  induction names generalizing report with
  | nil => exact .done _
  | cons n rest ih =>
    have hturn : Job.Performs (RunStep p.root (n :: rest)) (p.generateClass n).run :=
      (Plan.performs_generateClass hquiet n).mono fun s h => .turn (List.mem_cons_self ..) h
    have hrest : ∀ report, Attempt.Performs (RunStep p.root (n :: rest))
        (p.generateAll report rest) := fun report => by
      refine (ih report).mono fun s h => ?_
      cases h with
      | asks h => exact .asks h
      | makes h => exact .makes h
      | removeFile => exact .removeFile
      | removeTree => exact .removeTree
      | turn hn h => exact .turn (List.mem_cons_of_mem _ hn) h
    have htell : ∀ e : Event, Attempt.Performs (RunStep p.root (n :: rest))
        (Attempt.ofJob (Job.tell e)) := fun _ => .ofJob (.ofStep (.asks trivial))
    refine .bind (.ofJob hturn) fun outcome => ?_
    match outcome with
    | .ok .generated => exact hrest _
    | .ok .skipped => exact hrest _
    | .error e =>
      by_cases hrec : e.isRecoverable
      · simp only [hrec, if_true]
        exact .bind (htell _) fun _ => hrest _
      · simp only [hrec]
        exact .bind (htell _) fun _ => .throw _

omit [ClassEngine ε] in
theorem Plan.performs_opening (p : Plan ε) (names : List String) :
    Attempt.Performs (RunStep p.root names) p.opening := by
  have hroot : Attempt.Performs (RunStep p.root names) (Attempt.atPath p.root (makeDirs p.root)) :=
    .atPath ((performs_makeDirs p.root).mono fun _ => .makes)
  unfold Plan.opening
  cases p.replace with
  | true => exact .bind (performs_removeOutputRoot p.root names) fun _ => hroot
  | false => exact hroot

/-- A run touches its output root and the paths of its turns, if the engine changes nothing while it
prints. -/
theorem Plan.performs_generate {p : Plan ε} (hquiet : p.PrintsQuietly) (names : List String) :
    Attempt.Performs (RunStep p.root names) (p.generate names) := by
  rw [p.generate_eq]
  refine .bind (p.performs_opening names) fun _ => ?_
  exact .bind (Plan.performs_generateAll hquiet names _) fun _ =>
    .bind (.ofJob (.ofStep (.asks trivial))) fun _ => .pure _

end ClassCensus
