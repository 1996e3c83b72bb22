import ClassCensus.Proofs.Cli.Arguments
import ClassCensus.Proofs.Cli.Settings

/-!
# Runs that leave the disk alone

A run of the command line changes the disk when it generates artifacts, and never else: queries,
requests for help and runs that end with status 2 leave everything as it is, whatever output root
they name. Answers in JSON are a matter of wording (`Cli.run_changes_only_to_generate`).
-/

namespace ClassCensus.Cli

open Job (Asking OnlyAsks Alike)

/-! ### Queries -/

/-- The arguments name a query. -/
def Arguments.Queries (a : Arguments) : Prop :=
  (a.invocationsOf.isSome ∧ a.method.isSome) ∨ a.usageIndex.isSome ∨ a.allSignatures ∨
    a.resolveLine.isSome

/-- A run that could not begin prints no answer. -/
def Outcome.Silent (o : Outcome) : Prop := o.exit = 2 → o.stdout = ""

theorem Outcome.silent_answered (text : String) (failed : Bool) : (answered text failed).Silent := by
  cases failed <;> simp [Silent, answered]

theorem Outcome.silent_refused (error : SetupError) : (refused error).Silent := fun _ => rfl

section Runs

variable {ε : Type} [ClassEngine ε] (settings : Settings) (analysis : Analysis ε)

theorem onlyAsks_close : OnlyAsks analysis.close := (onlyAsks_tell _).bind fun _ _ => .done trivial

theorem asking_finish (text : String) (failed : Bool) :
    Asking Outcome.Silent (finish analysis text failed) :=
  (onlyAsks_close analysis).bind fun _ _ => .done (Outcome.silent_answered text failed)

theorem asking_refuse (error : SetupError) : Asking Outcome.Silent (refuse analysis error) :=
  (onlyAsks_close analysis).bind fun _ _ => .done (Outcome.silent_refused error)

theorem asking_queryFailed (error : CensusError) :
    Asking Outcome.Silent (queryFailed analysis error) :=
  (onlyAsks_tell _).bind fun _ _ => asking_finish analysis _ _

omit [ClassEngine ε] in
theorem onlyAsks_requestedClasses (classList : Option (List String)) :
    OnlyAsks (requestedClasses analysis classList) := by
  cases classList with
  | none => exact .done trivial
  | some list => exact (onlyAsks_tellAll _).bind fun _ _ => .done trivial

theorem asking_runInvocations (className id : String) :
    Asking Outcome.Silent (runInvocations settings analysis className id) := by
  have hquery : OnlyAsks (analysis.callSitesOf className id).run :=
    (Asking.lift (onlyAsks_tellAll _)).attempts fun _ => .done trivial
  refine hquery.bind ?_
  rintro (error | sites) -
  · exact asking_queryFailed analysis error
  · exact asking_finish analysis _ _

theorem asking_runUsageIndex (packagePrefix : String) :
    Asking Outcome.Silent (runUsageIndex settings analysis packagePrefix) := by
  refine (onlyAsks_requestedClasses analysis _).bind ?_
  rintro classes -
  have hquery : OnlyAsks (analysis.usageIndex classes packagePrefix) :=
    (onlyAsks_tellAll _).bind fun _ _ => .done trivial
  exact hquery.bind fun _ _ => asking_finish analysis _ _

theorem asking_runSignatures : Asking Outcome.Silent (runSignatures settings analysis) := by
  have hquery : OnlyAsks (analysis.allSignatures analysis.applicationClasses) :=
    (onlyAsks_tellAll _).bind fun _ _ => .done trivial
  exact hquery.bind fun _ _ => asking_finish analysis _ _

theorem asking_runLookup (spec : String) :
    Asking Outcome.Silent (runLookup settings analysis spec) := by
  unfold runLookup
  split
  · exact asking_refuse analysis _
  · rename_i file line _
    have hquery : OnlyAsks (analysis.methodAtLine file line).run :=
      (Asking.lift (onlyAsks_tellAll _)).attempts fun _ => .done trivial
    refine hquery.bind ?_
    rintro (error | method) -
    · exact asking_queryFailed analysis error
    · exact asking_finish analysis _ _

/-- Where a query is named it is answered, and else artifacts are generated. -/
theorem runWith_cases (a : Arguments) :
    (a.Queries ∧ Asking Outcome.Silent (runWith a settings analysis)) ∨
      (¬a.Queries ∧ runWith a settings analysis = runGeneration settings analysis) := by
  unfold runWith
  split
  · rename_i hof hmethod
    exact .inl ⟨.inl ⟨by simp [hof], by simp [hmethod]⟩, asking_runInvocations settings analysis _ _⟩
  · rename_i hnone
    cases hindex : a.usageIndex with
    | some packagePrefix =>
      exact .inl ⟨.inr (.inl (by simp [hindex])),
        asking_runUsageIndex settings analysis packagePrefix⟩
    | none =>
      cases hsignatures : a.allSignatures with
      | true =>
        exact .inl ⟨.inr (.inr (.inl hsignatures)), asking_runSignatures settings analysis⟩
      | false =>
        cases hline : a.resolveLine with
        | some spec =>
          exact .inl ⟨.inr (.inr (.inr (by simp [hline]))), asking_runLookup settings analysis spec⟩
        | none =>
          refine .inr ⟨?_, rfl⟩
          rintro (⟨hof, hmethod⟩ | h | h | h)
          · obtain ⟨className, hof⟩ := Option.isSome_iff_exists.mp hof
            obtain ⟨id, hmethod⟩ := Option.isSome_iff_exists.mp hmethod
            exact hnone _ _ hof hmethod
          · simp [hindex] at h
          · simp [hsignatures] at h
          · simp [hline] at h

end Runs

theorem asking_runArguments {a : Arguments} (h : a.Queries) :
    Asking Outcome.Silent (runArguments a) := by
  refine (onlyAsks_settingsOf a).bind ?_
  rintro (error | settings) -
  · exact .done (Outcome.silent_refused error)
  · refine (onlyAsks_openClasspath _ _ _ _).bind ?_
    rintro (error | analysis) -
    · exact .done (Outcome.silent_refused _)
    · rcases runWith_cases settings analysis a with ⟨-, hasking⟩ | ⟨hnot, -⟩
      · exact hasking
      · exact absurd h hnot

/-! ### Runs that cannot begin -/

/-- Where the run ends with status 2, nothing was printed as an answer and nothing was changed. -/
def Careful (job : Job Outcome) : Prop :=
  ∀ w, (job.run w).1.exit = 2 →
    (job.run w).1.stdout = "" ∧ ∀ m ∈ job.moments w, w.Passes m

theorem careful_of_asking {job : Job Outcome} (h : Asking Outcome.Silent job) : Careful job :=
  fun w hexit => ⟨(h.ensures w).result.1 hexit, (h.ensures w).moments⟩

theorem careful_of_exit {job : Job Outcome} (h : ∀ w, (job.run w).1.exit ≠ 2) : Careful job :=
  fun w hexit => absurd hexit (h w)

/-- What asks first, and is careful then, is careful. -/
theorem careful_bind {α : Type} {job : Job α} {next : α → Job Outcome} (h : OnlyAsks job)
    (hn : ∀ a, Careful (next a)) : Careful (job.bind next) := by
  intro w hexit
  rw [Job.run_bind] at hexit ⊢
  obtain ⟨hstdout, hmoments⟩ := hn _ _ hexit
  refine ⟨hstdout, ?_⟩
  intro m hm
  rw [Job.moments_bind] at hm
  rcases List.mem_append.mp hm with hm | hm
  · exact (h.ensures w).moments m hm
  · exact (h.ensures w).result.2.trans (hmoments m hm)

section Runs

variable {ε : Type} [ClassEngine ε] (settings : Settings) (analysis : Analysis ε)

/-- A generation is refused for want of an output root only. -/
theorem careful_runGeneration : Careful (runGeneration settings analysis) := by
  unfold runGeneration
  cases settings.outDir with
  | none => exact careful_of_asking (asking_refuse analysis _)
  | some root =>
    refine careful_bind (onlyAsks_requestedClasses analysis _) fun classes => careful_of_exit ?_
    intro w
    refine (Job.run_bind (analysis.generate classes root settings.replaceExisting).run _ w).symm ▸ ?_
    split
    · exact (by decide : (1 : Nat) ≠ 2)
    · rename_i report _
      cases hfail : report.hasFailures with
      | true => exact (by decide : (1 : Nat) ≠ 2)
      | false => exact (by decide : (0 : Nat) ≠ 2)

end Runs

theorem careful_runWith (a : Arguments) (settings : Settings)
    (analysis : Analysis SnapshotEngine) : Careful (runWith a settings analysis) := by
  rcases runWith_cases settings analysis a with ⟨-, h⟩ | ⟨-, h⟩
  · exact careful_of_asking h
  · rw [h]
    exact careful_runGeneration settings analysis

theorem careful_runArguments (a : Arguments) : Careful (runArguments a) := by
  refine careful_bind (onlyAsks_settingsOf a) ?_
  rintro (error | settings)
  · exact careful_of_asking (.done (Outcome.silent_refused error))
  · refine careful_bind (onlyAsks_openClasspath _ _ _ _) ?_
    rintro (error | analysis)
    · exact careful_of_asking (.done (Outcome.silent_refused _))
    · exact careful_runWith a settings analysis

theorem careful_run (args : List String) : Careful (run args) := by
  unfold run
  split
  · exact careful_of_asking (.done fun h => by cases h)
  · exact careful_of_asking (.done fun h => by cases h)
  · exact careful_of_asking (.done fun _ => rfl)
  · exact careful_runArguments _

/-! ### Words that name a query -/

/-- An option stands among arguments, with a value behind an equals sign or without one. -/
def Mentions (name : String) (args : List String) : Prop :=
  "--" ++ name ∈ args ∨ ∃ value, "--" ++ name ++ "=" ++ value ∈ args

/-- The options that name a query. -/
def queryOptions : List String :=
  ["invocations-of", "usage-index", "all-signatures", "resolve-line"]

/-- The words that ask for help or for the version. -/
def helpWords : List String := ["-h", "--help", "-V", "--version"]

theorem Given.ReadAs.has_of_mentions {g : Given} {args : List String} {a : Arguments}
    (h : g.ReadAs args a) {name : String} {o : OptionName} (hne : name.toList ≠ [])
    (hname : '=' ∉ name.toList) (ho : optionNamed? name = some o) (hm : Mentions name args) :
    ∃ g' : Given, g'.request = .run a ∧ g'.Has o := by
  obtain ⟨g', hrequest, -, hcovers⟩ := h
  refine ⟨g', hrequest, ?_⟩
  have hform : ∃ value, g'.Covers (.long name value) := by
    rcases hm with hm | ⟨value, hm⟩
    · exact ⟨none, formOf_long hne hname ▸ hcovers _ hm⟩
    · exact ⟨some value, formOf_long_value hname value ▸ hcovers _ hm⟩
  obtain ⟨value, o', ho', hhas⟩ := hform
  rw [ho] at ho'
  rwa [Option.some.inj ho']

/-- What the request says is what has been given. -/
theorem Given.request_eq_run {g : Given} {a : Arguments} (h : g.request = .run a) :
    a.invocationsOf = g.value? .invocationsOf ∧ a.method = g.value? .method ∧
      a.usageIndex = g.value? .usageIndex ∧ a.allSignatures = g.has .allSignatures ∧
      a.resolveLine = g.value? .resolveLine ∧
      ((g.value? .invocationsOf).isSome → (g.value? .method).isSome) := by
  unfold request at h
  split at h
  · cases h
  · split at h
    · cases h
    · rename_i hmethod
      obtain rfl := Request.run.inj h
      refine ⟨rfl, rfl, rfl, rfl, rfl, ?_⟩
      intro hof
      cases hm : g.value? .method with
      | some id => rfl
      | none => simp [hof, hm] at hmethod

/-- A query that stands among the arguments of a run is a query of the run. -/
theorem queries_of_mentions {args : List String} {a : Arguments} (h : requestOf args = .run a)
    {name : String} (hname : name ∈ queryOptions) (hm : Mentions name args) : a.Queries := by
  have hread := readAs_of_run h
  simp only [queryOptions, List.mem_cons, List.not_mem_nil, or_false] at hname
  rcases hname with rfl | rfl | rfl | rfl
  · obtain ⟨g, hg, hhas⟩ := hread.has_of_mentions (by decide) (by decide) rfl hm
    obtain ⟨hof, hmethod, -, -, -, hboth⟩ := g.request_eq_run hg
    exact .inl ⟨hof ▸ hhas, hmethod ▸ hboth hhas⟩
  · obtain ⟨g, hg, hhas⟩ := hread.has_of_mentions (by decide) (by decide) rfl hm
    obtain ⟨-, -, hindex, -⟩ := g.request_eq_run hg
    exact .inr (.inl (hindex ▸ hhas))
  · obtain ⟨g, hg, hhas⟩ := hread.has_of_mentions (by decide) (by decide) rfl hm
    obtain ⟨-, -, -, hsignatures, -⟩ := g.request_eq_run hg
    exact .inr (.inr (.inl (hsignatures ▸ hhas)))
  · obtain ⟨g, hg, hhas⟩ := hread.has_of_mentions (by decide) (by decide) rfl hm
    obtain ⟨-, -, -, -, hline, -⟩ := g.request_eq_run hg
    exact .inr (.inr (.inr (hline ▸ hhas)))

/-- Where help or the version is asked for there is no run. -/
theorem not_run_of_helpWord {args : List String} {word : String} (hword : word ∈ helpWords)
    (hm : word ∈ args) (a : Arguments) : requestOf args ≠ .run a := by
  intro h
  obtain ⟨g, -, -, hcovers⟩ := readAs_of_run h
  have hc := hcovers word hm
  have hforms : formOf word = .short ['h'] ∨ formOf word = .short ['V'] ∨
      formOf word = .long "help" none ∨ formOf word = .long "version" none := by
    simp only [helpWords, List.mem_cons, List.not_mem_nil, or_false] at hword
    rcases hword with rfl | rfl | rfl | rfl <;> decide +kernel
  rcases hforms with hform | hform | hform | hform
  · exact (hform ▸ hc : g.Covers (.short ['h']))
  · exact (hform ▸ hc : g.Covers (.short ['V']))
  · obtain ⟨o, ho, hhas⟩ := (hform ▸ hc : g.Covers (.long "help" none))
    obtain rfl := Option.some.inj ho
    exact hhas
  · obtain ⟨o, ho, hhas⟩ := (hform ▸ hc : g.Covers (.long "version" none))
    obtain rfl := Option.some.inj ho
    exact hhas

/-! ### Answers in JSON -/

/-- Two runs that end with the same status. -/
def SameExit (o o' : Outcome) : Prop := o'.exit = o.exit

section Runs

variable {ε : Type} [ClassEngine ε] (settings : Settings) (analysis : Analysis ε)

theorem alike_finish (text text' : String) (failed : Bool) :
    Alike SameExit (finish analysis text failed) (finish analysis text' failed) :=
  Alike.bind_same _ fun _ => .done rfl

theorem alike_refl (job : Job Outcome) : Alike SameExit job job :=
  .refl (R := SameExit) (fun _ => rfl) job

/-- The settings say how an answer is worded and nothing else of it. -/
theorem alike_runWith (a : Arguments) :
    Alike SameExit (runWith a settings analysis)
      (runWith a { settings with json := true } analysis) := by
  unfold runWith
  split
  · refine Alike.bind_same _ ?_
    rintro (error | sites)
    · exact alike_refl _
    · exact alike_finish analysis _ _ _
  · split
    · exact Alike.bind_same _ fun _ => Alike.bind_same _ fun _ => alike_finish analysis _ _ _
    · split
      · exact Alike.bind_same _ fun _ => alike_finish analysis _ _ _
      · split
        · unfold runLookup
          split
          · exact alike_refl _
          · refine Alike.bind_same _ ?_
            rintro (error | method)
            · exact alike_refl _
            · exact alike_finish analysis _ _ _
        · unfold runGeneration
          dsimp only
          cases settings.outDir with
          | none => exact alike_refl _
          | some root =>
            refine Alike.bind_same _ fun classes => Alike.bind_same _ ?_
            rintro (error | report)
            · exact alike_refl _
            · exact Alike.bind_same _ fun _ => alike_finish analysis _ _ _

end Runs

/-- With `--json` the settings are the same but for it. -/
theorem alike_settingsOf (a : Arguments) :
    Alike (fun r r' => r' = r.map fun s => { s with json := true }) (settingsOf a).run
      (settingsOf { a with json := true }).run := by
  rw [settingsOf_eq, settingsOf_eq]
  refine Alike.attempt_same _ (fun config => ?_) fun _ => rfl
  refine Alike.attempt_same _ (fun classPath => ?_) fun _ => rfl
  refine Alike.attempt_same _ (fun outDir => ?_) fun _ => rfl
  refine Alike.attempt_same _ (fun isStack => ?_) fun _ => rfl
  exact .done rfl

theorem alike_runArguments (a : Arguments) :
    Alike SameExit (runArguments a) (runArguments { a with json := true }) := by
  refine (alike_settingsOf a).bind ?_
  rintro (error | settings) _ rfl
  · exact alike_refl _
  · refine Alike.bind_same _ ?_
    rintro (error | analysis)
    · exact alike_refl _
    · exact alike_runWith settings analysis a

/-- Arguments are accepted unless they are not valid. -/
def Request.Accepted : Request → Prop
  | .invalid _ => False
  | _ => True

theorem Request.AddsJson.accepted {r r' : Request} (h : r.AddsJson r') (hr : r.Accepted) :
    r'.Accepted := by
  cases h with
  | run a => trivial
  | help => trivial
  | version => trivial
  | invalid m m' => exact hr

/-- One more `--json` changes no step of a run and not its status. -/
theorem alike_run {args args' : List String} (h : (requestOf args).AddsJson (requestOf args')) :
    Alike SameExit (run args) (run args') := by
  unfold run
  generalize requestOf args = r at h
  generalize requestOf args' = r' at h
  cases h with
  | run a => exact alike_runArguments a
  | help => exact alike_refl _
  | version => exact alike_refl _
  | invalid m m' => exact .done rfl

/-! ### All runs -/

/-- A run changes the disk only when it generates artifacts. Where a query, help or the version is
asked for, and where the run ends with status 2, the disk is the same at every moment; with status
2 no answer is printed; and `--json`, put in wherever it is understood, leaves the status and all
that happens as they are. -/
theorem run_changes_only_to_generate (args : List String) (w : World) :
    ((∃ name ∈ queryOptions, Mentions name args) ∨ (∃ word ∈ helpWords, word ∈ args) ∨
        ((run args).run w).1.exit = 2 →
      ((run args).run w).2.disk = w.disk ∧ ∀ m ∈ (run args).moments w, m.disk = w.disk) ∧
    (((run args).run w).1.exit = 2 → ((run args).run w).1.stdout = "") ∧
    ("--json" ∉ args → (requestOf args).Accepted →
      (requestOf ("--json" :: args)).Accepted ∧
      ∀ before after, args = before ++ after →
        (requestOf (before ++ "--json" :: after)).Accepted →
          ((run (before ++ "--json" :: after)).run w).1.exit = ((run args).run w).1.exit ∧
          ((run (before ++ "--json" :: after)).run w).2 = ((run args).run w).2 ∧
          (run (before ++ "--json" :: after)).moments w = (run args).moments w) := by
  have hquiet : (∀ m ∈ (run args).moments w, w.Passes m) →
      ((run args).run w).2.disk = w.disk ∧ ∀ m ∈ (run args).moments w, m.disk = w.disk := by
    intro hpasses
    refine ⟨?_, fun m hm => (hpasses m hm).disk⟩
    rcases (run args).run_eq_or_mem w with h | h
    · rw [h]
    · exact (hpasses _ h).disk
  have hasking : Asking Outcome.Silent (run args) → ∀ m ∈ (run args).moments w, w.Passes m :=
    fun h => (h.ensures w).moments
  refine ⟨?_, fun hexit => (careful_run args w hexit).1, ?_⟩
  · rintro (⟨name, hname, hm⟩ | ⟨word, hword, hm⟩ | hexit)
    · refine hquiet (hasking ?_)
      unfold run
      split
      · exact .done fun h => by cases h
      · exact .done fun h => by cases h
      · exact .done fun _ => rfl
      · rename_i hrequest
        exact asking_runArguments (queries_of_mentions hrequest hname hm)
    · refine hquiet (hasking ?_)
      unfold run
      split
      · exact .done fun h => by cases h
      · exact .done fun h => by cases h
      · exact .done fun _ => rfl
      · rename_i a hrequest
        exact absurd hrequest (not_run_of_helpWord hword hm a)
    · exact hquiet (careful_run args w hexit).2
  · intro hjson haccepted
    refine ⟨?_, ?_⟩
    · rcases @addsJson_insert ⟨[], []⟩ [] args hjson rfl with h | ⟨h, -⟩
      · exact h.accepted haccepted
      · exact absurd rfl h
    · rintro before after rfl hfits
      rcases addsJson_insert (g := ⟨[], []⟩) hjson rfl with h | ⟨-, m, hinvalid⟩
      · obtain ⟨hexit, hworld, hmoments⟩ := (alike_run h).run w
        exact ⟨hexit, hworld, hmoments⟩
      · have hr : requestOf (before ++ "--json" :: after) = .invalid m := hinvalid
        rw [hr] at hfits
        exact hfits.elim

/-- A usage index is asked for, and the output root that is to be replaced keeps its file. -/
theorem run_changes_only_to_generate_beside_old_file :
    let args := ["--class-path=cp", "--out-dir", "out", "--replace-existing", "--usage-index="]
    let disk : Disk := ((Disk.blank ["home"]).put ["home", "cp"] .directory).put ["home", "out"]
      (.file ByteArray.empty)
    let w : World := ⟨disk, 7, 1, []⟩
    ((run args).run w).1.exit = 0 ∧ ((run args).run w).2.disk = disk ∧
      ((run ("--json" :: args)).run w).1.exit = 0 := by
  intro args disk w
  have hexit : ((run args).run w).1.exit = 0 := by decide +kernel
  have hjson : "--json" ∉ args := by decide
  have haccepted : (requestOf args).Accepted := by
    have h : (match requestOf args with | .run _ => true | _ => false) = true := by decide +kernel
    revert h
    cases requestOf args with
    | invalid m => intro h; cases h
    | run a => exact fun _ => trivial
    | help => exact fun _ => trivial
    | version => exact fun _ => trivial
  have hquery : Mentions "usage-index" args := .inr ⟨"", by decide⟩
  obtain ⟨hkept, -, hinsert⟩ := run_changes_only_to_generate args w
  obtain ⟨hfits, hadded⟩ := hinsert hjson haccepted
  have hkept' := (hkept (.inl ⟨_, by decide, hquery⟩)).1
  have hsame := (hadded [] args rfl hfits).1
  rw [List.nil_append, hexit] at hsame
  exact ⟨hexit, hkept', hsame⟩

end ClassCensus.Cli
