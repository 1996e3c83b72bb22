import ClassCensus.Cli.Arguments
import Mathlib.Tactic.Cases

/-!
# What arguments say

A command line is read option by option. No option of it is overlooked: in arguments that make a
run every word with the form of an option is this option (`Cli.readAs_of_run`). One more `--json`
changes nothing else of a request (`Cli.addsJson_insert`).
-/

namespace ClassCensus

/-! ### Forms of words -/

theorem Text.cutFirst_append {sep : Char} {before : List Char} (h : sep ∉ before)
    (after : List Char) : Text.cutFirst sep (before ++ sep :: after) = some (before, after) := by
  induction before with
  | nil => simp [Text.cutFirst]
  | cons c rest ih =>
    have hc : c ≠ sep := fun e => h (e ▸ List.mem_cons_self ..)
    have hrest : sep ∉ rest := fun hm => h (List.mem_cons_of_mem _ hm)
    simp only [List.cons_append, Text.cutFirst, hc, if_false, ih hrest, Option.map_some]

theorem Text.cutFirst_eq_none {sep : Char} {text : List Char} (h : sep ∉ text) :
    Text.cutFirst sep text = none := by
  induction text with
  | nil => rfl
  | cons c rest ih =>
    have hc : c ≠ sep := fun e => h (e ▸ List.mem_cons_self ..)
    have hrest : sep ∉ rest := fun hm => h (List.mem_cons_of_mem _ hm)
    simp only [Text.cutFirst, hc, if_false, ih hrest, Option.map_none]

namespace Cli

theorem formOf_long {name : String} (hne : name.toList ≠ []) (hname : '=' ∉ name.toList) :
    formOf ("--" ++ name) = .long name none := by
  obtain ⟨c, rest, hcs⟩ := List.exists_cons_of_ne_nil hne
  have hword : ("--" ++ name).toList = '-' :: '-' :: c :: rest := by
    rw [String.toList_append, hcs]
    rfl
  have hcut : Text.cutFirst '=' (c :: rest) = none := hcs ▸ Text.cutFirst_eq_none hname
  simp only [formOf, hword, hcut]
  rw [← hcs, String.ofList_toList]

theorem formOf_long_value {name : String} (hname : '=' ∉ name.toList) (value : String) :
    formOf ("--" ++ name ++ "=" ++ value) = .long name (some value) := by
  have hword : ("--" ++ name ++ "=" ++ value).toList =
      '-' :: '-' :: (name.toList ++ '=' :: value.toList) := by
    simp only [String.toList_append]
    simp
  have hcut := Text.cutFirst_append hname value.toList
  obtain ⟨c, rest, hcs⟩ : ∃ c rest, name.toList ++ '=' :: value.toList = c :: rest :=
    List.exists_cons_of_ne_nil (by simp)
  rw [hcs] at hword hcut
  simp only [formOf, hword, hcut, String.ofList_toList]

/-! ### Words and what they ask for -/

/-- What a word asks for, where an option may stand. -/
inductive WordKind where
  /-- The request is known, whatever else is given. -/
  | ends (request : Request)
  | separator
  | switch (s : Switch)
  | valued (o : ValueOption) (value : String)
  /-- An option whose value is the next word. -/
  | takesNext (o : ValueOption)

/-- What a word asks for. -/
def wordKind (word : String) : WordKind :=
  match formOf word with
  | .plain => .ends (.invalid "unexpected argument")
  | .separator => .separator
  | .short letters =>
    if letters.head? = some 'h' then .ends .help
    else if letters.head? = some 'V' then .ends .version
    else .ends (.invalid "unexpected argument")
  | .long name value =>
    match optionNamed? name, value with
    | none, _ => .ends (.invalid "unexpected argument")
    | some .help, none => .ends .help
    | some .version, none => .ends .version
    | some (.switch s), none => .switch s
    | some (.value o), some value => .valued o value
    | some (.value o), none => .takesNext o
    | _, some _ => .ends (.invalid "unexpected value")

namespace Given

/-- The options with one more switch. -/
def addSwitch (g : Given) (s : Switch) : Given := { g with switches := s :: g.switches }

/-- The options with one more value. -/
def addValue (g : Given) (o : ValueOption) (value : String) : Given :=
  { g with values := (o, value) :: g.values }

section Adding

variable (g : Given) (s t : Switch) (o p : ValueOption) (value : String)

@[simp]
theorem has_addSwitch : (g.addSwitch s).has t = (t == s || g.has t) := by
  unfold has addSwitch
  exact List.contains_cons

@[simp]
theorem has_addValue : (g.addValue o value).has s = g.has s := by
  cases g
  rfl

@[simp]
theorem value?_addValue :
    (g.addValue o value).value? p = if o = p then some value else g.value? p := by
  by_cases h : o = p <;> simp [addValue, value?, h]

end Adding

end Given

/-- Reading goes by what the first word asks for. -/
theorem readArguments_cons (g : Given) (word : String) (rest : List String) :
    readArguments g (word :: rest) =
      match wordKind word with
      | .ends request => request
      | .separator => if rest = [] then g.request else .invalid "unexpected argument"
      | .switch s =>
        if g.has s then .invalid "the argument cannot be used multiple times"
        else readArguments (g.addSwitch s) rest
      | .valued o value =>
        if (g.value? o).isSome then .invalid "the argument cannot be used multiple times"
        else readArguments (g.addValue o value) rest
      | .takesNext o =>
        match rest with
        | [] => .invalid "a value is required"
        | value :: rest =>
          if formOf value ≠ .plain then .invalid "a value is required"
          else if (g.value? o).isSome then .invalid "the argument cannot be used multiple times"
          else readArguments (g.addValue o value) rest := by
  cases hform : formOf word with
  | plain => simp only [readArguments, wordKind, hform]
  | separator => simp only [readArguments, wordKind, hform]
  | short letters =>
    simp only [readArguments, wordKind, hform]
    split
    · rfl
    · split
      · rfl
      · rfl
  | long name value =>
    cases ho : optionNamed? name with
    | none => simp only [readArguments, wordKind, hform, ho]
    | some o =>
      cases o with
      | help => cases value <;> simp only [readArguments, wordKind, hform, ho]
      | version => cases value <;> simp only [readArguments, wordKind, hform, ho]
      | switch s =>
        cases value with
        | some value => simp only [readArguments, wordKind, hform, ho]
        | none => simp only [readArguments, wordKind, hform, ho]; rfl
      | value o =>
        cases value with
        | some value => simp only [readArguments, wordKind, hform, ho]; rfl
        | none => cases rest <;> simp only [readArguments, wordKind, hform, ho]; rfl

/-! ### No option is overlooked -/

namespace Given

/-- Whether an option has been given. Help and version end the reading where they stand. -/
def Has (g : Given) : OptionName → Prop
  | .value o => (g.value? o).isSome
  | .switch s => g.has s
  | .help => False
  | .version => False

/-- A word is no more than what has been given: an option among it, or no option at all. -/
def Covers (g : Given) : ArgumentForm → Prop
  | .long name _ => ∃ o, optionNamed? name = some o ∧ g.Has o
  | .short _ => False
  | .separator => True
  | .plain => True

/-- Whatever has been given stays given. -/
def Grows (g g' : Given) : Prop := ∀ o, g.Has o → g'.Has o

theorem Grows.trans {g g' g'' : Given} (h : g.Grows g') (h' : g'.Grows g'') : g.Grows g'' :=
  fun o ho => h' o (h o ho)

theorem grows_addSwitch (g : Given) (s : Switch) : g.Grows (g.addSwitch s) := by
  intro o h
  cases o with
  | value o => exact h
  | switch t =>
    simp only [Has, has_addSwitch, Bool.or_eq_true] at h ⊢
    exact .inr h
  | help => exact h
  | version => exact h

theorem grows_addValue (g : Given) (o : ValueOption) (value : String) :
    g.Grows (g.addValue o value) := by
  intro q h
  cases q with
  | value p =>
    simp only [Has, value?_addValue] at h ⊢
    split
    · rfl
    · exact h
  | switch t => exact h
  | help => exact h
  | version => exact h

end Given

/-- What a word asks for is what it is covered by, where it stands for an option. -/
theorem wordKind_covered (word : String) :
    match wordKind word with
    | .ends request => ∀ a, request ≠ .run a
    | .separator => ∀ g : Given, g.Covers (formOf word)
    | .switch s => ∀ g : Given, g.Has (.switch s) → g.Covers (formOf word)
    | .valued o _ => ∀ g : Given, g.Has (.value o) → g.Covers (formOf word)
    | .takesNext o => ∀ g : Given, g.Has (.value o) → g.Covers (formOf word) := by
  cases hform : formOf word with
  | plain => simp [wordKind, hform]
  | separator => simp [wordKind, hform, Given.Covers]
  | short letters =>
    by_cases hh : letters.head? = some 'h'
    · simp [wordKind, hform, hh]
    · by_cases hv : letters.head? = some 'V'
      · simp [wordKind, hform, hv]
      · simp [wordKind, hform, hh, hv]
  | long name value =>
    cases ho : optionNamed? name with
    | none => simp [wordKind, hform, ho]
    | some o =>
      cases o <;> cases value <;> simp [wordKind, hform, ho, Given.Covers]

theorem wordKind_eq_switch {word : String} {s : Switch} (h : wordKind word = .switch s) :
    ∃ name, formOf word = .long name none ∧ optionNamed? name = some (.switch s) := by
  cases hform : formOf word with
  | plain => simp [wordKind, hform] at h
  | separator => simp [wordKind, hform] at h
  | short letters =>
    simp only [wordKind, hform] at h
    split at h
    · cases h
    · split at h <;> cases h
  | long name value =>
    cases ho : optionNamed? name with
    | none => simp [wordKind, hform, ho] at h
    | some o => cases o <;> cases value <;> simp_all [wordKind]

/-- Words are read into a run, in which all of them count. -/
def Given.ReadAs (g : Given) (words : List String) (a : Arguments) : Prop :=
  ∃ g', g'.request = .run a ∧ g.Grows g' ∧ ∀ word ∈ words, g'.Covers (formOf word)

/-- Words for an option before others that are read. -/
theorem Given.ReadAs.append {g g1 : Given} {rest : List String} {a : Arguments}
    (h : g1.ReadAs rest a) (hgrows : g.Grows g1) (words : List String) (o : OptionName)
    (ho : g1.Has o)
    (hwords : ∀ g' : Given, g'.Has o → ∀ word ∈ words, g'.Covers (formOf word)) :
    g.ReadAs (words ++ rest) a := by
  obtain ⟨g', hrequest, hgrows', hcovers⟩ := h
  refine ⟨g', hrequest, hgrows.trans hgrows', ?_⟩
  intro word hword
  rcases List.mem_append.mp hword with hword | hword
  · exact hwords g' (hgrows' o ho) word hword
  · exact hcovers word hword

/-- In arguments that make a run every word counts. -/
theorem readAs_of_run {a : Arguments} : ∀ {g : Given} {args : List String},
    readArguments g args = .run a → g.ReadAs args a
  | g, [], h => ⟨g, h, fun _ ho => ho, fun _ hw => absurd hw List.not_mem_nil⟩
  | g, word :: rest, h => by
    rw [readArguments_cons] at h
    have hword := wordKind_covered word
    cases hkind : wordKind word with
    | ends request =>
      rw [hkind] at h hword
      exact absurd h (hword a)
    | separator =>
      simp only [hkind] at h hword
      split at h
      · rename_i hrest
        refine ⟨g, h, fun _ ho => ho, ?_⟩
        intro w hw
        rw [hrest, List.mem_singleton] at hw
        rw [hw]
        exact hword g
      · cases h
    | switch s =>
      simp only [hkind] at h hword
      split at h
      · cases h
      · refine (readAs_of_run h).append (g.grows_addSwitch s) [word] (.switch s)
          (by simp [Given.Has]) ?_
        intro g' ho w hw
        rw [List.mem_singleton.mp hw]
        exact hword g' ho
    | valued o value =>
      simp only [hkind] at h hword
      split at h
      · cases h
      · refine (readAs_of_run h).append (g.grows_addValue o value) [word] (.value o)
          (by simp [Given.Has]) ?_
        intro g' ho w hw
        rw [List.mem_singleton.mp hw]
        exact hword g' ho
    | takesNext o =>
      simp only [hkind] at h hword
      cases rest with
      | nil => cases h
      | cons value rest =>
        simp only at h
        split at h
        · cases h
        · rename_i hplain
          split at h
          · cases h
          · refine (readAs_of_run h).append (g.grows_addValue o value) [word, value]
              (.value o) (by simp [Given.Has]) ?_
            intro g' ho w hw
            rcases List.mem_cons.mp hw with rfl | hw
            · exact hword g' ho
            · rw [List.mem_singleton.mp hw, Decidable.not_not.mp hplain]
              trivial

/-! ### One more switch -/

/-- The same request, but with answers in JSON. -/
inductive Request.AddsJson : Request → Request → Prop where
  | run (a : Arguments) : AddsJson (.run a) (.run { a with json := true })
  | help : AddsJson .help .help
  | version : AddsJson .version .version
  | invalid (m m' : String) : AddsJson (.invalid m) (.invalid m')

/-- The same options, and `--json` too. -/
structure Given.AddsJson (g g' : Given) : Prop where
  values : g'.values = g.values
  json : g'.has .json
  switches : ∀ s, s ≠ .json → g'.has s = g.has s

namespace Given.AddsJson

variable {g g' : Given}

theorem value? (h : g.AddsJson g') (o : ValueOption) : g'.value? o = g.value? o := by
  simp only [Given.value?, h.values]

theorem addSwitch (h : g.AddsJson g') (s : Switch) :
    (g.addSwitch s).AddsJson (g'.addSwitch s) :=
  ⟨h.values, by simp [h.json], fun t ht => by simp [h.switches t ht]⟩

theorem addValue (h : g.AddsJson g') (o : ValueOption) (value : String) :
    (g.addValue o value).AddsJson (g'.addValue o value) :=
  ⟨by simp [Given.addValue, h.values], h.json, h.switches⟩

theorem request (h : g.AddsJson g') : g.request.AddsJson g'.request := by
  simp only [Given.request, h.value?]
  split
  · exact .invalid _ _
  · split
    · exact .invalid _ _
    · simp only [h.switches _ (by decide : Switch.preTransform ≠ .json),
        h.switches _ (by decide : Switch.replaceExisting ≠ .json),
        h.switches _ (by decide : Switch.allSignatures ≠ .json), h.json]
      exact .run _

end Given.AddsJson

theorem formOf_json : formOf "--json" = .long "json" none := by decide +kernel

theorem wordKind_json : wordKind "--json" = .switch .json := by
  simp only [wordKind, formOf_json, optionNamed?]

theorem eq_of_optionNamed_json {name : String} (h : optionNamed? name = some (.switch .json)) :
    name = "json" := by
  unfold optionNamed? at h
  split at h <;> first | rfl | cases h

theorem eq_of_formOf_long {word name : String} (h : formOf word = .long name none) :
    word = "--" ++ name := by
  unfold formOf at h
  split at h
  · cases h
  · rename_i hword
    split at h
    · cases h
    · obtain rfl := (ArgumentForm.long.inj h).1
      exact String.toList_inj.mp (by simp [hword])
  · cases h
  · cases h

/-- Only one word is the switch for JSON. -/
theorem eq_of_wordKind_json {word : String} (h : wordKind word = .switch .json) :
    word = "--json" := by
  obtain ⟨name, hform, hname⟩ := wordKind_eq_switch h
  rw [eq_of_formOf_long hform, eq_of_optionNamed_json hname]
  rfl

/-- With `--json` given before, reading goes on alike. -/
theorem addsJson_readArguments : ∀ {g g' : Given} {args : List String}, g.AddsJson g' →
    "--json" ∉ args → (readArguments g args).AddsJson (readArguments g' args)
  | g, g', [], h, _ => h.request
  | g, g', word :: rest, h, hargs => by
    have hrest : "--json" ∉ rest := fun hm => hargs (List.mem_cons_of_mem _ hm)
    simp only [readArguments_cons, h.value?]
    cases hkind : wordKind word with
    | ends request =>
      have hrun := wordKind_covered word
      rw [hkind] at hrun
      cases request with
      | run a => exact absurd rfl (hrun a)
      | help => exact .help
      | version => exact .version
      | invalid m => exact .invalid m m
    | separator =>
      simp only
      split
      · exact h.request
      · exact .invalid _ _
    | switch s =>
      have hs : s ≠ .json := by
        rintro rfl
        exact hargs (eq_of_wordKind_json hkind ▸ List.mem_cons_self ..)
      simp only [h.switches s hs]
      split
      · exact .invalid _ _
      · exact addsJson_readArguments (h.addSwitch s) hrest
    | valued o value =>
      simp only
      split
      · exact .invalid _ _
      · exact addsJson_readArguments (h.addValue o value) hrest
    | takesNext o =>
      cases rest with
      | nil => exact .invalid _ _
      | cons value rest =>
        simp only
        split
        · exact .invalid _ _
        · split
          · exact .invalid _ _
          · exact addsJson_readArguments (h.addValue o value)
              fun hm => hrest (List.mem_cons_of_mem _ hm)

/-- Wherever `--json` is put in, the request is the same but for it, or it does not fit there. -/
theorem addsJson_insert : ∀ {g : Given} {before after : List String},
    "--json" ∉ before ++ after → g.has .json = false →
      (readArguments g (before ++ after)).AddsJson
          (readArguments g (before ++ "--json" :: after)) ∨
        before ≠ [] ∧ ∃ m, readArguments g (before ++ "--json" :: after) = .invalid m
  | g, [], after, hargs, hg => by
    have hstart : g.AddsJson (g.addSwitch .json) :=
      ⟨rfl, by simp, fun s hs => by simp [hs]⟩
    refine .inl ?_
    rw [List.nil_append, List.nil_append, readArguments_cons g "--json"]
    simp only [wordKind_json, hg, Bool.false_eq_true, if_false]
    exact addsJson_readArguments hstart hargs
  | g, word :: before, after, hargs, hg => by
    have hrest : "--json" ∉ before ++ after := fun hm => hargs (List.mem_cons_of_mem _ hm)
    simp only [List.cons_append, readArguments_cons]
    cases hkind : wordKind word with
    | ends request =>
      have hrun := wordKind_covered word
      rw [hkind] at hrun
      cases request with
      | run a => exact absurd rfl (hrun a)
      | help => exact .inl .help
      | version => exact .inl .version
      | invalid m => exact .inl (.invalid m m)
    | separator =>
      have hne : before ++ "--json" :: after ≠ [] := by simp
      exact .inr ⟨by simp, _, if_neg hne⟩
    | switch s =>
      have hs : s ≠ .json := by
        rintro rfl
        exact hargs (eq_of_wordKind_json hkind ▸ List.mem_cons_self ..)
      simp only
      split
      · exact .inl (.invalid _ _)
      · rcases addsJson_insert hrest (g := g.addSwitch s) (by simp [hg, hs.symm]) with h | ⟨-, h⟩
        · exact .inl h
        · exact .inr ⟨by simp, h⟩
    | valued o value =>
      simp only
      split
      · exact .inl (.invalid _ _)
      · rcases addsJson_insert hrest (g := g.addValue o value) (by simp [hg]) with h | ⟨-, h⟩
        · exact .inl h
        · exact .inr ⟨by simp, h⟩
    | takesNext o =>
      cases before with
      | nil =>
        have hform : formOf "--json" ≠ .plain := by decide +kernel
        exact .inr ⟨by simp, _, if_pos hform⟩
      | cons value before =>
        simp only [List.cons_append]
        split
        · exact .inl (.invalid _ _)
        · split
          · exact .inl (.invalid _ _)
          · have hrest' : "--json" ∉ before ++ after :=
              fun hm => hrest (List.mem_cons_of_mem _ hm)
            rcases addsJson_insert hrest' (g := g.addValue o value) (by simp [hg]) with h | ⟨-, h⟩
            · exact .inl h
            · exact .inr ⟨by simp, h⟩

end Cli

end ClassCensus
