import ClassCensus.Proofs.ClassDump.Words

/-!
# The lines of a dump

Each line of a dump tells what it is written for, when the names are words (`ClassDef.Legible`): a field
its modifiers, type and name, the first line of a method also the parameter types, the first line of a
class its optional parts, which keywords begin. No line has a line break of its own, so the lines are
told from the whole text (`dumpLines_inj`).
-/

namespace ClassCensus

open Text (phrase listed)

/-! ### Legible classes -/

/-- The names of a local are words. -/
structure LocalVar.Legible (v : LocalVar) : Prop where
  name : IsWord v.name
  type : IsWord v.type

instance (v : LocalVar) : Decidable v.Legible :=
  decidable_of_iff (IsWord v.name ∧ IsWord v.type)
    ⟨fun h => ⟨h.1, h.2⟩, fun h => ⟨h.name, h.type⟩⟩

/-- The names of a field are words. -/
structure Field.Legible (f : Field) : Prop where
  name : IsWord f.name
  type : IsWord f.type
  modifiers : ∀ s ∈ f.modifiers, IsWord s

instance (f : Field) : Decidable f.Legible :=
  decidable_of_iff (IsWord f.name ∧ IsWord f.type ∧ ∀ s ∈ f.modifiers, IsWord s)
    ⟨fun h => ⟨h.1, h.2.1, h.2.2⟩, fun h => ⟨h.name, h.type, h.modifiers⟩⟩

/-- The names of the locals are words, and each statement is in one line. A body has statements. -/
structure Body.Legible (b : Body) : Prop where
  locals : ∀ v ∈ b.locals, v.Legible
  texts : ∀ s ∈ b.statements, '\n' ∉ s.text.toList
  nonempty : b.statements ≠ []

instance (b : Body) : Decidable b.Legible :=
  decidable_of_iff ((∀ v ∈ b.locals, v.Legible) ∧ (∀ s ∈ b.statements, '\n' ∉ s.text.toList) ∧
      b.statements ≠ [])
    ⟨fun h => ⟨h.1, h.2.1, h.2.2⟩, fun h => ⟨h.locals, h.texts, h.nonempty⟩⟩

/-- The names of a method are words. -/
structure Method.Legible (m : Method) : Prop where
  name : IsWord m.name
  returnType : IsWord m.returnType
  parameterTypes : ∀ s ∈ m.parameterTypes, IsWord s
  modifiers : ∀ s ∈ m.modifiers, IsWord s
  body : ∀ b ∈ m.body, b.Legible

instance (m : Method) : Decidable m.Legible :=
  decidable_of_iff (IsWord m.name ∧ IsWord m.returnType ∧ (∀ s ∈ m.parameterTypes, IsWord s) ∧
      (∀ s ∈ m.modifiers, IsWord s) ∧ ∀ b ∈ m.body, b.Legible)
    ⟨fun h => ⟨h.1, h.2.1, h.2.2.1, h.2.2.2.1, h.2.2.2.2⟩,
      fun h => ⟨h.name, h.returnType, h.parameterTypes, h.modifiers, h.body⟩⟩

/-- The names of a class and of its members are words. -/
structure ClassDef.Legible (c : ClassDef) : Prop where
  name : IsWord c.name
  superclass : ∀ s ∈ c.superclass, IsWord s
  interfaces : ∀ s ∈ c.interfaces, IsWord s
  modifiers : ∀ s ∈ c.modifiers, IsWord s
  fields : ∀ f ∈ c.fields, f.Legible
  methods : ∀ m ∈ c.methods, m.Legible

instance (c : ClassDef) : Decidable c.Legible :=
  decidable_of_iff (IsWord c.name ∧ (∀ s ∈ c.superclass, IsWord s) ∧
      (∀ s ∈ c.interfaces, IsWord s) ∧ (∀ s ∈ c.modifiers, IsWord s) ∧
      (∀ f ∈ c.fields, f.Legible) ∧ ∀ m ∈ c.methods, m.Legible)
    ⟨fun h => ⟨h.1, h.2.1, h.2.2.1, h.2.2.2.1, h.2.2.2.2.1, h.2.2.2.2.2⟩,
      fun h => ⟨h.name, h.superclass, h.interfaces, h.modifiers, h.fields, h.methods⟩⟩

/-! ### Declarations -/

section Declarations

variable {modifiers modifiers' : List String} {type name type' name' : String}

/-- The words of a declaration: modifiers, type and name. -/
def declarationWords (modifiers : List String) (type name : String) : List String :=
  modifiers ++ [type, name]

theorem declarationWords_inj (hw : ∀ w ∈ declarationWords modifiers type name, IsWord w)
    (hv : ∀ v ∈ declarationWords modifiers' type' name', IsWord v)
    (h : phrase (declarationWords modifiers type name) =
      phrase (declarationWords modifiers' type' name')) :
    modifiers = modifiers' ∧ type = type' ∧ name = name' := by
  have hwords := IsPiece.phrase_inj (fun w hmem => (hw w hmem).isPiece)
    (fun v hmem => (hv v hmem).isPiece) h
  obtain ⟨hmodifiers, hrest⟩ := List.append_inj' hwords rfl
  obtain ⟨htype, hname⟩ := List.cons.inj hrest
  exact ⟨hmodifiers, htype, (List.cons.inj hname).1⟩

theorem isWord_of_mem_declarationWords (hmodifiers : ∀ s ∈ modifiers, IsWord s)
    (htype : IsWord type) (hname : IsWord name) :
    ∀ w ∈ declarationWords modifiers type name, IsWord w := by
  intro w hw
  rcases List.mem_append.mp hw with hw | hw
  · exact hmodifiers w hw
  · rcases List.mem_pair.mp hw with rfl | rfl
    · exact htype
    · exact hname

theorem phrase_declarationWords :
    phrase (declarationWords modifiers type name) =
      (dumpModifiers modifiers ++ type ++ " " ++ name).toList := by
  have hpair : phrase [type, name] = (type ++ " " ++ name).toList := by
    simp [phrase, Text.join]
  rw [declarationWords, ← toList_dumpModifiers_append modifiers (List.cons_ne_nil _ _), hpair]
  simp

end Declarations

theorem Field.toList_dump (f : Field) : f.dump.toList =
    dumpIndent.toList ++ phrase (declarationWords f.modifiers f.type f.name) ++ [';'] := by
  rw [phrase_declarationWords]
  simp [dump]

theorem Method.toList_dumpHeader (m : Method) : m.dumpHeader.toList =
    dumpIndent.toList ++ phrase (declarationWords m.modifiers m.returnType m.name) ++
      '(' :: (phrase (listed m.parameterTypes) ++ [')']) := by
  rw [phrase_declarationWords, Text.phrase_listed]
  simp [dumpHeader]

namespace Field.Legible

variable {f g : Field}

theorem words (h : f.Legible) : ∀ w ∈ declarationWords f.modifiers f.type f.name, IsWord w :=
  isWord_of_mem_declarationWords h.modifiers h.type h.name

theorem dump_inj (hf : f.Legible) (hg : g.Legible) (h : f.dump = g.dump) : f = g := by
  have hchars := String.toList_inj.mpr h
  rw [toList_dump, toList_dump] at hchars
  obtain ⟨hmodifiers, htype, hname⟩ := declarationWords_inj hf.words hg.words
    (List.append_cancel_left (List.append_cancel_right hchars))
  cases f
  cases g
  simp_all

theorem not_mem_dump (h : f.Legible) {c : Char} (hc : c ∈ ['\n', '(']) : c ∉ f.dump.toList := by
  have hmarks : c ≠ ' ' ∧ c ≠ ';' ∧ c ∈ [' ', '\n', ',', ';', '(', ')', '\x7b', '\x7d'] := by
    rcases List.mem_pair.mp hc with rfl | rfl <;> decide
  have hphrase := Text.not_mem_phrase hmarks.1 fun w hw => (h.words w hw).not_mem hmarks.2.2
  rw [toList_dump]
  simp [dumpIndent, hphrase, hmarks.1, hmarks.2.1]

end Field.Legible

namespace Method.Legible

variable {m n : Method}

theorem words (h : m.Legible) :
    ∀ w ∈ declarationWords m.modifiers m.returnType m.name, IsWord w :=
  isWord_of_mem_declarationWords h.modifiers h.returnType h.name

theorem listed_pieces (h : m.Legible) : ∀ w ∈ listed m.parameterTypes, IsPiece w :=
  IsPiece.listed fun w hw => (h.parameterTypes w hw).isPiece

/-- The parenthesis parts the declaration from the parameter types. -/
theorem dumpHeader_inj (hm : m.Legible) (hn : n.Legible) (h : m.dumpHeader = n.dumpHeader) :
    (m.modifiers = n.modifiers ∧ m.returnType = n.returnType ∧ m.name = n.name) ∧
      m.parameterTypes = n.parameterTypes := by
  have hchars := String.toList_inj.mpr h
  rw [toList_dumpHeader, toList_dumpHeader, List.append_assoc, List.append_assoc] at hchars
  have hopen : ∀ k : Method, k.Legible →
      '(' ∉ phrase (declarationWords k.modifiers k.returnType k.name) := fun k hk =>
    Text.not_mem_phrase (by decide) fun w hw => (hk.words w hw).not_mem (by decide)
  obtain ⟨hdeclaration, hparameters⟩ := Text.append_sep_inj (hopen m hm) (hopen n hn)
    (List.append_cancel_left hchars)
  have hlisted := IsPiece.phrase_inj hm.listed_pieces hn.listed_pieces
    (List.append_cancel_right hparameters)
  exact ⟨declarationWords_inj hm.words hn.words hdeclaration, Text.listed_inj hlisted⟩

theorem no_break_dumpHeader (h : m.Legible) : '\n' ∉ m.dumpHeader.toList := by
  have hdeclaration := IsPiece.no_break_phrase fun w hw => (h.words w hw).isPiece
  have hparameters := IsPiece.no_break_phrase h.listed_pieces
  rw [toList_dumpHeader]
  simp [dumpIndent, hdeclaration, hparameters]

end Method.Legible

/-! ### The header of a class -/

namespace ClassDef

/-- The words up to the name of a class. -/
def titleWords (c : ClassDef) : List String :=
  c.modifiers ++ (if c.isInterface then [] else ["class"]) ++ [c.name]

/-- The words for the superclass. -/
def superclassWords (c : ClassDef) : List String :=
  match c.superclass with
  | some s => ["extends", s]
  | none => []

/-- The words for the interfaces. -/
def interfaceWords (c : ClassDef) : List String :=
  if c.interfaces = [] then [] else "implements" :: listed c.interfaces

/-- The words of the header of a class. -/
def headerWords (c : ClassDef) : List String :=
  c.titleWords ++ c.superclassWords ++ c.interfaceWords

theorem toList_dumpHeader (c : ClassDef) : c.dumpHeader.toList = phrase c.headerWords := by
  have htitle : phrase c.titleWords = (dumpModifiers c.modifiers).toList ++
      phrase ((if c.isInterface then [] else ["class"]) ++ [c.name]) := by
    rw [titleWords, List.append_assoc, toList_dumpModifiers_append _ (by simp)]
  have htitle_ne : c.titleWords ≠ [] := by simp [titleWords]
  have hsuperclass : phrase (c.titleWords ++ c.superclassWords) = phrase c.titleWords ++
      (match c.superclass with
        | some s => " extends " ++ s
        | none => "").toList := by
    cases h : c.superclass with
    | none => simp [superclassWords, h]
    | some s =>
      rw [superclassWords, h, Text.phrase_append htitle_ne (List.cons_ne_nil _ _)]
      simp [phrase, Text.join]
  have hinterfaces : phrase c.headerWords = phrase (c.titleWords ++ c.superclassWords) ++
      (if c.interfaces = [] then ""
        else " implements " ++ Text.joinStrings ", " c.interfaces).toList := by
    by_cases h : c.interfaces = []
    · simp [headerWords, interfaceWords, h]
    · rw [headerWords, interfaceWords, if_neg h, if_neg h,
        Text.phrase_append (by simp [htitle_ne]) (List.cons_ne_nil _ _),
        Text.phrase_cons _ (Text.listed_ne_nil h), Text.phrase_listed]
      simp
  rw [hinterfaces, hsuperclass, htitle, dumpHeader]
  by_cases h : c.isInterface <;> cases hs : c.superclass <;> simp [h, phrase, Text.join]

theorem mem_superclassWords {c : ClassDef} {w : String} (h : w ∈ c.superclassWords) :
    w = "extends" ∨ w ∈ c.superclass := by
  unfold superclassWords at h
  split at h
  · rename_i s hs
    rcases List.mem_pair.mp h with rfl | rfl
    · exact .inl rfl
    · exact .inr hs
  · cases h

theorem mem_interfaceWords {c : ClassDef} {w : String} (h : w ∈ c.interfaceWords) :
    w = "implements" ∨ w ∈ listed c.interfaces := by
  unfold interfaceWords at h
  split at h
  · cases h
  · exact List.mem_cons.mp h

theorem head?_superclassWords {c : ClassDef} : ∀ w ∈ c.superclassWords.head?, w = "extends" := by
  intro w hw
  unfold superclassWords at hw
  split at hw <;> simp_all

theorem head?_interfaceWords {c : ClassDef} : ∀ w ∈ c.interfaceWords.head?, w = "implements" := by
  intro w hw
  unfold interfaceWords at hw
  split at hw <;> simp_all

theorem interfaceWords_inj {c d : ClassDef} (h : c.interfaceWords = d.interfaceWords) :
    c.interfaces = d.interfaces := by
  unfold interfaceWords at h
  split at h <;> split at h
  · rename_i hc hd
    rw [hc, hd]
  · cases h
  · cases h
  · exact Text.listed_inj (List.cons.inj h).2

theorem superclassWords_inj {c d : ClassDef} (h : c.superclassWords = d.superclassWords) :
    c.superclass = d.superclass := by
  unfold superclassWords at h
  split at h <;> split at h <;> simp_all

theorem not_mem_of_keyword {c : ClassDef} (hc : c.Legible) {k : String}
    (hk : k ∈ ["extends", "implements"]) : k ∉ c.titleWords := by
  have hkeyword : k ∈ ["class", "extends", "implements"] := List.mem_cons_of_mem _ hk
  have hclass : k ≠ "class" := by rintro rfl; exact absurd hk (by decide)
  have hmodifiers : k ∉ c.modifiers := fun hmem =>
    (hc.modifiers k hmem).ne_of_keyword hkeyword rfl
  have hname : k ≠ c.name := (hc.name.ne_of_keyword hkeyword).symm
  unfold titleWords
  split <;> simp [hmodifiers, hclass, hname]

/-- The word `class` tells no more than the modifiers do, which stand before it. -/
theorem titleWords_inj {c d : ClassDef} (hc : c.Legible) (hd : d.Legible)
    (h : c.titleWords = d.titleWords) : c.modifiers = d.modifiers ∧ c.name = d.name := by
  obtain ⟨hfront, hname⟩ := List.append_inj' h rfl
  refine ⟨?_, (List.cons.inj hname).1⟩
  have hplain : ∀ e : ClassDef, e.Legible → "class" ∉ e.modifiers := fun e he hmem =>
    (he.modifiers _ hmem).ne_of_keyword (by decide) rfl
  have hhead : ∀ e : ClassDef, ∀ s ∈ (if e.isInterface then [] else ["class"]).head?,
      s = "class" := by
    intro e s hs
    split at hs
    · cases hs
    · cases hs
      rfl
  exact (Text.append_inj_of_head? (hplain c hc) (hplain d hd) (hhead c) (hhead d) hfront).1

/-- The header is cut where its optional parts begin, the last one first. -/
theorem headerWords_inj {c d : ClassDef} (hc : c.Legible) (hd : d.Legible)
    (h : c.headerWords = d.headerWords) : (c.modifiers = d.modifiers ∧ c.name = d.name) ∧
      c.superclass = d.superclass ∧ c.interfaces = d.interfaces := by
  have hbefore : ∀ e : ClassDef, e.Legible → "implements" ∉ e.titleWords ++ e.superclassWords := by
    intro e he hmem
    rcases List.mem_append.mp hmem with hmem | hmem
    · exact not_mem_of_keyword he (by decide) hmem
    · rcases mem_superclassWords hmem with hs | hs
      · exact absurd hs (by decide)
      · exact (he.superclass _ hs).ne_of_keyword (by decide) rfl
  have htitle : ∀ e : ClassDef, e.Legible → "extends" ∉ e.titleWords := fun e he =>
    not_mem_of_keyword he (by decide)
  obtain ⟨hfront, hend⟩ := Text.append_inj_of_head? (hbefore c hc) (hbefore d hd)
    head?_interfaceWords head?_interfaceWords h
  obtain ⟨hstart, hmiddle⟩ := Text.append_inj_of_head? (htitle c hc) (htitle d hd)
    head?_superclassWords head?_superclassWords hfront
  exact ⟨titleWords_inj hc hd hstart, superclassWords_inj hmiddle, interfaceWords_inj hend⟩

theorem headerWords_pieces {c : ClassDef} (hc : c.Legible) : ∀ w ∈ c.headerWords, IsPiece w := by
  have hkeyword : ∀ k ∈ ["class", "extends", "implements"], IsPiece k := by decide
  intro w hw
  simp only [headerWords, titleWords, List.mem_append, List.mem_singleton] at hw
  rcases hw with (((hw | hw) | rfl) | hw) | hw
  · exact (hc.modifiers w hw).isPiece
  · split at hw
    · cases hw
    · cases List.mem_singleton.mp hw
      exact hkeyword _ (by decide)
  · exact hc.name.isPiece
  · rcases mem_superclassWords hw with rfl | hs
    · exact hkeyword _ (by decide)
    · exact (hc.superclass w hs).isPiece
  · rcases mem_interfaceWords hw with rfl | hs
    · exact hkeyword _ (by decide)
    · exact IsPiece.listed (fun s hs => (hc.interfaces s hs).isPiece) w hs

theorem Legible.no_break_dumpHeader {c : ClassDef} (hc : c.Legible) :
    '\n' ∉ c.dumpHeader.toList := by
  rw [toList_dumpHeader]
  exact IsPiece.no_break_phrase (headerWords_pieces hc)

theorem Legible.dumpHeader_inj {c d : ClassDef} (hc : c.Legible) (hd : d.Legible)
    (h : c.dumpHeader = d.dumpHeader) : (c.modifiers = d.modifiers ∧ c.name = d.name) ∧
      c.superclass = d.superclass ∧ c.interfaces = d.interfaces := by
  have hchars := String.toList_inj.mpr h
  rw [toList_dumpHeader, toList_dumpHeader] at hchars
  exact headerWords_inj hc hd
    (IsPiece.phrase_inj (headerWords_pieces hc) (headerWords_pieces hd) hchars)

end ClassDef

/-! ### The text -/

theorem dumpLines_inj {ls ks : List String} (hl : ∀ l ∈ ls, '\n' ∉ l.toList)
    (hk : ∀ k ∈ ks, '\n' ∉ k.toList) (h : dumpLines ls = dumpLines ks) : ls = ks := by
  have hcons : ∀ (l : String) (rest : List String),
      (dumpLines (l :: rest)).toList = l.toList ++ '\n' :: (dumpLines rest).toList := by
    intro l rest
    have hjoin : dumpLines (l :: rest) = l ++ "\n" ++ dumpLines rest :=
      Text.joinStrings_empty_cons ..
    rw [hjoin]
    simp
  induction ls generalizing ks with
  | nil =>
    cases ks with
    | nil => rfl
    | cons k ks =>
      have hchars := String.toList_inj.mpr h
      rw [hcons] at hchars
      exact absurd hchars (by simp [dumpLines, Text.joinStrings])
  | cons l ls ih =>
    have hchars := String.toList_inj.mpr h
    rw [hcons] at hchars
    cases ks with
    | nil => exact absurd hchars (by simp [dumpLines, Text.joinStrings])
    | cons k ks =>
      rw [hcons] at hchars
      obtain ⟨hline, hrest⟩ := Text.append_sep_inj (hl l (List.mem_cons_self ..))
        (hk k (List.mem_cons_self ..)) hchars
      rw [String.toList_inj.mp hline, ih (fun m hm => hl m (List.mem_cons_of_mem _ hm))
        (fun m hm => hk m (List.mem_cons_of_mem _ hm)) (String.toList_inj.mp hrest)]

end ClassCensus
