import ClassCensus.CallSite
import ClassCensus.ClassDef.Codec
import ClassCensus.Proofs.Json.Records

/-!
# Ways to write a class

A class may be written in JSON in many ways, since the order of the members of an object means
nothing, unknown members are ignored, and most fields may be left out when they are empty.
`ClassDef.Presents` says which values write a class; every text of such a value is read as the class
(`ClassDef.read_however_written`).
-/

namespace ClassCensus

open Json (FieldForm PresentsRecord)

/-! ### Local variables -/

namespace LocalVar

/-- A value writes a local variable. -/
def Presents (x : LocalVar) : Json → Prop :=
  PresentsRecord [.text "name" x.name, .text "type_name" x.type]

theorem presents_toJson (x : LocalVar) : x.Presents x.toJson :=
  Json.WritesFields.presents (.keep rfl (.keep rfl .nil))

theorem literal_toJson (x : LocalVar) : Json.Literal x.toJson := by
  apply Json.literal_record
  intro m hm
  simp only [List.mem_cons, List.not_mem_nil, or_false] at hm
  rcases hm with rfl | rfl
  · exact .text _
  · exact .text _

theorem ofJson?_of_presents {x : LocalVar} {v : Json} (h : x.Presents v) : ofJson? v = some x := by
  obtain ⟨found, hfields, hfits⟩ := h.fields? ["name", "type_name"] rfl (by decide)
  match found, hfits with
  | [_, _], .cons hname (.cons htype .nil) =>
    unfold ofJson?
    rw [hfields]
    simp only [hname.required_text, htype.required_text, Option.bind_eq_bind, Option.bind_some]
    rfl

end LocalVar

/-! ### Statements -/

theorem literal_lineToJson (line : UInt32) : Json.Literal (lineToJson line) := .integer _

/-- A line number that may be missing. -/
def lineForm (key : String) (line : Option UInt32) : FieldForm :=
  .nullable key line fun n v => v = lineToJson n

theorem lineForm_allows {key : String} (line : Option UInt32) :
    (lineForm key line).allows (.optional lineToJson line) := by
  apply FieldForm.nullable_allows
  exact fun _ => rfl

theorem withDefault_line {key : String} {line : Option UInt32} {found : Option Json}
    (h : (lineForm key line).Fits found) :
    Json.withDefault none (Json.nullable Json.uint32?) found = some line := by
  apply h.withDefault_nullable rfl
  intro n v hv
  rw [hv]
  exact Json.uint32?_nat n

namespace Statement

/-- A value writes a statement. -/
def Presents (s : Statement) : Json → Prop :=
  PresentsRecord [.text "text" s.text, lineForm "line" s.line, .optionalText "invoke" s.target]

theorem presents_toJson (s : Statement) : s.Presents s.toJson :=
  Json.WritesFields.presents
    (.keep rfl (.keep (lineForm_allows _) (.keep (FieldForm.optionalText_allows _) .nil)))

theorem literal_toJson (s : Statement) : Json.Literal s.toJson := by
  apply Json.literal_record
  intro m hm
  simp only [List.mem_cons, List.not_mem_nil, or_false] at hm
  rcases hm with rfl | rfl | rfl
  · exact .text _
  · exact Json.literal_optional literal_lineToJson _
  · exact Json.literal_optional .text _

theorem ofJson?_of_presents {s : Statement} {v : Json} (h : s.Presents v) : ofJson? v = some s := by
  obtain ⟨found, hfields, hfits⟩ :=
    h.fields? ["text", "line", "invoke"] rfl (by decide)
  match found, hfits with
  | [_, _, _], .cons htext (.cons hline (.cons htarget .nil)) =>
    unfold ofJson?
    rw [hfields]
    simp only [htext.required_text, withDefault_line hline, htarget.withDefault_optionalText,
      Option.bind_eq_bind, Option.bind_some]
    rfl

end Statement

/-! ### Bodies -/

namespace Body

/-- A value writes a method body. -/
def Presents (b : Body) : Json → Prop :=
  PresentsRecord [.list "locals" b.locals LocalVar.Presents,
    .list "statements" b.statements Statement.Presents]

theorem presents_toJson (b : Body) : b.Presents b.toJson :=
  Json.WritesFields.presents
    (.keep (FieldForm.list_allows LocalVar.presents_toJson _)
      (.keep (FieldForm.list_allows Statement.presents_toJson _) .nil))

theorem literal_toJson (b : Body) : Json.Literal b.toJson := by
  apply Json.literal_record
  intro m hm
  simp only [List.mem_cons, List.not_mem_nil, or_false] at hm
  rcases hm with rfl | rfl
  · exact Json.literal_list LocalVar.literal_toJson _
  · exact Json.literal_list Statement.literal_toJson _

theorem ofJson?_of_presents {b : Body} {v : Json} (h : b.Presents v) : ofJson? v = some b := by
  obtain ⟨found, hfields, hfits⟩ := h.fields? ["locals", "statements"] rfl (by decide)
  match found, hfits with
  | [_, _], .cons hlocals (.cons hstatements .nil) =>
    have hlocals := hlocals.withDefault_list? fun _ _ => LocalVar.ofJson?_of_presents
    have hstatements := hstatements.withDefault_list? fun _ _ => Statement.ofJson?_of_presents
    unfold ofJson?
    rw [hfields]
    simp only [hlocals, hstatements, Option.bind_eq_bind, Option.bind_some]
    rfl

end Body

/-! ### Methods -/

namespace Method

/-- A value writes a method. -/
def Presents (m : Method) : Json → Prop :=
  PresentsRecord [.text "declaring_class" m.declaringClass, .text "name" m.name,
    .text "return_type" m.returnType, .texts "parameter_types" m.parameterTypes,
    .texts "modifiers" m.modifiers, lineForm "start_line" m.startLine,
    .nullable "body" m.body Body.Presents]

theorem presents_toJson (m : Method) : m.Presents m.toJson :=
  Json.WritesFields.presents
    (.keep rfl (.keep rfl (.keep rfl (.keep (FieldForm.texts_allows _)
      (.keep (FieldForm.texts_allows _)
        (.keep (lineForm_allows _)
          (.keep (FieldForm.nullable_allows Body.presents_toJson _) .nil)))))))

theorem literal_toJson (m : Method) : Json.Literal m.toJson := by
  apply Json.literal_record
  intro x hx
  simp only [List.mem_cons, List.not_mem_nil, or_false] at hx
  rcases hx with rfl | rfl | rfl | rfl | rfl | rfl | rfl
  · exact .text _
  · exact .text _
  · exact .text _
  · exact Json.literal_texts _
  · exact Json.literal_texts _
  · exact Json.literal_optional literal_lineToJson _
  · exact Json.literal_optional Body.literal_toJson _

theorem ofJson?_of_presents {m : Method} {v : Json} (h : m.Presents v) : ofJson? v = some m := by
  obtain ⟨found, hfields, hfits⟩ := h.fields? ["declaring_class", "name", "return_type",
    "parameter_types", "modifiers", "start_line", "body"] rfl (by decide)
  match found, hfits with
  | [_, _, _, _, _, _, _], .cons hdeclaring (.cons hname (.cons hreturn (.cons hparameters
      (.cons hmodifiers (.cons hline (.cons hbody .nil)))))) =>
    have hbody := hbody.withDefault_nullable rfl fun _ _ => Body.ofJson?_of_presents
    unfold ofJson?
    rw [hfields]
    simp only [hdeclaring.required_text, hname.required_text, hreturn.required_text,
      hparameters.withDefault_texts, hmodifiers.withDefault_texts, withDefault_line hline, hbody,
      Option.bind_eq_bind, Option.bind_some]
    rfl

end Method

/-! ### Fields -/

namespace Field

/-- A value writes a field. -/
def Presents (f : Field) : Json → Prop :=
  PresentsRecord [.text "name" f.name, .text "type_name" f.type, .texts "modifiers" f.modifiers]

theorem presents_toJson (f : Field) : f.Presents f.toJson :=
  Json.WritesFields.presents (.keep rfl (.keep rfl (.keep (FieldForm.texts_allows _) .nil)))

theorem literal_toJson (f : Field) : Json.Literal f.toJson := by
  apply Json.literal_record
  intro m hm
  simp only [List.mem_cons, List.not_mem_nil, or_false] at hm
  rcases hm with rfl | rfl | rfl
  · exact .text _
  · exact .text _
  · exact Json.literal_texts _

theorem ofJson?_of_presents {f : Field} {v : Json} (h : f.Presents v) : ofJson? v = some f := by
  obtain ⟨found, hfields, hfits⟩ :=
    h.fields? ["name", "type_name", "modifiers"] rfl (by decide)
  match found, hfits with
  | [_, _, _], .cons hname (.cons htype (.cons hmodifiers .nil)) =>
    unfold ofJson?
    rw [hfields]
    simp only [hname.required_text, htype.required_text, hmodifiers.withDefault_texts,
      Option.bind_eq_bind, Option.bind_some]
    rfl

end Field

/-! ### Call sites -/

namespace CallSite

/-- A value writes a call site. -/
def Presents (s : CallSite) : Json → Prop :=
  PresentsRecord [.text "invokedMethodSignature" s.callee,
    .optionalText "invokedInMethod" s.caller, .present "lineNumber" (· = .integer s.line.toInt)]

theorem presents_toJson (s : CallSite) : s.Presents s.toJson := by
  obtain ⟨callee, caller, line⟩ := s
  cases caller with
  | none => exact Json.WritesFields.presents (.keep rfl (.leaveOut rfl (.keep rfl .nil)))
  | some caller => exact Json.WritesFields.presents (.keep rfl (.keep rfl (.keep rfl .nil)))

theorem literal_toJson (s : CallSite) : Json.Literal s.toJson := by
  obtain ⟨callee, caller, line⟩ := s
  apply Json.literal_record
  intro m hm
  cases caller with
  | none =>
    simp only [List.append_nil, List.singleton_append, List.mem_cons, List.not_mem_nil,
      or_false] at hm
    rcases hm with rfl | rfl
    · exact .text _
    · exact .integer _
  | some caller =>
    simp only [List.cons_append, List.nil_append, List.mem_cons, List.not_mem_nil,
      or_false] at hm
    rcases hm with rfl | rfl | rfl
    · exact .text _
    · exact .text _
    · exact .integer _

theorem ofJson?_of_presents {s : CallSite} {v : Json} (h : s.Presents v) : ofJson? v = some s := by
  obtain ⟨found, hfields, hfits⟩ := h.fields?
    ["invokedMethodSignature", "invokedInMethod", "lineNumber"] rfl (by decide)
  match found, hfits with
  | [_, _, line], .cons hcallee (.cons hcaller (.cons hline .nil)) =>
    have hline : Json.required Json.int64? line = some s.line := by
      apply hline.required
      rintro v rfl
      exact Json.int64?_integer s.line
    unfold ofJson?
    rw [hfields]
    simp only [hcallee.required_text, hcaller.withDefault_optionalText, hline,
      Option.bind_eq_bind, Option.bind_some]
    rfl

/-- A list of call sites is read back from its compact text. -/
theorem parseList?_compact (sites : List CallSite) :
    parseList? (listToJson sites).compact = some sites := by
  unfold parseList? listToJson
  rw [Json.parse?_compact (Json.literal_list literal_toJson sites), Option.bind_eq_bind,
    Option.bind_some]
  exact Json.list?_list (fun s => ofJson?_of_presents s.presents_toJson) sites

end CallSite

/-! ### Classes -/

namespace ClassDef

/-- A value writes a class. -/
def Presents (c : ClassDef) : Json → Prop :=
  PresentsRecord [.text "name" c.name, .optionalText "superclass" c.superclass,
    .texts "interfaces" c.interfaces, .texts "modifiers" c.modifiers,
    .list "fields" c.fields Field.Presents, .list "methods" c.methods Method.Presents]

theorem presents_toJson (c : ClassDef) : c.Presents c.toJson :=
  Json.WritesFields.presents
    (.keep rfl (.keep (FieldForm.optionalText_allows _)
      (.keep (FieldForm.texts_allows _) (.keep (FieldForm.texts_allows _)
        (.keep (FieldForm.list_allows Field.presents_toJson _)
          (.keep (FieldForm.list_allows Method.presents_toJson _) .nil))))))

theorem literal_toJson (c : ClassDef) : Json.Literal c.toJson := by
  apply Json.literal_record
  intro m hm
  simp only [List.mem_cons, List.not_mem_nil, or_false] at hm
  rcases hm with rfl | rfl | rfl | rfl | rfl | rfl
  · exact .text _
  · exact Json.literal_optional .text _
  · exact Json.literal_texts _
  · exact Json.literal_texts _
  · exact Json.literal_list Field.literal_toJson _
  · exact Json.literal_list Method.literal_toJson _

theorem ofJson?_of_presents {c : ClassDef} {v : Json} (h : c.Presents v) : ofJson? v = some c := by
  obtain ⟨found, hfields, hfits⟩ := h.fields? ["name", "superclass", "interfaces",
    "modifiers", "fields", "methods"] rfl (by decide)
  match found, hfits with
  | [_, _, _, _, _, _], .cons hname (.cons hsuper (.cons hinterfaces (.cons hmodifiers
      (.cons hfieldList (.cons hmethods .nil))))) =>
    have hfieldList := hfieldList.withDefault_list? fun _ _ => Field.ofJson?_of_presents
    have hmethods := hmethods.withDefault_list? fun _ _ => Method.ofJson?_of_presents
    unfold ofJson?
    rw [hfields]
    simp only [hname.required_text, hsuper.withDefault_optionalText,
      hinterfaces.withDefault_texts, hmodifiers.withDefault_texts, hfieldList, hmethods,
      Option.bind_eq_bind, Option.bind_some]
    rfl

theorem parse?_of_presents {c : ClassDef} {v : Json} {text : String} (h : c.Presents v)
    (hwrites : Json.Writes text.toList v) : parse? text = some c := by
  unfold parse?
  rw [Json.parse?_of_writes hwrites, Option.bind_eq_bind, Option.bind_some]
  exact ofJson?_of_presents h

/-- A class is read back from its own text and from every text of every value that writes it:
members may stand in any order and among unknown members, empty fields may be left out or be `null`,
and blanks may stand between tokens. Lists of call sites are read back as well. -/
theorem read_however_written :
    (∀ c : ClassDef, c.Presents c.toJson ∧ Json.Writes c.toText.toList c.toJson ∧
        parse? c.toText = some c) ∧
      (∀ (c : ClassDef) (v : Json) (text : String), c.Presents v → Json.Writes text.toList v →
        parse? text = some c) ∧
      ∀ sites : List CallSite,
        CallSite.parseList? (CallSite.listToJson sites).compact = some sites := by
  have hwrites : ∀ c : ClassDef, Json.Writes c.toText.toList c.toJson := by
    intro c
    rw [toText, Json.compact, String.toList_ofList]
    exact c.literal_toJson.writes_compact
  refine ⟨?_, fun _ _ _ => parse?_of_presents, CallSite.parseList?_compact⟩
  intro c
  exact ⟨c.presents_toJson, hwrites c, parse?_of_presents c.presents_toJson (hwrites c)⟩

/-- A class with a method, written with its members and those of the method in reverse, an unknown
member in both, `null` for the superclass, and blanks. -/
theorem read_written_in_reverse :
    let c : ClassDef := { named "X" with methods := [⟨"X", "f", "int", [], [], none, none⟩] }
    let method : List (String × Json) := [("z", .nat 0), ("return_type", .text "int"),
      ("name", .text "f"), ("declaring_class", .text "X")]
    let value : List (String × Json) := [("y", .array [.null]),
      ("methods", .array [.record method]), ("superclass", .null), ("name", .text "X")]
    let text : String := (Json.record value).pretty "\t"
    c.Presents (.record value) ∧ Json.Writes text.toList (.record value) ∧
      parse? text = some c := by
  intro c method value text
  have hmethod : Method.Presents ⟨"X", "f", "int", [], [], none, none⟩ (.record method) :=
    .intro _ [("z", .nat 0)]
      (.keep rfl (.keep rfl (.keep rfl (.leaveOut rfl (.leaveOut rfl (.leaveOut rfl
        (.leaveOut rfl .nil)))))))
      (by decide) (List.reverse_perm method).symm
  have hvalue : c.Presents (.record value) :=
    .intro _ [("y", .array [.null])]
      (.keep rfl (.keep rfl (.leaveOut rfl (.leaveOut rfl (.leaveOut rfl
        (.keep ⟨_, rfl, .cons hmethod .nil⟩ .nil))))))
      (by decide) (List.reverse_perm value).symm
  have hliteral : Json.Literal (.record value) := by
    apply Json.literal_record
    simp [value, method, Json.record, Json.nat, Json.text, Json.Literal.null, Json.Literal.string,
      Json.Literal.integer, Json.Literal.array, Json.Literal.object]
  have hwrites : Json.Writes text.toList (.record value) := by
    show Json.Writes (String.ofList _).toList _
    rw [String.toList_ofList]
    exact hliteral.writes_pretty (by simp [Json.IsBlank, Json.isSpace]) 0
  exact ⟨hvalue, hwrites, read_however_written.2.1 c _ text hvalue hwrites⟩

/-- An unknown member whose key has no text, because an escape leaves half of a surrogate pair, is not
passed over. -/
theorem not_read_with_half_of_pair :
    let text : String := "\x7b\"\\ud800\":0,\"name\":\"X\"\x7d"
    let value : List (Option String × Json) := [(none, .nat 0), (some "name", .text "X")]
    (named "X").Presents (.object value.tail) ∧ Json.Writes text.toList (.object value) ∧
      parse? text = none := by
  intro text value
  have hpresents : (named "X").Presents (.record [("name", .text "X")]) :=
    Json.WritesFields.presents
      (.keep rfl (.leaveOut rfl (.leaveOut rfl (.leaveOut rfl (.leaveOut rfl (.leaveOut rfl
        .nil))))))
  have htext : text = (Json.object value).compact := by decide +kernel
  have hwrites : Json.Writes text.toList (.object value) := by
    rw [htext, Json.compact, String.toList_ofList]
    apply Json.Literal.writes_compact
    apply Json.Literal.object
    simp [value, Json.nat, Json.text, Json.Literal.string, Json.Literal.integer]
  refine ⟨hpresents, hwrites, ?_⟩
  unfold parse?
  rw [Json.parse?_of_writes hwrites]
  rfl

end ClassDef

end ClassCensus
