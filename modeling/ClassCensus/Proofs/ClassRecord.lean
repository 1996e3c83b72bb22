import ClassCensus.ClassRecord
import ClassCensus.Proofs.Json.Records
import ClassCensus.Proofs.Text.Bytes
import ClassCensus.Proofs.UsageGrouping

/-!
# Records of classes

The metrics file of a class holds its record: what is read from the bytes is the record that was
written, and two records never have one file (`ClassRecord.file_determines_record`). The record of a
class tells of all its methods in order (`ClassRecord.tells_all_methods`); if their sub-signatures are
distinct, it tells the signature and the called methods of each of them
(`ClassRecord.told_ofClass`).
-/

namespace ClassCensus

/-! ### Records in JSON -/

namespace Json

theorem literal_map {α : Type} {f : α → Json} (h : ∀ a, Literal (f a)) (m : OrderedMap α) :
    Literal (.map f m) := by
  apply literal_record
  intro e he
  obtain ⟨x, _, rfl⟩ := List.mem_map.mp he
  exact h x.2

theorem map?_map {α : Type} {f : α → Json} {decode : Json → Option α}
    (h : ∀ a, decode (f a) = some a) (m : OrderedMap α) : map? decode (map f m) = some m := by
  have hpairs : (m.entries.map fun e => ((some e.1 : Option String), f e.2)).mapM
      (fun e => e.1.bind fun key => (decode e.2).bind fun value => some (key, value)) =
      some m.entries := by
    rw [mapM_map_eq_some (h := id) (by intro e; simp only [h]; rfl), List.map_id]
  unfold map map? record
  rw [List.map_map]
  simp only [Function.comp_def, Option.bind_eq_bind, Option.pure_def, hpairs, Option.bind_some,
    OrderedMap.ofList_entries]

theorem required_some {α : Type} {decode : Json → Option α} {v : Json} {a : α}
    (h : decode v = some a) : required decode (some v) = some a :=
  h

end Json

namespace MethodRecord

theorem literal_toJson (r : MethodRecord) : Json.Literal r.toJson := by
  apply Json.literal_record
  intro m hm
  simp only [List.mem_cons, List.not_mem_nil, or_false] at hm
  rcases hm with rfl | rfl | rfl
  · exact Json.literal_map Json.Literal.text _
  · exact Json.literal_map Json.Literal.text _
  · exact Json.literal_texts _

theorem ofJson?_toJson (r : MethodRecord) : ofJson? r.toJson = some r := by
  have hfields : r.toJson.fields? ["localVariables", "stackVariables", "invokeExpressions"] =
      some [some (.map Json.text r.localVariables), some (.map Json.text r.stackVariables),
        some (.texts r.callees)] := by
    apply Json.fields?_record
    show ["localVariables", "stackVariables", "invokeExpressions"].Nodup
    decide
  have hmap : ∀ m, Json.map? Json.text? (.map Json.text m) = some m :=
    Json.map?_map (f := Json.text) fun _ => rfl
  unfold ofJson?
  rw [hfields]
  simp only [Json.required, hmap, Json.list?_texts, Option.bind_eq_bind, Option.bind_some]
  rfl

end MethodRecord

namespace ClassRecord

theorem literal_toJson (r : ClassRecord) : Json.Literal r.toJson := by
  apply Json.literal_record
  intro m hm
  simp only [List.mem_cons, List.not_mem_nil, or_false] at hm
  rcases hm with rfl | rfl | rfl | rfl | rfl | rfl
  · exact Json.Literal.text _
  · exact Json.Literal.text _
  · exact Json.literal_texts _
  · exact Json.Literal.integer _
  · exact Json.literal_texts _
  · exact Json.literal_map MethodRecord.literal_toJson _

theorem ofJson?_of_fields {v : Json} {name super interfaces count signatures methods : Option Json}
    {r : ClassRecord}
    (hfields : v.fields? ["className", "superClass", "implementedInterface", "methodCount",
      "methodsSignature", "methodsInformation"] =
      some [name, super, interfaces, count, signatures, methods])
    (hname : Json.required Json.text? name = some r.className)
    (hsuper : Json.required Json.text? super = some r.superclass)
    (hinterfaces : Json.required (Json.list? Json.text?) interfaces = some r.interfaces)
    (hcount : Json.required (Json.natBelow? 0x10000000000000000) count = some r.methodCount)
    (hsignatures : Json.required (Json.list? Json.text?) signatures = some r.signatures)
    (hmethods : Json.required (Json.map? MethodRecord.ofJson?) methods = some r.methods) :
    ofJson? v = some r := by
  unfold ofJson?
  rw [hfields]
  simp only [hname, hsuper, hinterfaces, hcount, hsignatures, hmethods, Option.bind_eq_bind,
    Option.bind_some]
  rfl

theorem ofJson?_toJson {r : ClassRecord} (hcount : r.methodCount < 2 ^ 64) :
    ofJson? r.toJson = some r := by
  have hfields : r.toJson.fields? ["className", "superClass", "implementedInterface",
      "methodCount", "methodsSignature", "methodsInformation"] =
      some [some (.text r.className), some (.text r.superclass), some (.texts r.interfaces),
        some (.nat r.methodCount), some (.texts r.signatures),
        some (.map MethodRecord.toJson r.methods)] := by
    apply Json.fields?_record
    show ["className", "superClass", "implementedInterface", "methodCount", "methodsSignature",
      "methodsInformation"].Nodup
    decide
  have hnat : Json.natBelow? 0x10000000000000000 (.nat r.methodCount) = some r.methodCount :=
    Json.natBelow?_nat (by omega)
  exact ofJson?_of_fields hfields (Json.required_some rfl) (Json.required_some rfl)
    (Json.required_some (Json.list?_texts _)) (Json.required_some hnat)
    (Json.required_some (Json.list?_texts _))
    (Json.required_some (Json.map?_map MethodRecord.ofJson?_toJson _))

theorem parse?_toText {r : ClassRecord} (hcount : r.methodCount < 2 ^ 64) :
    parse? r.toText = some r := by
  have hpretty : Json.parse? r.toText = some r.toJson := by
    unfold toText
    apply Json.parse?_pretty r.literal_toJson
    · simp [Json.IsBlank, Json.isSpace]
    · simp [Json.IsBlank, Json.isSpace]
  unfold parse?
  rw [hpretty, Option.bind_eq_bind, Option.bind_some]
  exact ofJson?_toJson hcount

/-! ### Metrics files -/

/-- The record in the bytes of a metrics file. -/
def ofBytes? (bytes : ByteArray) : Option ClassRecord := do
  let text ← String.fromUTF8? bytes
  parse? text

theorem ofBytes?_toText {r : ClassRecord} (hcount : r.methodCount < 2 ^ 64) :
    ofBytes? r.toText.toUTF8 = some r := by
  unfold ofBytes?
  rw [Text.fromUTF8?_toUTF8, Option.bind_eq_bind, Option.bind_some]
  exact parse?_toText hcount

/-- The metrics file of a record is read back as this record, so that no other record has the
same file. -/
theorem file_determines_record {r : ClassRecord} (hcount : r.methodCount < 2 ^ 64) :
    parse? r.toText = some r ∧ ofBytes? r.toText.toUTF8 = some r ∧
      ∀ other : ClassRecord, other.methodCount < 2 ^ 64 → other ≠ r →
        other.toText ≠ r.toText ∧ other.toText.toUTF8 ≠ r.toText.toUTF8 := by
  refine ⟨parse?_toText hcount, ofBytes?_toText hcount, ?_⟩
  intro other hother hne
  have hbytes : other.toText.toUTF8 ≠ r.toText.toUTF8 := by
    intro heq
    have hread := ofBytes?_toText hother
    rw [heq, ofBytes?_toText hcount] at hread
    exact hne (Option.some.inj hread).symm
  exact ⟨fun heq => hbytes (by rw [heq]), hbytes⟩

/-- A record with the largest count whose strings need escapes, and the record with two of its
variables in the other order. -/
theorem file_determines_record_with_escapes :
    let a : String × String := ("a\"\\\x00\n", "größe")
    let b : String × String := ("", "\x7f𝄞")
    let method (locals : List (String × String)) : MethodRecord :=
      ⟨OrderedMap.ofList locals, ∅, ["<p.X: void run()>"]⟩
    let record (locals : List (String × String)) : ClassRecord :=
      ⟨"p.X", "", [], 2 ^ 64 - 1, ["\x1f"], OrderedMap.ofList [("void run()", method locals)]⟩
    (record [a, b]).methodCount < 2 ^ 64 ∧ record [b, a] ≠ record [a, b] ∧
      parse? (record [a, b]).toText = some (record [a, b]) ∧
      (record [b, a]).toText ≠ (record [a, b]).toText := by
  intro a b method record
  have hcount : ∀ locals, (record locals).methodCount < 2 ^ 64 := fun _ =>
    show 2 ^ 64 - 1 < 2 ^ 64 by decide
  have hne : record [b, a] ≠ record [a, b] := by decide +kernel
  obtain ⟨hread, -, hother⟩ := file_determines_record (hcount [a, b])
  exact ⟨hcount _, hne, hread, (hother _ (hcount _) hne).1⟩

/-! ### What a record tells -/

/-- The signature that a record has at a place, followed by the signatures that its entry at a
sub-signature says are called. -/
def told? (r : ClassRecord) (place : Nat) (subSignature : String) : Option (List String) := do
  let signature ← r.signatures[place]?
  let entry ← r.methods.get? subSignature
  return signature :: entry.callees

/-- The called signatures of all entries, one after another. -/
def callees (r : ClassRecord) : List String := r.methods.values.flatMap (·.callees)

end ClassRecord

theorem MethodRecord.callees_ofMethod (isStack : NamingConvention) (m : Method) :
    (MethodRecord.ofMethod isStack m).callees = m.callees := by
  unfold MethodRecord.ofMethod Method.callees Method.callSites Method.statements
  cases m.body with
  | none => rfl
  | some body => rfl

section OfClass

variable {c : ClassDef} (isStack : NamingConvention)
  (hdistinct : (c.methods.map Method.subSignature).Nodup)
include hdistinct

theorem ClassRecord.entries_ofClass :
    (ClassRecord.ofClass isStack c).methods.entries =
      c.methods.map fun m => (m.subSignature, MethodRecord.ofMethod isStack m) := by
  apply OrderedMap.entries_ofList
  rwa [List.map_map]

theorem ClassRecord.told_ofClass {place : Nat} {m : Method} (hm : c.methods[place]? = some m) :
    (ClassRecord.ofClass isStack c).told? place m.subSignature =
      some (m.signature :: m.callees) := by
  have hsignature : (ClassRecord.ofClass isStack c).signatures[place]? = some m.signature := by
    show (c.methods.map Method.signature)[place]? = _
    rw [List.getElem?_map, hm]
    rfl
  have hentry : (ClassRecord.ofClass isStack c).methods.get? m.subSignature =
      some (MethodRecord.ofMethod isStack m) := by
    apply Entries.find?_of_mem (ClassRecord.ofClass isStack c).methods.nodup
    rw [ClassRecord.entries_ofClass isStack hdistinct]
    exact List.mem_map.mpr ⟨m, List.mem_of_getElem? hm, rfl⟩
  unfold ClassRecord.told?
  rw [hsignature, hentry, ← MethodRecord.callees_ofMethod isStack]
  rfl

theorem ClassRecord.callees_ofClass :
    (ClassRecord.ofClass isStack c).callees = c.methods.flatMap Method.callees := by
  unfold ClassRecord.callees OrderedMap.values
  rw [ClassRecord.entries_ofClass isStack hdistinct, List.map_map, List.flatMap_map]
  simp only [Function.comp_apply, MethodRecord.callees_ofMethod]

end OfClass

/-! ### The methods of a record -/

section Methods

variable (isStack : NamingConvention) (c : ClassDef)

theorem ClassRecord.keys_ofClass :
    (ofClass isStack c).methods.keys = (c.methods.map Method.subSignature).eraseDups := by
  unfold ofClass
  rw [OrderedMap.keys_ofList, List.map_map]
  rfl

theorem ClassRecord.get?_ofClass (key : String) :
    (ofClass isStack c).methods.get? key =
      (c.methods.filter (·.subSignature = key)).getLast?.map (MethodRecord.ofMethod isStack) := by
  unfold ofClass
  rw [OrderedMap.get?_ofList, OrderedMap.lastValue?, List.filter_map, List.getLast?_map,
    Option.map_map]
  rfl

theorem MethodRecord.ofMethod_eq :
    ofMethod isStack = fun m =>
      match m.body with
      | none => ⟨∅, ∅, []⟩
      | some body =>
        let p := Partition.ofLocals isStack body.locals
        ⟨p.locals, p.stack, body.statements.filterMap (·.target)⟩ := by
  funext m
  cases hbody : m.body with
  | none =>
    simp only [ofMethod, hbody]
    rfl
  | some body => simp only [ofMethod, hbody, Method.callees_eq, Method.statements]

/-- Methods with distinct sub-signatures have their entries in the places of their signatures. -/
theorem ClassRecord.entry_ofClass {c : ClassDef}
    (hdistinct : (c.methods.map Method.subSignature).Nodup) {i : Nat} {m : Method}
    (hm : c.methods[i]? = some m) :
    (ofClass isStack c).methods.entries[i]? =
      some (m.subSignature, MethodRecord.ofMethod isStack m) := by
  rw [entries_ofClass isStack hdistinct, List.getElem?_map, hm]
  rfl

end Methods

/-- The record of a class counts all its methods and lists their signatures in order. Its entries are
those of the sub-signatures in the order of their first methods, each with the metrics of its last
method. If the sub-signatures are distinct, the entries go along with the signatures. -/
theorem ClassRecord.tells_all_methods (isStack : NamingConvention) (c : ClassDef) :
    let r := ClassRecord.ofClass isStack c
    r.methodCount = c.methods.length ∧ r.signatures.length = c.methods.length ∧
      (∀ i : Nat, r.signatures[i]? = c.methods[i]?.map Method.signature) ∧
      r.methods.keys = (c.methods.map Method.subSignature).eraseDups ∧
      (∀ key, r.methods.get? key =
        (c.methods.filter (·.subSignature = key)).getLast?.map fun m =>
          match m.body with
          | none => ⟨∅, ∅, []⟩
          | some body =>
            let p := Partition.ofLocals isStack body.locals
            ⟨p.locals, p.stack, body.statements.filterMap (·.target)⟩) ∧
      ((c.methods.map Method.subSignature).Nodup →
        r.methods.size = r.methodCount ∧
          ∀ (i : Nat) (m : Method), c.methods[i]? = some m →
            r.methods.entries[i]? = some (m.subSignature, MethodRecord.ofMethod isStack m) ∧
              ∃ key, r.methods.keys[i]? = some key ∧
                r.signatures[i]? = some ("<" ++ m.declaringClass ++ ": " ++ key ++ ">")) := by
  intro r
  have hsignatures : ∀ i : Nat, r.signatures[i]? = c.methods[i]?.map Method.signature :=
    fun i => List.getElem?_map
  refine ⟨rfl, List.length_map _, hsignatures, keys_ofClass isStack c, ?_, ?_⟩
  · intro key
    rw [get?_ofClass, MethodRecord.ofMethod_eq]
  intro hdistinct
  refine ⟨?_, ?_⟩
  · show r.methods.entries.length = c.methods.length
    rw [entries_ofClass isStack hdistinct, List.length_map]
  intro i m hm
  have hentry : r.methods.entries[i]? =
      some (m.subSignature, MethodRecord.ofMethod isStack m) :=
    entry_ofClass isStack hdistinct hm
  refine ⟨hentry, m.subSignature, ?_, ?_⟩
  · rw [OrderedMap.keys, List.getElem?_map, hentry]
    rfl
  · rw [hsignatures, hm]
    rfl

/-- Two overloads of a method, the second without a body. -/
theorem ClassRecord.tells_all_methods_of_overloads :
    let run (parameters : List String) (body : Option Body) : Method :=
      ⟨"p.X", "run", "void", parameters, [], none, body⟩
    let c : ClassDef := { ClassDef.named "p.X" with
      methods := [run [] (some ⟨[⟨"$a", "int"⟩], [⟨"call", some 7, some "<p.Y: void end()>"⟩]⟩),
        run ["int", "p.Y"] none] }
    let r := ClassRecord.ofClass syntheticName c
    (c.methods.map Method.subSignature).Nodup ∧ r.methods.size = 2 ∧
      r.methods.entries[1]? = some ("void run(int,p.Y)", ⟨∅, ∅, []⟩) ∧
      r.signatures[1]? = some "<p.X: void run(int,p.Y)>" := by
  intro run c r
  have hdistinct : (c.methods.map Method.subSignature).Nodup := by decide
  obtain ⟨-, -, -, -, -, hplaces⟩ := tells_all_methods syntheticName c
  obtain ⟨hsize, hat⟩ := hplaces hdistinct
  obtain ⟨hentry, key, hkey, hsignature⟩ := hat 1 (run ["int", "p.Y"] none) rfl
  have hkey' : key = "void run(int,p.Y)" := by
    rw [OrderedMap.keys, List.getElem?_map, hentry] at hkey
    exact (Option.some.inj hkey).symm.trans (by decide)
  refine ⟨hdistinct, hsize, hentry.trans (by decide), ?_⟩
  rw [hsignature, hkey']
  rfl

end ClassCensus
