import ClassCensus.Proofs.ClassRecord
import ClassCensus.Proofs.Path
import ClassCensus.Proofs.Signature

/-!
# Overloads

A sub-signature is read from the left: the return type ends at the first space, the name at the first
opening parenthesis, and each parameter type at a comma or at the end. Where no part has the character
that ends it (`Method.Delimited`), a sub-signature is that of one return type, one name and one list of
parameter types (`Method.shape_of_subSignature_eq`), and a signature tells the declaring class as well.
Main statement: the record of a class keeps its overloads apart (`ClassRecord.overloads_apart`).
-/

namespace ClassCensus

/-! ### Joined pieces -/

namespace Text

variable {sep : Char} {ps qs : List (List Char)}

theorem eq_nil_of_join_eq_nil (hp : ∀ p ∈ ps, p ≠ []) (h : join [sep] ps = []) : ps = [] := by
  cases ps with
  | nil => rfl
  | cons p rest =>
    have hhead : (join [sep] (p :: rest)).head? = p.head? := head?_join (hp p (List.mem_cons_self ..))
    rw [h] at hhead
    have hnil : p = [] := List.head?_eq_none_iff.mp hhead.symm
    exact absurd hnil (hp p (List.mem_cons_self ..))

/-- Pieces are told from the text that they are joined to. No piece at all and one empty piece are
joined to one text, so the pieces may not be empty. -/
theorem join_inj (hp : ∀ p ∈ ps, p ≠ [] ∧ sep ∉ p) (hq : ∀ q ∈ qs, q ≠ [] ∧ sep ∉ q)
    (h : join [sep] ps = join [sep] qs) : ps = qs := by
  by_cases hps : ps = []
  · subst hps
    have hqs : qs = [] := eq_nil_of_join_eq_nil (fun q hmem => (hq q hmem).1) h.symm
    exact hqs.symm
  · by_cases hqs : qs = []
    · subst hqs
      exact eq_nil_of_join_eq_nil (fun p hmem => (hp p hmem).1) h
    · calc ps = split sep (join [sep] ps) := (split_join sep hps fun p hmem => (hp p hmem).2).symm
        _ = split sep (join [sep] qs) := by rw [h]
        _ = qs := split_join sep hqs fun q hmem => (hq q hmem).2

end Text

/-! ### Methods -/

namespace Method

/-- No part of the signature has the character that ends it. -/
structure Delimited (m : Method) : Prop where
  declaringClass : ':' ∉ m.declaringClass.toList
  returnType : ' ' ∉ m.returnType.toList
  name : '(' ∉ m.name.toList
  parameterTypes : ∀ t ∈ m.parameterTypes, t ≠ "" ∧ ',' ∉ t.toList

instance (m : Method) : Decidable m.Delimited :=
  decidable_of_iff (':' ∉ m.declaringClass.toList ∧ ' ' ∉ m.returnType.toList ∧
      '(' ∉ m.name.toList ∧ ∀ t ∈ m.parameterTypes, t ≠ "" ∧ ',' ∉ t.toList)
    ⟨fun h => ⟨h.1, h.2.1, h.2.2.1, h.2.2.2⟩,
      fun h => ⟨h.declaringClass, h.returnType, h.name, h.parameterTypes⟩⟩

/-- Return type, name and parameter types: what one overload of a class has to itself. -/
def shape (m : Method) : String × String × List String := (m.returnType, m.name, m.parameterTypes)

variable {m n : Method}

theorem shape_eq_iff : m.shape = n.shape ↔
    m.returnType = n.returnType ∧ m.name = n.name ∧ m.parameterTypes = n.parameterTypes := by
  simp [shape]

theorem subSignature_of_shape_eq (h : m.shape = n.shape) : m.subSignature = n.subSignature := by
  obtain ⟨hreturn, hname, hparameters⟩ := shape_eq_iff.mp h
  unfold subSignature
  rw [hreturn, hname, hparameters]

theorem Delimited.pieces (hm : m.Delimited) :
    ∀ p ∈ m.parameterTypes.map String.toList, p ≠ [] ∧ ',' ∉ p := by
  intro p hp
  obtain ⟨t, ht, rfl⟩ := List.mem_map.mp hp
  obtain ⟨hne, hcomma⟩ := hm.parameterTypes t ht
  exact ⟨fun h => hne (String.toList_eq_nil_iff.mp h), hcomma⟩

theorem shape_of_subSignature_eq (hm : m.Delimited) (hn : n.Delimited)
    (h : m.subSignature = n.subSignature) : m.shape = n.shape := by
  have hchars := String.toList_inj.mpr h
  rw [toList_subSignature, toList_subSignature] at hchars
  simp only [List.append_assoc, List.cons_append] at hchars
  obtain ⟨hreturn, hrest⟩ := Text.append_sep_inj hm.returnType hn.returnType hchars
  obtain ⟨hname, hrest⟩ := Text.append_sep_inj hm.name hn.name hrest
  -- the parenthesis at the end stands in a known place, whatever the parameter types look like
  have hjoin := List.append_cancel_right hrest
  have hparameters := Text.join_inj hm.pieces hn.pieces hjoin
  rw [shape_eq_iff]
  refine ⟨String.toList_inj.mp hreturn, String.toList_inj.mp hname, ?_⟩
  exact List.map_injective_iff.mpr (fun s t hst => String.toList_inj.mp hst) hparameters

theorem subSignature_eq_iff (hm : m.Delimited) (hn : n.Delimited) :
    m.subSignature = n.subSignature ↔ m.shape = n.shape :=
  ⟨shape_of_subSignature_eq hm hn, subSignature_of_shape_eq⟩

theorem signature_eq_iff (hm : m.Delimited) (hn : n.Delimited) :
    m.signature = n.signature ↔
      m.declaringClass = n.declaringClass ∧ m.subSignature = n.subSignature := by
  constructor
  · intro h
    have hchars := String.toList_inj.mpr h
    rw [toList_signature, toList_signature] at hchars
    have hbare := List.append_cancel_right (List.cons.inj hchars).2
    rw [toList_bareSignature, toList_bareSignature] at hbare
    obtain ⟨hclass, hrest⟩ := Text.append_sep_inj hm.declaringClass hn.declaringClass hbare
    exact ⟨String.toList_inj.mp hclass, String.toList_inj.mp (List.cons.inj hrest).2⟩
  · intro h
    unfold signature
    rw [h.1, h.2]

end Method

/-! ### Records -/

/-- Methods whose parts are delimited have one sub-signature only if they have one return type, one name
and one list of parameter types, and one signature only if they have one declaring class as well. So
the entry of a method in the record of its class is never that of an overload: it is the entry of the
last method of this shape, and of the method itself if no other one has its shape. -/
theorem ClassRecord.overloads_apart :
    (∀ {m n : Method}, m.Delimited → n.Delimited →
      (m.subSignature = n.subSignature ↔ m.returnType = n.returnType ∧ m.name = n.name ∧
        m.parameterTypes = n.parameterTypes) ∧
      (m.signature = n.signature ↔ m.declaringClass = n.declaringClass ∧
        m.returnType = n.returnType ∧ m.name = n.name ∧ m.parameterTypes = n.parameterTypes)) ∧
    ∀ (isStack : NamingConvention) {c : ClassDef}, (∀ m ∈ c.methods, m.Delimited) →
      let r := ClassRecord.ofClass isStack c
      (∀ m ∈ c.methods, r.methods.get? m.subSignature =
        (c.methods.filter (·.shape = m.shape)).getLast?.map (MethodRecord.ofMethod isStack)) ∧
      ((c.methods.map Method.shape).Nodup →
        r.methods.keys = c.methods.map Method.subSignature ∧ r.methods.keys.Nodup ∧
          ∀ m ∈ c.methods,
            r.methods.get? m.subSignature = some (MethodRecord.ofMethod isStack m)) := by
  constructor
  · intro m n hm hn
    rw [Method.signature_eq_iff hm hn, Method.subSignature_eq_iff hm hn, Method.shape_eq_iff]
    exact ⟨Iff.rfl, Iff.rfl⟩
  · intro isStack c hdelimited r
    have hentry : ∀ m ∈ c.methods, r.methods.get? m.subSignature =
        (c.methods.filter (·.shape = m.shape)).getLast?.map (MethodRecord.ofMethod isStack) := by
      intro m hm
      have hfilter : c.methods.filter (·.subSignature = m.subSignature) =
          c.methods.filter (·.shape = m.shape) := by
        apply List.filter_congr
        intro n hn
        rw [decide_eq_decide]
        exact Method.subSignature_eq_iff (hdelimited n hn) (hdelimited m hm)
      rw [get?_ofClass, hfilter]
    refine ⟨hentry, ?_⟩
    intro hshapes
    have hdistinct : (c.methods.map Method.subSignature).Nodup := by
      refine List.Nodup.map_on ?_ (List.Nodup.of_map _ hshapes)
      intro m hm n hn h
      have hshape := Method.shape_of_subSignature_eq (hdelimited m hm) (hdelimited n hn) h
      exact List.inj_on_of_nodup_map hshapes hm hn hshape
    have hkeys : r.methods.keys = c.methods.map Method.subSignature := by
      show r.methods.entries.map (·.1) = _
      rw [entries_ofClass isStack hdistinct, List.map_map]
      rfl
    refine ⟨hkeys, hkeys ▸ hdistinct, ?_⟩
    intro m hm
    apply Entries.find?_of_mem r.methods.nodup
    rw [entries_ofClass isStack hdistinct]
    exact List.mem_map.mpr ⟨m, hm, rfl⟩

/-- Four methods of one name, one of them with a parameter type that reads like the end of a
sub-signature. -/
theorem ClassRecord.overloads_apart_of_one_name :
    let run (returnType : String) (parameterTypes : List String) (callee : String) : Method :=
      ⟨"p.X", "run", returnType, parameterTypes, [], none, some ⟨[], [⟨"call", none, some callee⟩]⟩⟩
    let c : ClassDef := { ClassDef.named "p.X" with
      methods := [run "void" [] "a", run "int" [] "b", run "void" ["int"] "c",
        run "void" ["int", ") run(int"] "d"] }
    let r := ClassRecord.ofClass syntheticName c
    (∀ m ∈ c.methods, m.Delimited) ∧ (c.methods.map Method.shape).Nodup ∧
      (run "void" ["int"] "c").signature ≠ (run "void" ["int", ") run(int"] "d").signature ∧
      r.methods.keys = ["void run()", "int run()", "void run(int)", "void run(int,) run(int)"] ∧
      r.methods.get? "void run(int)" = some ⟨∅, ∅, ["c"]⟩ := by
  intro run c r
  have hdelimited : ∀ m ∈ c.methods, m.Delimited := by decide +kernel
  have hshapes : (c.methods.map Method.shape).Nodup := by decide +kernel
  obtain ⟨hpairs, hclasses⟩ := overloads_apart
  obtain ⟨-, hrecord⟩ := hclasses syntheticName hdelimited
  obtain ⟨hkeys, -, hentries⟩ := hrecord hshapes
  refine ⟨hdelimited, hshapes, ?_, ?_, ?_⟩
  · intro h
    obtain ⟨-, -, -, hparameters⟩ := ((hpairs (hdelimited (run "void" ["int"] "c") (by simp [c]))
      (hdelimited (run "void" ["int", ") run(int"] "d") (by simp [c]))).2).mp h
    simp [run] at hparameters
  · rw [hkeys]
    decide +kernel
  · have hentry := hentries (run "void" ["int"] "c") (by simp [c])
    have hkey : (run "void" ["int"] "c").subSignature = "void run(int)" := by decide +kernel
    rw [← hkey, hentry]
    decide +kernel

end ClassCensus
