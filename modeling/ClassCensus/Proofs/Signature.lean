import Mathlib.Data.List.Basic
import Mathlib.Data.List.Nodup
import ClassCensus.CallSite
import ClassCensus.Proofs.Path
import ClassCensus.Proofs.Sorting

/-!
# Methods by their identifiers

Two notations name a method: the signature, whose angle brackets may be left out, and the
sub-signature. A signature has a colon between its class and the rest, and a sub-signature has none,
so that no identifier of one notation is taken for the other, and the first colon tells what a
signature is made of (`Method.eq_of_isNamedBy`). Main statement: each method of a class is found by
its identifiers, and nothing is found by any other string (`ClassDef.method?_by_identifiers`).
-/

namespace ClassCensus

/-! ### Angle brackets -/

theorem toList_bracketed (id : String) :
    (bracketed id).toList = (if id.toList.head? = some '<' then [] else ['<']) ++ id.toList ++
      (if id.toList.getLast? = some '>' then [] else ['>']) := by
  unfold bracketed
  rw [String.toList_ofList]

/-- Brackets are put around a text that neither begins nor ends with one; those that are there
already are kept. -/
theorem bracketed_eq_iff {id : String} {body : List Char} (hhead : body.head? ≠ some '<')
    (hlast : body.getLast? ≠ some '>') :
    (bracketed id).toList = '<' :: body ++ ['>'] ↔
      id.toList = '<' :: body ++ ['>'] ∨ id.toList = body ++ ['>'] ∨ id.toList = '<' :: body ∨
        id.toList = body := by
  rw [toList_bracketed]
  constructor
  · intro h
    by_cases hopen : id.toList.head? = some '<' <;> by_cases hclose : id.toList.getLast? = some '>'
    · rw [if_pos hopen, if_pos hclose, List.nil_append, List.append_nil] at h
      exact .inl h
    · rw [if_pos hopen, if_neg hclose, List.nil_append] at h
      exact .inr (.inr (.inl (List.append_cancel_right h)))
    · rw [if_neg hopen, if_pos hclose, List.append_nil] at h
      exact .inr (.inl (List.cons.inj h).2)
    · rw [if_neg hopen, if_neg hclose] at h
      exact .inr (.inr (.inr (List.append_cancel_right (List.cons.inj h).2)))
  · have hhead' : (body ++ ['>']).head? ≠ some '<' := by
      cases body with
      | nil => decide
      | cons c rest => exact hhead
    have hlast' : ('<' :: body).getLast? ≠ some '>' := by
      rw [List.getLast?_cons]
      cases hbody : body.getLast? with
      | none => decide
      | some c => exact hbody ▸ hlast
    have hopen : ('<' :: body).head? = some '<' := rfl
    have hboth : ('<' :: body ++ ['>']).head? = some '<' := rfl
    rintro (h | h | h | h)
    · rw [h, if_pos hboth, if_pos List.getLast?_concat, List.nil_append, List.append_nil]
    · rw [h, if_neg hhead', if_pos List.getLast?_concat, List.append_nil]
      rfl
    · rw [h, if_pos hopen, if_neg hlast', List.nil_append]
    · rw [h, if_neg hhead, if_neg hlast]
      rfl

theorem mem_bracketed {id : String} {c : Char} (hopen : c ≠ '<') (hclose : c ≠ '>') :
    c ∈ (bracketed id).toList ↔ c ∈ id.toList := by
  rw [toList_bracketed, List.mem_append, List.mem_append]
  split_ifs <;> simp [hopen, hclose]

/-! ### Signatures -/

namespace Method

theorem toList_subSignature (m : Method) :
    m.subSignature.toList = m.returnType.toList ++ ' ' :: m.name.toList ++ '(' ::
      Text.join [','] (m.parameterTypes.map String.toList) ++ [')'] := by
  have hcomma : ",".toList = [','] := by decide
  simp [subSignature, Text.toList_joinStrings, hcomma]

/-- A signature without its angle brackets. -/
def bareSignature (m : Method) : String := m.declaringClass ++ ": " ++ m.subSignature

theorem toList_bareSignature (m : Method) :
    m.bareSignature.toList = m.declaringClass.toList ++ ':' :: ' ' :: m.subSignature.toList := by
  simp [bareSignature]

theorem toList_signature (m : Method) :
    m.signature.toList = '<' :: m.bareSignature.toList ++ ['>'] := by
  simp [signature, bareSignature]

/-- The identifiers of a method: its signature, the signature without the first angle bracket,
without the last one and without both, and the sub-signature. -/
def identifiers (m : Method) : List String :=
  [m.signature, m.bareSignature ++ ">", "<" ++ m.bareSignature, m.bareSignature, m.subSignature]

/-- No part of the signature has a colon, and the declaring class does not begin with an angle
bracket. -/
structure IsPlain (m : Method) : Prop where
  declaringClass : ':' ∉ m.declaringClass.toList
  returnType : ':' ∉ m.returnType.toList
  name : ':' ∉ m.name.toList
  parameterTypes : ∀ t ∈ m.parameterTypes, ':' ∉ t.toList
  opening : m.declaringClass.toList.head? ≠ some '<'

variable {m n : Method} {id : String}

namespace IsPlain

theorem notMem_subSignature (hm : m.IsPlain) : ':' ∉ m.subSignature.toList := by
  have hjoin : ':' ∉ Text.join [','] (m.parameterTypes.map String.toList) := by
    intro h
    rcases Text.mem_join h with h | ⟨piece, hpiece, h⟩
    · exact absurd h (by decide)
    · obtain ⟨t, ht, rfl⟩ := List.mem_map.mp hpiece
      exact hm.parameterTypes t ht h
  simp [toList_subSignature, hm.returnType, hm.name, hjoin]

theorem head?_bareSignature (hm : m.IsPlain) : m.bareSignature.toList.head? ≠ some '<' := by
  have hopening := hm.opening
  rw [toList_bareSignature]
  cases hclass : m.declaringClass.toList with
  | nil => simp
  | cons c rest =>
    rw [hclass] at hopening
    exact hopening

end IsPlain

theorem getLast?_bareSignature (m : Method) : m.bareSignature.toList.getLast? ≠ some '>' := by
  obtain ⟨front, hfront⟩ : ∃ front, m.subSignature.toList = front ++ [')'] :=
    ⟨_, m.toList_subSignature⟩
  have hend : m.bareSignature.toList =
      (m.declaringClass.toList ++ ':' :: ' ' :: front) ++ [')'] := by
    rw [toList_bareSignature, hfront, List.append_assoc]
    rfl
  rw [hend, List.getLast?_concat]
  decide

/-- The methods that an identifier names are those with this identifier. -/
theorem isNamedBy_iff (hm : m.IsPlain) : m.isNamedBy id = true ↔ id ∈ m.identifiers := by
  have hsignature : m.signature = bracketed id ↔
      id = m.signature ∨ id = m.bareSignature ++ ">" ∨ id = "<" ++ m.bareSignature ∨
        id = m.bareSignature := by
    have hforms := @bracketed_eq_iff id _ hm.head?_bareSignature m.getLast?_bareSignature
    rw [← toList_signature, String.toList_inj, eq_comm] at hforms
    have hopen : "<".toList = ['<'] := by decide
    have hclose : ">".toList = ['>'] := by decide
    simp only [hforms, ← String.toList_inj, String.toList_append, hopen, hclose,
      List.singleton_append]
  rw [isNamedBy, Bool.or_eq_true, decide_eq_true_eq, decide_eq_true_eq, hsignature, identifiers]
  simp only [List.mem_cons, List.not_mem_nil, or_false, or_assoc, eq_comm (a := m.subSignature)]

/-- What a signature is made of. -/
theorem eq_of_signature_eq (hm : m.IsPlain) (h : m.signature = n.signature) :
    m.declaringClass = n.declaringClass ∧ m.subSignature = n.subSignature := by
  rw [← String.toList_inj, toList_signature, toList_signature] at h
  have hbare := List.append_cancel_right (List.cons.inj h).2
  rw [toList_bareSignature, toList_bareSignature] at hbare
  have hspace : ':' ∉ ' ' :: m.subSignature.toList := by
    rw [List.mem_cons, not_or]
    exact ⟨by decide, hm.notMem_subSignature⟩
  obtain ⟨hclass, -, hrest⟩ :=
    (List.append_cons_inj_of_notMem hm.declaringClass hspace).mp hbare
  exact ⟨String.toList_inj.mp hclass, String.toList_inj.mp (List.cons.inj hrest).2⟩

/-- The bracketed form of a sub-signature is no signature: it has no colon. -/
theorem signature_ne_bracketed_subSignature (hn : n.IsPlain) :
    m.signature ≠ bracketed n.subSignature := by
  intro h
  have hcolon : ':' ∈ (bracketed n.subSignature).toList := by
    rw [← h, toList_signature, toList_bareSignature]
    simp
  rw [mem_bracketed (by decide) (by decide)] at hcolon
  exact hn.notMem_subSignature hcolon

/-- Methods with a common identifier have one sub-signature. -/
theorem eq_of_isNamedBy (hm : m.IsPlain) (hn : n.IsPlain) (h : m.isNamedBy id = true)
    (h' : n.isNamedBy id = true) : m.subSignature = n.subSignature := by
  rw [isNamedBy, Bool.or_eq_true, decide_eq_true_eq, decide_eq_true_eq] at h h'
  rcases h with h | rfl <;> rcases h' with h' | h'
  · exact (eq_of_signature_eq hm (h.trans h'.symm)).2
  · exact absurd (h' ▸ h) (signature_ne_bracketed_subSignature hn)
  · exact absurd h' (signature_ne_bracketed_subSignature hm)
  · exact h'.symm

end Method

/-! ### Classes -/

namespace ClassDef

variable {c : ClassDef}

/-- Every method of a class is found by its identifiers and by nothing else. The methods need not be
declared by one class; angle brackets and blanks may stand anywhere else in their signatures. -/
theorem method?_by_identifiers (hplain : ∀ m ∈ c.methods, m.IsPlain)
    (hdistinct : (c.methods.map Method.subSignature).Nodup) :
    (∀ m ∈ c.methods, ∀ id ∈ m.identifiers,
        c.method? id = some m ∧ c.callSitesOf id = m.callSites) ∧
      ∀ id, (∀ m ∈ c.methods, id ∉ m.identifiers) →
        c.method? id = none ∧ c.callSitesOf id = [] := by
  have hfound : ∀ m ∈ c.methods, ∀ id ∈ m.identifiers, c.method? id = some m := by
    intro m hm id hid
    have hnamed : m.isNamedBy id = true := (Method.isNamedBy_iff (hplain m hm)).mpr hid
    apply Sorting.find?_eq_some_of_unique hm hnamed
    intro n hn hnamed'
    have hsub := Method.eq_of_isNamedBy (hplain n hn) (hplain m hm) hnamed' hnamed
    exact List.inj_on_of_nodup_map hdistinct hn hm hsub
  refine ⟨?_, ?_⟩
  · intro m hm id hid
    have hm' := hfound m hm id hid
    exact ⟨hm', by rw [callSitesOf, hm']⟩
  · intro id hid
    have hnone : c.method? id = none := by
      unfold method?
      rw [List.find?_eq_none]
      intro m hm hnamed
      exact hid m hm ((Method.isNamedBy_iff (hplain m hm)).mp hnamed)
    exact ⟨hnone, by rw [callSitesOf, hnone]⟩

/-- A constructor and two overloads. -/
theorem method?_by_identifiers_of_overloads :
    let named (name : String) (parameters : List String) : Method :=
      ⟨"p.X", name, "void", parameters, [], none,
        some ⟨[], [⟨"call", some 7, some ("<p.Y: void " ++ name ++ "()>")⟩]⟩⟩
    let c : ClassDef := { ClassDef.named "p.X" with
      methods := [named "<init>" [], named "run" ["int"], named "run" ["int", "p.Y"]] }
    (∀ m ∈ c.methods, m.IsPlain) ∧ (c.methods.map Method.subSignature).Nodup ∧
      c.method? "p.X: void <init>()>" = some (named "<init>" []) ∧
      c.method? "void run(int,p.Y)" = some (named "run" ["int", "p.Y"]) ∧
      (c.callSitesOf "<p.X: void run(int)").length = 1 ∧ c.callSitesOf "<void run(int)>" = [] := by
  intro named c
  have hplain : ∀ m ∈ c.methods, m.IsPlain := by
    intro m hm
    simp only [c, List.mem_cons, List.not_mem_nil, or_false] at hm
    rcases hm with rfl | rfl | rfl <;>
      exact ⟨by decide, by decide, by decide, by decide, by decide⟩
  have hdistinct : (c.methods.map Method.subSignature).Nodup := by decide
  obtain ⟨hfound, hnothing⟩ := method?_by_identifiers hplain hdistinct
  refine ⟨hplain, hdistinct, ?_, ?_, ?_, ?_⟩
  · exact (hfound (named "<init>" []) (by decide) _ (by decide)).1
  · exact (hfound (named "run" ["int", "p.Y"]) (by decide) _ (by decide)).1
  · rw [(hfound (named "run" ["int"]) (by decide) _ (by decide)).2]
    decide
  · exact (hnothing "<void run(int)>" (by decide)).2

end ClassDef

end ClassCensus
