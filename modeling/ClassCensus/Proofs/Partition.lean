import Mathlib.Data.List.Perm.Basic
import ClassCensus.ClassRecord
import ClassCensus.Proofs.OrderedMap

/-!
# The sides of a partition

A convention parts the locals of a method in two maps. Each of them is the map of the locals on its
side (`Partition.ofLocals_eq_sides`), so that a name is on one side only and has the type of its last
local there. Main statement: every local is on one side, and another convention moves variables from
side to side and changes nothing else of a record (`Partition.every_local_on_one_side`).
-/

namespace ClassCensus

/-! ### Locals as maps -/

/-- The type of the last local with a name. -/
def lastType? (locals : List LocalVar) (name : String) : Option String :=
  (locals.filter (·.name = name)).getLast?.map (·.type)

/-- The types of the locals whose names are kept, by their names. -/
def typesOf (keep : String → Bool) (locals : List LocalVar) : OrderedMap String :=
  .ofList ((locals.filter fun v => keep v.name).map fun v => (v.name, v.type))

theorem keys_typesOf (keep : String → Bool) (locals : List LocalVar) :
    (typesOf keep locals).keys = ((locals.map (·.name)).filter keep).eraseDups := by
  unfold typesOf
  rw [OrderedMap.keys_ofList, List.map_map, List.filter_map]
  rfl

theorem get?_typesOf (keep : String → Bool) (locals : List LocalVar) (name : String) :
    (typesOf keep locals).get? name = if keep name then lastType? locals name else none := by
  have hkept : (locals.filter fun v => keep v.name).filter (fun v => decide (v.name = name)) =
      if keep name then locals.filter (fun v => decide (v.name = name)) else [] := by
    rw [List.filter_filter]
    by_cases hkeep : keep name
    · rw [if_pos hkeep]
      apply List.filter_congr
      intro v _
      by_cases hname : v.name = name
      · simp [hname, hkeep]
      · simp [hname]
    · rw [if_neg hkeep, List.filter_eq_nil_iff]
      intro v _ hv
      rw [Bool.and_eq_true, decide_eq_true_eq] at hv
      exact hkeep (hv.1 ▸ hv.2)
  have hlast : (typesOf keep locals).get? name =
      ((locals.filter fun v => keep v.name).filter (fun v => decide (v.name = name))).getLast?.map
        (·.type) := by
    unfold typesOf
    rw [OrderedMap.get?_ofList, OrderedMap.lastValue?, List.filter_map, List.getLast?_map,
      Option.map_map]
    rfl
  rw [hlast, hkept]
  by_cases hkeep : keep name
  · rw [if_pos hkeep, if_pos hkeep, lastType?]
  · rw [if_neg hkeep, if_neg hkeep]
    rfl

theorem nodup_eraseDups (names : List String) : names.eraseDups.Nodup :=
  OrderedSet.toList_ofList names ▸ (OrderedSet.ofList names).nodup

/-- The distinct names that are kept and those that are not are all distinct names. -/
theorem eraseDups_filter_append_perm (keep : String → Bool) (names : List String) :
    ((names.filter fun n => !keep n).eraseDups ++ (names.filter keep).eraseDups).Perm
      names.eraseDups := by
  have hnodup : ((names.filter fun n => !keep n).eraseDups ++
      (names.filter keep).eraseDups).Nodup := by
    rw [List.nodup_append]
    refine ⟨nodup_eraseDups _, nodup_eraseDups _, ?_⟩
    rintro a ha b hb rfl
    have hout := (List.mem_filter.mp (List.mem_eraseDups.mp ha)).2
    have hin := (List.mem_filter.mp (List.mem_eraseDups.mp hb)).2
    rw [hin] at hout
    cases hout
  rw [List.perm_ext_iff_of_nodup hnodup (nodup_eraseDups _)]
  intro name
  simp only [List.mem_append, List.mem_eraseDups, List.mem_filter, Bool.not_eq_true']
  cases keep name <;> simp

/-! ### The two sides -/

namespace Partition

variable (isStack : NamingConvention)

theorem foldl_insert_eq (locals : List LocalVar) (p : Partition) :
    locals.foldl (insert isStack) p =
      { locals := ((locals.filter fun v => !isStack v.name).map fun v => (v.name, v.type)).foldl
          (fun m e => m.insert e.1 e.2) p.locals
        stack := ((locals.filter fun v => isStack v.name).map fun v => (v.name, v.type)).foldl
          (fun m e => m.insert e.1 e.2) p.stack } := by
  induction locals generalizing p with
  | nil => rfl
  | cons v rest ih =>
    rw [List.foldl_cons, ih, insert]
    by_cases h : isStack v.name
    · simp only [h, if_true, List.filter_cons, Bool.not_true, Bool.false_eq_true, if_false,
        List.map_cons, List.foldl_cons]
    · simp only [h, if_false, List.filter_cons, Bool.not_false, Bool.false_eq_true, if_true,
        List.map_cons, List.foldl_cons]

theorem ofLocals_eq_sides (locals : List LocalVar) :
    ofLocals isStack locals =
      ⟨typesOf (fun name => !isStack name) locals, typesOf isStack locals⟩ :=
  foldl_insert_eq isStack locals empty

/-- Only what the convention says of the locals matters. -/
theorem ofLocals_congr {isStack isStack' : NamingConvention} {locals : List LocalVar}
    (h : ∀ v ∈ locals, isStack v.name = isStack' v.name) :
    ofLocals isStack locals = ofLocals isStack' locals := by
  have hin : locals.filter (fun v => isStack v.name) = locals.filter fun v => isStack' v.name :=
    List.filter_congr h
  have hout : locals.filter (fun v => !isStack v.name) =
      locals.filter fun v => !isStack' v.name :=
    List.filter_congr fun v hv => congrArg _ (h v hv)
  rw [ofLocals_eq_sides, ofLocals_eq_sides, typesOf, typesOf, typesOf, typesOf, hin, hout]

theorem size_ofLocals (locals : List LocalVar) :
    (ofLocals isStack locals).size = (locals.map (·.name)).eraseDups.length := by
  have hperm := eraseDups_filter_append_perm isStack (locals.map (·.name))
  unfold size
  rw [ofLocals_eq_sides, OrderedMap.size_eq_length_keys, OrderedMap.size_eq_length_keys,
    keys_typesOf, keys_typesOf, ← List.length_append, hperm.length_eq]

end Partition

/-! ### Records under two conventions -/

/-- The type of a variable, whichever side it is on. -/
def MethodRecord.typeOf? (r : MethodRecord) (name : String) : Option String :=
  r.localVariables.get? name <|> r.stackVariables.get? name

/-- The record of a method without its variables. -/
def MethodRecord.withoutVariables (r : MethodRecord) : MethodRecord :=
  { r with localVariables := ∅, stackVariables := ∅ }

/-- The record of a class without the variables of the methods. -/
def ClassRecord.withoutVariables (r : ClassRecord) : ClassRecord :=
  { r with methods := r.methods.map MethodRecord.withoutVariables }

theorem MethodRecord.typeOf?_ofMethod (isStack : NamingConvention) (m : Method) (name : String) :
    (ofMethod isStack m).typeOf? name = m.body.bind fun body => lastType? body.locals name := by
  cases hbody : m.body with
  | none =>
    simp only [ofMethod, hbody]
    rfl
  | some body =>
    simp only [ofMethod, hbody, typeOf?, Partition.ofLocals_eq_sides, get?_typesOf,
      Option.bind_some]
    cases isStack name
    · cases lastType? body.locals name <;> rfl
    · rfl

theorem MethodRecord.withoutVariables_ofMethod (isStack : NamingConvention) (m : Method) :
    (ofMethod isStack m).withoutVariables = ⟨∅, ∅, m.callees⟩ := by
  cases hbody : m.body with
  | none =>
    simp only [ofMethod, hbody, withoutVariables, Method.callees, Method.callSites,
      Method.statements]
    rfl
  | some body => simp only [ofMethod, hbody, withoutVariables]

/-- What the records of the methods have in common under all conventions, so has the record of the
class. -/
theorem ClassRecord.map_methods_ofClass {α : Type} (f : MethodRecord → α)
    {isStack isStack' : NamingConvention} (c : ClassDef)
    (h : ∀ m, f (MethodRecord.ofMethod isStack m) = f (MethodRecord.ofMethod isStack' m)) :
    (ofClass isStack c).methods.map f = (ofClass isStack' c).methods.map f := by
  unfold ofClass
  simp only [OrderedMap.map_ofList, List.map_map, Function.comp_def, h]

theorem ClassRecord.withoutVariables_ofClass (isStack isStack' : NamingConvention)
    (c : ClassDef) :
    (ofClass isStack c).withoutVariables = (ofClass isStack' c).withoutVariables := by
  have hmethods : (ofClass isStack c).methods.map MethodRecord.withoutVariables =
      (ofClass isStack' c).methods.map MethodRecord.withoutVariables := by
    apply map_methods_ofClass
    intro m
    rw [MethodRecord.withoutVariables_ofMethod, MethodRecord.withoutVariables_ofMethod]
  unfold withoutVariables
  rw [hmethods]
  rfl

/-- Every local is on one side of its partition, by what the convention says of its name: each side
has the names on it in the order of their first locals, with the types of their last ones. Another
convention leaves everything in the record of a class as it is but the sides of the variables. -/
theorem Partition.every_local_on_one_side (locals : List LocalVar) (c : ClassDef)
    (isStack isStack' : NamingConvention) :
    let p := ofLocals isStack locals
    let names := locals.map (·.name)
    (∀ name, ¬ (name ∈ p.locals.keys ∧ name ∈ p.stack.keys)) ∧
      p.stack.keys = (names.filter fun n => isStack n).eraseDups ∧
      p.locals.keys = (names.filter fun n => !isStack n).eraseDups ∧
      (∀ name, p.stack.get? name = if isStack name then lastType? locals name else none) ∧
      (∀ name, p.locals.get? name = if isStack name then none else lastType? locals name) ∧
      p.size = names.eraseDups.length ∧
      (ClassRecord.ofClass isStack c).withoutVariables =
        (ClassRecord.ofClass isStack' c).withoutVariables ∧
      (ClassRecord.ofClass isStack c).methods.map MethodRecord.typeOf? =
        (ClassRecord.ofClass isStack' c).methods.map MethodRecord.typeOf? ∧
      ∀ m : Method, (MethodRecord.ofMethod isStack m).typeOf? =
        (MethodRecord.ofMethod isStack' m).typeOf? := by
  intro p names
  have hstack : p.stack = typesOf isStack locals :=
    congrArg Partition.stack (ofLocals_eq_sides isStack locals)
  have hlocals : p.locals = typesOf (fun name => !isStack name) locals :=
    congrArg Partition.locals (ofLocals_eq_sides isStack locals)
  have htypes : ∀ m : Method, (MethodRecord.ofMethod isStack m).typeOf? =
      (MethodRecord.ofMethod isStack' m).typeOf? := by
    intro m
    funext name
    rw [MethodRecord.typeOf?_ofMethod, MethodRecord.typeOf?_ofMethod]
  refine ⟨?_, ?_, ?_, ?_, ?_, size_ofLocals isStack locals,
    ClassRecord.withoutVariables_ofClass isStack isStack' c,
    ClassRecord.map_methods_ofClass MethodRecord.typeOf? c htypes, htypes⟩
  · rintro name ⟨hout, hin⟩
    rw [hlocals, keys_typesOf, List.mem_eraseDups, List.mem_filter] at hout
    rw [hstack, keys_typesOf, List.mem_eraseDups, List.mem_filter] at hin
    rw [hin.2] at hout
    cases hout.2
  · rw [hstack, keys_typesOf]
  · rw [hlocals, keys_typesOf]
  · intro name
    rw [hstack, get?_typesOf]
  · intro name
    rw [hlocals, get?_typesOf]
    cases isStack name <;> rfl

/-- A name that is repeated keeps its first place and takes its last type. -/
example : (Partition.ofLocals syntheticName
    [⟨"a", "int"⟩, ⟨"$b", "long"⟩, ⟨"c", "int"⟩, ⟨"a", "byte"⟩]).locals.entries =
      [("a", "byte"), ("c", "int")] := by
  decide

end ClassCensus
