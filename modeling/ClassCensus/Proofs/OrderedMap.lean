import Mathlib.Data.List.Basic
import ClassCensus.Proofs.Entries
import ClassCensus.Proofs.UsageIndex

/-!
# Maps from lists of pairs

Into a map pairs are inserted one after another. The keys are those of the pairs in the order of
their first occurrences (`OrderedMap.keys_ofList`), and the value of a key is that of the last pair
with it (`OrderedMap.get?_ofList`). Pairs with distinct keys are the entries of their map
(`OrderedMap.entries_ofList`).
-/

namespace ClassCensus

/-! ### First occurrences -/

namespace UsageIndex

theorem foldl_addName (names seen : List String) :
    names.foldl addName seen = seen ++ (names.filter (· ∉ seen)).eraseDups := by
  induction names generalizing seen with
  | nil => simp
  | cons name rest ih =>
    rw [List.foldl_cons, ih]
    unfold addName
    by_cases h : name ∈ seen
    · simp only [h, if_true, List.filter_cons, not_true_eq_false, decide_false,
        Bool.false_eq_true, if_false]
    · have hrest : rest.filter (fun x => decide (x ∉ seen ++ [name])) =
          (rest.filter (fun x => decide (x ∉ seen))).filter (fun x => !x == name) := by
        rw [List.filter_filter]
        apply List.filter_congr
        intro x _
        simp only [List.mem_append, List.mem_singleton, not_or, Bool.decide_and, decide_not,
          Bool.and_comm (!decide (x ∈ seen)), beq_eq_decide]
      simp only [h, if_false, List.filter_cons, not_false_eq_true, decide_true, if_true,
        List.eraseDups_cons, hrest, List.append_assoc, List.singleton_append]

theorem foldl_addName_nil (names : List String) : names.foldl addName [] = names.eraseDups := by
  have hall : names.filter (fun x => decide (x ∉ ([] : List String))) = names := by
    apply List.filter_eq_self.mpr
    intro x _
    simp
  rw [foldl_addName, hall, List.nil_append]

end UsageIndex

theorem OrderedSet.toList_insertAll (s : OrderedSet) (xs : List String) :
    (s.insertAll xs).toList = xs.foldl UsageIndex.addName s.toList := by
  induction xs generalizing s with
  | nil => rfl
  | cons x rest ih =>
    have hstep : (s.insertAll (x :: rest)).toList = ((s.insert x).insertAll rest).toList := rfl
    rw [hstep, ih, OrderedSet.toList_insert, List.foldl_cons, UsageIndex.addName]

theorem OrderedSet.toList_ofList (xs : List String) :
    (OrderedSet.ofList xs).toList = xs.eraseDups := by
  have h : (OrderedSet.ofList xs).toList = xs.foldl UsageIndex.addName [] :=
    OrderedSet.toList_insertAll OrderedSet.empty xs
  rw [h, UsageIndex.foldl_addName_nil]

/-! ### Entries and values -/

namespace OrderedMap

variable {α β : Type}

theorem entries_eq_map_keys (m : OrderedMap α) (default : α) :
    m.entries = m.keys.map fun key => (key, (m.get? key).getD default) := by
  have hself : ∀ e ∈ m.entries, (e.1, (m.get? e.1).getD default) = e := by
    intro e he
    have hget : m.get? e.1 = some e.2 := Entries.find?_of_mem m.nodup he
    rw [hget, Option.getD_some]
  unfold OrderedMap.keys
  rw [List.map_map]
  calc m.entries = m.entries.map id := (List.map_id _).symm
    _ = _ := List.map_congr_left fun e he => (hself e he).symm

theorem size_eq_length_keys (m : OrderedMap α) : m.size = m.keys.length := by
  unfold size keys
  rw [List.length_map]

/-! ### Pairs with any keys -/

theorem keys_foldl_insert (pairs : List (String × α)) (m : OrderedMap α) :
    (pairs.foldl (fun m pair => m.insert pair.1 pair.2) m).keys =
      (pairs.map (·.1)).foldl UsageIndex.addName m.keys := by
  induction pairs generalizing m with
  | nil => rfl
  | cons pair rest ih =>
    rw [List.foldl_cons, ih, keys_insert, List.map_cons, List.foldl_cons, UsageIndex.addName]

theorem keys_ofList (pairs : List (String × α)) :
    (ofList pairs).keys = (pairs.map (·.1)).eraseDups :=
  (keys_foldl_insert pairs empty).trans (UsageIndex.foldl_addName_nil _)

/-- The value of the last pair with a key. -/
def lastValue? (pairs : List (String × α)) (key : String) : Option α :=
  (pairs.filter (·.1 = key)).getLast?.map (·.2)

theorem lastValue?_cons (pair : String × α) (rest : List (String × α)) (key : String) :
    lastValue? (pair :: rest) key =
      (lastValue? rest key <|> if pair.1 = key then some pair.2 else none) := by
  unfold lastValue?
  by_cases h : pair.1 = key
  · simp only [h, List.filter_cons, decide_true, if_true, List.getLast?_cons]
    cases (rest.filter fun e => decide (e.1 = key)).getLast? <;> rfl
  · simp only [h, List.filter_cons, decide_false, Bool.false_eq_true, if_false]
    cases (rest.filter fun e => decide (e.1 = key)).getLast? <;> rfl

theorem get?_foldl_insert (pairs : List (String × α)) (m : OrderedMap α) (key : String) :
    (pairs.foldl (fun m pair => m.insert pair.1 pair.2) m).get? key =
      (lastValue? pairs key <|> m.get? key) := by
  induction pairs generalizing m with
  | nil => rfl
  | cons pair rest ih =>
    rw [List.foldl_cons, ih, get?_insert, lastValue?_cons]
    by_cases h : pair.1 = key
    · simp [h]
    · simp [h, Ne.symm h]

theorem get?_ofList (pairs : List (String × α)) (key : String) :
    (ofList pairs).get? key = lastValue? pairs key := by
  have h : (ofList pairs).get? key = (lastValue? pairs key <|> none) :=
    get?_foldl_insert pairs empty key
  rw [h]
  cases lastValue? pairs key <;> rfl

/-! ### Pairs with distinct keys -/

theorem entries_foldl_insert (pairs : List (String × α)) (m : OrderedMap α)
    (hnodup : (m.keys ++ pairs.map (·.1)).Nodup) :
    (pairs.foldl (fun m pair => m.insert pair.1 pair.2) m).entries = m.entries ++ pairs := by
  induction pairs generalizing m with
  | nil => simp
  | cons pair rest ih =>
    have hnew : pair.1 ∉ m.keys := by
      intro hmem
      exact (List.nodup_append.mp hnodup).2.2 _ hmem _ (List.mem_cons_self ..) rfl
    have hentries : (m.insert pair.1 pair.2).entries = m.entries ++ [pair] :=
      Entries.put_of_notMem hnew
    have hkeys : (m.insert pair.1 pair.2).keys = m.keys ++ [pair.1] := by
      unfold keys
      rw [hentries, List.map_append, List.map_singleton]
    rw [List.foldl_cons, ih, hentries, List.append_assoc, List.singleton_append]
    rw [hkeys, List.append_assoc]
    exact hnodup

theorem entries_ofList {pairs : List (String × α)} (hnodup : (pairs.map (·.1)).Nodup) :
    (ofList pairs).entries = pairs :=
  entries_foldl_insert pairs empty hnodup

theorem ofList_entries (m : OrderedMap α) : ofList m.entries = m :=
  OrderedMap.ext (entries_ofList m.nodup)

/-! ### The same keys with other values -/

/-- The map with all values replaced. -/
def map (f : α → β) (m : OrderedMap α) : OrderedMap β :=
  ⟨m.entries.map fun e => (e.1, f e.2), by
    rw [List.map_map]
    exact m.nodup⟩

theorem map_insert (f : α → β) (m : OrderedMap α) (key : String) (value : α) :
    (m.insert key value).map f = (m.map f).insert key (f value) := by
  have hput : ∀ es : List (String × α), (Entries.put key value es).map (fun e => (e.1, f e.2)) =
      Entries.put key (f value) (es.map fun e => (e.1, f e.2)) := by
    intro es
    induction es with
    | nil => rfl
    | cons e es ih =>
      by_cases h : e.1 = key
      · simp only [Entries.put, h, if_true, List.map_cons]
      · simp only [Entries.put, h, if_false, List.map_cons, ih]
  exact OrderedMap.ext (hput m.entries)

theorem map_ofList (f : α → β) (pairs : List (String × α)) :
    (ofList pairs).map f = ofList (pairs.map fun e => (e.1, f e.2)) := by
  have hfold : ∀ m : OrderedMap α,
      (pairs.foldl (fun m pair => m.insert pair.1 pair.2) m).map f =
        (pairs.map fun e => (e.1, f e.2)).foldl (fun m pair => m.insert pair.1 pair.2)
          (m.map f) := by
    induction pairs with
    | nil => exact fun m => rfl
    | cons pair rest ih =>
      intro m
      rw [List.foldl_cons, ih, map_insert, List.map_cons, List.foldl_cons]
  exact hfold empty

end OrderedMap

end ClassCensus
