import ClassCensus.Proofs.LineTags
import Mathlib.Data.List.Range

/-!
# The closest line tag

Propagation carries a tag from statement to statement, while it writes over the ones that it has passed.
What it leaves at a place is told by the tags that were there before: the tag of the last tagged
statement up to this place (`tagAt_propagateFrom`). The statements that it counts are those whose tag is
another one afterwards (`retaggedFrom_eq_countP`). Main statement: `Body.propagates_closest_tags`.
-/

namespace ClassCensus

/-! ### Tags by their places -/

/-- The tag of the statement at a place. -/
def tagAt (ss : List Statement) (i : Nat) : Option UInt32 := ss[i]?.bind (·.line)

/-- The tag of the last tagged statement up to a place. -/
def closestTag (ss : List Statement) : Nat → Option UInt32
  | 0 => tagAt ss 0
  | i + 1 => tagAt ss (i + 1) <|> closestTag ss i

theorem tagAt_cons_succ (s : Statement) (ss : List Statement) (i : Nat) :
    tagAt (s :: ss) (i + 1) = tagAt ss i := rfl

theorem closestTag_cons (s : Statement) (ss : List Statement) (i : Nat) :
    closestTag (s :: ss) (i + 1) = (closestTag ss i <|> s.line) := by
  induction i with
  | zero => rfl
  | succ i ih =>
    rw [closestTag, ih, tagAt_cons_succ, orElse_assoc]
    rfl

theorem closestTag_eq_some_iff {ss : List Statement} {i : Nat} {tag : UInt32} :
    closestTag ss i = some tag ↔
      ∃ j ≤ i, tagAt ss j = some tag ∧ ∀ k, j < k → k ≤ i → tagAt ss k = none := by
  induction i with
  | zero =>
    constructor
    · intro h
      exact ⟨0, Nat.le_refl 0, h, fun k hk hk0 => by omega⟩
    · rintro ⟨j, hj, htag, -⟩
      obtain rfl : j = 0 := by omega
      exact htag
  | succ i ih =>
    rw [closestTag]
    cases hlast : tagAt ss (i + 1) with
    | some other =>
      constructor
      · intro h
        exact ⟨i + 1, Nat.le_refl _, hlast.trans h, fun k hk hki => by omega⟩
      · rintro ⟨j, hj, htag, hnone⟩
        -- a tag further back would have no tag after it
        have hji : j = i + 1 := by
          by_contra hne
          have hno := hnone (i + 1) (by omega) (Nat.le_refl _)
          rw [hlast] at hno
          cases hno
        rw [hji, hlast] at htag
        exact htag
    | none =>
      show closestTag ss i = some tag ↔ _
      rw [ih]
      constructor
      · rintro ⟨j, hj, htag, hnone⟩
        refine ⟨j, by omega, htag, fun k hk hki => ?_⟩
        rcases Nat.lt_or_ge i k with hlt | hle
        · obtain rfl : k = i + 1 := by omega
          exact hlast
        · exact hnone k hk hle
      · rintro ⟨j, hj, htag, hnone⟩
        have hji : j ≠ i + 1 := by
          rintro rfl
          rw [hlast] at htag
          cases htag
        exact ⟨j, by omega, htag, fun k hk hki => hnone k hk (by omega)⟩

theorem closestTag_eq_none_iff {ss : List Statement} {i : Nat} :
    closestTag ss i = none ↔ ∀ j ≤ i, tagAt ss j = none := by
  induction i with
  | zero => simp [closestTag]
  | succ i ih =>
    have hlast : closestTag ss (i + 1) = none ↔
        tagAt ss (i + 1) = none ∧ closestTag ss i = none := by
      rw [closestTag]
      cases tagAt ss (i + 1) with
      | some tag => exact ⟨fun h => (nomatch h), fun h => (nomatch h.1)⟩
      | none => exact ⟨fun h => ⟨rfl, h⟩, fun h => h.2⟩
    rw [hlast, ih]
    constructor
    · rintro ⟨htag, hall⟩ j hj
      rcases Nat.lt_or_ge i j with hlt | hle
      · obtain rfl : j = i + 1 := by omega
        exact htag
      · exact hall j hle
    · intro hall
      exact ⟨hall _ (Nat.le_refl _), fun j hj => hall j (by omega)⟩

/-! ### What propagation leaves -/

/-- The tag that was carried along stands behind all tags of the statements themselves. -/
theorem tagAt_propagateFrom (last : Option UInt32) {ss : List Statement} {i : Nat}
    (hi : i < ss.length) :
    tagAt (propagateFrom last ss) i = (closestTag ss i <|> last) := by
  induction ss generalizing last i with
  | nil => cases hi
  | cons s rest ih =>
    cases i with
    | zero => rfl
    | succ i =>
      rw [propagateFrom, tagAt_cons_succ, ih _ (Nat.lt_of_succ_lt_succ hi), closestTag_cons,
        ← orElse_assoc]

theorem retaggedFrom_eq_countP (last : Option UInt32) (ss : List Statement) :
    retaggedFrom last ss =
      (List.range ss.length).countP fun i => tagAt (propagateFrom last ss) i ≠ tagAt ss i := by
  induction ss generalizing last with
  | nil => rfl
  | cons s rest ih =>
    have hfirst : (s.line = none ∧ last ≠ none) ↔ (s.line <|> last) ≠ s.line := by
      cases s.line <;> simp
    rw [retaggedFrom, ih, List.length_cons, List.range_succ_eq_map, List.countP_cons,
      List.countP_map, Nat.add_comm]
    congr 1
    exact if_congr (hfirst.trans decide_eq_true_iff.symm) rfl rfl

/-- Propagation leaves at each place of a body the tag of the last statement up to this place that was
tagged before, and no tag if there is none. It changes nothing else of the body and neither its
smallest nor its largest tag, counts the places where the tag is another one, and finds nothing to do a
second time. -/
theorem Body.propagates_closest_tags (b : Body) :
    let p := b.propagateLines
    p.locals = b.locals ∧
      p.statements.map (fun s => (s.text, s.target)) = b.statements.map (fun s => (s.text, s.target)) ∧
      (∀ i < b.statements.length,
        (∀ tag, tagAt p.statements i = some tag ↔
          ∃ j ≤ i, tagAt b.statements j = some tag ∧
            ∀ k, j < k → k ≤ i → tagAt b.statements k = none) ∧
        (tagAt p.statements i = none ↔ ∀ j ≤ i, tagAt b.statements j = none)) ∧
      b.retagged = (List.range b.statements.length).countP
        (fun i => tagAt p.statements i ≠ tagAt b.statements i) ∧
      p.minLine = b.minLine ∧ p.maxLine = b.maxLine ∧
      p.retagged = 0 ∧ p.propagateLines = p := by
  intro p
  have htag : ∀ i < b.statements.length, tagAt p.statements i = closestTag b.statements i := by
    intro i hi
    have h := tagAt_propagateFrom none hi
    exact h.trans (orElse_failure _)
  have hagain : p.propagateLines = p := b.propagateLines_idem
  have hcount : p.retagged = 0 := by
    have hsame : propagateFrom none p.statements = p.statements := congrArg Body.statements hagain
    rw [retagged, retaggedFrom_eq_countP, hsame, List.countP_eq_zero]
    intro i _
    simp
  refine ⟨rfl, map_propagateFrom _ (fun _ _ => rfl) none b.statements, ?_,
    retaggedFrom_eq_countP none b.statements, b.minLine_propagateLines, b.maxLine_propagateLines,
    hcount, hagain⟩
  intro i hi
  rw [htag i hi]
  exact ⟨fun tag => closestTag_eq_some_iff, closestTag_eq_none_iff⟩

/-- Before the first tag nothing is given, a smaller tag takes the place of a larger one, and line 0 is a
tag like any other. -/
theorem Body.propagates_closest_tags_downwards :
    let statement (line : Option UInt32) : Statement := ⟨"x = 1", line, none⟩
    let b : Body := ⟨[], [none, some 5, none, some 0, none].map statement⟩
    (tagAt b.propagateLines.statements 0 = none ∧ ∀ j ≤ 0, tagAt b.statements j = none) ∧
      (4 < b.statements.length ∧ tagAt b.propagateLines.statements 4 = some 0) ∧
      b.retagged = 2 ∧ b.propagateLines.minLine = some 0 ∧ b.propagateLines.maxLine = some 5 := by
  intro statement b
  obtain ⟨-, -, htags, hcount, hmin, hmax, -, -⟩ := b.propagates_closest_tags
  have hfirst : ∀ j ≤ 0, tagAt b.statements j = none := by decide
  have hlast : ∀ k, 3 < k → k ≤ 4 → tagAt b.statements k = none := by
    intro k hk hk4
    obtain rfl : k = 4 := by omega
    rfl
  refine ⟨⟨(htags 0 (by decide)).2.mpr hfirst, hfirst⟩, ⟨by decide, ?_⟩, ?_, ?_, ?_⟩
  · exact ((htags 4 (by decide)).1 0).mpr ⟨3, by decide, rfl, hlast⟩
  · rw [hcount]
    decide
  · rw [hmin]
    decide
  · rw [hmax]
    decide

end ClassCensus
