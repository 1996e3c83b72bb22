import ClassCensus.Proofs.Disk.Ground

/-!
# Disks with the same entries

Two disks that list the same entries, in whatever order, answer every question alike and stay the same
under every change (`Same.find`, `Same.makeDir` and the lemmas after them).
-/

namespace ClassCensus.Disk

/-- The same entries at all locations, and the same home. -/
structure Same (d d' : Disk) : Prop where
  home : d'.home = d.home
  entry : ∀ l, d'.entryAt l = d.entryAt l

/-- Two results of a change: disks that are the same, or the same fault. -/
def SameResult : Except DiskFault Disk → Except DiskFault Disk → Prop
  | .ok d, .ok d' => Same d d'
  | .error f, .error f' => f = f'
  | _, _ => False

namespace Same

variable {d d' d'' : Disk}

theorem refl (d : Disk) : Same d d := ⟨rfl, fun _ => rfl⟩

theorem symm (h : Same d d') : Same d' d := ⟨h.home.symm, fun l => (h.entry l).symm⟩

theorem trans (h1 : Same d d') (h2 : Same d' d'') : Same d d'' :=
  ⟨h2.home.trans h1.home, fun l => (h2.entry l).trans (h1.entry l)⟩

theorem isTree (h : Same d d') (ht : d.IsTree) : d'.IsTree := by
  intro here name e he
  rw [h.entry] at he ⊢
  exact ht here name e he

theorem keepsWays (h : Same d d') : KeepsWays d d' :=
  ⟨h.home, fun l hl => (h.entry l).trans hl, fun l _ hl => (h.entry l).trans hl⟩

theorem ground (h : Same d d') {root : Path} {links : Nat} {top : Location}
    (g : Ground d root links top) : Ground d' root links top := by
  refine g.of_keepsWays h.keepsWays (h.isTree g.tree) ?_
  intro rest hr t
  rw [h.entry]
  exact g.noLinks rest hr t

/-! ### Questions -/

section Questions

variable (h : Same d d')

include h

theorem hasDir (l : Location) : d'.hasDir l = d.hasDir l := by
  simp only [Disk.hasDir, h.entry]

theorem walk (fl slash : Bool) (links : Nat) (here : Location) (names : List Octets) :
    d'.walk fl links slash here names = d.walk fl links slash here names := by
  induction links, here, names using way_induction d generalizing slash with
  | nil links here => rw [walk_nil, walk_nil, h.hasDir]
  | current links here names ih => rw [walk_current, walk_current, ih]
  | parent links here names ih => rw [walk_parent, walk_parent, ih]
  | long links here name names hn hl => rw [walk_long hn hl, walk_long hn hl]
  | missing links here name names hn hl he =>
    rw [walk_missing hn hl he, walk_missing hn hl ((h.entry _).trans he), h.hasDir]
  | directory links here name names hn hl he ih =>
    rw [walk_directory hn hl he, walk_directory hn hl ((h.entry _).trans he), ih]
  | file links here name names bytes hn hl he =>
    rw [walk_file hn hl he, walk_file hn hl ((h.entry _).trans he)]
  | noLink here name names target hn hl he =>
    rw [walk_noLink hn hl he, walk_noLink hn hl ((h.entry _).trans he)]
  | link links here name names target hn hl he ih =>
    rw [walk_link hn hl he, walk_link hn hl ((h.entry _).trans he), ih]

theorem descend (links : Nat) (here : Location) (names : List Octets) :
    d'.descend links here names = d.descend links here names := by
  induction links, here, names using way_induction d with
  | nil links here => rw [descend_nil, descend_nil]
  | current links here names ih => rw [descend_current, descend_current, ih]
  | parent links here names ih => rw [descend_parent, descend_parent, ih]
  | long links here name names hn hl => rw [descend_long hn hl, descend_long hn hl]
  | missing links here name names hn hl he =>
    rw [descend_missing hn hl he, descend_missing hn hl ((h.entry _).trans he)]
  | directory links here name names hn hl he ih =>
    rw [descend_directory hn hl he, descend_directory hn hl ((h.entry _).trans he), ih]
  | file links here name names bytes hn hl he =>
    rw [descend_file hn hl he, descend_file hn hl ((h.entry _).trans he)]
  | noLink here name names target hn hl he =>
    rw [descend_noLink hn hl he, descend_noLink hn hl ((h.entry _).trans he)]
  | link links here name names target hn hl he ih =>
    rw [descend_link hn hl he, descend_link hn hl ((h.entry _).trans he), ih]

theorem startOf (p : Path) : d'.startOf p = d.startOf p := by
  simp only [Disk.startOf, h.home]

theorem locate (fl : Bool) (p : Path) : d'.locate fl p = d.locate fl p := by
  simp only [Disk.locate, h.walk, h.startOf]

theorem find (fl : Bool) (p : Path) : d'.find fl p = d.find fl p := by
  simp only [Disk.find, h.locate]

theorem status (p : Path) : d'.status p = d.status p := by
  simp only [Disk.status, h.find]

theorem linkStatus (p : Path) : d'.linkStatus p = d.linkStatus p := by
  simp only [Disk.linkStatus, h.find]

end Questions

/-! ### Changes -/

section Changes

variable (h : Same d d')

include h

theorem put {l : Location} (hl : l ≠ []) (e : Entry) : Same (d.put l e) (d'.put l e) := by
  refine ⟨h.home, fun k => ?_⟩
  rw [entryAt_put d' hl, entryAt_put d hl, h.entry]

theorem erase (l : Location) : Same (d.erase l) (d'.erase l) := by
  refine ⟨h.home, fun k => ?_⟩
  by_cases hl : l = []
  · rw [hl, entryAt_erase_root, entryAt_erase_root, h.entry]
  · rw [entryAt_erase d' hl, entryAt_erase d hl, h.entry]

theorem eraseBelow (l : Location) : Same (d.eraseBelow l) (d'.eraseBelow l) := by
  refine ⟨h.home, fun k => ?_⟩
  rw [entryAt_eraseBelow, entryAt_eraseBelow, h.entry]

theorem makeDir (p : Path) : SameResult (d.makeDir p) (d'.makeDir p) := by
  simp only [Disk.makeDir, h.locate, bind, Except.bind]
  cases checkPath p with
  | error f => rfl
  | ok u =>
    dsimp only
    cases hs : d.locate false (bare p) with
    | error f => rfl
    | ok spot =>
      dsimp only
      cases he : spot.entry with
      | some e => rfl
      | none =>
        have hne : spot.location ≠ [] := by
          rcases checkPath_cases (bare p) with hc | ⟨f, hc⟩
          · simp only [Disk.locate, hc, bind, Except.bind] at hs
            obtain ⟨dir, name, hl, -⟩ := (walk_ok hs).2 he
            simp [hl]
          · rw [locate_of_check_error hc] at hs
            cases hs
        exact h.put hne .directory

theorem removeFile (p : Path) : SameResult (d.removeFile p) (d'.removeFile p) := by
  simp only [Disk.removeFile, h.find, bind, Except.bind]
  cases d.find false p with
  | error f => rfl
  | ok r =>
    obtain ⟨l, e⟩ := r
    cases e with
    | directory => rfl
    | file b => exact h.erase l
    | link t => exact h.erase l

theorem removeEmptyDir (p : Path) : SameResult (d.removeEmptyDir p) (d'.removeEmptyDir p) := by
  simp only [Disk.removeEmptyDir, h.locate, bind, Except.bind]
  cases checkPath p with
  | error f => rfl
  | ok u =>
    dsimp only
    cases d.locate false (bare p) with
    | error f => rfl
    | ok spot =>
      dsimp only
      split
      · rfl
      split
      · rfl
      split
      · rfl
      cases spot.entry with
      | none => rfl
      | some e =>
        cases e with
        | directory => exact h.erase spot.location
        | file b => rfl
        | link t => rfl

theorem removeTree (p : Path) :
    (d'.removeTree p).1 = (d.removeTree p).1 ∧ Same (d.removeTree p).2 (d'.removeTree p).2 := by
  simp only [Disk.removeTree, h.find]
  cases d.find false p with
  | error f => exact ⟨rfl, h⟩
  | ok r =>
    obtain ⟨l, e⟩ := r
    cases e with
    | file b => exact ⟨rfl, h⟩
    | link t => exact ⟨rfl, h.erase l⟩
    | directory =>
      have hemptied := h.eraseBelow l
      have hremoved := hemptied.removeEmptyDir p
      dsimp only
      cases hr : (d.eraseBelow l).removeEmptyDir p with
      | ok d1 =>
        cases hr' : (d'.eraseBelow l).removeEmptyDir p with
        | ok d1' =>
          rw [hr, hr'] at hremoved
          exact ⟨rfl, hremoved⟩
        | error f =>
          rw [hr, hr'] at hremoved
          exact hremoved.elim
      | error f =>
        cases hr' : (d'.eraseBelow l).removeEmptyDir p with
        | ok d1' =>
          rw [hr, hr'] at hremoved
          exact hremoved.elim
        | error f' =>
          rw [hr, hr'] at hremoved
          obtain rfl : f = f' := hremoved
          cases f <;> exact ⟨rfl, hemptied⟩

end Changes

end Same

end ClassCensus.Disk
