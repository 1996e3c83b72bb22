import ClassCensus.Proofs.Generation.OutputRoot

/-!
# What an output root stands on

Of a disk on which an output root is not found, every directory and every link stays whatever is made and
removed at the root (`Footing`): what is found at the root later on is new, and so is all that lies below
it. So a root that goes forward on the first disk goes forward on all later ones (`Footing.forward`,
`Footing.removed`).
-/

namespace ClassCensus

open Disk

/-- A directory or a link lies at a location, so that ways can lead through it. -/
def Disk.IsWay (d : Disk) (l : Location) : Prop :=
  d.entryAt l = some .directory ∨ ∃ t, d.entryAt l = some (.link t)

theorem Disk.KeepsWays.ne_none {d d' : Disk} (hk : KeepsWays d d') {l : Location} (h : d.IsWay l) :
    d'.entryAt l ≠ none := by
  rcases h with h | ⟨t, h⟩
  · simp [hk.directory l h]
  · simp [hk.link l t h]

theorem Disk.IsTree.isWay_above {d : Disk} (ht : d.IsTree) {l rest : Location}
    (h : d.IsWay (l ++ rest)) : d.IsWay l := by
  by_cases hr : rest = []
  · rwa [hr, List.append_nil] at h
  · rcases h with h | ⟨t, h⟩
    · exact .inl (ht.dir_of_below hr h)
    · exact .inl (ht.dir_of_below hr h)

/-- A disk with all ways of another one, where what is found at a root is none of these ways. -/
structure Footing (base : Disk) (root : Path) (d : Disk) : Prop where
  ways : KeepsWays base d
  apart : ∀ l e, d.find false root = .ok (l, e) → ¬base.IsWay l

namespace Footing

variable {base d d' : Disk} {root : Path} {w m : World}

/-- Where a root leads to nothing, all ways stand apart from it but for a link at the root itself. -/
theorem of_absent (h : ∀ kind, d.status root ≠ .ok kind) : Footing (d.removeTree root).2 root d := by
  refine ⟨(part_removeTree d root).keeps.ways, ?_⟩
  intro l e hf
  obtain ⟨hc, spot, hw, rfl, he⟩ := find_ok hf
  have hplace : d.entryAt spot.location = some e := (walk_ok hw).1.trans he
  cases e with
  | directory =>
    obtain ⟨⟨k, hl⟩, hd⟩ := leads_of_find hf
    exact absurd (status_directory ⟨k, _, hl, hd⟩ hc) (h _)
  | file b =>
    simp only [removeTree, hf, IsWay, hplace]
    simp
  | link t =>
    have hnil : spot.location ≠ [] := by
      intro h0
      rw [h0, entryAt_root] at hplace
      cases hplace
    simp only [removeTree, hf, IsWay, entryAt_erase d hnil, if_pos]
    simp

section Keeping

variable (h : Footing base root d)

include h

theorem forward (hf : base.Forward root) : d.Forward root := h.ways.forward hf

/-- The ways of the base do not lead through what is removed with a tree at the root. -/
theorem removed (hb : base.IsTree) : KeepsWays base (d.removeTree root).2 := by
  have hstays : ∀ l, base.IsWay l → (d.removeTree root).2.entryAt l = d.entryAt l := by
    intro l hl
    cases hf : d.find false root with
    | error f => simp only [removeTree, hf]
    | ok r =>
      refine entryAt_removeTree hf ?_
      rintro ⟨rest, rfl⟩
      exact h.apart r.1 r.2 hf (hb.isWay_above hl)
  refine ⟨(part_removeTree d root).home.trans h.ways.home, ?_, ?_⟩
  · intro l hl
    rw [hstays l (.inl hl)]
    exact h.ways.directory l hl
  · intro l t hl
    rw [hstays l (.inr ⟨t, hl⟩)]
    exact h.ways.link l t hl

/-- Where the root leads to a directory, what is found at it stays the same as long as the ways stay. -/
theorem of_keepsWays {links : Nat} {top : Location} (hl : d.Leads root links top)
    (hd : d.entryAt top = some .directory) (hk : KeepsWays d d') : Footing base root d' :=
  ⟨h.ways.trans hk, fun l e hf => h.apart l e (hk.find_back hl hd hf)⟩

end Keeping

theorem vacated (h : Footing base root w.disk) (hb : base.IsTree) (hv : Vacated root w m) :
    Footing base root m.disk :=
  ⟨(h.removed hb).trans hv.ways, fun l e hf => h.apart l e (hv.part.find hf)⟩

theorem made (h : Footing base root w.disk) (hf : base.Forward root) (hm : Made root w m) :
    Footing base root m.disk := by
  refine ⟨h.ways.trans hm.adds.keeps.ways, ?_⟩
  rcases hm.new (h.forward hf) with hsame | hnew
  · rw [hsame]
    exact h.apart
  · exact fun l e hfind hway => h.ways.ne_none hway (hnew l e hfind)

end Footing

end ClassCensus
