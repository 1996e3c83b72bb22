import ClassCensus.Proofs.Disk.Sites
import ClassCensus.Proofs.Generation.Directory

/-!
# Disks over which files were put

A disk is overlaid by another one if files have come to it in places of files or links, or where nothing
was, and directories where nothing was (`Overlaid`). A way through the first disk that leads somewhere, or
ends at a file, does so on the other one too (`Overlaid.descend`). So a path that was reached once
(`Reached`) is ready or stuck ever after (`Reached.ready_or_stuck`).
-/

namespace ClassCensus.Disk

/-- Directories stay, links stay or files come in their places, and files stay files. -/
structure Overlaid (d d' : Disk) : Prop where
  home : d'.home = d.home
  directory : ∀ l, d.entryAt l = some .directory → d'.entryAt l = some .directory
  link : ∀ l t, d.entryAt l = some (.link t) →
    d'.entryAt l = some (.link t) ∨ ∃ b, d'.entryAt l = some (.file b)
  file : ∀ l b, d.entryAt l = some (.file b) → ∃ b', d'.entryAt l = some (.file b')

namespace Overlaid

variable {d d' d'' : Disk}

theorem of_same (h : Same d d') : Overlaid d d' :=
  ⟨h.home, fun l hl => (h.entry l).trans hl, fun l _ hl => .inl ((h.entry l).trans hl),
    fun l b hl => ⟨b, (h.entry l).trans hl⟩⟩

theorem refl (d : Disk) : Overlaid d d := of_same (.refl d)

theorem trans (h : Overlaid d d') (h' : Overlaid d' d'') : Overlaid d d'' := by
  refine ⟨h'.home.trans h.home, fun l hl => h'.directory l (h.directory l hl), ?_, ?_⟩
  · intro l t hl
    rcases h.link l t hl with hl | ⟨b, hl⟩
    · exact h'.link l t hl
    · exact .inr (h'.file l b hl)
  · intro l b hl
    obtain ⟨b', hl⟩ := h.file l b hl
    exact h'.file l b' hl

theorem of_addsDirs {within : Location → Prop} (h : AddsDirs within d d') : Overlaid d d' := by
  have hkeep : ∀ l e, d.entryAt l = some e → d'.entryAt l = some e := by
    intro l e hl
    rcases h.entry l with h0 | ⟨h0, -⟩
    · rw [h0, hl]
    · rw [h0] at hl
      cases hl
  exact ⟨h.home, fun l => hkeep l _, fun l t hl => .inl (hkeep l _ hl),
    fun l b hl => ⟨b, hkeep l _ hl⟩⟩

theorem put_file {l : Location} (hl : l ≠ []) (b : ByteArray)
    (hd : d.entryAt l ≠ some .directory) : Overlaid d (d.put l (.file b)) := by
  have hput := entryAt_put d hl (.file b)
  refine ⟨rfl, ?_, ?_, ?_⟩
  · intro k hk
    rw [hput, if_neg (by rintro rfl; exact hd hk), hk]
  · intro k t hk
    rw [hput]
    by_cases hkl : k = l
    · exact .inr ⟨b, if_pos hkl⟩
    · exact .inl (by rw [if_neg hkl, hk])
  · intro k b' hk
    rw [hput]
    by_cases hkl : k = l
    · exact ⟨b, if_pos hkl⟩
    · exact ⟨b', by rw [if_neg hkl, hk]⟩

theorem startOf (h : Overlaid d d') (p : Path) : d'.startOf p = d.startOf p := by
  simp only [Disk.startOf, h.home]

variable {links : Nat} {here : Location} {names : List Octets}

/-- A way that leads somewhere, or ends at a file, does as before or has come to end at a file. -/
theorem descend (h : Overlaid d d')
    (hd : ∀ f, d.descend links here names = .error f → f = .notDirectory) :
    d'.descend links here names = d.descend links here names ∨
      d'.descend links here names = .error .notDirectory := by
  induction links, here, names using way_induction d with
  | nil links here => exact .inl ((descend_nil ..).trans (descend_nil ..).symm)
  | current links here rest ih =>
    rw [descend_current, descend_current]
    exact ih fun f hf => hd f (by rw [descend_current, hf])
  | parent links here rest ih =>
    rw [descend_parent, descend_parent]
    exact ih fun f hf => hd f (by rw [descend_parent, hf])
  | long links here name rest hn hlong => cases hd _ (descend_long hn hlong)
  | missing links here name rest hn hlong hnone => cases hd _ (descend_missing hn hlong hnone)
  | directory links here name rest hn hlong hdir ih =>
    rw [descend_directory hn hlong hdir] at hd ⊢
    rw [descend_directory hn hlong (h.directory _ hdir)]
    exact ih hd
  | file links here name rest bytes hn hlong hfile =>
    obtain ⟨b, hfile⟩ := h.file _ _ hfile
    exact .inr (descend_file hn hlong hfile)
  | noLink here name rest target hn hlong hlink => cases hd _ (descend_noLink hn hlong hlink)
  | link links here name rest target hn hlong hlink ih =>
    -- a link leads on as before, unless a file has come in its place
    rcases h.link _ _ hlink with hlink' | ⟨b, hfile⟩
    · rw [descend_link hn hlong hlink] at hd ⊢
      rw [descend_link hn hlong hlink']
      split
      · exact .inl rfl
      · rename_i hne
        rw [if_neg hne] at hd
        exact ih hd
    · exact .inr (descend_file hn hlong hfile)

theorem descend_ok (h : Overlaid d d') {r : Nat × Location}
    (hd : d.descend links here names = .ok r) :
    d'.descend links here names = .ok r ∨ d'.descend links here names = .error .notDirectory := by
  have hway := h.descend fun f hf => nomatch hd.symm.trans hf
  rwa [hd] at hway

theorem descend_notDirectory (h : Overlaid d d')
    (hd : d.descend links here names = .error .notDirectory) :
    d'.descend links here names = .error .notDirectory := by
  have hway := h.descend fun f hf => (Except.error.inj (hd.symm.trans hf)).symm
  rwa [hd, or_self] at hway

end Overlaid

/-- The ways on a disk where a file was put go where they went before. -/
theorem keepsWays_put_file {d : Disk} {l : Location} (hl : l ≠ []) (b : ByteArray) :
    KeepsWays (d.put l (.file b)) d := by
  have hput := entryAt_put d hl (.file b)
  have hother : ∀ k e, e ≠ .file b → (d.put l (.file b)).entryAt k = some e → d.entryAt k = some e := by
    intro k e he hk
    rw [hput] at hk
    split at hk
    · exact absurd (Option.some.inj hk).symm he
    · exact hk
  exact ⟨rfl, fun k => hother k _ nofun, fun k t => hother k _ nofun⟩

/-! ### Paths that are reached -/

/-- The way of a path leads somewhere, or ends at a file. -/
def Reached (d : Disk) (p : Path) : Prop :=
  (∃ r, d.descend linkLimit (d.startOf p) p.steps = .ok r) ∨
    d.descend linkLimit (d.startOf p) p.steps = .error .notDirectory

variable {d d' : Disk} {p q : Path} {names : List Octets}

theorem Overlaid.reached (h : Overlaid d d') (hp : d.Reached p) : d'.Reached p := by
  unfold Reached
  rw [h.startOf]
  rcases hp with ⟨r, hr⟩ | hr
  · exact (h.descend_ok hr).imp_left fun h0 => ⟨r, h0⟩
  · exact .inr (h.descend_notDirectory hr)

/-- Above a path that is reached all paths are. -/
theorem Reached.above (h : d.Reached p) (hq : q.steps <+: p.steps) (hhead : d.startOf q = d.startOf p) :
    d.Reached q := by
  unfold Reached at h ⊢
  obtain ⟨rest, hrest⟩ := hq
  rw [← hrest, descend_append, ← hhead] at h
  cases hlead : d.descend linkLimit (d.startOf q) q.steps with
  | error f =>
    rw [hlead] at h
    exact h.imp_left fun ⟨_, h0⟩ => nomatch h0
  | ok r => exact .inl ⟨r, rfl⟩

theorem Leads.reached {links : Nat} {here : Location} (h : d.Leads p links here) : d.Reached p :=
  .inl ⟨(links, here), leads_iff.mp h⟩

theorem stuck_of_notDirectory (h : d.descend linkLimit (d.startOf p) p.steps = .error .notDirectory) :
    d.Stuck p := by
  refine ⟨fun h0 => ?_, .inr ⟨_, by simp, h⟩⟩
  rw [leads_iff.mp (leads_of_empty h0)] at h
  cases h

variable (ht : d.IsTree) (hstart : d.entryAt (d.startOf p) = some .directory)
include ht hstart

theorem Reached.ready_or_stuck (h : d.Reached p) : p.octets = [] ∨ d.Ready p ∨ d.Stuck p := by
  by_cases hp : p.octets = []
  · exact .inl hp
  refine .inr ?_
  rcases h with ⟨⟨k, l⟩, hr⟩ | hr
  · rcases checkPath_cases p with hc | ⟨f, hf⟩
    · exact .inl ⟨.inr hc, k, l, leads_iff.mpr hr, directory_of_descend ht hstart hr⟩
    · exact .inr ⟨hp, .inl ⟨f, hf⟩⟩
  · exact .inr (stuck_of_notDirectory hr)

/-- Above a path that leads somewhere, and at names below it, a path goes back at directories only. -/
theorem forward_of_descend {r : Nat × Location}
    (h : d.descend linkLimit (d.startOf p) p.steps = .ok r) (hq : q.steps <+: p.steps ++ names)
    (hback : [Octet.dot, Octet.dot] ∉ names) (hhead : d.startOf q = d.startOf p) : d.Forward q := by
  intro before after hsteps
  have hbefore : before ++ [[Octet.dot, Octet.dot]] <+: p.steps ++ names := by
    refine List.IsPrefix.trans ⟨after, ?_⟩ hq
    rw [hsteps, List.append_assoc, List.singleton_append]
  -- the names do not go back, so a step back stands on the way that is known to lead somewhere
  have habove : before <+: p.steps := by
    rcases List.prefix_or_prefix_of_prefix hbefore (List.prefix_append p.steps names) with h0 | h0
    · exact (List.prefix_append ..).trans h0
    · rcases List.prefix_concat_iff.mp h0 with h0 | ⟨mid, rfl⟩
      · exact h0 ▸ List.prefix_append ..
      · rw [List.append_assoc, List.prefix_append_right_inj] at hbefore
        exact absurd (hbefore.subset (by simp)) hback
  obtain ⟨rest, hrest⟩ := habove
  rw [hhead]
  rw [← hrest, descend_append] at h
  cases hlead : d.descend linkLimit (d.startOf p) before with
  | error f =>
    rw [hlead] at h
    cases h
  | ok r' => exact ⟨r'.1, r'.2, rfl, directory_of_descend ht hstart hlead⟩

/-- Above a path that is reached, and at names below it, a path is stuck or goes back at directories
only. -/
theorem Reached.stuck_or_forward (h : d.Reached p) (hq : q.steps <+: p.steps ++ names)
    (hback : [Octet.dot, Octet.dot] ∉ names) (hhead : d.startOf q = d.startOf p) :
    d.Stuck q ∨ d.Forward q := by
  rcases h with ⟨r, hr⟩ | hr
  · exact .inr (forward_of_descend ht hstart hr hq hback hhead)
  · -- the way ends at a file: above that file `q` leads somewhere, below it `q` is stuck
    rcases List.prefix_or_prefix_of_prefix hq (List.prefix_append p.steps names) with
      ⟨rest, hrest⟩ | ⟨rest, hrest⟩
    · rw [← hrest, descend_append, ← hhead] at hr
      cases hlead : d.descend linkLimit (d.startOf q) q.steps with
      | error f =>
        rw [hlead] at hr
        cases hr
        exact .inl (stuck_of_notDirectory hlead)
      | ok r =>
        exact .inr (forward_of_descend ht (hhead ▸ hstart) hlead (List.prefix_append q.steps [])
          (by simp) rfl)
    · refine .inl (stuck_of_notDirectory ?_)
      rw [← hrest, descend_append, hhead, hr]
      rfl

end ClassCensus.Disk
