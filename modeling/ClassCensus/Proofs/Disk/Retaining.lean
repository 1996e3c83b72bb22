import ClassCensus.Proofs.Disk.LastNames

/-!
# What is retained while artifacts are put in place

Files are put in place by writing them beside it, under a temporary name, and renaming them. Where no
link has the name of an artifact (`LinksAside`) this takes nothing away but temporary files
(`Retains.write`, `Retains.rename`), so that an artifact that is there stays there
(`Retains.status`).
-/

namespace ClassCensus

/-- The name of a temporary file. -/
def IsTemporaryName (name : Octets) : Prop := Text.bytesOf ".tmp" <:+ name

/-- The name of a dump, of a metrics file or of a temporary file. -/
def IsArtifactName (name : Octets) : Prop :=
  ∃ ending ∈ ([".ir", ".json", ".tmp"] : List Octets), ending <:+ name

instance (name : Octets) : Decidable (IsArtifactName name) :=
  inferInstanceAs 
    (Decidable (∃ ending ∈ ([".ir", ".json", ".tmp"] : List Octets), ending <:+ name))

theorem IsTemporaryName.isArtifactName {name : Octets} (h : IsTemporaryName name) :
    IsArtifactName name :=
  ⟨".tmp", by simp, h⟩

theorem IsArtifactName.isEntryName {name : Octets} (h : IsArtifactName name) :
    Disk.IsEntryName name := by
  obtain ⟨ending, hmem, hsuffix⟩ := h
  have hlong : 3 ≤ ending.length := by
    simp only [List.mem_cons, List.not_mem_nil, or_false] at hmem
    rcases hmem with rfl | rfl | rfl <;> decide
  have hle := hsuffix.length_le
  refine ⟨?_, ?_⟩
  · rintro rfl
    exact absurd (Nat.le_trans hlong hle) (by decide : ¬3 ≤ [Octet.dot].length)
  · rintro rfl
    exact absurd (Nat.le_trans hlong hle) (by decide : ¬3 ≤ [Octet.dot, Octet.dot].length)

namespace Disk

variable {d d' d'' : Disk} {p temporary : Path} {name : Octets}

/-- No link has the name of an artifact. -/
def LinksAside (d : Disk) : Prop :=
  ∀ here name t, d.entryAt (here ++ [name]) = some (.link t) → ¬IsArtifactName name

theorem LinksAside.of_entries
    (h : ∀ e ∈ d.entries, e.2.kind = .link → ∀ name, e.1.getLast? = some name →
      ¬IsArtifactName name) : d.LinksAside := by
  intro here name t he
  exact h _ (mem_of_entryAt (by simp) he) rfl name (by simp)

theorem LinksAside.location (hd : d.LinksAside) (hname : IsArtifactName name) (hp : EndsIn p name)
    {fl : Bool} {spot : Spot} (h : d.locate fl p = .ok spot) :
    ∃ here, spot.location = here ++ [name] ∧ ∀ t, spot.entry ≠ some (.link t) := by
  obtain ⟨here, hlocation⟩ :=
    location_of_endsIn hname.isEntryName (fun here t ht => hd here name t ht hname) hp h
  refine ⟨here, hlocation, ?_⟩
  intro t ht
  have hentry := (walk_ok (locate_eq_ok_iff.mp h).2).1
  rw [hlocation, ht] at hentry
  exact hd here name t hentry hname

/-- A path that ends in the name of a dump or of a metrics file, if in a name at all. -/
def IsArtifactPath (p : Path) : Prop :=
  p.fileName = none ∨ ∃ name, EndsIn p name ∧ IsArtifactName name ∧ ¬IsTemporaryName name

theorem isArtifactPath_withExtension (p : Path) {ext : Octets}
    (h : ext ∈ (["ir", "json"] : List Octets)) : IsArtifactPath (p.withExtension ext) := by
  have hcases : ext = "ir" ∨ ext = "json" := by simpa using h
  have hext : Octet.slash ∉ ext := by rcases hcases with rfl | rfl <;> decide
  refine (endsIn_withExtension p hext).imp id ?_
  rintro ⟨stem, hends⟩
  refine ⟨_, hends, ⟨Octet.dot :: ext, ?_, List.suffix_append _ _⟩, ?_⟩
  · rcases hcases with rfl | rfl <;> decide
  · rintro ⟨front, hfront⟩
    have h0 := congrArg List.getLast? hfront
    have htmp : (Text.bytesOf ".tmp").getLast? = some 'p'.toUInt8 := rfl
    rw [List.getLast?_append, List.getLast?_append, htmp, Option.some_or] at h0
    rcases hcases with rfl | rfl <;> cases h0

/-- From one disk to another directories and links stay, no link is added, and a file can go only if
it is temporary. -/
structure Retains (d d' : Disk) : Prop where
  ways : KeepsWays d d'
  links : ∀ l t, d'.entryAt l = some (.link t) → d.entryAt l = some (.link t)
  files : ∀ here name b, ¬IsTemporaryName name → d.entryAt (here ++ [name]) = some (.file b) →
    ∃ b', d'.entryAt (here ++ [name]) = some (.file b')

namespace Retains

theorem of_disk (h : d' = d) : Retains d d' := by
  subst h
  exact ⟨⟨rfl, fun _ h => h, fun _ _ h => h⟩, fun _ _ h => h, fun _ _ b _ h => ⟨b, h⟩⟩

theorem trans (h1 : Retains d d') (h2 : Retains d' d'') : Retains d d'' := by
  refine ⟨h1.ways.trans h2.ways, fun l t h => h1.links l t (h2.links l t h), ?_⟩
  intro here name b hname hb
  obtain ⟨b', hb'⟩ := h1.files here name b hname hb
  exact h2.files here name b' hname hb'

theorem linksAside (h : Retains d d') (hd : d.LinksAside) : d'.LinksAside :=
  fun here name t ht => hd here name t (h.links _ t ht)

theorem of_addsDirs {within : Location → Prop} (h : AddsDirs within d d') : Retains d d' := by
  refine ⟨h.keeps.ways, ?_, fun here name b _ hb => h.keeps.file hb⟩
  intro l t ht
  rw [← h.entry_of_ne (by simp [ht]), ht]

/-- A file that is put where no directory and no link is. -/
theorem put_file {l : Location} (hl : l ≠ []) (b : ByteArray) (hdir : d.entryAt l ≠ some .directory)
    (hlink : ∀ t, d.entryAt l ≠ some (.link t)) : Retains d (d.put l (.file b)) := by
  refine ⟨.put_file hl b hdir hlink, ?_, ?_⟩
  · intro k t ht
    rw [entryAt_put d hl] at ht
    split at ht
    · cases ht
    · exact ht
  · intro here name b' _ hb'
    rw [entryAt_put d hl]
    split
    · exact ⟨b, rfl⟩
    · exact ⟨b', hb'⟩

theorem write {bytes : ByteArray} (h : d.write p bytes = .ok d') : Retains d d' := by
  obtain ⟨spot, -, -, hne, hdir, hlink, rfl⟩ := write_ok h
  exact .put_file hne bytes hdir hlink

/-- A temporary file that goes. -/
theorem erase_temporary {here : Location} {b : ByteArray} (hname : IsTemporaryName name)
    (hfile : d.entryAt (here ++ [name]) = some (.file b)) :
    Retains d (d.erase (here ++ [name])) := by
  have hne : here ++ [name] ≠ [] := by simp
  refine ⟨.erase_file hne hfile, ?_, ?_⟩
  · intro k t ht
    rw [entryAt_erase d hne] at ht
    split at ht
    · cases ht
    · exact ht
  · intro here' name' b' hname' hb'
    refine ⟨b', ?_⟩
    rw [entryAt_erase d hne, if_neg, hb']
    intro heq
    rw [(List.append_inj' heq rfl).2 |> List.singleton_inj.mp] at hname'
    exact hname' hname

/-- A temporary file is given the place of an artifact, where it is found then. -/
theorem rename {temporaryName : Octets} (hd : d.LinksAside)
    (htemporary : EndsIn temporary temporaryName) (htmp : IsTemporaryName temporaryName)
    (hp : EndsIn p name) (hname : IsArtifactName name)
    (h : d.rename temporary p = .ok d') : Retains d d' ∧ d'.status p = .ok .file := by
  obtain ⟨l, e, spot, hfind, hspot, hnodir, hdir, hslash, rfl⟩ := rename_ok h
  obtain ⟨source, hsource, rfl, hentry, -⟩ := find_eq_ok_iff.mp hfind
  obtain ⟨here, hhere, hnolink⟩ := hd.location htmp.isArtifactName htemporary hsource
  obtain ⟨there, hthere, hfree⟩ := hd.location hname hp hspot
  have hsaid := (walk_ok (locate_eq_ok_iff.mp hspot).2).1
  have hfile : d.entryAt source.location = some e :=
    (walk_ok (locate_eq_ok_iff.mp hsource).2).1.trans hentry
  obtain ⟨b, rfl⟩ : ∃ b, e = .file b := by
    cases e with
    | directory => exact absurd rfl hnodir
    | file b => exact ⟨b, rfl⟩
    | link t => exact absurd hentry (hnolink t)
  have hne : spot.location ≠ [] := by simp [hthere]
  have hmoved : Retains d (if spot.location = source.location then d
      else (d.erase source.location).put spot.location (.file b)) ∧
      (if spot.location = source.location then d
        else (d.erase source.location).put spot.location (.file b)).entryAt spot.location =
          some (.file b) := by
    split
    · rename_i hsame
      exact ⟨.of_disk rfl, hsame ▸ hfile⟩
    · rename_i hother
      have hstays : (d.erase source.location).entryAt spot.location = spot.entry := by
        rw [entryAt_erase d (by simp [hhere]), if_neg hother, hsaid]
      have herased : Retains d (d.erase source.location) := by
        rw [hhere] at hfile ⊢
        exact .erase_temporary htmp hfile
      refine ⟨herased.trans (.put_file hne b ?_ ?_), by rw [entryAt_put _ hne, if_pos rfl]⟩
      · rw [hstays, ← hsaid]
        exact hdir
      · rw [hstays]
        exact hfree
  obtain ⟨hretains, hthere⟩ := hmoved
  refine ⟨hretains, ?_⟩
  have hlocate := locate_followed (hretains.ways.locate hspot hthere (by simp)) (by simp)
  refine status_eq_ok_iff.mpr ⟨_, _, find_eq_ok_iff.mpr ⟨_, hlocate, rfl, rfl, ?_⟩, rfl⟩
  intro h0
  rw [hslash] at h0
  cases h0

/-- What is found at the place of an artifact is found there later, if it is not temporary. -/
theorem status {kind : EntryKind} (h : Retains d d') (hd : d.LinksAside)
    (hp : IsArtifactPath p)
    (hs : d.status p = .ok kind) : d'.status p = .ok kind := by
  obtain ⟨l, e, hfind, rfl⟩ := status_eq_ok_iff.mp hs
  have hentry : d.entryAt l = some e := by
    obtain ⟨spot, hspot, rfl, he, -⟩ := find_eq_ok_iff.mp hfind
    exact (walk_ok (locate_eq_ok_iff.mp hspot).2).1.trans he
  obtain ⟨e', he', halike⟩ : ∃ e', d'.entryAt l = some e' ∧ e.Alike e' := by
    cases e with
    | directory => exact ⟨_, h.ways.directory l hentry, .refl _⟩
    | link t => exact ⟨_, h.ways.link l t hentry, .refl _⟩
    | file b =>
      rcases hp with hp | ⟨name, hp, hname, htmp⟩
      · cases directory_of_fileName hp hfind
      · obtain ⟨spot, hspot, rfl, -, -⟩ := find_eq_ok_iff.mp hfind
        obtain ⟨here, hhere, -⟩ := hd.location hname hp hspot
        rw [hhere] at hentry ⊢
        obtain ⟨b', hb'⟩ := h.files here name b htmp hentry
        exact ⟨_, hb', trivial⟩
  have hkind : e'.kind = e.kind := by
    cases e <;> cases e' <;> simp_all [Entry.Alike, Entry.kind]
  rw [← hkind]
  exact status_of_find (h.ways.find hfind he' halike)

end Retains

end Disk

end ClassCensus
