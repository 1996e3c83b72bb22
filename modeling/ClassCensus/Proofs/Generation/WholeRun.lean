import ClassCensus.Proofs.Generation.Footing
import ClassCensus.Proofs.Generation.Visits

/-!
# A whole run

A generation opens with its output root, which is removed first if artifacts are to be replaced and is
made in any case, and goes on with its classes (`Setup.generate_eq`). Afterwards the root is ready, and
if its path goes forward it is vacant or the disk is as it was (`ensures_opening`).
-/

namespace ClassCensus

open Disk

variable {ε : Type} [ClassEngine ε]

namespace Setup

variable (s : Setup ε)

def generate (names : List String) : Attempt GenerationReport :=
  ClassCensus.generate s.session s.isStack names s.root s.replace

/-- What a generation does before it comes to its classes. -/
def opening : Attempt Unit := do
  if s.replace then removeOutputRoot s.root
  Attempt.atPath s.root (makeDirs s.root)

/-- What a generation tells in the end. -/
def finished (report : GenerationReport) : Attempt GenerationReport := do
  Attempt.ofJob <| Job.tell <|
    .generationFinished report.total report.generated.length report.skipped.length
      report.failures.length s.root
  return report

theorem generate_eq (names : List String) :
    s.generate names = (do
      s.opening
      let report ← s.generateAll .empty names
      s.finished report) := by
  unfold generate ClassCensus.generate opening generateAll finished
  cases s.replace with
  | true => simp only [if_true, bind_assoc]
  | false => rfl

/-- Wherever the output root goes back it comes to a directory that is there when the root is made. A run
that replaces artifacts has removed what lies at the root before. -/
def GoesForward (d : Disk) : Prop := (if s.replace then (d.removeTree s.root).2 else d).Forward s.root

theorem goesForward_of_no_back {s : Setup ε} {d : Disk}
    (h : [Octet.dot, Octet.dot] ∉ s.root.steps) : s.GoesForward d :=
  forward_of_no_back h

theorem goesForward_of_footing {s : Setup ε} {base d : Disk} (hb : base.IsTree)
    (hforward : base.Forward s.root) (h : Footing base s.root d) : s.GoesForward d := by
  unfold GoesForward
  split
  · exact (h.removed hb).forward hforward
  · exact h.forward hforward

/-- Between two worlds nothing happens but what makes the place of the output root vacant. -/
structure Opening (w m : World) : Prop where
  process : m.process = w.process
  clock : m.clock = w.clock
  tree : m.disk.IsTree
  disk : s.GoesForward w.disk → m.disk = w.disk ∨ m.disk.Vacant s.root
  footing : ∀ base : Disk, base.IsTree → base.Forward s.root → Footing base s.root w.disk →
    Footing base s.root m.disk

/-- A world in which the output root is made. -/
structure Opened (w m : World) : Prop where
  ready : s.root.octets = [] ∨ m.disk.Ready s.root
  vacant : s.replace = true → s.root.octets ≠ [] → s.GoesForward w.disk → m.disk.Vacant s.root

end Setup

variable {s : Setup ε} {w m m' : World}

theorem Setup.Opening.of_vacated (h : Vacated s.root w m) : s.Opening w m :=
  ⟨h.process, h.clock, h.tree, fun _ => h.disk, fun _ hb _ hf => hf.vacated hb h⟩

theorem Setup.Opening.made (h : s.Opening w m) (hforward : s.GoesForward w.disk → m.disk.Forward s.root)
    (hm : Made s.root m m') : s.Opening w m' := by
  refine ⟨hm.process.trans h.process, hm.clock.trans h.clock, hm.tree, ?_,
    fun base hb hforward hf => (h.footing base hb hforward hf).made hforward hm⟩
  intro hr
  rcases hm.vacant (hforward hr) with h0 | h0
  · rw [h0]
    exact h.disk hr
  · exact .inr h0

/-- The opening of a run. A run that keeps artifacts only makes the directories of its root. -/
theorem ensures_opening (ht : w.disk.IsTree) :
    Attempt.Ensures s.opening w (s.Opening w) fun r w1 =>
      s.Opening w w1 ∧ (r = .ok () → s.Opened w w1) ∧
        (s.replace = false → Made s.root w w1 ∧ (s.root.octets = [] → w1.disk = w.disk) ∧
          w1 = ((makeDirs s.root).run w).2) := by
  unfold Setup.opening
  cases hrep : s.replace with
  | false =>
    have hopen : s.Opening w w := ⟨rfl, rfl, ht, fun _ => .inl rfl, fun _ _ _ hf => hf⟩
    have hforward : s.GoesForward w.disk → w.disk.Forward s.root := by
      simp [Setup.GoesForward, hrep]
    have hmake := (ensures_makeDirs s.root w ht).self
    refine .atPath (hmake.mono (fun m hm => hopen.made hforward hm) ?_)
    rintro r w1 ⟨⟨hm, hempty, hr⟩, hrun⟩
    refine ⟨hopen.made hforward hm, ?_, fun _ => ⟨hm, hempty, by rw [hrun]⟩⟩
    intro h0
    refine ⟨hr ?_, by simp [hrep]⟩
    cases r with
    | ok u => rfl
    | error f => cases h0
  | true =>
    simp only [if_true]
    refine .bind ((ensures_removeOutputRoot s.root w ht).mono
      (fun m hm => .of_vacated hm) ?_)
    rintro r w1 ⟨hvac, hrem⟩
    have hopen : s.Opening w w1 := .of_vacated hvac
    have hforward : s.GoesForward w.disk → w1.disk.Forward s.root := by
      simp only [Setup.GoesForward, hrep, if_true]
      exact hvac.ways.forward
    cases r with
    | error e => exact ⟨hopen, by simp, by simp⟩
    | ok u =>
      refine .atPath ((ensures_makeDirs s.root w1 hvac.tree).mono (fun m hm => hopen.made hforward hm) ?_)
      rintro r w2 ⟨hm, -, hr⟩
      refine ⟨hopen.made hforward hm, ?_, by simp⟩
      intro h0
      refine ⟨hr ?_, ?_⟩
      · cases r with
        | ok u => rfl
        | error f => cases h0
      · intro _ hne hback
        rcases hm.vacant (hforward hback) with h1 | h1
        · rw [h1]
          exact hrem rfl hne
        · exact h1

/-- A run is its opening and its classes. -/
theorem ensures_generate {names : List String} {inv : World → Prop}
    {post : Except CensusError GenerationReport → World → Prop}
    (htell : ∀ m event, inv m → inv { m with log := event :: m.log })
    (h : Attempt.Ensures s.opening w inv fun r w1 =>
      match r with
      | .ok () => Attempt.Ensures (s.generateAll .empty names) w1 inv fun r w2 =>
          inv w2 ∧ ∀ log, post r { w2 with log }
      | .error e => post (.error e) w1) :
    Attempt.Ensures (s.generate names) w inv post := by
  rw [s.generate_eq]
  refine .bind (h.post ?_)
  intro r w1 hr
  cases r with
  | error e => exact hr
  | ok u =>
    refine .bind (Job.Ensures.post hr ?_)
    rintro r w2 ⟨hi, hp⟩
    cases r with
    | error e => exact hp w2.log
    | ok report => exact .bind (.ofJob (.ofStep (htell w2 _ hi) (.pure (hp _))))

end ClassCensus
