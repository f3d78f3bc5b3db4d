import Lindenmayer.Proofs.Expansion.Interruption
import Lindenmayer.Proofs.Render.Picture

set_option autoImplicit false

/-! # The questions of a run

How many questions a picture asks on its way, when nothing halts it: one before every generation and
one before every block of it that is rewritten (`generationQuestions`), and one before every symbol
in either walk. The number depends on the configuration only (`Config.questions`), and a picture
that can be made is made exactly when none of its questions is answered with `halt`
(`Config.picture_asks`). -/

namespace Lindenmayer

variable {σ : Type}

/-! ## Expansion -/

/-- The questions on the way to the sequence `n` generations after a sequence. -/
def generationQuestions (table : RuleTable) : Nat → List Char → Nat
  | 0, _ => 0
  | n + 1, sequence =>
    1 + (blocks sequence).length + generationQuestions table n (nextGeneration table sequence)

/-- Within the limit no question is left out. -/
theorem questionsWithin_of_ok {table : RuleTable} {limit n : Nat} {sequence result : List Char}
    (h : generationWithin table limit n sequence = .ok result) :
    questionsWithin table limit n sequence = generationQuestions table n sequence := by
  induction n generalizing sequence with
  | zero => rfl
  | succ n ih =>
    unfold generationWithin at h
    split at h
    · cases h
    · next hlimit => rw [questionsWithin, if_neg hlimit, ih h, generationQuestions]

/-- An expansion that stays within its limit asks the questions of its generations. -/
theorem expandWatched_asks (check : Checkpoint σ) {table : RuleTable} {limit n : Nat}
    {start sequence : List Char} (h : expandWithin table limit start n = .ok sequence) :
    (expandWatched check table limit start n).Asks check
      (generationQuestions table n (stripCommas start)) (.ok sequence) := by
  have hasks := expandWatched_asksWithin check table limit start n
  rw [h] at hasks
  rw [expandWithin_eq_ite] at h
  split at h
  · cases h
  · next hlimit =>
    rwa [if_neg hlimit, questionsWithin_of_ok h] at hasks

/-! ## Walks -/

section Walks

variable {α : Type} [Scalar α]

/-- A walk that is completed asks once for each character. -/
theorem Turtle.walk_asks (check : Checkpoint σ) {turtle : Turtle α} {mode : Mode}
    {sequence : List Char} {pose : Pose α} {trail : Trail α}
    (h : turtle.follow mode sequence pose = .ok trail) :
    (turtle.walk mode check sequence pose).Asks check sequence.length (.ok trail) := by
  rw [follow_eq_foldlM] at h
  exact Watched.Asks.ofSweep h

theorem Fit.measure_asks (check : Checkpoint σ) {fit : Fit α} {sequence : List Char}
    {bounds : BoundingBox α} (h : fit.turtle.bounds sequence = .ok bounds) :
    (fit.measure check sequence).Asks check sequence.length
      (.ok (Placement.ofBounds fit.frame bounds)) := by
  unfold Turtle.bounds at h
  cases hf : fit.turtle.follow .measure sequence Pose.initial with
  | error failure =>
    rw [hf] at h
    cases h
  | ok trail =>
    rw [hf] at h
    cases h
    exact (Turtle.walk_asks check hf).map fun trail => Placement.ofBounds fit.frame trail.bounds

end Walks

/-! ## Pictures -/

namespace Config

variable {α : Type} [Scalar α]

/-- The number of questions that the picture of a configuration asks when nothing halts it. -/
def questions (c : Config α) (table : RuleTable) : Nat :=
  (c.picture table (Checkpoint.budget none) 0).2

theorem picture_asks_sum (check : Checkpoint σ) {c : Config α} {table : RuleTable}
    {sequence : List Char} {placement : Placement α} {segments : List (Segment α)}
    (hexpand : expandWithin table c.maxSymbols c.startSequence.toList c.generations = .ok sequence)
    (hrender : c.fit.render sequence = .ok (placement, segments)) :
    (c.picture table check).Asks check
      (generationQuestions table c.generations (stripCommas c.startSequence.toList)
        + (sequence.length + (sequence.length + 0)))
      (.ok (c.pictureOf sequence placement segments)) := by
  obtain ⟨bounds, trail, hbounds, rfl, hdraw, rfl⟩ := Fit.render_eq_ok hrender
  exact (expandWatched_asks check hexpand).andThen
    ((Fit.measure_asks check hbounds).andThen
      ((Turtle.walk_asks check hdraw).andThen (Watched.Asks.done _)))

/-- The questions of a picture are those of its generations and two for every symbol. -/
theorem questions_eq {c : Config α} {table : RuleTable} {picture : Picture α} {sequence : List Char}
    (hexpand : expandWithin table c.maxSymbols c.startSequence.toList c.generations = .ok sequence)
    (h : c.undisturbedPicture table = .ok picture) :
    c.questions table
      = generationQuestions table c.generations (stripCommas c.startSequence.toList)
        + 2 * sequence.length := by
  obtain ⟨sequence', placement, segments, hexpand', hrender, -⟩ := exists_rendered h
  cases hexpand.symm.trans hexpand'
  have hcount := picture_asks_sum (Checkpoint.budget none) hexpand hrender 0
  rw [Checkpoint.consult_budget_none] at hcount
  unfold questions
  rw [hcount]
  simp only
  omega

/-- **A picture is made exactly when none of its questions halts**, and is halted at the first that
does. -/
theorem picture_asks (check : Checkpoint σ) {c : Config α} {table : RuleTable} {picture : Picture α}
    (h : c.undisturbedPicture table = .ok picture) :
    (c.picture table check).Asks check (c.questions table) (.ok picture) := by
  obtain ⟨sequence, placement, segments, hexpand, hrender, rfl⟩ := exists_rendered h
  have hasks := picture_asks_sum check hexpand hrender
  have hcount : generationQuestions table c.generations (stripCommas c.startSequence.toList)
      + (sequence.length + (sequence.length + 0)) = c.questions table := by
    rw [questions_eq hexpand h]
    omega
  rw [hcount] at hasks
  exact hasks

end Config

end Lindenmayer
