import Mathlib.Algebra.BigOperators.Group.Finset.Basic
import Lindenmayer.Proofs.Consultation
import Lindenmayer.Proofs.Expansion.Limit
import Lindenmayer.Proofs.Grammar.Table

set_option autoImplicit false

/-! # Interrupted expansions

A limited expansion asks its checkpoint before every generation, and on the way to a generation
before every block of 4096 characters that it rewrites. It can end in three ways: with its last
generation, at the first generation that is predicted to be over the limit, or at a question that is
answered with `halt`. How many questions there are when none is answered so does not depend on the
checkpoint: a generation is a question, a comparison and a loop (`generationAfterWatched_succ`), so
the questions of one add up to those of all (`generationAfterWatched_asksWithin`).

In numbers these are one for every generation and one for every block of the generation before, up
to the one question before a generation over the limit (`expansionQuestions`,
`expandWatched_asks_number`). After that many the expansion has its uninterrupted outcome, and no
earlier (`expandWatched_until_halt`). -/

namespace Lindenmayer

variable {σ : Type} {table : RuleTable} {limit : Nat}

/-! ## Blocks -/

/-- A sequence has one block for every 4096 characters, and one for the rest of them. -/
theorem length_blocks (sequence : List Char) :
    (blocks sequence).length = (sequence.length + 4095) / 4096 := by
  induction sequence using blocks.induct with
  | case1 => rw [blocks]; rfl
  | case2 c rest ih =>
    rw [blocks, List.length_cons, ih]
    simp only [List.length_drop, List.length_cons, blockLength]
    omega

/-! ## The questions of an expansion -/

/-- The questions on the way to the sequence `n` generations after a sequence, or to the first
generation that is predicted to be longer than the limit. -/
def questionsWithin (table : RuleTable) (limit : Nat) : Nat → List Char → Nat
  | 0, _ => 0
  | n + 1, sequence =>
    if limit < nextLength table sequence then 1
    else
      1 + (blocks sequence).length + questionsWithin table limit n (nextGeneration table sequence)

theorem nextGenerationWatched_asks (check : Checkpoint σ) (table : RuleTable)
    (sequence : List Char) :
    (nextGenerationWatched check table sequence).Asks check (blocks sequence).length
      (.ok (nextGeneration table sequence)) := by
  have hloop : (Watched.ofSweep check
      (fun written part => (.ok (nextGeneration table part :: written) : Except Failure _))
      (blocks sequence) []).Asks check (blocks sequence).length _ :=
    Watched.Asks.ofSweep (foldlM_written table (blocks sequence) [])
  have h := hloop.map fun written => written.reverse.flatten
  rw [← nextGenerationWatched_eq_map, reverse_flatten_written] at h
  exact h

theorem generationAfterWatched_asksWithin (check : Checkpoint σ) (table : RuleTable)
    (limit n : Nat) (sequence : List Char) :
    Watched.Asks (generationAfterWatched check table limit n sequence) check
      (questionsWithin table limit n sequence) (generationWithin table limit n sequence) := by
  induction n generalizing sequence with
  | zero => exact Watched.Asks.done sequence
  | succ n ih =>
    rw [generationAfterWatched_succ]
    unfold questionsWithin generationWithin
    by_cases hlimit : limit < nextLength table sequence
    · simp only [if_pos hlimit]
      show Watched.Asks _ check (1 + 0) _
      exact Watched.Asks.ask.andThen (.failed _)
    · have hwrite := nextGenerationWatched_asks check table sequence
      simp only [if_neg hlimit, Nat.add_assoc]
      exact Watched.Asks.ask.andThen (hwrite.andThen (ih _))

/-- **The questions of a limited expansion**, whether it comes to its end or to the limit. -/
theorem expandWatched_asksWithin (check : Checkpoint σ) (table : RuleTable) (limit : Nat)
    (start : List Char) (n : Nat) :
    (expandWatched check table limit start n).Asks check
      (if limit < min maxLength (byteLength (stripCommas start)) then 0
        else questionsWithin table limit n (stripCommas start))
      (expandWithin table limit start n) := by
  rw [expandWithin_eq_ite]
  by_cases hlimit : limit < min maxLength (byteLength (stripCommas start))
  · simp only [expandWatched_of_lt hlimit, if_pos hlimit]
    exact .failed _
  · simp only [expandWatched_of_not_lt hlimit, if_neg hlimit]
    exact generationAfterWatched_asksWithin check table limit n (stripCommas start)

/-! ## Their number -/

/-- The number of questions of a limited expansion up to generation `n`. Before a generation comes
one, and on the way to it one for every 4096 characters of the generation before, rounded up; before
the first generation that is longer than the limit, in bytes, comes one and no other. -/
def expansionQuestions (limit n : Nat) (generation : Nat → List Char) : Nat :=
  match (List.range (n + 1)).find? fun k => decide (limit < byteLength (generation k)) with
  | none => ∑ g ∈ Finset.range n, (1 + ((generation g).length + 4095) / 4096)
  | some 0 => 0
  | some (k + 1) => ∑ g ∈ Finset.range k, (1 + ((generation g).length + 4095) / 4096) + 1

section Number

variable {generation : Nat → List Char}

theorem expansionQuestions_of_lt (h : limit < byteLength (generation 0)) (n : Nat) :
    expansionQuestions limit n generation = 0 := by
  rw [expansionQuestions, find?_range_succ, decide_eq_true h]
  rfl

theorem expansionQuestions_zero (h : ¬ limit < byteLength (generation 0)) :
    expansionQuestions limit 0 generation = 0 := by
  rw [expansionQuestions, find?_range_succ, decide_eq_false h]
  rfl

theorem expansionQuestions_succ (h : ¬ limit < byteLength (generation 0)) (n : Nat) :
    expansionQuestions limit (n + 1) generation
      = if limit < byteLength (generation 1) then 1
        else 1 + ((generation 0).length + 4095) / 4096
          + expansionQuestions limit n fun k => generation (k + 1) := by
  rw [expansionQuestions, find?_range_succ, decide_eq_false h]
  by_cases hnext : limit < byteLength (generation 1)
  · rw [find?_range_succ, decide_eq_true hnext, if_pos hnext]
    rfl
  · rw [if_neg hnext, expansionQuestions]
    rcases hfind : (List.range (n + 1)).find?
      fun k => decide (limit < byteLength (generation (k + 1))) with _ | k
    · show ∑ g ∈ Finset.range (n + 1), _ = _ + ∑ g ∈ Finset.range n, _
      rw [Finset.sum_range_succ', Nat.add_comm]
    · cases k with
      | zero =>
        have hover := List.find?_some hfind
        exact absurd (of_decide_eq_true hover) hnext
      | succ k =>
        show ∑ g ∈ Finset.range (k + 1), _ + 1 = _ + (∑ g ∈ Finset.range k, _ + 1)
        rw [Finset.sum_range_succ']
        omega

end Number

/-- The questions of generations that stay within the limit, or come to it. -/
theorem questionsWithin_eq (hm : limit < maxLength) (table : RuleTable) (n : Nat)
    (sequence : List Char) (hs : ¬ limit < byteLength sequence) :
    questionsWithin table limit n sequence
      = expansionQuestions limit n fun k => generationAfter table k sequence := by
  induction n generalizing sequence with
  | zero =>
    rw [expansionQuestions_zero hs]
    rfl
  | succ n ih =>
    rw [expansionQuestions_succ hs, questionsWithin, length_blocks, nextLength_eq]
    -- the limit can be told apart from `maxLength`, so a length that is cut off is over it as well
    by_cases hl : limit < byteLength (nextGeneration table sequence)
    · rw [if_pos (by omega)]
      exact (if_pos hl).symm
    · rw [if_neg (by omega), ih _ hl]
      exact (if_neg hl).symm

/-- **How many questions a limited expansion asks.** -/
theorem expandWatched_asks_number (check : Checkpoint σ) (hm : limit < maxLength)
    (table : RuleTable) (start : List Char) (n : Nat) :
    (expandWatched check table limit start n).Asks check
      (expansionQuestions limit n (expand start table)) (expandWithin table limit start n) := by
  have h := expandWatched_asksWithin check table limit start n
  by_cases hl : limit < byteLength (stripCommas start)
  · rw [if_pos (by omega)] at h
    rwa [expansionQuestions_of_lt hl]
  · rw [if_neg (by omega), questionsWithin_eq hm table n _ hl] at h
    exact h

/-! ## Interruption -/

theorem expandWatched_uninterrupted (table : RuleTable) (limit : Nat) (start : List Char)
    (n : Nat) :
    expandWatched Checkpoint.uninterrupted table limit start n ()
      = (Ending.ofExcept (expandWithin table limit start n), ()) :=
  (expandWatched_computes Checkpoint.uninterrupted_keeps table limit start n).eq_ofExcept

/-- **An interruption is exact and leaves no trace.** Let `T` be the number of questions of the
expansion. When the first `T` answers are `proceed`, the expansion has the uninterrupted outcome
after exactly `T` questions. Otherwise it is interrupted by the first answer that is `halt`, and
asks no other question. So an expansion that nothing halts is not interrupted, and what would stand
for an interrupted expansion is of no account. -/
theorem expandWatched_until_halt (hm : limit < maxLength) (table : RuleTable) (start : List Char)
    (n : Nat) (check : Checkpoint σ) (s : σ) :
    let run := fun τ (check : Checkpoint τ) => expandWatched check table limit start n
    let plain := (run Unit Checkpoint.uninterrupted ()).1
    let T := expansionQuestions limit n (expand start table)
    ((∀ k < T, check.answer k s = .proceed) → EndsAfter run check s T plain) ∧
    ((¬ ∀ k < T, check.answer k s = .proceed) →
      ∃ b < T, (∀ k < b, check.answer k s = .proceed) ∧ check.answer b s = .halt ∧
        EndsAfter run check s (b + 1) .interrupted) ∧
    plain ≠ .interrupted ∧
    ∀ fallback, (run Unit Checkpoint.uninterrupted).unwatched fallback
      = expandWithin table limit start n := by
  intro run plain T
  have hasks := fun {τ} (check : Checkpoint τ) => expandWatched_asks_number check hm table start n
  have hplain : plain = Ending.ofExcept (expandWithin table limit start n) :=
    congrArg Prod.fst (expandWatched_uninterrupted table limit start n)
  refine ⟨fun h => ?_, fun h => ?_, ?_, fun fallback => ?_⟩
  · rw [hplain]
    exact .of_answers fun c t hanswers =>
      (hasks c).of_proceed fun k hk => (hanswers k).trans (h k hk)
  · obtain ⟨b, hb, hbefore, hhalt⟩ := Checkpoint.exists_halt h
    refine ⟨b, hb, hbefore, hhalt, .of_answers fun c t hanswers => ?_⟩
    exact (hasks c).of_halt hb (fun k hk => (hanswers k).trans (hbefore k hk))
      ((hanswers b).trans hhalt)
  · rw [hplain]
    cases expandWithin table limit start n <;> nofun
  · exact (expandWatched_computes Checkpoint.uninterrupted_keeps table limit start n).unwatched
      fallback

/-- `A` doubles in every generation, and with a limit of 2 generation 2 is the first over it. The
expansion asks two questions on the way to generation 1 and one before generation 2: when those are
answered with `proceed` it fails, and when the last of them is answered with `halt` it is
interrupted, after 3 questions either way. -/
theorem expandWatched_halted_at_limit :
    2 < maxLength ∧ ∃ table, RuleTable.build "(A,AA)".toList ['A'] = .ok table ∧
      expansionQuestions 2 3 (expand ['A'] table) = 3 ∧
      EndsAfter (fun _ check => expandWatched check table 2 ['A'] 3)
        (Checkpoint.budget (some 3)) 0 3 (.failed (.outOfMemory 4)) ∧
      EndsAfter (fun _ check => expandWatched check table 2 ['A'] 3)
        (Checkpoint.budget (some 2)) 0 3 .interrupted := by
  have hm : 2 < maxLength := by decide
  let table := RuleTable.empty.insert 0 [.letter 0, .letter 0]
  have hbuild : (RuleTable.build "(A,AA)".toList ['A']).toOption = some table := by decide +kernel
  have hnumber : expansionQuestions 2 3 (expand ['A'] table) = 3 := by decide
  have hplain : (expandWatched Checkpoint.uninterrupted table 2 ['A'] 3 ()).1
      = .failed (.outOfMemory 4) := by
    rw [expandWatched_uninterrupted, expandWithin_eq hm]
    decide
  obtain ⟨hcomplete, -⟩ :=
    expandWatched_until_halt hm table ['A'] 3 (Checkpoint.budget (some 3)) 0
  obtain ⟨-, hhalted, -⟩ :=
    expandWatched_until_halt hm table ['A'] 3 (Checkpoint.budget (some 2)) 0
  rw [hnumber] at hcomplete hhalted
  have hfails := hcomplete (by decide)
  beta_reduce at hfails
  rw [hplain] at hfails
  have hlast : ∀ b < 3, (Checkpoint.budget (some 2)).answer b 0 = .halt → b = 2 := by decide
  obtain ⟨b, hb, -, hhalt, hends⟩ := hhalted (by decide)
  obtain rfl := hlast b hb hhalt
  exact ⟨hm, table, RuleTable.eq_ok_of_toOption hbuild, hnumber, hfails, hends⟩

end Lindenmayer
