import Lindenmayer.Proofs.Expansion.Limit
import Lindenmayer.Proofs.Grammar.Table

set_option autoImplicit false

/-! # Generations over the limit

A limited expansion is the expansion without a limit as long as no generation is longer than the
limit, and fails at the first that is, which it tells the length of (`expandWithin_agrees`).

It does so without writing that generation. To say this, the way in which a generation is written is
made an argument: `expandUsing write` is the watched expansion with `write` in the place of
`nextGenerationWatched`, and the watched expansion itself when it is written as it should be
(`expandUsing_nextGenerationWatched`). What `write` does with a sequence that is over the limit, or
is followed by one that is, makes no difference to the expansion (`expandUsing_eq`): it is never
called upon to do so. -/

namespace Lindenmayer

variable {σ : Type} {check : Checkpoint σ} {table : RuleTable} {limit : Nat}

/-! ## The writing of generations as an argument -/

/-- The watched sequence `n` generations after a sequence, with `write` to write the generation
after one. -/
def generationAfterUsing (write : List Char → Watched σ Failure (List Char)) (check : Checkpoint σ)
    (table : RuleTable) (limit : Nat) : Nat → List Char → σ → Ending Failure (List Char) × σ
  | 0, sequence, s => (.complete sequence, s)
  | n + 1, sequence, s =>
    match check s with
    | (.halt, s) => (.interrupted, s)
    | (.proceed, s) =>
      if limit < nextLength table sequence then
        (.failed (.outOfMemory (nextLength table sequence)), s)
      else
        match write sequence s with
        | (.complete next, s) => generationAfterUsing write check table limit n next s
        | (.interrupted, s) => (.interrupted, s)
        | (.failed failure, s) => (.failed failure, s)

/-- The watched expansion, with `write` to write the generation after a sequence. -/
def expandUsing (write : List Char → Watched σ Failure (List Char)) (check : Checkpoint σ)
    (table : RuleTable) (limit : Nat) (start : List Char) (n : Nat) :
    Watched σ Failure (List Char) := fun s =>
  let length := min maxLength (byteLength (stripCommas start))
  if limit < length then (.failed (.outOfMemory length), s)
  else generationAfterUsing write check table limit n (stripCommas start) s

/-- A way of writing that is right about all sequences that are reached gives the generations that
are watched. -/
theorem generationAfterUsing_eq {write : List Char → Watched σ Failure (List Char)}
    (Reached : List Char → Prop)
    (hw : ∀ sequence, Reached sequence → nextLength table sequence ≤ limit →
      write sequence = nextGenerationWatched check table sequence ∧
        Reached (nextGeneration table sequence))
    (n : Nat) {sequence : List Char} (hs : Reached sequence) (s : σ) :
    generationAfterUsing write check table limit n sequence s
      = generationAfterWatched check table limit n sequence s := by
  induction n generalizing sequence s with
  | zero => rfl
  | succ n ih =>
    unfold generationAfterUsing generationAfterWatched
    rcases check s with ⟨verdict, s₁⟩
    cases verdict with
    | halt => rfl
    | proceed =>
      by_cases hl : limit < nextLength table sequence
      · simp only [if_pos hl]
      · obtain ⟨hwrite, hnext⟩ := hw sequence hs (by omega)
        simp only [if_neg hl, hwrite]
        -- what was written is the next generation, so it is reached too
        have hcheck : check.Keeps (fun _ => True) (fun _ => True) :=
          ⟨fun _ _ => trivial, fun _ _ => trivial⟩
        have h := nextGenerationWatched_computes hcheck table sequence s₁ trivial
        rcases hwritten : nextGenerationWatched check table sequence s₁ with ⟨outcome, s₂⟩
        rw [hwritten] at h
        cases h with
        | complete hp _ =>
          cases hp
          exact ih hnext s₂
        | failed _ _ => rfl
        | interrupted _ => rfl

theorem expandUsing_nextGenerationWatched (start : List Char) (n : Nat) :
    expandUsing (nextGenerationWatched check table) check table limit start n
      = expandWatched check table limit start n := by
  funext s
  have hall : ∀ sequence s, generationAfterUsing (nextGenerationWatched check table) check table
      limit n sequence s = generationAfterWatched check table limit n sequence s := by
    intro sequence s
    exact generationAfterUsing_eq (fun _ => True) (fun _ _ _ => ⟨rfl, trivial⟩) n trivial s
  simp only [expandUsing, expandWatched, hall]

/-! ## What is never written -/

/-- A way of writing that does what it should with sequences that are not over the limit, and are
not followed by one that is. -/
def WritesWithin (check : Checkpoint σ) (table : RuleTable) (limit : Nat)
    (write : List Char → Watched σ Failure (List Char)) : Prop :=
  ∀ sequence, byteLength sequence ≤ limit → byteLength (nextGeneration table sequence) ≤ limit →
    write sequence = nextGenerationWatched check table sequence

/-- **No generation over the limit is written, nor is one written from it**: the expansion is the
same whatever would become of such a generation. -/
theorem expandUsing_eq (hm : limit < maxLength) {write : List Char → Watched σ Failure (List Char)}
    (hw : WritesWithin check table limit write) (start : List Char) (n : Nat) :
    expandUsing write check table limit start n = expandWatched check table limit start n := by
  funext s
  unfold expandUsing expandWatched
  by_cases hl : limit < min maxLength (byteLength (stripCommas start))
  · simp only [if_pos hl]
  · simp only [if_neg hl]
    have hstart : byteLength (stripCommas start) ≤ limit := by omega
    refine generationAfterUsing_eq (fun sequence => byteLength sequence ≤ limit) ?_ n hstart s
    intro sequence hs hl
    have hnext : byteLength (nextGeneration table sequence) ≤ limit := by
      rw [nextLength_eq] at hl
      omega
    exact ⟨hw sequence hs hnext, hnext⟩

/-! ## The first generation over the limit -/

theorem withinLimit_eq_ok {n : Nat} {generation : Nat → List Char}
    (h : ∀ k ≤ n, byteLength (generation k) ≤ limit) :
    withinLimit limit n generation = .ok (generation n) := by
  have hnone : ((List.range (n + 1)).find? fun k => decide (limit < byteLength (generation k)))
      = none := by
    rw [List.find?_range_eq_none]
    intro k hk
    have hle := h k (by omega)
    simp [hle]
  rw [withinLimit, hnone]

theorem withinLimit_eq_error {n k : Nat} {generation : Nat → List Char} (hk : k ≤ n)
    (hover : limit < byteLength (generation k))
    (hfirst : ∀ j < k, byteLength (generation j) ≤ limit) :
    withinLimit limit n generation
      = .error (.outOfMemory (min maxLength (byteLength (generation k)))) := by
  have hsome : ((List.range (n + 1)).find? fun k => decide (limit < byteLength (generation k)))
      = some k := by
    rw [List.find?_range_eq_some]
    refine ⟨by simp [hover], by simp; omega, ?_⟩
    intro j hj
    have hle := hfirst j hj
    simp [hle]
  rw [withinLimit, hsome]

/-- **A limited expansion agrees with the expansion without a limit, and fails exactly when it
must.** If no generation up to number `n` is longer than the limit, in bytes, it gives generation
`n`; else it fails and tells the length of the first that is, or the greatest length that is told
apart. No generation over the limit is written or rewritten on the way: with the writing as an
argument, the expansion is the watched one for the writer it has, and remains so for every other
that is right within the limit. -/
theorem expandWithin_agrees (hm : limit < maxLength) (table : RuleTable) (start : List Char)
    (n : Nat) :
    ((∀ k ≤ n, byteLength (expand start table k) ≤ limit) →
      expandWithin table limit start n = .ok (expand start table n)) ∧
    (∀ k ≤ n, limit < byteLength (expand start table k) →
      (∀ j < k, byteLength (expand start table j) ≤ limit) →
        expandWithin table limit start n
          = .error (.outOfMemory (min maxLength (byteLength (expand start table k))))) ∧
    ∀ {σ : Type} (check : Checkpoint σ),
      expandUsing (nextGenerationWatched check table) check table limit start n
        = expandWatched check table limit start n ∧
      ∀ write : List Char → Watched σ Failure (List Char),
        (∀ sequence, byteLength sequence ≤ limit →
          byteLength (nextGeneration table sequence) ≤ limit →
            write sequence = nextGenerationWatched check table sequence) →
        expandUsing write check table limit start n = expandWatched check table limit start n := by
  rw [expandWithin_eq hm]
  refine ⟨withinLimit_eq_ok, ?_, ?_⟩
  · intro k hk hover hfirst
    exact withinLimit_eq_error hk hover hfirst
  · intro σ check
    refine ⟨expandUsing_nextGenerationWatched start n, ?_⟩
    intro write hw
    exact expandUsing_eq hm hw start n

/-- A generation over the limit between two that are not: with a limit of 3 the expansion of `A`
fails at `BBBB`, though nothing is left after that, and a way of writing that halts at every
sequence over the limit makes no difference. -/
theorem expandWithin_at_peak :
    3 < maxLength ∧ ∃ table, RuleTable.build "(A,BBBB),(B,)".toList ['A'] = .ok table ∧
      expand ['A'] table 2 = [] ∧ expandWithin table 4 ['A'] 2 = .ok [] ∧
      expandWithin table 3 ['A'] 2 = .error (.outOfMemory 4) ∧
      expandUsing (fun sequence =>
          if byteLength sequence ≤ 3 ∧ byteLength (nextGeneration table sequence) ≤ 3 then
            nextGenerationWatched Checkpoint.uninterrupted table sequence
          else fun s => (.interrupted, s)) Checkpoint.uninterrupted table 3 ['A'] 2
        = expandWatched Checkpoint.uninterrupted table 3 ['A'] 2 := by
  have hm : 3 < maxLength := by decide
  have hbuild : (RuleTable.build "(A,BBBB),(B,)".toList ['A']).toOption
      = some ((RuleTable.empty.insert 0 (List.replicate 4 (.letter 1))).insert 1 []) := by
    decide +kernel
  refine ⟨hm, _, RuleTable.eq_ok_of_toOption hbuild, by decide, ?_, ?_, ?_⟩
  · have hm' : 4 < maxLength := by decide
    exact (expandWithin_agrees hm' _ ['A'] 2).1 (by decide)
  · exact (expandWithin_agrees hm _ ['A'] 2).2.1 1 (by decide) (by decide) (by decide)
  · obtain ⟨-, hwriters⟩ := (expandWithin_agrees hm _ ['A'] 2).2.2 Checkpoint.uninterrupted
    refine hwriters _ ?_
    intro sequence hs hnext
    exact if_pos ⟨hs, hnext⟩

end Lindenmayer
