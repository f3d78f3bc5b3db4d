import Lindenmayer.Expansion
import Lindenmayer.Proofs.Grammar.Table
import Lindenmayer.Proofs.Turtle.Branches

set_option autoImplicit false

/-! # Balanced expansions

A grammar whose bodies are balanced makes balanced sequences of balanced ones: to replace every
character by its successor is a substitution that keeps branches
(`RuleTable.successor_keepsBranches`), and so is leaving out commas (`stripCommas_keepsBranches`).
Every generation adds at most the depth of the deepest body to the depth of the sequence
(`nesting_generationAfter_le`). A turtle walks such a sequence to its end and closes all branches
that it opens (`Turtle.walk_balanced_expansion`). -/

namespace Lindenmayer

/-! ## Leaving out commas -/

theorem stripCommas_eq_flatMap (start : List Char) :
    stripCommas start = start.flatMap fun c => if c = ',' then [] else [c] := by
  induction start with
  | nil => rfl
  | cons c start ih =>
    by_cases h : c = ','
    · simpa [stripCommas, h] using ih
    · simpa [stripCommas, h] using ih

theorem stripCommas_keepsBranches : KeepsBranches (fun c => if c = ',' then [] else [c]) 0 where
  opening := rfl
  closing := rfl
  inner c hopen hclose := by
    refine balanced_and_nesting_le ?_ 0
    intro d hd
    by_cases h : c = ','
    · simp [h] at hd
    · simp only [h, if_false, List.mem_singleton] at hd
      exact ⟨hd ▸ hopen, hd ▸ hclose⟩

theorem balanced_stripCommas {start : List Char} (h : Balanced start) :
    Balanced (stripCommas start) := by
  rw [stripCommas_eq_flatMap]
  exact stripCommas_keepsBranches.balanced_flatMap h

theorem nesting_stripCommas_le (start : List Char) : nesting (stripCommas start) ≤ nesting start := by
  rw [stripCommas_eq_flatMap]
  exact stripCommas_keepsBranches.nesting_flatMap_le start

/-! ## Replacing characters by their successors -/

namespace RuleTable

/-- The depth of the deepest body. -/
def nesting (table : RuleTable) : Nat :=
  greatest (table.toList.map fun rule => Lindenmayer.nesting rule.2.text)

variable {table : RuleTable}

theorem nesting_body_le {l : Letter} {body : Word} (h : table.get l = some body) :
    Lindenmayer.nesting body.text ≤ table.nesting := by
  refine greatest_le_iff.1 (Nat.le_refl _) _ (List.mem_map.2 ⟨(l, body), ?_, rfl⟩)
  exact List.mem_filterMap.2 ⟨l, List.mem_finRange l, by simp [h]⟩

/-- **Successors keep branches** when bodies are balanced. -/
theorem successor_keepsBranches (h : ∀ l body, table.get l = some body → Balanced body.text) :
    KeepsBranches (successor table) table.nesting where
  opening := rfl
  closing := rfl
  inner c hopen hclose := by
    have hkept : Balanced [c] ∧ Lindenmayer.nesting [c] ≤ table.nesting :=
      balanced_and_nesting_le (by simp [hopen, hclose]) table.nesting
    unfold successor
    split
    · next l _ =>
      split
      · next body hbody => exact ⟨h l body hbody, nesting_body_le hbody⟩
      · exact hkept
    · exact hkept
    · exact balanced_and_nesting_le (by simp) table.nesting

end RuleTable

/-! ## Generations -/

section Generations

variable {table : RuleTable} (hbodies : ∀ l body, table.get l = some body → Balanced body.text)
include hbodies

theorem balanced_generationAfter (n : Nat) {sequence : List Char} (h : Balanced sequence) :
    Balanced (generationAfter table n sequence) := by
  induction n generalizing sequence with
  | zero => exact h
  | succ n ih => exact ih ((RuleTable.successor_keepsBranches hbodies).balanced_flatMap h)

theorem nesting_generationAfter_le (n : Nat) (sequence : List Char) :
    nesting (generationAfter table n sequence) ≤ nesting sequence + n * table.nesting := by
  induction n generalizing sequence with
  | zero => simp [generationAfter]
  | succ n ih =>
    have hnext := (RuleTable.successor_keepsBranches hbodies).nesting_flatMap_le sequence
    calc nesting (generationAfter table n (nextGeneration table sequence))
        ≤ nesting (nextGeneration table sequence) + n * table.nesting := ih _
      _ ≤ nesting sequence + table.nesting + n * table.nesting := Nat.add_le_add_right hnext _
      _ = nesting sequence + (n + 1) * table.nesting := by
        rw [Nat.add_mul, Nat.one_mul]
        omega

end Generations

/-- **Balanced grammars never close a branch that is not open.** When all bodies and the starting
sequence are balanced, so is every generation, and a turtle walks it to its end: no branch is open
there, and the greatest number of branches that were open at a time is at most the depth of the
starting sequence and, for every generation, the depth of the deepest body. -/
theorem Turtle.walk_balanced_expansion {α : Type} [Scalar α] {table : RuleTable}
    (hbodies : ∀ l body, table.get l = some body → Balanced body.text) {start : List Char}
    (hstart : Balanced start) (n : Nat) (turtle : Turtle α) (mode : Mode) (pose : Pose α) :
    Balanced (expand start table n) ∧
      ∃ trail, turtle.walk mode Checkpoint.uninterrupted (expand start table n) pose ()
          = (.complete trail, ()) ∧
        trail.summary.openBranches = 0 ∧
        trail.summary.maxDepth ≤ nesting start + n * table.nesting := by
  have hbalanced : Balanced (expand start table n) :=
    balanced_generationAfter hbodies n (balanced_stripCommas hstart)
  have hdepth : nesting (expand start table n) ≤ nesting start + n * table.nesting :=
    (nesting_generationAfter_le hbodies n (stripCommas start)).trans
      (Nat.add_le_add_right (nesting_stripCommas_le start) _)
  obtain ⟨hlevel, hlow⟩ := balanced_iff_level.1 hbalanced
  obtain ⟨trail, hwalk, hopen, hmax⟩ := turtle.exists_walk mode pose hlow
  refine ⟨hbalanced, trail, hwalk, ?_, hmax.trans_le hdepth⟩
  omega

/-- A plant whose branches have branches: two generations of bodies that are nested up to 2 deep, on
a starting sequence that is nested 1 deep, are at most 5 deep. On the way through this one, three
branches are open at a time. -/
theorem Turtle.walk_branching_plant :
    ∃ table, RuleTable.build "(A,[B]A),(B,-[A[+]])".toList "A,[B]".toList = .ok table ∧
      (∀ l body, table.get l = some body → Balanced body.text) ∧ Balanced "A,[B]".toList ∧
      Balanced (expand "A,[B]".toList table 2) ∧
      ∃ trail : Trail Float, (⟨25, 10⟩ : Turtle Float).walk .draw Checkpoint.uninterrupted
          (expand "A,[B]".toList table 2) Pose.initial () = (.complete trail, ()) ∧
        trail.summary.openBranches = 0 ∧ trail.summary.maxDepth ≤ 5 ∧
        trail.summary.maxDepth = 3 := by
  let table := (RuleTable.empty.insert 0
      [.openBracket, .letter 1, .closeBracket, .letter 0]).insert 1
    [.minus, .openBracket, .letter 0, .openBracket, .plus, .closeBracket, .closeBracket]
  have hbuild : (RuleTable.build "(A,[B]A),(B,-[A[+]])".toList "A,[B]".toList).toOption
      = some table := by
    decide +kernel
  have hall : ∀ l, ∀ body ∈ table.get l, Balanced body.text := by decide
  have hbodies : ∀ l body, table.get l = some body → Balanced body.text := hall
  have hstart : Balanced "A,[B]".toList := by decide
  have hdepth : nesting "A,[B]".toList + 2 * table.nesting = 5 := by decide
  have hnesting : nesting (expand "A,[B]".toList table 2) = 3 := by decide
  let turtle : Turtle Float := ⟨25, 10⟩
  obtain ⟨hbalanced, trail, hwalk, hopen, hle⟩ :=
    Turtle.walk_balanced_expansion hbodies hstart 2 turtle .draw Pose.initial
  rw [hdepth] at hle
  have hlow := (balanced_iff_level.1 hbalanced).2
  obtain ⟨trail', hwalk', -, hmax⟩ := turtle.exists_walk .draw Pose.initial hlow
  cases hwalk.symm.trans hwalk'
  exact ⟨table, RuleTable.eq_ok_of_toOption hbuild, hbodies, hstart, hbalanced, trail, hwalk, hopen,
    hle, hmax.trans hnesting⟩

end Lindenmayer
