import Lindenmayer.Expansion
import Lindenmayer.Proofs.Consultation
import Lindenmayer.Proofs.Grammar.Table

set_option autoImplicit false

/-! # Letters that stand for themselves

A letter may be kept in two ways: it has no body, or its body is the letter. Which of the two it is
cannot be told from an expansion. The successor of a letter is `RuleTable.replacement`, the same
either way (`successor_eq`), and everything in an expansion, the predicted lengths included, comes
from the successors: tables with the same successors expand alike (`expandWatched_congr`). So a
table can be used for other starting sequences than the one it was built for
(`RuleTable.build_expands_alike`). -/

namespace Lindenmayer

variable {σ : Type}

/-! ## Replacements -/

/-- What a letter is replaced by: its body, or itself if it has none. -/
def RuleTable.replacement (table : RuleTable) (l : Letter) : Word := (table.get l).getD [.letter l]

/-- The successor of a letter is its replacement. -/
theorem successor_eq (table : RuleTable) (c : Char) :
    successor table c
      = match Symbol.ofChar? c with
        | some (.letter l) => (table.replacement l).text
        | some _ => [c]
        | none => [] := by
  unfold successor RuleTable.replacement
  cases hc : Symbol.ofChar? c with
  | none => rfl
  | some symbol =>
    cases symbol with
    | letter l =>
      have hself : Word.text [.letter l] = [c] := by
        simpa [Word.text] using Symbol.toChar_eq_of_ofChar? hc
      cases hbody : table.get l with
      | some body => simp only [hbody, Option.getD_some]
      | none => simp only [hbody, Option.getD_none, hself]
    | plus => rfl
    | minus => rfl
    | openBracket => rfl
    | closeBracket => rfl

/-- Letters that have no body are replaced by themselves before and after they get themselves as
their bodies. -/
theorem RuleTable.replacement_addIdentities (table : RuleTable) (start : List Char) (l : Letter) :
    (table.addIdentities start).replacement l = table.replacement l := by
  unfold replacement
  rw [get_addIdentities]
  cases table.get l with
  | some body => rfl
  | none =>
    rw [Option.none_or]
    cases hfound : (start.filterMap Letter.ofChar?).find? fun l' => l' == l with
    | none => rfl
    | some l' =>
      have hl : l' = l := by simpa using List.find?_some hfound
      rw [hl]
      rfl

theorem successor_addIdentities (table : RuleTable) (start : List Char) :
    successor (table.addIdentities start) = successor table := by
  funext c
  simp only [successor_eq, RuleTable.replacement_addIdentities]

/-! ## Tables with the same successors -/

section Congr

variable {t t' : RuleTable} (h : successor t = successor t')
include h

theorem nextGeneration_congr : nextGeneration t = nextGeneration t' := by
  funext sequence
  rw [nextGeneration, nextGeneration, h]

theorem successorLength_congr : successorLength t = successorLength t' := by
  funext c
  rw [← length_successor, ← length_successor, h]

theorem nextLength_congr : nextLength t = nextLength t' := by
  funext sequence
  rw [nextLength, nextLength, successorLength_congr h]

theorem generationAfter_congr (n : Nat) : generationAfter t n = generationAfter t' n := by
  induction n with
  | zero => rfl
  | succ n ih =>
    funext sequence
    rw [generationAfter, generationAfter, nextGeneration_congr h, ih]

theorem nextGenerationWatched_congr (check : Checkpoint σ) :
    nextGenerationWatched check t = nextGenerationWatched check t' := by
  funext sequence s
  rw [nextGenerationWatched, nextGenerationWatched, nextGeneration_congr h]

theorem generationAfterWatched_congr (check : Checkpoint σ) (limit n : Nat) :
    generationAfterWatched check t limit n = generationAfterWatched check t' limit n := by
  induction n with
  | zero => rfl
  | succ n ih =>
    funext sequence s
    rw [generationAfterWatched, generationAfterWatched, nextLength_congr h,
      nextGenerationWatched_congr h, ih]

theorem expand_congr (start : List Char) (n : Nat) : expand start t n = expand start t' n := by
  rw [expand, expand, generationAfter_congr h]

theorem expandWatched_congr (check : Checkpoint σ) (limit : Nat) (start : List Char) (n : Nat) :
    expandWatched check t limit start n = expandWatched check t' limit start n := by
  funext s
  rw [expandWatched, expandWatched, generationAfterWatched_congr h]

theorem expandWithin_congr (limit : Nat) (start : List Char) (n : Nat) :
    expandWithin t limit start n = expandWithin t' limit start n := by
  rw [expandWithin, expandWithin, expandWatched_congr h]

end Congr

/-! ## Tables for different starting sequences -/

namespace RuleTable

/-- The starting sequence matters only after the clauses have been read. -/
theorem build_eq_map (rules start : List Char) :
    build rules start = (build rules []).map fun table => table.addIdentities start := by
  unfold build
  simp only
  cases empty.addClauses (Reading.ofText rules).clauses with
  | error problem => rfl
  | ok table =>
    cases (Reading.ofText rules).left with
    | some left => rfl
    | none => rfl

/-- **Rules that replace a letter by itself are redundant.** The tables of a rules text for two
starting sequences are both built, or neither is, with the same error. If they are, everything
expands alike with either of them: to the same generations, with the same errors under any limit,
and under any checkpoint with the same outcome after the same questions. -/
theorem build_expands_alike (rules start₁ start₂ : List Char) :
    (∃ problem, build rules start₁ = .error problem ∧ build rules start₂ = .error problem) ∨
      ∃ t₁ t₂, build rules start₁ = .ok t₁ ∧ build rules start₂ = .ok t₂ ∧
        ∀ (start : List Char) (n : Nat), expand start t₁ n = expand start t₂ n ∧
          ∀ limit, expandWithin t₁ limit start n = expandWithin t₂ limit start n ∧
            ∀ {σ : Type} (check : Checkpoint σ) (s : σ),
              expandWatched check t₁ limit start n s = expandWatched check t₂ limit start n s ∧
              ∀ questions result,
                EndsAfter (fun _ check => expandWatched check t₁ limit start n) check s questions
                    result ↔
                  EndsAfter (fun _ check => expandWatched check t₂ limit start n) check s questions
                    result := by
  rw [build_eq_map rules start₁, build_eq_map rules start₂]
  cases build rules [] with
  | error problem => exact .inl ⟨problem, rfl, rfl⟩
  | ok table =>
    have hsame : successor (table.addIdentities start₁) = successor (table.addIdentities start₂) :=
      (successor_addIdentities table start₁).trans (successor_addIdentities table start₂).symm
    refine .inr ⟨_, _, rfl, rfl, fun start n => ⟨expand_congr hsame start n, fun limit =>
      ⟨expandWithin_congr hsame limit start n, fun check s => ⟨?_, fun questions result => ?_⟩⟩⟩⟩
    · rw [expandWatched_congr hsame]
    · simp only [expandWatched_congr hsame]

-- the tables themselves may differ, here in whether `F` or `G` has a body
example : (build "(A,AF)".toList ['F']).toOption ≠ (build "(A,AF)".toList ['G']).toOption := by
  decide +kernel

end RuleTable

end Lindenmayer
