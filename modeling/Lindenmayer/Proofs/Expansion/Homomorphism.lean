import Lindenmayer.Proofs.Expansion.Limit

set_option autoImplicit false

/-! # Expansion as a homomorphism

Expansion replaces characters independently of one another and of how the sequence is cut
(`expand_append`), and a number of generations after another is the sum of both (`expand_add`). For
the second it matters that an expansion starts by leaving out commas: a generation has none, as
bodies have none and everything else that is no symbol is dropped (`comma_notMem_expand`). -/

namespace Lindenmayer

/-! ## Commas -/

theorem stripCommas_append (u v : List Char) :
    stripCommas (u ++ v) = stripCommas u ++ stripCommas v :=
  List.filter_append ..

theorem comma_notMem_stripCommas (start : List Char) : ',' ∉ stripCommas start := by
  simp [stripCommas]

/-- A sequence without commas is left as it is. -/
theorem stripCommas_eq_self {sequence : List Char} (h : ',' ∉ sequence) :
    stripCommas sequence = sequence := by
  refine List.filter_eq_self.2 fun c hc => ?_
  have hne : c ≠ ',' := by
    rintro rfl
    exact h hc
  simpa using hne

/-- Replacing characters brings no commas in. -/
theorem comma_notMem_nextGeneration (table : RuleTable) (sequence : List Char) :
    ',' ∉ nextGeneration table sequence := by
  intro h
  have hsymbol := isBodySymbol_of_mem_nextGeneration h
  have hcomma : isBodySymbol ',' = false := by decide
  simp [hcomma] at hsymbol

/-! ## Generations -/

/-- Generations of two sequences are made side by side. -/
theorem generationAfter_append (table : RuleTable) (n : Nat) (s t : List Char) :
    generationAfter table n (s ++ t) = generationAfter table n s ++ generationAfter table n t := by
  induction n generalizing s t with
  | zero => rfl
  | succ n ih =>
    show generationAfter table n (nextGeneration table (s ++ t)) = _
    rw [nextGeneration_append, ih]
    rfl

/-- Generations after generations. -/
theorem generationAfter_add (table : RuleTable) (m n : Nat) (sequence : List Char) :
    generationAfter table (m + n) sequence
      = generationAfter table n (generationAfter table m sequence) := by
  induction m generalizing sequence with
  | zero =>
    rw [Nat.zero_add]
    rfl
  | succ m ih =>
    rw [Nat.add_right_comm]
    exact ih (nextGeneration table sequence)

theorem comma_notMem_generationAfter (table : RuleTable) (n : Nat) {sequence : List Char}
    (h : ',' ∉ sequence) : ',' ∉ generationAfter table n sequence := by
  induction n generalizing sequence with
  | zero => exact h
  | succ n ih => exact ih (comma_notMem_nextGeneration table sequence)

/-- No generation has a comma. -/
theorem comma_notMem_expand (start : List Char) (table : RuleTable) (n : Nat) :
    ',' ∉ expand start table n :=
  comma_notMem_generationAfter table n (comma_notMem_stripCommas start)

/-! ## Expansions -/

theorem expand_append (u v : List Char) (table : RuleTable) (n : Nat) :
    expand (u ++ v) table n = expand u table n ++ expand v table n := by
  unfold expand
  rw [stripCommas_append, generationAfter_append]

theorem expand_add (start : List Char) (table : RuleTable) (m n : Nat) :
    expand start table (m + n) = expand (expand start table m) table n := by
  have hstrip := stripCommas_eq_self (comma_notMem_expand start table m)
  calc expand start table (m + n)
      = generationAfter table n (expand start table m) := generationAfter_add table m n _
    _ = generationAfter table n (stripCommas (expand start table m)) := by rw [hstrip]
    _ = expand (expand start table m) table n := rfl

/-- **Expansion is a homomorphism, and generations compose**: a sequence in two parts is expanded
part by part, and a generation of a generation is a later generation. -/
theorem expand_homomorphism (table : RuleTable) (u v : List Char) (m n : Nat) :
    expand (u ++ v) table n = expand u table n ++ expand v table n ∧
      expand u table (m + n) = expand (expand u table m) table n :=
  ⟨expand_append u v table n, expand_add u table m n⟩

end Lindenmayer
