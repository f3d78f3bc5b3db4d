import Lindenmayer.Expansion
import Lindenmayer.Proofs.Watched

set_option autoImplicit false

/-! # Limited expansion

The limit on an expansion is compared with lengths that are predicted, and that are bytes for the
starting sequence and symbols for all later generations. Both are the same thing: a prediction is
the byte length of the generation it is made for (`nextLength_eq`), as a generation consists of
one-byte symbols. So `expandWithin` fails exactly when some generation is longer than the limit, and
tells the length of the first such generation (`expandWithin_eq`); and under any checkpoint the work
is the same unless it is halted (`expandWatched_computes`). -/

namespace Lindenmayer

variable {σ : Type} {I J : σ → Prop} {check : Checkpoint σ}

/-! ## Lengths -/

theorem Symbol.utf8Size_toChar (s : Symbol) : s.toChar.utf8Size = 1 := by
  cases s with
  | letter l => revert l; decide
  | plus => decide
  | minus => decide
  | openBracket => decide
  | closeBracket => decide

theorem utf8Size_of_isBodySymbol {c : Char} (h : isBodySymbol c = true) : c.utf8Size = 1 := by
  obtain ⟨s, hs⟩ := Option.isSome_iff_exists.1 h
  rw [← Symbol.toChar_eq_of_ofChar? hs]
  exact s.utf8Size_toChar

theorem foldl_add (f : Char → Nat) (sequence : List Char) (n : Nat) :
    sequence.foldl (fun n c => n + f c) n = n + sequence.foldl (fun n c => n + f c) 0 := by
  induction sequence generalizing n with
  | nil => rfl
  | cons c rest ih =>
    rw [List.foldl_cons, List.foldl_cons, ih (n + f c), ih (0 + f c)]
    omega

/-- A sequence of symbols takes a byte for each. -/
theorem byteLength_eq_length {sequence : List Char} (h : ∀ c ∈ sequence, isBodySymbol c = true) :
    byteLength sequence = sequence.length := by
  induction sequence with
  | nil => rfl
  | cons c rest ih =>
    have hrest := ih fun d hd => h d (List.mem_cons_of_mem c hd)
    have hc := utf8Size_of_isBodySymbol (h c List.mem_cons_self)
    unfold byteLength at hrest ⊢
    rw [List.foldl_cons, foldl_add, hrest, hc, List.length_cons]
    omega

theorem isBodySymbol_toChar (s : Symbol) : isBodySymbol s.toChar = true := by
  simp [isBodySymbol, Symbol.ofChar?_toChar]

/-- The successor of any character consists of symbols. -/
theorem isBodySymbol_of_mem_successor {table : RuleTable} {c d : Char}
    (h : d ∈ successor table c) : isBodySymbol d = true := by
  unfold successor at h
  split at h
  · next l hl =>
    split at h
    · obtain ⟨s, -, rfl⟩ := List.mem_map.1 h
      exact isBodySymbol_toChar s
    · rw [List.mem_singleton.1 h, isBodySymbol, hl]
      rfl
  · next s hs =>
    rw [List.mem_singleton.1 h, isBodySymbol, hs]
    rfl
  · exact absurd h List.not_mem_nil

/-- Every generation but the first consists of symbols. -/
theorem isBodySymbol_of_mem_nextGeneration {table : RuleTable} {sequence : List Char} {d : Char}
    (h : d ∈ nextGeneration table sequence) : isBodySymbol d = true := by
  obtain ⟨c, -, hd⟩ := List.mem_flatMap.1 h
  exact isBodySymbol_of_mem_successor hd

/-- A sum that is cut off at every step is the sum cut off at the end. -/
theorem foldl_min_add (greatest : Nat) (f : Char → Nat) (sequence : List Char) (n : Nat) :
    sequence.foldl (fun n c => min greatest (n + f c)) (min greatest n)
      = min greatest (sequence.foldl (fun n c => n + f c) n) := by
  induction sequence generalizing n with
  | nil => rfl
  | cons c rest ih =>
    have hcut : min greatest (min greatest n + f c) = min greatest (n + f c) := by omega
    rw [List.foldl_cons, List.foldl_cons, hcut, ih]

theorem length_nextGeneration (table : RuleTable) (sequence : List Char) :
    (nextGeneration table sequence).length
      = sequence.foldl (fun n c => n + successorLength table c) 0 := by
  induction sequence with
  | nil => rfl
  | cons c rest ih =>
    rw [List.foldl_cons, foldl_add, ← ih, ← length_successor, Nat.zero_add, ← List.length_append]
    rfl

/-- **The prediction is right**: it is the byte length of the generation it is made for. -/
theorem nextLength_eq (table : RuleTable) (sequence : List Char) :
    nextLength table sequence = min maxLength (byteLength (nextGeneration table sequence)) := by
  have hb : byteLength (nextGeneration table sequence) = (nextGeneration table sequence).length :=
    byteLength_eq_length fun _ => isBodySymbol_of_mem_nextGeneration
  rw [hb, length_nextGeneration, ← foldl_min_add, Nat.min_zero, nextLength]

/-! ## One generation -/

theorem foldlM_written (table : RuleTable) (parts written : List (List Char)) :
    parts.foldlM (fun written part => (.ok (nextGeneration table part :: written) : Except Failure _))
        written
      = .ok ((parts.map (nextGeneration table)).reverse ++ written) := by
  induction parts generalizing written with
  | nil => rfl
  | cons part parts ih =>
    rw [List.foldlM_cons]
    simp only [List.map_cons, List.reverse_cons, List.append_assoc, List.singleton_append]
    exact ih _

theorem nextGenerationWatched_eq_map (check : Checkpoint σ) (table : RuleTable)
    (sequence : List Char) :
    nextGenerationWatched check table sequence
      = (Watched.ofSweep check (fun written part => .ok (nextGeneration table part :: written))
          (blocks sequence) []).map fun written => written.reverse.flatten := by
  funext s
  simp only [nextGenerationWatched, Watched.map, Watched.ofSweep]
  cases (sweep check _ (blocks sequence) [] s).1.1 <;> rfl

/-- The blocks of a generation, put together, are the generation. -/
theorem reverse_flatten_written (table : RuleTable) (sequence : List Char) :
    (((blocks sequence).map (nextGeneration table)).reverse ++ []).reverse.flatten
      = nextGeneration table sequence := by
  rw [List.append_nil, List.reverse_reverse, ← List.flatMap_def]
  calc (blocks sequence).flatMap (nextGeneration table)
      = ((blocks sequence).flatMap id).flatMap (successor table) := List.flatMap_assoc.symm
    _ = nextGeneration table sequence := by rw [List.flatMap_id, flatten_blocks, nextGeneration]

/-- Writing a generation block by block gives the generation. -/
theorem nextGenerationWatched_computes (hc : check.Keeps I J) (table : RuleTable)
    (sequence : List Char) :
    (nextGenerationWatched check table sequence).Computes (.ok (nextGeneration table sequence))
      I J := by
  have h := (Watched.Computes.ofSweep hc
    (fun written part => (.ok (nextGeneration table part :: written) : Except Failure _))
    (blocks sequence) []).map fun written => written.reverse.flatten
  rw [foldlM_written] at h
  rw [nextGenerationWatched_eq_map, ← reverse_flatten_written]
  exact h

/-! ## All generations -/

/-- The sequence `n` generations after a sequence, if none of those generations is predicted to be
longer than the limit. -/
def generationWithin (table : RuleTable) (limit : Nat) :
    Nat → List Char → Except Failure (List Char)
  | 0, sequence => .ok sequence
  | n + 1, sequence =>
    if limit < nextLength table sequence then .error (.outOfMemory (nextLength table sequence))
    else generationWithin table limit n (nextGeneration table sequence)

/-- A generation is a question, a comparison with the limit, and the writing of the generation. -/
theorem generationAfterWatched_succ (check : Checkpoint σ) (table : RuleTable) (limit n : Nat)
    (sequence : List Char) :
    generationAfterWatched check table limit (n + 1) sequence
      = (Watched.ask check).andThen fun _ =>
          if limit < nextLength table sequence then
            Watched.failed (.outOfMemory (nextLength table sequence))
          else
            (nextGenerationWatched check table sequence).andThen
              (generationAfterWatched check table limit n) := by
  funext s
  rw [Watched.ask_andThen, generationAfterWatched]
  rcases check s with ⟨verdict, s₁⟩
  cases verdict with
  | halt => rfl
  | proceed =>
    by_cases hlimit : limit < nextLength table sequence
    · simp only [if_pos hlimit]
      rfl
    · simp only [if_neg hlimit]
      unfold Watched.andThen
      rcases nextGenerationWatched check table sequence s₁ with ⟨outcome, s₂⟩
      cases outcome <;> rfl

theorem generationAfterWatched_computes (hc : check.Keeps I J) (table : RuleTable) (limit n : Nat)
    (sequence : List Char) :
    Watched.Computes (generationAfterWatched check table limit n sequence)
      (generationWithin table limit n sequence) I J := by
  induction n generalizing sequence with
  | zero => exact Watched.Computes.done sequence
  | succ n ih =>
    rw [generationAfterWatched_succ]
    unfold generationWithin
    refine (Watched.Computes.ask hc).andThen_ok ?_
    by_cases hl : limit < nextLength table sequence
    · simp only [if_pos hl]
      exact .failed _
    · simp only [if_neg hl]
      exact (nextGenerationWatched_computes hc table sequence).andThen_ok (ih _)

/-- An expansion from a sequence that is over the limit fails at once. -/
theorem expandWatched_of_lt {limit : Nat} {start : List Char}
    (h : limit < min maxLength (byteLength (stripCommas start))) (check : Checkpoint σ)
    (table : RuleTable) (n : Nat) :
    expandWatched check table limit start n
      = Watched.failed (.outOfMemory (min maxLength (byteLength (stripCommas start)))) := by
  funext s
  simp only [expandWatched, if_pos h]
  rfl

/-- An expansion from any other sequence is its generations. -/
theorem expandWatched_of_not_lt {limit : Nat} {start : List Char}
    (h : ¬ limit < min maxLength (byteLength (stripCommas start))) (check : Checkpoint σ)
    (table : RuleTable) (n : Nat) :
    expandWatched check table limit start n
      = generationAfterWatched check table limit n (stripCommas start) := by
  funext s
  simp only [expandWatched, if_neg h]

/-- What a limited expansion computes, said without a checkpoint. -/
theorem expandWithin_eq_ite (table : RuleTable) (limit : Nat) (start : List Char) (n : Nat) :
    expandWithin table limit start n
      = if limit < min maxLength (byteLength (stripCommas start)) then
          .error (.outOfMemory (min maxLength (byteLength (stripCommas start))))
        else generationWithin table limit n (stripCommas start) := by
  refine Watched.Computes.unwatched ?_ []
  by_cases hl : limit < min maxLength (byteLength (stripCommas start))
  · rw [if_pos hl, expandWatched_of_lt hl]
    exact .failed _
  · rw [if_neg hl, expandWatched_of_not_lt hl]
    exact generationAfterWatched_computes Checkpoint.uninterrupted_keeps table limit n _

/-- **Watching an expansion changes nothing**, unless it is halted. -/
theorem expandWatched_computes (hc : check.Keeps I J) (table : RuleTable) (limit : Nat)
    (start : List Char) (n : Nat) :
    (expandWatched check table limit start n).Computes (expandWithin table limit start n) I J := by
  rw [expandWithin_eq_ite]
  by_cases hl : limit < min maxLength (byteLength (stripCommas start))
  · rw [if_pos hl, expandWatched_of_lt hl]
    exact .failed _
  · rw [if_neg hl, expandWatched_of_not_lt hl]
    exact generationAfterWatched_computes hc table limit n _

/-! ## The first generation over the limit -/

/-- A search through the numbers below `n + 1` looks at 0 first. -/
theorem find?_range_succ (p : Nat → Bool) (n : Nat) :
    (List.range (n + 1)).find? p
      = if p 0 then some 0 else ((List.range n).find? fun k => p (k + 1)).map (· + 1) := by
  rw [List.range_succ_eq_map, List.find?_cons, List.find?_map]
  cases p 0 <;> rfl

/-- Generation `n`, if no generation up to it is longer than the limit, in bytes; else the failure
at the first that is. -/
def withinLimit (limit n : Nat) (generation : Nat → List Char) : Except Failure (List Char) :=
  match (List.range (n + 1)).find? fun k => decide (limit < byteLength (generation k)) with
  | some k => .error (.outOfMemory (min maxLength (byteLength (generation k))))
  | none => .ok (generation n)

theorem withinLimit_of_lt {limit : Nat} (generation : Nat → List Char)
    (h : limit < byteLength (generation 0)) (n : Nat) :
    withinLimit limit n generation
      = .error (.outOfMemory (min maxLength (byteLength (generation 0)))) := by
  rw [withinLimit, find?_range_succ, decide_eq_true h]
  rfl

theorem withinLimit_zero {limit : Nat} {generation : Nat → List Char}
    (h : ¬ limit < byteLength (generation 0)) :
    withinLimit limit 0 generation = .ok (generation 0) := by
  rw [withinLimit, find?_range_succ, decide_eq_false h]
  rfl

theorem withinLimit_succ {limit : Nat} {generation : Nat → List Char}
    (h : ¬ limit < byteLength (generation 0)) (n : Nat) :
    withinLimit limit (n + 1) generation = withinLimit limit n fun k => generation (k + 1) := by
  rw [withinLimit, find?_range_succ, decide_eq_false h, withinLimit]
  cases (List.range (n + 1)).find? fun k => decide (limit < byteLength (generation (k + 1))) <;> rfl

theorem generationWithin_eq {table : RuleTable} {limit : Nat} (hm : limit < maxLength) (n : Nat)
    (sequence : List Char) (hs : ¬ limit < byteLength sequence) :
    generationWithin table limit n sequence
      = withinLimit limit n fun k => generationAfter table k sequence := by
  induction n generalizing sequence with
  | zero =>
    rw [withinLimit_zero hs]
    rfl
  | succ n ih =>
    rw [withinLimit_succ hs]
    unfold generationWithin
    -- the limit can be told apart from `maxLength`, so a length that is cut off is over it as well
    by_cases hl : limit < byteLength (nextGeneration table sequence)
    · rw [nextLength_eq, if_pos (by omega)]
      exact (withinLimit_of_lt (fun k => generationAfter table (k + 1) sequence) hl n).symm
    · rw [nextLength_eq, if_neg (by omega)]
      exact ih _ hl

/-- **A limited expansion fails exactly at the first generation that is longer than the limit**, and
is otherwise the expansion without a limit. -/
theorem expandWithin_eq {table : RuleTable} {limit : Nat} (hm : limit < maxLength)
    (start : List Char) (n : Nat) :
    expandWithin table limit start n = withinLimit limit n (expand start table) := by
  rw [expandWithin_eq_ite]
  by_cases hl : limit < byteLength (stripCommas start)
  · rw [if_pos (by omega)]
    exact (withinLimit_of_lt (expand start table) hl n).symm
  · rw [if_neg (by omega)]
    exact generationWithin_eq hm n _ hl

end Lindenmayer
