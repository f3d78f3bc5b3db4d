import Mathlib.Data.Matrix.Mul
import Mathlib.Tactic.DeriveFintype
import Lindenmayer.Proofs.Expansion.Homomorphism
import Lindenmayer.Proofs.Grammar.Table
import Lindenmayer.Proofs.Turtle.Outcome

set_option autoImplicit false

/-! # How expansions grow

How often each symbol stands in a sequence says how often each will stand in the next generation:
the counts of a sequence are a vector, the counts of the successors are the rows of a matrix
(`RuleTable.growth`), and the counts of the next generation are their product
(`symbolCounts_nextGeneration`). So `n` generations are the `n`-th power of the matrix. The order of
the symbols never matters, and neither does anything in a sequence that is no symbol.

When every body is made of `k` letters that have bodies themselves (`RuleTable.Multiplies`), each
generation is `k` times as long as the one before. Both are said in `expand_grows`. -/

namespace Lindenmayer

open Matrix

/-! ## Counts of symbols -/

deriving instance Fintype for Symbol

example : Fintype.card Symbol = 30 := rfl

theorem Symbol.toChar_injective : Function.Injective Symbol.toChar := by
  intro s t h
  have hread := congrArg Symbol.ofChar? h
  rwa [ofChar?_toChar, ofChar?_toChar, Option.some_inj] at hread

/-- How often each symbol stands in a sequence. -/
def symbolCounts (sequence : List Char) : Symbol → ℕ := fun s => sequence.count s.toChar

theorem symbolCounts_nil : symbolCounts [] = 0 := rfl

theorem symbolCounts_append (s t : List Char) :
    symbolCounts (s ++ t) = symbolCounts s + symbolCounts t := by
  funext x
  exact List.count_append

theorem symbolCounts_text (w : Word) : symbolCounts w.text = fun x => w.count x := by
  funext x
  exact List.count_map_of_injective w Symbol.toChar Symbol.toChar_injective x

/-- A symbol by itself is counted once. -/
theorem symbolCounts_singleton (s : Symbol) : symbolCounts [s.toChar] = Pi.single s 1 := by
  have htext : [s.toChar] = Word.text [s] := rfl
  rw [htext, symbolCounts_text]
  funext x
  rw [List.count_singleton, Pi.single_apply]
  exact if_congr (beq_iff_eq.trans eq_comm) rfl rfl

/-- What is no symbol is not counted. -/
theorem symbolCounts_stray {c : Char} (h : Symbol.ofChar? c = none) : symbolCounts [c] = 0 := by
  funext x
  exact List.count_eq_zero.2 fun hmem => x.toChar_ne h (List.mem_singleton.1 hmem)

theorem symbolCounts_stripCommas (start : List Char) :
    symbolCounts (stripCommas start) = symbolCounts start := by
  funext x
  refine List.count_filter ?_
  simpa using x.toChar_ne (c := ',') (by decide)

/-! ## The matrix -/

/-- How often each symbol stands in the successor of each: the row of a letter that has a body
counts the symbols of the body, and every other row is that of the unit matrix. -/
def RuleTable.growth (table : RuleTable) : Matrix Symbol Symbol ℕ
  | .letter l, x =>
    match table.get l with
    | some body => body.count x
    | none => (1 : Matrix Symbol Symbol ℕ) (.letter l) x
  | s, x => (1 : Matrix Symbol Symbol ℕ) s x

/-- The rows of the matrix count the symbols of the successors. -/
theorem symbolCounts_successor (table : RuleTable) (s : Symbol) :
    symbolCounts (successor table s.toChar) = table.growth s := by
  have hkept : symbolCounts [s.toChar] = (1 : Matrix Symbol Symbol ℕ) s := by
    rw [symbolCounts_singleton]
    funext x
    rw [one_eq_pi_single]
  unfold successor
  rw [Symbol.ofChar?_toChar]
  cases s with
  | letter l =>
    funext x
    cases hbody : table.get l with
    | some body => simp only [hbody, symbolCounts_text, RuleTable.growth]
    | none => simp only [hbody, hkept, RuleTable.growth]
  | plus => exact hkept
  | minus => exact hkept
  | openBracket => exact hkept
  | closeBracket => exact hkept

/-- **One generation is one product**: counts are added up over the characters of a sequence, and
what is no symbol is neither counted nor replaced by anything. -/
theorem symbolCounts_nextGeneration (table : RuleTable) (sequence : List Char) :
    symbolCounts (nextGeneration table sequence) = symbolCounts sequence ᵥ* table.growth := by
  induction sequence with
  | nil => exact (zero_vecMul table.growth).symm
  | cons c rest ih =>
    have hfirst : symbolCounts (successor table c) = symbolCounts [c] ᵥ* table.growth := by
      cases hc : Symbol.ofChar? c with
      | none =>
        have hdropped : successor table c = [] := by simp only [successor, hc]
        rw [hdropped, symbolCounts_stray hc, zero_vecMul, symbolCounts_nil]
      | some s =>
        rw [← Symbol.toChar_eq_of_ofChar? hc, symbolCounts_singleton, single_one_vecMul]
        exact symbolCounts_successor table s
    calc symbolCounts (nextGeneration table (c :: rest))
        = symbolCounts (successor table c) + symbolCounts (nextGeneration table rest) :=
          symbolCounts_append _ _
      _ = symbolCounts [c] ᵥ* table.growth + symbolCounts rest ᵥ* table.growth := by
          rw [hfirst, ih]
      _ = symbolCounts (c :: rest) ᵥ* table.growth := by
          rw [← add_vecMul, ← symbolCounts_append, List.singleton_append]

theorem symbolCounts_generationAfter (table : RuleTable) (n : Nat) (sequence : List Char) :
    symbolCounts (generationAfter table n sequence)
      = symbolCounts sequence ᵥ* table.growth ^ n := by
  induction n generalizing sequence with
  | zero => rw [pow_zero, vecMul_one, generationAfter]
  | succ n ih =>
    rw [generationAfter, ih, symbolCounts_nextGeneration, vecMul_vecMul, ← pow_succ']

/-! ## Bodies of one length -/

/-- Every body is made of `k` letters, all of which have bodies. -/
structure RuleTable.Multiplies (table : RuleTable) (k : Nat) : Prop where
  length : ∀ l body, table.get l = some body → body.length = k
  letters : ∀ l body, table.get l = some body → ∀ s ∈ body, ∃ l', s = .letter l' ∧
    (table.get l').isSome

/-- A sequence is made of letters that have bodies. -/
def RuleTable.Covers (table : RuleTable) (sequence : List Char) : Prop :=
  ∀ c ∈ sequence, ∃ l : Letter, c = l.toChar ∧ (table.get l).isSome

theorem successor_letter {table : RuleTable} {l : Letter} {body : Word}
    (h : table.get l = some body) : successor table l.toChar = body.text := by
  have hread : Symbol.ofChar? l.toChar = some (.letter l) := Symbol.ofChar?_toChar (.letter l)
  simp only [successor, hread, h]

section Multiplies

variable {table : RuleTable} {k : Nat} (hk : table.Multiplies k)
include hk

/-- Each letter is replaced by `k` letters of the same kind. -/
theorem covers_nextGeneration {sequence : List Char} (h : table.Covers sequence) :
    table.Covers (nextGeneration table sequence) ∧
      (nextGeneration table sequence).length = sequence.length * k := by
  induction sequence with
  | nil => exact ⟨h, (Nat.zero_mul k).symm⟩
  | cons c rest ih =>
    obtain ⟨⟨l, rfl, hl⟩, hrest⟩ := List.forall_mem_cons.1 h
    obtain ⟨hcovers, hlength⟩ := ih hrest
    obtain ⟨body, hbody⟩ := Option.isSome_iff_exists.1 hl
    have hnext : nextGeneration table (l.toChar :: rest)
        = body.text ++ nextGeneration table rest := by
      rw [← successor_letter hbody]
      rfl
    rw [hnext]
    refine ⟨List.forall_mem_append.2 ⟨fun d hd => ?_, hcovers⟩, ?_⟩
    · obtain ⟨s, hs, rfl⟩ := List.mem_map.1 hd
      obtain ⟨l', rfl, hl'⟩ := hk.letters l body hbody s hs
      exact ⟨l', rfl, hl'⟩
    · rw [List.length_append, hlength, Word.text, List.length_map, hk.length l body hbody,
        List.length_cons, Nat.succ_mul, Nat.add_comm]

theorem length_generationAfter_of_multiplies (n : Nat) {sequence : List Char}
    (h : table.Covers sequence) :
    (generationAfter table n sequence).length = sequence.length * k ^ n := by
  induction n generalizing sequence with
  | zero => simp [generationAfter]
  | succ n ih =>
    obtain ⟨hcovers, hlength⟩ := covers_nextGeneration hk h
    rw [generationAfter, ih hcovers, hlength, pow_succ', Nat.mul_assoc]

end Multiplies

/-- Between commas, letters are all there is. -/
theorem length_stripCommas {start : List Char}
    (h : ∀ c ∈ start, c = ',' ∨ ∃ l : Letter, c = l.toChar) :
    (stripCommas start).length = letters start := by
  rw [stripCommas, ← List.countP_eq_length_filter, letters]
  refine List.countP_congr fun c hc => ?_
  rcases h c hc with rfl | ⟨l, rfl⟩
  · decide
  · have hne : l.toChar ≠ ',' := l.toChar_ne (by decide)
    simp [hne, l.isLetter_toChar]

/-! ## Expansions -/

/-- **The growth law of expansion.** The counts of the symbols in generation `n` are those of the
starting sequence times the `n`-th power of the matrix whose row for a letter with a body counts
the symbols of the body, and whose other rows are those of the unit matrix. If every body is made of
`k` letters, and these and all letters of the starting sequence have bodies, then `m` letters, with
or without commas between them, expand to `m * k ^ n` symbols. -/
theorem expand_grows (table : RuleTable) (start : List Char) (n : Nat) :
    (∀ x : Symbol, (expand start table n).count x.toChar
        = ((fun s : Symbol => start.count s.toChar) ᵥ* table.growth ^ n) x) ∧
      ∀ k, (∀ l body, table.get l = some body → body.length = k ∧
          ∀ s ∈ body, ∃ l', s = .letter l' ∧ (table.get l').isSome) →
        (∀ c ∈ start, c = ',' ∨ ∃ l : Letter, c = l.toChar ∧ (table.get l).isSome) →
          (expand start table n).length = letters start * k ^ n := by
  constructor
  · intro x
    have hcounts := symbolCounts_generationAfter table n (stripCommas start)
    rw [symbolCounts_stripCommas] at hcounts
    exact congrFun hcounts x
  · intro k hbodies hstart
    have hk : table.Multiplies k :=
      ⟨fun l body h => (hbodies l body h).1, fun l body h => (hbodies l body h).2⟩
    have hcovers : table.Covers (stripCommas start) := by
      intro c hc
      obtain ⟨hmem, hcomma⟩ := List.mem_filter.1 hc
      exact (hstart c hmem).resolve_left (by simpa using hcomma)
    have hletters : ∀ c ∈ start, c = ',' ∨ ∃ l : Letter, c = l.toChar :=
      fun c hc => (hstart c hc).imp_right fun ⟨l, hl, _⟩ => ⟨l, hl⟩
    rw [expand, length_generationAfter_of_multiplies hk n hcovers, length_stripCommas hletters]

/-- Three letters whose bodies are two letters are 3072 symbols after ten generations. -/
theorem expand_doubling :
    let start := ['A', ',', 'B', ',', 'A']
    ∃ table, RuleTable.build "(A,AB),(B,BA)".toList start = .ok table ∧
      (∀ l body, table.get l = some body → body.length = 2 ∧
        ∀ s ∈ body, ∃ l', s = .letter l' ∧ (table.get l').isSome) ∧
      (∀ c ∈ start, c = ',' ∨ ∃ l : Letter, c = l.toChar ∧ (table.get l).isSome) ∧
      (expand start table 10).length = 3072 := by
  intro start
  let table := (RuleTable.empty.insert 0 [.letter 0, .letter 1]).insert 1 [.letter 1, .letter 0]
  have hbuild : (RuleTable.build "(A,AB),(B,BA)".toList start).toOption = some table := by
    decide +kernel
  have hall : ∀ l, ∀ body ∈ table.get l, body.length = 2 ∧
      ∀ s ∈ body, ∃ l', s = .letter l' ∧ (table.get l').isSome := by decide
  have hbodies : ∀ l body, table.get l = some body → body.length = 2 ∧
      ∀ s ∈ body, ∃ l', s = .letter l' ∧ (table.get l').isSome := hall
  have hstart : ∀ c ∈ start, c = ',' ∨ ∃ l : Letter, c = l.toChar ∧ (table.get l).isSome := by
    have hfirst : ∃ l : Letter, 'A' = l.toChar ∧ (table.get l).isSome := ⟨0, rfl, rfl⟩
    have hsecond : ∃ l : Letter, 'B' = l.toChar ∧ (table.get l).isSome := ⟨1, rfl, rfl⟩
    simp only [start, List.forall_mem_cons]
    exact ⟨.inr hfirst, .inl trivial, .inr hsecond, .inl trivial, .inr hfirst, nofun⟩
  have hletters : letters start = 3 := by decide
  have hlength := (expand_grows table start 10).2 2 hbodies hstart
  rw [hletters] at hlength
  exact ⟨table, RuleTable.eq_ok_of_toOption hbuild, hbodies, hstart, hlength⟩

end Lindenmayer
