import Lindenmayer.Proofs.Grammar.Cuts
import Lindenmayer.Proofs.Grammar.Table

set_option autoImplicit false

/-! # Which accepted bodies are balanced

The brackets of a rules text are checked part by part, and a part may hold several clauses, when
those are written without commas. Such clauses can make up for one another: `(A,[)(B,])` is accepted
(`RuleTable.parse_unbalanced_body`). What the check does guarantee is said by
`RuleTable.balanced_bodies_iff`: the bodies of an accepted text are balanced exactly when wherever
one clause follows another without a comma, the text before has as many `]` as `[`. -/

namespace Lindenmayer

/-! ## The check -/

theorem bracketProblem?_eq_none_iff {clause : Nat} {part : List Char} :
    bracketProblem? clause part = none ↔ Balanced part := by
  unfold bracketProblem? Balanced
  by_cases hcount : opened part = closed part
  · cases hdips : dips 0 part <;> simp [hcount]
  · simp [hcount]

theorem bracketProblems_eq_nil_iff {rules : List Char} :
    bracketProblems rules = [] ↔ ∀ part ∈ clauseParts rules, Balanced part := by
  unfold bracketProblems
  rw [List.filterMap_eq_nil_iff]
  constructor
  · intro h part hpart
    obtain ⟨i, hi⟩ := List.mem_iff_getElem?.1 hpart
    exact bracketProblem?_eq_none_iff.1 (h (part, i) (List.mem_zipIdx_iff_getElem?.2 hi))
  · intro h p hp
    exact bracketProblem?_eq_none_iff.2 (h p.1 (List.fst_mem_of_mem_zipIdx hp))

theorem balanced_of_grammarProblems {start rules : List Char}
    (h : grammarProblems start rules = []) : ∀ part ∈ clauseParts rules, Balanced part := by
  unfold grammarProblems at h
  rw [List.append_eq_nil_iff, List.append_eq_nil_iff] at h
  exact bracketProblems_eq_nil_iff.1 h.1.2

/-! ## Rows of clauses -/

/-- Wherever one clause follows another without a comma, the text before has as many `[` as `]`. -/
def LevelSeams (rules : List Char) : Prop :=
  ∀ u v, rules = u ++ ')' :: '(' :: v → opened u = closed u

section Row

variable {c : Clause} {cs : List Clause}

/-- After a balanced clause the parts of the rest are balanced. -/
theorem balanced_parts_tail (hc : Balanced c.front)
    (h : ∀ part ∈ clauseParts (Clause.textAll (c :: cs)), Balanced part) :
    ∀ part ∈ clauseParts (Clause.textAll cs), Balanced part := by
  cases hcomma : c.comma with
  | true =>
    rw [clauseParts_textAll_of_comma hcomma] at h
    exact fun part hpart => h part (List.mem_cons_of_mem _ hpart)
  | false =>
    rw [clauseParts_textAll_of_bare hcomma] at h
    have hclose : Balanced [')'] := by decide
    have hfirst := h _ List.mem_cons_self
    rw [hc.append_iff, ← List.singleton_append, hclose.append_iff] at hfirst
    intro part hpart
    rcases List.mem_cons.1 hpart with rfl | hpart
    · exact hfirst
    · exact h part (List.mem_cons_of_mem _ hpart)

/-- A balanced clause in front changes nothing about the seams. -/
theorem levelSeams_cons_iff (hc : Balanced c.front) :
    LevelSeams (Clause.textAll (c :: cs)) ↔ LevelSeams (Clause.textAll cs) := by
  have hlevel : ∀ u, opened (c.front ++ ')' :: ((if c.comma then [','] else []) ++ u))
      = closed (c.front ++ ')' :: ((if c.comma then [','] else []) ++ u))
        ↔ opened u = closed u := by
    intro u
    have hfront := hc.1
    have hrest : Balanced (')' :: if c.comma then [','] else []) := by
      cases c.comma <;> decide
    have hcounts := hrest.1
    rw [← List.cons_append, opened_append, opened_append, closed_append, closed_append]
    omega
  constructor
  · intro h u v huv
    exact (hlevel u).1 (h _ v (seam_textAll_cons huv))
  · intro h u v huv
    rcases seam_textAll huv with ⟨-, rfl⟩ | ⟨u', rfl, ht⟩
    · exact hc.1
    · exact (hlevel u').2 (h u' v ht)

/-- The first clause is balanced when the parts are and the seam after it, if there is one, is
level. -/
theorem balanced_front_of_levelSeams
    (h : ∀ part ∈ clauseParts (Clause.textAll (c :: cs)), Balanced part)
    (hseams : LevelSeams (Clause.textAll (c :: cs))) : Balanced c.front := by
  cases hcomma : c.comma with
  | true =>
    rw [clauseParts_textAll_of_comma hcomma] at h
    exact h _ List.mem_cons_self
  | false =>
    rw [clauseParts_textAll_of_bare hcomma] at h
    have hfirst := h _ List.mem_cons_self
    -- the part goes on after this clause, so it does not dip, but its count says nothing
    refine hfirst.of_append ?_
    cases cs with
    | nil =>
      -- a last clause without a comma has a part of its own
      have hcounts := hfirst.1
      simpa [Clause.textAll, cutClauses, opened_cons_of_ne, closed_cons_of_ne] using hcounts
    | cons d cs =>
      obtain ⟨v, hv⟩ := seam_textAll_bare hcomma cs
      exact hseams _ v hv

/-- **The clauses of a row with balanced parts are balanced exactly when its seams are level.** -/
theorem balanced_clauses_iff
    (h : ∀ part ∈ clauseParts (Clause.textAll cs), Balanced part) :
    (∀ c ∈ cs, Balanced c.body.text) ↔ LevelSeams (Clause.textAll cs) := by
  induction cs with
  | nil =>
    refine ⟨fun _ u v huv => ?_, fun _ c hc => ?_⟩
    · simp [Clause.textAll] at huv
    · cases hc
  | cons c cs ih =>
    rw [List.forall_mem_cons, ← c.balanced_front_iff]
    constructor
    · rintro ⟨hc, hcs⟩
      exact (levelSeams_cons_iff hc).2 ((ih (balanced_parts_tail hc h)).1 hcs)
    · intro hseams
      have hc := balanced_front_of_levelSeams h hseams
      exact ⟨hc, (ih (balanced_parts_tail hc h)).2 ((levelSeams_cons_iff hc).1 hseams)⟩

end Row

/-! ## Accepted grammars -/

namespace RuleTable

/-- **The bodies of an accepted grammar are balanced exactly when its seams are level**: every rule
body has as many `[` as `]` and never closes a branch that it did not open, if and only if wherever
one clause follows another without a comma, the text before has as many `]` as `[`. -/
theorem balanced_bodies_iff {start rules : List Char} {table : RuleTable}
    (h : parse start rules = .ok table) :
    (∀ l body, table.get l = some body → Balanced body.text)
      ↔ ∀ u v, rules = u ++ ')' :: '(' :: v → opened u = closed u := by
  obtain ⟨hproblems, hbuild⟩ := parse_eq_ok h
  have hparts := balanced_of_grammarProblems hproblems
  have htext := Reading.textAll_clauses (build_eq_ok hbuild).1
  have hself : ∀ l : Letter, Balanced (Word.text [.letter l]) := by decide
  rw [← htext] at hparts
  have hrow := balanced_clauses_iff hparts
  rw [htext] at hrow
  exact (forall_body_iff hbuild hself).trans hrow

/-- Two clauses with a comma between them have balanced bodies: there is no seam. -/
theorem balanced_bodies_of_commas :
    ∃ table, parse ['A'] "(A,[B]),(B,A[])".toList = .ok table ∧ table.get 0 ≠ some [.letter 0] ∧
      ∀ l body, table.get l = some body → Balanced body.text := by
  have hseam : ¬ [')', '('] <:+: "(A,[B]),(B,A[])".toList := by decide +kernel
  have h : (parse ['A'] "(A,[B]),(B,A[])".toList).toOption
      = some ((empty.insert 0 [.openBracket, .letter 1, .closeBracket]).insert 1
          [.letter 0, .openBracket, .closeBracket]) := by
    decide +kernel
  refine ⟨_, eq_ok_of_toOption h, by decide,
    (balanced_bodies_iff (eq_ok_of_toOption h)).2 fun u v huv => ?_⟩
  exact absurd ⟨u, v, by rw [huv]; simp⟩ hseam

/-- Two clauses without a comma between them are accepted although neither body is balanced. -/
theorem parse_unbalanced_body :
    ∃ table, parse ['A', 'B'] "(A,[)(B,])".toList = .ok table ∧
      table.get 0 = some [.openBracket] ∧ ¬ Balanced (Word.text [.openBracket]) ∧
      table.get 1 = some [.closeBracket] ∧ ¬ Balanced (Word.text [.closeBracket]) := by
  have h : (parse ['A', 'B'] "(A,[)(B,])".toList).toOption
      = some ((empty.insert 0 [.openBracket]).insert 1 [.closeBracket]) := by
    decide +kernel
  exact ⟨_, eq_ok_of_toOption h, by decide, by decide, by decide, by decide⟩

end RuleTable

end Lindenmayer
