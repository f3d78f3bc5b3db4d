import Lindenmayer.Grammar.RuleTable

set_option autoImplicit false

/-! # The bodies in a rule table

Where the bodies of a built table come from: from the clauses of the text, or from a letter of the
starting sequence that stands for itself (`RuleTable.get_addClauses`, `RuleTable.get_addIdentities`,
`RuleTable.get_of_mem_addClauses`). A property of the bodies of a table is therefore one of the
bodies of the clauses (`RuleTable.forall_body_iff`). Clauses make a table exactly when they are
headed by different letters (`RuleTable.exists_addClauses_iff`). -/

namespace Lindenmayer

namespace RuleTable

/-! ## Clauses -/

theorem addClauses_cons {t t' : RuleTable} {c : Clause} {cs : List Clause}
    (h : t.addClauses (c :: cs) = .ok t') :
    t.get c.letter = none ∧ (t.insert c.letter c.body).addClauses cs = .ok t' := by
  unfold addClauses at h
  split at h
  · cases h
  · next hfree => exact ⟨Option.not_isSome_iff_eq_none.1 hfree, h⟩

/-- Clauses leave the bodies there are, and give a letter without one the body of its clause. -/
theorem get_addClauses {t t' : RuleTable} {cs : List Clause} (h : t.addClauses cs = .ok t')
    (l : Letter) :
    t'.get l = (t.get l).or ((cs.find? fun c => c.letter == l).map Clause.body) := by
  induction cs generalizing t with
  | nil =>
    cases h
    exact Option.or_none.symm
  | cons c cs ih =>
    obtain ⟨hfree, h⟩ := addClauses_cons h
    rw [ih h, List.find?_cons]
    by_cases hl : c.letter = l
    · subst hl
      rw [get_insert_self, hfree, beq_self_eq_true]
      rfl
    · rw [get_insert_of_ne t c.body hl, beq_eq_false_iff_ne.2 hl]

/-- Every clause is used. -/
theorem get_of_mem_addClauses {t t' : RuleTable} {cs : List Clause} {c : Clause}
    (h : t.addClauses cs = .ok t') (hc : c ∈ cs) : t'.get c.letter = some c.body := by
  induction cs generalizing t with
  | nil => cases hc
  | cons d cs ih =>
    obtain ⟨-, h⟩ := addClauses_cons h
    rcases List.mem_cons.1 hc with rfl | hc
    · rw [get_addClauses h, get_insert_self]
      rfl
    · exact ih h hc

/-- An entry is missing after an insertion when it was missing before and is not the new one. -/
theorem get_insert_eq_none_iff {t : RuleTable} {l l' : Letter} {body : Word} :
    (t.insert l body).get l' = none ↔ l ≠ l' ∧ t.get l' = none := by
  by_cases h : l = l'
  · subst h
    simp
  · simp [get_insert_of_ne t body h, h]

/-- **Clauses can be added exactly when they are headed by different letters**, none of which has a
body already. -/
theorem exists_addClauses_iff {t : RuleTable} {cs : List Clause} :
    (∃ t', t.addClauses cs = .ok t') ↔
      (cs.map Clause.letter).Nodup ∧ ∀ c ∈ cs, t.get c.letter = none := by
  induction cs generalizing t with
  | nil => simp [addClauses]
  | cons c cs ih =>
    rw [addClauses]
    by_cases hfree : t.get c.letter = none
    · simp only [hfree, Option.isSome_none, Bool.false_eq_true, if_false, ih,
        get_insert_eq_none_iff, List.map_cons, List.nodup_cons, List.forall_mem_cons, true_and]
      constructor
      · rintro ⟨hnodup, hrest⟩
        refine ⟨⟨?_, hnodup⟩, fun d hd => (hrest d hd).2⟩
        intro hmem
        obtain ⟨d, hd, hletter⟩ := List.mem_map.1 hmem
        exact (hrest d hd).1 hletter.symm
      · rintro ⟨⟨hnew, hnodup⟩, hrest⟩
        refine ⟨hnodup, fun d hd => ⟨?_, hrest d hd⟩⟩
        intro hletter
        exact hnew (List.mem_map.2 ⟨d, hd, hletter.symm⟩)
    · simp [Option.isSome_iff_ne_none.2 hfree, hfree]

/-- The first clause that cannot be added is headed by a letter that an earlier clause heads, or
that had a body before. -/
theorem addClauses_eq_error {t : RuleTable} {cs : List Clause} {p : GrammarProblem}
    (h : t.addClauses cs = .error p) :
    ∃ earlier c later, cs = earlier ++ c :: later ∧ p = .duplicateRule c.letter.toChar ∧
      ((t.get c.letter).isSome ∨ c.letter ∈ earlier.map Clause.letter) := by
  induction cs generalizing t with
  | nil => cases h
  | cons c cs ih =>
    rw [addClauses] at h
    split at h
    · next htaken =>
      cases h
      exact ⟨[], c, cs, rfl, rfl, .inl htaken⟩
    · obtain ⟨earlier, d, later, rfl, hp, hd⟩ := ih h
      refine ⟨c :: earlier, d, later, rfl, hp, ?_⟩
      by_cases hletter : c.letter = d.letter
      · exact .inr (by simp [hletter])
      · rw [get_insert_of_ne t c.body hletter] at hd
        exact hd.imp id (List.mem_cons_of_mem _)

/-! ## Letters that stand for themselves -/

theorem get_addIdentity (t : RuleTable) (l l' : Letter) :
    (t.addIdentity l).get l' = (t.get l').or (if l' = l then some [.letter l'] else none) := by
  unfold addIdentity
  cases hl : t.get l with
  | none =>
    by_cases h : l' = l
    · subst h
      simp [hl]
    · simp [get_insert_of_ne t _ (Ne.symm h), h]
  | some body =>
    by_cases h : l' = l
    · subst h
      simp [hl]
    · simp [h]

theorem get_foldl_addIdentity (t : RuleTable) (ls : List Letter) (l : Letter) :
    (ls.foldl addIdentity t).get l
      = (t.get l).or ((ls.find? fun l' => l' == l).map fun l' => [.letter l']) := by
  induction ls generalizing t with
  | nil => exact Option.or_none.symm
  | cons l' ls ih =>
    rw [List.foldl_cons, ih, get_addIdentity, List.find?_cons]
    cases t.get l with
    | some body => rfl
    | none =>
      by_cases h : l = l'
      · subst h
        simp
      · have hne : (l' == l) = false := beq_eq_false_iff_ne.2 (Ne.symm h)
        simp [h, hne]

/-- Letters of a starting sequence stand for themselves unless they have a body. -/
theorem get_addIdentities (t : RuleTable) (start : List Char) (l : Letter) :
    (t.addIdentities start).get l
      = (t.get l).or (((start.filterMap Letter.ofChar?).find? fun l' => l' == l).map
          fun l' => [.letter l']) :=
  get_foldl_addIdentity t _ l

/-! ## Built tables -/

theorem eq_ok_of_toOption {ε τ : Type} {result : Except ε τ} {value : τ}
    (h : result.toOption = some value) : result = .ok value := by
  cases result with
  | error error => cases h
  | ok value' =>
    cases h
    rfl

theorem build_eq_ok {rules start : List Char} {table : RuleTable}
    (h : build rules start = .ok table) :
    (Reading.ofText rules).left = none ∧
      ∃ t, empty.addClauses (Reading.ofText rules).clauses = .ok t ∧
        table = t.addIdentities start := by
  unfold build at h
  simp only at h
  split at h
  · cases h
  · next t ht =>
    split at h
    · cases h
    · next hleft =>
      cases h
      exact ⟨hleft, t, ht, rfl⟩

/-- A property that single letters have holds of all bodies when it holds of the bodies of all
clauses. -/
theorem forall_body_iff {rules start : List Char} {table : RuleTable} {P : Word → Prop}
    (h : build rules start = .ok table) (hP : ∀ l, P [.letter l]) :
    (∀ l body, table.get l = some body → P body)
      ↔ ∀ c ∈ (Reading.ofText rules).clauses, P c.body := by
  obtain ⟨-, t, ht, rfl⟩ := build_eq_ok h
  constructor
  · intro hall c hc
    refine hall c.letter c.body ?_
    rw [get_addIdentities, get_of_mem_addClauses ht hc]
    rfl
  · intro hall l body hl
    rw [get_addIdentities, get_addClauses ht, get_empty, Option.none_or] at hl
    rcases Option.or_eq_some_iff.1 hl with hclause | ⟨-, hself⟩
    · obtain ⟨c, hc, rfl⟩ := Option.map_eq_some_iff.1 hclause
      exact hall c (List.mem_of_find?_eq_some hc)
    · obtain ⟨l', -, rfl⟩ := Option.map_eq_some_iff.1 hself
      exact hP l'

theorem parse_eq_ok {start rules : List Char} {table : RuleTable}
    (h : parse start rules = .ok table) :
    grammarProblems start rules = [] ∧ build rules start = .ok table := by
  unfold parse at h
  split at h
  · cases h
  · next hvalid =>
    split at h
    · next t hbuild =>
      cases h
      exact ⟨validate_eq_ok_iff.1 hvalid, hbuild⟩
    · cases h

end RuleTable

end Lindenmayer
