import Lindenmayer.Proofs.Grammar.Language

set_option autoImplicit false

/-! # The notation of rules

A row of clauses is written as a text, and a table is built from the text. Nothing is lost on the
way and nothing is added (`RuleTable.build_inverts_notation`): clauses that are headed by different
letters make a table with their bodies (`RuleTable.build_textAll`), which does not depend on their
order nor on the commas after them (`RuleTable.build_textAll_perm`), and a text that makes a table
is the written form of one row of clauses and no other (`RuleTable.existsUnique_textAll`). -/

namespace Lindenmayer

/-! ## The written form -/

namespace Clause

/-- **The written form of a row of clauses says which row it is.** -/
theorem textAll_injective : Function.Injective textAll := by
  intro cs cs' h
  have hread := Reading.ofText_textAll cs
  rw [h, Reading.ofText_textAll cs'] at hread
  exact (congrArg Reading.clauses hread).symm

/-- What a clause says, without the comma that may follow it. -/
def rule (c : Clause) : Letter × Word := (c.letter, c.body)

end Clause

namespace RuleTable

/-! ## Letters that stand for themselves -/

theorem mem_letters_iff {start : List Char} {l : Letter} :
    l ∈ start.filterMap Letter.ofChar? ↔ l.toChar ∈ start := by
  rw [List.mem_filterMap]
  constructor
  · rintro ⟨c, hc, hl⟩
    rwa [Letter.toChar_eq_of_ofChar? hl]
  · intro h
    exact ⟨l.toChar, h, Letter.ofChar?_toChar l⟩

/-- A letter without a body gets itself, if it is one of the starting sequence. -/
theorem get_addIdentities_of_none {t : RuleTable} {l : Letter} (h : t.get l = none)
    (start : List Char) :
    (t.addIdentities start).get l = if l.toChar ∈ start then some [.letter l] else none := by
  rw [get_addIdentities, h, Option.none_or]
  cases hfind : (start.filterMap Letter.ofChar?).find? fun l' => l' == l with
  | none =>
    have hl : l.toChar ∉ start := by
      intro hmem
      exact List.find?_eq_none.1 hfind l (mem_letters_iff.2 hmem) (beq_self_eq_true l)
    rw [if_neg hl]
    rfl
  | some l' =>
    have heq := List.find?_some hfind
    cases eq_of_beq heq
    have hl : l.toChar ∈ start := mem_letters_iff.1 (List.mem_of_find?_eq_some hfind)
    rw [if_pos hl]
    rfl

/-! ## Building from the written form -/

/-- Clauses that are headed by different letters make a table with their bodies. -/
theorem build_textAll {cs : List Clause} (h : (cs.map Clause.letter).Nodup) (start : List Char) :
    ∃ table, build (Clause.textAll cs) start = .ok table ∧
      (∀ c ∈ cs, table.get c.letter = some c.body) ∧
      ∀ l, l ∉ cs.map Clause.letter →
        table.get l = if l.toChar ∈ start then some [.letter l] else none := by
  obtain ⟨t, ht⟩ : ∃ t, empty.addClauses cs = .ok t :=
    exists_addClauses_iff.2 ⟨h, fun c _ => get_empty c.letter⟩
  refine ⟨t.addIdentities start, ?_, ?_, ?_⟩
  · simp only [build, Reading.ofText_textAll, ht]
  · intro c hc
    rw [get_addIdentities, get_of_mem_addClauses ht hc]
    rfl
  · intro l hl
    have hnone : (cs.find? fun c => c.letter == l) = none := by
      rw [List.find?_eq_none]
      intro c hc heq
      exact hl (List.mem_map.2 ⟨c, hc, eq_of_beq heq⟩)
    refine get_addIdentities_of_none ?_ start
    rw [get_addClauses ht, hnone, get_empty]
    rfl

/-- Rows that say the same, in any order and with any commas, make the same table. -/
theorem build_textAll_perm {cs cs' : List Clause} (h : (cs.map Clause.letter).Nodup)
    (hperm : (cs.map Clause.rule).Perm (cs'.map Clause.rule)) (start : List Char) :
    build (Clause.textAll cs) start = build (Clause.textAll cs') start := by
  have hletters : (cs.map Clause.letter).Perm (cs'.map Clause.letter) := by
    simpa [Clause.rule, Function.comp_def] using hperm.map Prod.fst
  obtain ⟨table, hbuild, hrules, hothers⟩ := build_textAll h start
  obtain ⟨table', hbuild', hrules', hothers'⟩ := build_textAll (hletters.nodup_iff.1 h) start
  have htables : table = table' := by
    refine ext_get fun l => ?_
    by_cases hl : l ∈ cs.map Clause.letter
    · obtain ⟨c, hc, rfl⟩ := List.mem_map.1 hl
      -- the clause of the letter in the other row has the same body
      obtain ⟨c', hc', hsame⟩ := List.mem_map.1 (hperm.mem_iff.1 (List.mem_map_of_mem hc))
      have hbody := hrules' c' hc'
      simp only [Clause.rule, Prod.mk.injEq] at hsame
      rw [hsame.1, hsame.2] at hbody
      rw [hrules c hc, hbody]
    · have hl' : l ∉ cs'.map Clause.letter := fun hmem => hl (hletters.mem_iff.2 hmem)
      rw [hothers l hl, hothers' l hl']
  rw [hbuild, hbuild', htables]

/-- A text that makes a table is the written form of exactly one row of clauses, and these are
headed by different letters. -/
theorem existsUnique_textAll {rules start : List Char} {table : RuleTable}
    (h : build rules start = .ok table) :
    ∃! cs : List Clause, (cs.map Clause.letter).Nodup ∧ Clause.textAll cs = rules := by
  obtain ⟨hleft, t, ht, -⟩ := build_eq_ok h
  have htext := Reading.textAll_clauses hleft
  refine ⟨(Reading.ofText rules).clauses, ⟨(exists_addClauses_iff.1 ⟨t, ht⟩).1, htext⟩, ?_⟩
  rintro cs ⟨-, hcs⟩
  exact Clause.textAll_injective (hcs.trans htext.symm)

/-- **Building inverts the notation of rules.** The written form of clauses that are headed by
different letters makes a table with the bodies of the clauses, in which the other letters of the
starting sequence stand for themselves; the order of the clauses and the commas after them make no
difference; and every text that makes a table is the written form of exactly one such row. -/
theorem build_inverts_notation (start : List Char) :
    (∀ cs : List Clause, (cs.map Clause.letter).Nodup →
      ∃ table, build (Clause.textAll cs) start = .ok table ∧
        (∀ c ∈ cs, table.get c.letter = some c.body) ∧
        ∀ l, l ∉ cs.map Clause.letter →
          table.get l = if l.toChar ∈ start then some [.letter l] else none) ∧
    (∀ cs cs' : List Clause, (cs.map Clause.letter).Nodup →
      (cs.map Clause.rule).Perm (cs'.map Clause.rule) →
        build (Clause.textAll cs) start = build (Clause.textAll cs') start) ∧
    ∀ (rules : List Char) (table : RuleTable), build rules start = .ok table →
      ∃! cs : List Clause, (cs.map Clause.letter).Nodup ∧ Clause.textAll cs = rules :=
  ⟨fun _ h => build_textAll h start, fun _ _ h hperm => build_textAll_perm h hperm start,
    fun _ _ h => existsUnique_textAll h⟩

/-- Two clauses in either order, with a comma and without: `A` and `B` get their bodies, `C` of the
starting sequence gets itself, and `D` gets none. -/
theorem build_reordered_notation :
    ∃ table, build "(B,A[+]),(A,)".toList "AC,".toList = .ok table ∧
      table.get 1 = some [.letter 0, .openBracket, .plus, .closeBracket] ∧ table.get 0 = some [] ∧
      table.get 2 = some [.letter 2] ∧ table.get 3 = none ∧
      build "(A,)(B,A[+])".toList "AC,".toList = .ok table ∧
      ∃! cs : List Clause,
        (cs.map Clause.letter).Nodup ∧ Clause.textAll cs = "(B,A[+]),(A,)".toList := by
  let cs : List Clause :=
    [⟨1, [.letter 0, .openBracket, .plus, .closeBracket], true⟩, ⟨0, [], false⟩]
  let cs' : List Clause :=
    [⟨0, [], false⟩, ⟨1, [.letter 0, .openBracket, .plus, .closeBracket], false⟩]
  have hletters : (cs.map Clause.letter).Nodup := by decide
  have hperm : (cs.map Clause.rule).Perm (cs'.map Clause.rule) := by decide
  have htext : Clause.textAll cs = "(B,A[+]),(A,)".toList := by decide
  have htext' : Clause.textAll cs' = "(A,)(B,A[+])".toList := by decide
  obtain ⟨hbuild, hsame, hunique⟩ := build_inverts_notation "AC,".toList
  obtain ⟨table, htable, hrules, hothers⟩ := hbuild cs hletters
  have hothertable := (hsame cs cs' hletters hperm).symm.trans htable
  rw [htext] at htable
  rw [htext'] at hothertable
  refine ⟨table, htable, ?_, ?_, ?_, ?_, hothertable, hunique _ table htable⟩
  · exact hrules _ List.mem_cons_self
  · exact hrules ⟨0, [], false⟩ (by decide)
  · exact (hothers 2 (by decide)).trans (by decide)
  · exact (hothers 3 (by decide)).trans (by decide)

end RuleTable

end Lindenmayer
