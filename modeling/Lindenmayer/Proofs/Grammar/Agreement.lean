import Lindenmayer.Proofs.Grammar.Notation

set_option autoImplicit false

/-! # Building and validating agree

Building a table stops at the first fault it meets while it reads clauses; validation collects all
faults, and finds letters with several rules by a search through the raw text. Both are about the
same faults (`RuleTable.build_agrees_with_validate`): a table is built exactly when validation finds
no break of the grammar of clauses and no letter with several rules, and the fault at which building
stops is one that validation finds (`RuleTable.mem_grammarProblems_of_build`). So validation that
found nothing is never followed by a failure. -/

namespace Lindenmayer

/-! ## The problems that are found -/

theorem validate_eq_error_iff {start rules : List Char} {problems : GrammarProblems} :
    validate start rules = .error problems ↔ grammarProblems start rules = problems.list := by
  obtain ⟨list, hlist⟩ := problems
  unfold validate GrammarProblems.ofList?
  by_cases h : grammarProblems start rules = []
  · simp [h, Ne.symm hlist]
  · simp [h]

theorem eq_strayCharacter_of_startProblem? {start : List Char} {p : GrammarProblem}
    (h : startProblem? start = some p) : ∃ position c, p = .strayCharacter position c := by
  obtain ⟨⟨c, position⟩, -, rfl⟩ := Option.map_eq_some_iff.1 h
  exact ⟨position, c, rfl⟩

theorem eq_brackets_of_mem_bracketProblems {rules : List Char} {p : GrammarProblem}
    (h : p ∈ bracketProblems rules) :
    (∃ i m n, p = .unbalancedBrackets i m n) ∨ ∃ i, p = .misnestedBrackets i := by
  obtain ⟨⟨part, i⟩, -, hp⟩ := List.mem_filterMap.1 h
  unfold bracketProblem? at hp
  split at hp
  · cases hp
    exact .inl ⟨_, _, _, rfl⟩
  · split at hp
    · cases hp
      exact .inr ⟨_, rfl⟩
    · cases hp

theorem mem_duplicateProblems_iff {rules : List Char} {p : GrammarProblem} :
    p ∈ duplicateProblems rules ↔
      ∃ l, 1 < (headLetters rules).count l ∧ p = .duplicateRule l.toChar := by
  simp [duplicateProblems, Letter.all, eq_comm]

theorem mem_grammarProblems_iff {start rules : List Char} {p : GrammarProblem} :
    p ∈ grammarProblems start rules ↔
      startProblem? start = some p ∨ malformedProblem? rules = some p ∨
        p ∈ bracketProblems rules ∨ p ∈ duplicateProblems rules := by
  simp [grammarProblems]

/-- Neither a break of the grammar of clauses nor a letter with several rules is reported exactly
when there is none. -/
theorem forall_grammarProblems_iff (start rules : List Char) :
    (∀ p ∈ grammarProblems start rules,
      (∀ position, p ≠ .malformedRules position) ∧ ∀ letter, p ≠ .duplicateRule letter) ↔
      malformedProblem? rules = none ∧ duplicateProblems rules = [] := by
  constructor
  · intro h
    constructor
    · rw [Option.eq_none_iff_forall_ne_some]
      intro p hp
      obtain ⟨left, -, rfl⟩ := Option.map_eq_some_iff.1 hp
      exact (h _ (mem_grammarProblems_iff.2 (.inr (.inl hp)))).1 _ rfl
    · rw [List.eq_nil_iff_forall_not_mem]
      intro p hp
      obtain ⟨l, -, rfl⟩ := mem_duplicateProblems_iff.1 hp
      exact (h _ (mem_grammarProblems_iff.2 (.inr (.inr (.inr hp))))).2 _ rfl
  · rintro ⟨hmalformed, hduplicate⟩ p hp
    rcases mem_grammarProblems_iff.1 hp with hp | hp | hp | hp
    · obtain ⟨_, _, rfl⟩ := eq_strayCharacter_of_startProblem? hp
      simp
    · simp [hmalformed] at hp
    · rcases eq_brackets_of_mem_bracketProblems hp with ⟨_, _, _, rfl⟩ | ⟨_, rfl⟩ <;> simp
    · simp [hduplicate] at hp

/-! ## Letters of a broken text -/

/-- The clauses that are read are at the beginning of the text, also of one that breaks the grammar
after them. -/
theorem Reading.textAll_clauses_prefix (rules : List Char) :
    Clause.textAll (Reading.ofText rules).clauses <+: rules := by
  induction rules using Reading.ofText.induct with
  | case1 =>
    rw [Reading.ofText]
    exact List.nil_prefix
  | case2 d t left hread =>
    rw [Reading.ofText_of_error hread]
    exact List.nil_prefix
  | case3 d t c rest hread _ ih =>
    rw [Reading.ofText_of_ok hread, ← Clause.text_append_of_read hread]
    exact (List.prefix_append_right_inj c.text).2 ih

/-- The letters of the clauses that are read come first among those that a search finds. -/
theorem letters_prefix_headLetters (rules : List Char) :
    (Reading.ofText rules).clauses.map Clause.letter <+: headLetters rules := by
  obtain ⟨rest, hrest⟩ := Reading.textAll_clauses_prefix rules
  have h := headLetters_textAll_append (Reading.ofText rules).clauses rest
  rw [hrest] at h
  exact ⟨headLetters rest, h.symm⟩

namespace RuleTable

/-! ## Building -/

/-- A table is built exactly from the texts of clauses that are headed by different letters. -/
theorem exists_build_iff {rules start : List Char} :
    (∃ table, build rules start = .ok table) ↔
      malformedProblem? rules = none ∧ duplicateProblems rules = [] := by
  rw [malformedProblem?_eq_none_iff, duplicateProblems_eq_nil_iff]
  constructor
  · rintro ⟨table, h⟩
    obtain ⟨cs, ⟨hletters, rfl⟩, -⟩ := existsUnique_textAll h
    rw [headLetters_textAll]
    exact ⟨⟨cs, rfl⟩, hletters⟩
  · rintro ⟨⟨cs, rfl⟩, hletters⟩
    rw [headLetters_textAll] at hletters
    obtain ⟨table, h, -⟩ := build_textAll hletters start
    exact ⟨table, h⟩

/-- **The fault at which building stops is one that validation finds.** -/
theorem mem_grammarProblems_of_build {rules start : List Char} {p : GrammarProblem}
    (h : build rules start = .error p) : p ∈ grammarProblems start rules := by
  rw [mem_grammarProblems_iff]
  unfold build at h
  simp only at h
  split at h
  · next p' hclauses =>
    cases h
    obtain ⟨earlier, c, later, hcs, rfl, hc⟩ := addClauses_eq_error hclauses
    have hearlier : c.letter ∈ earlier.map Clause.letter := by simpa using hc
    -- the clause stands in the text with the earlier one, whatever comes after them
    have hcount := (letters_prefix_headLetters rules).sublist.count_le c.letter
    rw [hcs] at hcount
    simp only [List.map_append, List.map_cons, List.count_append, List.count_cons_self] at hcount
    have hpos := List.count_pos_iff.2 hearlier
    exact .inr (.inr (.inr (mem_duplicateProblems_iff.2 ⟨c.letter, by omega, rfl⟩)))
  · split at h
    · next left hleft =>
      cases h
      exact .inr (.inl (by simp [malformedProblem?, hleft]))
    · cases h

/-- A grammar that passes validation makes a table. -/
theorem exists_build_of_validate {start rules : List Char} (h : validate start rules = .ok ()) :
    ∃ table, build rules start = .ok table := by
  rw [validate_eq_ok_iff, grammarProblems_eq_nil_iff] at h
  exact exists_build_iff.2 ⟨h.2.1, h.2.2.2⟩

/-- Parsing fails as validation does. -/
theorem parse_eq_error_iff {start rules : List Char} {problems : GrammarProblems} :
    parse start rules = .error problems ↔ validate start rules = .error problems := by
  unfold parse
  cases h : validate start rules with
  | error found => simp
  | ok u =>
    obtain ⟨table, hbuild⟩ := exists_build_of_validate h
    simp [hbuild]

/-- **Building and validating agree.** A table is built exactly when validation reports neither a
break of the grammar of clauses nor a letter with several rules; when building fails, its fault is
among those that validation reports; parsing fails exactly when validation does, with the same
report; and building never fails after validation found nothing. -/
theorem build_agrees_with_validate (start rules : List Char) :
    ((∃ table, build rules start = .ok table) ↔
      ∀ problems, validate start rules = .error problems → ∀ p ∈ problems.list,
        (∀ position, p ≠ .malformedRules position) ∧ ∀ letter, p ≠ .duplicateRule letter) ∧
    (∀ p, build rules start = .error p →
      ∃ problems, validate start rules = .error problems ∧ p ∈ problems.list) ∧
    (∀ problems, parse start rules = .error problems ↔ validate start rules = .error problems) ∧
    ∀ p, ¬ (validate start rules = .ok () ∧ build rules start = .error p) := by
  refine ⟨?_, ?_, fun problems => parse_eq_error_iff, ?_⟩
  · rw [exists_build_iff, ← forall_grammarProblems_iff start]
    constructor
    · intro h problems hvalidate
      rwa [validate_eq_error_iff.1 hvalidate] at h
    · intro h p hp
      have hne : grammarProblems start rules ≠ [] := List.ne_nil_of_mem hp
      exact h ⟨_, hne⟩ (validate_eq_error_iff.2 rfl) p hp
  · intro p hbuild
    have hp := mem_grammarProblems_of_build hbuild
    have hne : grammarProblems start rules ≠ [] := List.ne_nil_of_mem hp
    exact ⟨⟨_, hne⟩, validate_eq_error_iff.2 rfl, hp⟩
  · rintro p ⟨hvalidate, hbuild⟩
    obtain ⟨table, htable⟩ := exists_build_of_validate hvalidate
    cases hbuild.symm.trans htable

/-- Building stops at the second rule for `A`, before it comes to the break of the grammar that
validation reports first. -/
theorem build_stops_before_break :
    build "(A,B)(A,C)x".toList ['A'] = .error (.duplicateRule 'A') ∧
      ∃ problems, validate ['A'] "(A,B)(A,C)x".toList = .error problems ∧
        problems.list = [.malformedRules 10, .duplicateRule 'A'] ∧
        parse ['A'] "(A,B)(A,C)x".toList = .error problems := by
  have hbuild : build "(A,B)(A,C)x".toList ['A'] = .error (.duplicateRule 'A') := by
    decide +kernel
  obtain ⟨-, hreported, hparse, -⟩ := build_agrees_with_validate ['A'] "(A,B)(A,C)x".toList
  obtain ⟨problems, hvalidate, -⟩ := hreported _ hbuild
  refine ⟨hbuild, problems, hvalidate, ?_, (hparse problems).2 hvalidate⟩
  rw [← validate_eq_error_iff.1 hvalidate]
  decide +kernel

end RuleTable

end Lindenmayer
