import Mathlib.Data.List.Nodup
import Mathlib.Data.List.SplitBy
import Lindenmayer.Proofs.Grammar.Balance

set_option autoImplicit false

/-! # The language that is accepted

Four readers look at a grammar, each in its own way: a search for stray characters, a reader of
clauses, a cut of the raw text at every `),`, and a search for letters between `(` and `,`. Together
they accept one language, which can be said in terms of written clauses alone (`validate_iff`).

On a row of written clauses the reader gives back the row (`Reading.ofText_textAll`), the search
finds the letters that head them (`headLetters_textAll`), and the parts that the cut leaves have the
brackets of the clauses that are written without a comma between them (`brackets_clauseParts`). -/

namespace Lindenmayer

/-! ## The starting sequence -/

theorem isSome_ofChar?_iff (c : Char) : (Letter.ofChar? c).isSome ↔ 'A' ≤ c ∧ c ≤ 'Z' := by
  have hA : 'A'.toNat = 65 := rfl
  have hZ : 'Z'.toNat = 90 := rfl
  simp only [Char.le_def, UInt32.le_iff_toNat_le, Char.toNat_val]
  unfold Letter.ofChar?
  split
  · simp only [Option.isSome_some, true_iff]
    omega
  · simp only [Option.isSome_none, Bool.false_eq_true, false_iff]
    omega

theorem isStartSymbol_iff (c : Char) :
    isStartSymbol c = true ↔ ('A' ≤ c ∧ c ≤ 'Z') ∨ c ∈ ['+', '-', '[', ']', ','] := by
  rw [← isSome_ofChar?_iff]
  unfold isStartSymbol isBodySymbol Symbol.ofChar?
  cases hl : Letter.ofChar? c with
  | some l => simp
  | none =>
    simp only [Option.isSome_none, Bool.false_eq_true, false_or, List.mem_cons, List.not_mem_nil,
      or_false, Bool.or_eq_true, beq_iff_eq]
    split_ifs <;> simp [*]

theorem startProblem?_eq_none_iff {start : List Char} :
    startProblem? start = none ↔ ∀ c ∈ start, isStartSymbol c = true := by
  unfold startProblem?
  rw [Option.map_eq_none_iff, List.find?_eq_none]
  constructor
  · intro h c hc
    obtain ⟨i, hi⟩ := List.mem_iff_getElem?.1 hc
    simpa using h (c, i) (List.mem_zipIdx_iff_getElem?.2 hi)
  · intro h p hp
    simpa using h p.1 (List.fst_mem_of_mem_zipIdx hp)

/-! ## Reading back a row of clauses -/

/-- **A row of written clauses is read back.** -/
theorem Reading.ofText_textAll (cs : List Clause) :
    Reading.ofText (Clause.textAll cs) = ⟨cs, none⟩ := by
  induction cs with
  | nil =>
    show Reading.ofText [] = ⟨[], none⟩
    rw [Reading.ofText]
  | cons c cs ih =>
    have hread : Clause.read (c.text ++ Clause.textAll cs) = .ok (c, Clause.textAll cs) :=
      Clause.read_text_append c _ (.inr (Clause.head?_textAll_ne cs))
    have h := Reading.ofText_of_ok hread
    rw [ih] at h
    exact h

/-- A text that is read to its end is a row of written clauses. -/
theorem malformedProblem?_eq_none_iff {rules : List Char} :
    malformedProblem? rules = none ↔ ∃ cs, Clause.textAll cs = rules := by
  unfold malformedProblem?
  rw [Option.map_eq_none_iff]
  constructor
  · intro h
    exact ⟨_, Reading.textAll_clauses h⟩
  · rintro ⟨cs, rfl⟩
    rw [Reading.ofText_textAll]

/-! ## Letters that head clauses -/

theorem headLetters_cons_of_ne {c : Char} (hc : c ≠ '(') (t : List Char) :
    headLetters (c :: t) = headLetters t := by
  rw [headLetters]
  intro l rest h
  exact absurd h hc

theorem headLetters_append {w : List Char} (hw : '(' ∉ w) (t : List Char) :
    headLetters (w ++ t) = headLetters t := by
  induction w with
  | nil => rfl
  | cons c w ih =>
    rw [List.mem_cons, not_or] at hw
    rw [List.cons_append, headLetters_cons_of_ne (Ne.symm hw.1), ih hw.2]

/-- A clause in front of a text heads it with its letter. -/
theorem headLetters_text_append (c : Clause) (t : List Char) :
    headLetters (c.text ++ t) = c.letter :: headLetters t := by
  -- after the `(` of a clause there is no other before the next clause
  have hrest : '(' ∉ c.letter.toChar :: ',' ::
      (c.body.text ++ ')' :: if c.comma then [','] else []) := by
    have hbody : '(' ∉ c.body.text := by
      intro h
      obtain ⟨s, -, hs⟩ := List.mem_map.1 h
      exact s.toChar_ne (by decide) hs
    have hletter : '(' ≠ c.letter.toChar := (c.letter.toChar_ne (by decide)).symm
    cases c.comma <;> simp [hbody, hletter]
  have hskip := headLetters_append hrest t
  simp only [Clause.text, List.cons_append] at hskip ⊢
  rw [headLetters, Letter.ofChar?_toChar, hskip]
  rfl

theorem headLetters_textAll_append (cs : List Clause) (t : List Char) :
    headLetters (Clause.textAll cs ++ t) = cs.map Clause.letter ++ headLetters t := by
  induction cs with
  | nil => rfl
  | cons c cs ih =>
    have htext : Clause.textAll (c :: cs) ++ t = c.text ++ (Clause.textAll cs ++ t) := by
      simp [Clause.textAll]
    rw [htext, headLetters_text_append, ih]
    rfl

theorem headLetters_textAll (cs : List Clause) :
    headLetters (Clause.textAll cs) = cs.map Clause.letter := by
  simpa [headLetters] using headLetters_textAll_append cs []

theorem duplicateProblems_eq_nil_iff {rules : List Char} :
    duplicateProblems rules = [] ↔ (headLetters rules).Nodup := by
  unfold duplicateProblems
  rw [List.map_eq_nil_iff, List.filter_eq_nil_iff, List.nodup_iff_count_le_one]
  simp only [decide_eq_true_eq, not_lt, Letter.all, List.mem_finRange, true_imp_iff]

/-! ## Brackets -/

/-- The brackets of a text in order, without what stands between them. -/
def brackets (t : List Char) : List Char := t.filter fun c => c = '[' ∨ c = ']'

@[simp] theorem brackets_append (a b : List Char) : brackets (a ++ b) = brackets a ++ brackets b :=
  List.filter_append ..

theorem opened_brackets (t : List Char) : opened (brackets t) = opened t :=
  List.count_filter (by decide)

theorem closed_brackets (t : List Char) : closed (brackets t) = closed t :=
  List.count_filter (by decide)

theorem brackets_cons (c : Char) (t : List Char) :
    brackets (c :: t) = if c = '[' ∨ c = ']' then c :: brackets t else brackets t := by
  simp [brackets, List.filter_cons]

theorem dips_brackets (depth : Nat) (t : List Char) : dips depth (brackets t) = dips depth t := by
  induction t generalizing depth with
  | nil => rfl
  | cons c t ih =>
    rw [brackets_cons]
    by_cases hopen : c = '['
    · subst hopen
      simp [dips, ih]
    · by_cases hclose : c = ']'
      · subst hclose
        cases depth with
        | zero => simp [dips]
        | succ depth => simp [dips, ih]
      · simp [dips, hopen, hclose, ih]

/-- Whether a text is balanced is decided by its brackets alone. -/
theorem balanced_brackets_iff {t : List Char} : Balanced (brackets t) ↔ Balanced t := by
  unfold Balanced
  rw [opened_brackets, closed_brackets, dips_brackets]

/-! ## Clauses without a comma between them -/

namespace Clause

/-- The longest rows of clauses that are written without a comma between them, in order. -/
def runs (cs : List Clause) : List (List Clause) := cs.splitBy fun c _ => !c.comma

/-- The bodies of some clauses, one after the other. -/
def bodies (cs : List Clause) : List Char := cs.flatMap fun c => c.body.text

theorem runs_cons_of_comma {c : Clause} (hc : c.comma = true) (cs : List Clause) :
    runs (c :: cs) = [c] :: runs cs := by
  have h : runs ([c] ++ cs) = runs [c] ++ runs cs := by
    refine List.splitBy_append fun x hx y hy => ?_
    rw [List.getLast?_singleton, Option.mem_some_iff] at hx
    rw [← hx, hc]
    rfl
  exact h

/-- A clause without a comma is in one run with the clause after it. -/
theorem runs_cons_of_bare {c : Clause} (hc : c.comma = false) {cs run : List Clause}
    {later : List (List Clause)} (h : runs cs = run :: later) :
    runs (c :: cs) = (c :: run) :: later := by
  obtain ⟨hcs, hne, hchain, hbounds⟩ := List.splitBy_eq_iff.1 h
  refine List.splitBy_eq_iff.2 ⟨?_, ?_, ?_, ?_⟩
  · rw [hcs]
    rfl
  · intro hmem
    rcases List.mem_cons.1 hmem with hnil | hmem
    · cases hnil
    · exact hne (List.mem_cons_of_mem _ hmem)
  · intro m hm
    rcases List.mem_cons.1 hm with rfl | hm
    · have hrun := hchain run List.mem_cons_self
      cases run with
      | nil => exact List.isChain_singleton c
      | cons d run => exact List.isChain_cons_cons.2 ⟨by rw [hc]; rfl, hrun⟩
    · exact hchain m (List.mem_cons_of_mem _ hm)
  · cases later with
    | nil => exact List.isChain_singleton _
    | cons m ms =>
      obtain ⟨⟨hrun, hm, hlast⟩, hms⟩ := List.isChain_cons_cons.1 hbounds
      refine List.isChain_cons_cons.2 ⟨⟨List.cons_ne_nil c run, hm, ?_⟩, hms⟩
      rw [List.getLast_cons hrun]
      exact hlast

theorem runs_eq_nil_iff {cs : List Clause} : runs cs = [] ↔ cs = [] := List.splitBy_eq_nil

theorem brackets_front (c : Clause) : brackets c.front = brackets c.body.text := by
  have hletter : c.letter.toChar ≠ '[' ∧ c.letter.toChar ≠ ']' :=
    ⟨c.letter.toChar_ne (by decide), c.letter.toChar_ne (by decide)⟩
  simp [front, brackets_cons, hletter]

theorem bodies_cons (c : Clause) (cs : List Clause) : bodies (c :: cs) = c.body.text ++ bodies cs :=
  List.flatMap_cons

/-- The parts of a row of clauses have the brackets of its runs. After a comma at the end of the row
comes one more part, which is empty. -/
theorem brackets_clauseParts (cs : List Clause) :
    ∃ rest, (rest = [] ∨ rest = [[]]) ∧
      (clauseParts (textAll cs)).map brackets
        = (runs cs).map (fun run => brackets (bodies run)) ++ rest := by
  induction cs with
  | nil => exact ⟨[[]], .inr rfl, rfl⟩
  | cons c cs ih =>
    obtain ⟨rest, hrest, h⟩ := ih
    cases hcomma : c.comma with
    | true =>
      refine ⟨rest, hrest, ?_⟩
      rw [clauseParts_textAll_of_comma hcomma, runs_cons_of_comma hcomma, List.map_cons, h,
        brackets_front, List.map_cons, bodies_cons]
      simp [bodies]
    | false =>
      have hfront : ∀ part,
          brackets (c.front ++ ')' :: part) = brackets c.body.text ++ brackets part := by
        intro part
        rw [brackets_append, brackets_front, brackets_cons, if_neg (by decide)]
      rw [clauseParts_textAll_of_bare hcomma, List.map_cons, hfront]
      cases hruns : runs cs with
      | nil =>
        -- the last clause of all has no comma after it
        rw [runs_eq_nil_iff] at hruns
        subst hruns
        refine ⟨[], .inl rfl, ?_⟩
        have hrun : runs [c] = [[c]] := rfl
        rw [hrun]
        simp [textAll, cutClauses, bodies, brackets]
      | cons run later =>
        refine ⟨rest, hrest, ?_⟩
        rw [hruns, clauseParts, List.map_cons, List.map_cons, List.cons_append,
          List.cons.injEq] at h
        rw [runs_cons_of_bare hcomma hruns, List.map_cons, bodies_cons, brackets_append, h.1, h.2,
          List.cons_append]

theorem balanced_clauseParts_iff (cs : List Clause) :
    (∀ part ∈ clauseParts (textAll cs), Balanced part)
      ↔ ∀ run ∈ runs cs, Balanced (bodies run) := by
  obtain ⟨rest, hrest, h⟩ := brackets_clauseParts cs
  have hempty : ∀ t ∈ rest, Balanced t := by
    intro t ht
    rcases hrest with rfl | rfl
    · cases ht
    · rw [List.mem_singleton.1 ht]
      decide
  calc (∀ part ∈ clauseParts (textAll cs), Balanced part)
      ↔ ∀ t ∈ (clauseParts (textAll cs)).map brackets, Balanced t := by
        simp only [List.forall_mem_map, balanced_brackets_iff]
    _ ↔ ∀ run ∈ runs cs, Balanced (bodies run) := by
        rw [h, List.forall_mem_append, and_iff_left hempty]
        simp only [List.forall_mem_map, balanced_brackets_iff]

end Clause

/-! ## The language -/

theorem grammarProblems_eq_nil_iff {start rules : List Char} :
    grammarProblems start rules = [] ↔
      startProblem? start = none ∧ malformedProblem? rules = none ∧ bracketProblems rules = [] ∧
        duplicateProblems rules = [] := by
  unfold grammarProblems
  simp only [List.append_eq_nil_iff, Option.toList_eq_nil_iff, and_assoc]

/-- **What is accepted**: a starting sequence of symbols and commas, and a row of clauses that are
headed by different letters, such that wherever clauses are written without a comma between them,
their bodies together have as many `[` as `]` and close no branch that they did not open. -/
theorem validate_iff (start rules : List Char) :
    validate start rules = .ok () ↔
      (∀ c ∈ start, ('A' ≤ c ∧ c ≤ 'Z') ∨ c ∈ ['+', '-', '[', ']', ',']) ∧
        ∃ cs : List Clause, rules = Clause.textAll cs ∧ (cs.map Clause.letter).Nodup ∧
          ∀ run ∈ Clause.runs cs, opened (Clause.bodies run) = closed (Clause.bodies run) ∧
            ∀ u, u <+: Clause.bodies run → closed u ≤ opened u := by
  simp only [← isStartSymbol_iff, ← balanced_iff]
  rw [validate_eq_ok_iff, grammarProblems_eq_nil_iff, startProblem?_eq_none_iff,
    malformedProblem?_eq_none_iff, bracketProblems_eq_nil_iff, duplicateProblems_eq_nil_iff]
  constructor
  · rintro ⟨hstart, ⟨cs, rfl⟩, hparts, hletters⟩
    rw [headLetters_textAll] at hletters
    exact ⟨hstart, cs, rfl, hletters, (Clause.balanced_clauseParts_iff cs).1 hparts⟩
  · rintro ⟨hstart, cs, rfl, hletters, hruns⟩
    rw [headLetters_textAll]
    exact ⟨hstart, ⟨cs, rfl⟩, (Clause.balanced_clauseParts_iff cs).2 hruns, hletters⟩

end Lindenmayer
