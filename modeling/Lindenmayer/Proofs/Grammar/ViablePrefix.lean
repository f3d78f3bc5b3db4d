import Mathlib.Order.Bounds.Basic
import Lindenmayer.Proofs.Grammar.Agreement

set_option autoImplicit false

/-! # Where a broken text is blamed

A text that is no row of clauses is blamed at one place. Up to there it can be completed to a row of
clauses, and with one character more it cannot: the place is the end of the longest prefix that is
*viable* (`Reading.isGreatest_consumed`), which is the end of the text when the text merely stops
too early. Validation reports this place, once, and reports none for a row of clauses
(`validate_malformedRules`).

A reader that gets stuck has read some clauses and the beginning of another. The beginning
(`Clause.Begun`) tells how to complete the clause and which characters may come next
(`Clause.read_eq_error_iff`). So the reader looks at no more than the next character to be stuck,
and is stuck at the same place whatever follows that character (`Reading.left_of_left`); but it gets
through every row of clauses, so no row of clauses goes on with that character. -/

namespace Lindenmayer

/-! ## Parts that cannot be read -/

theorem expectChar_eq_error_iff {c : Char} {t left : List Char} :
    expectChar c t = .error left ↔ t = left ∧ ∀ d ∈ t.head?, d ≠ c := by
  cases t with
  | nil => simp [expectChar]
  | cons d t => by_cases h : d = c <;> simp [expectChar, h]

theorem Letter.read_eq_error_iff {t left : List Char} :
    Letter.read t = .error left ↔ t = left ∧ ∀ d ∈ t.head?, ¬ isLetter d := by
  cases t with
  | nil => simp [Letter.read]
  | cons d t =>
    simp only [Letter.read, isLetter]
    split <;> simp [*]

/-- A word is read for as long as symbols follow. -/
theorem Word.isBodySymbol_head_read (t : List Char) :
    ∀ d ∈ (Word.read t).2.head?, ¬ isBodySymbol d := by
  induction t with
  | nil => simp [Word.read]
  | cons c t ih =>
    unfold Word.read
    split
    · exact ih
    · next h => simp [isBodySymbol, h]

/-- A word is read back when no symbol follows it. -/
theorem Word.read_append (w : Word) {t : List Char} (h : ∀ d ∈ t.head?, ¬ isBodySymbol d) :
    Word.read (w.text ++ t) = (w, t) := by
  cases t with
  | nil =>
    induction w with
    | nil => rfl
    | cons s w ih =>
      simp only [Word.text, List.append_nil] at ih
      simp [Word.text, Word.read, Symbol.ofChar?_toChar, ih]
  | cons d t =>
    have hd : ¬ isBodySymbol d := h d rfl
    exact Word.read_text_append w d t (by simpa [isBodySymbol] using hd)

namespace Clause

/-! ## Clauses that have been begun -/

/-- The beginning of a clause, up to a place where its reader may get stuck. -/
inductive Begun where
  /-- Nothing of it. -/
  | nothing
  /-- The opening parenthesis. -/
  | opened
  /-- The letter as well. -/
  | headed (letter : Letter)
  /-- The comma as well, and some of the body. -/
  | filled (letter : Letter) (body : Word)

namespace Begun

/-- What has been written of the clause. -/
def text : Begun → List Char
  | nothing => []
  | opened => ['(']
  | headed letter => ['(', letter.toChar]
  | filled letter body => '(' :: letter.toChar :: ',' :: body.text

/-- The characters that may come next. -/
def Admits : Begun → Char → Prop
  | nothing, c => c = '('
  | opened, c => isLetter c
  | headed _, c => c = ','
  | filled _ _, c => isBodySymbol c ∨ c = ')'

/-- A clause that begins in this way. -/
def complete : Begun → Clause
  | nothing => ⟨0, [], false⟩
  | opened => ⟨0, [], false⟩
  | headed letter => ⟨letter, [], false⟩
  | filled letter body => ⟨letter, body, false⟩

theorem text_prefix_complete (b : Begun) : b.text <+: b.complete.text := by
  cases b with
  | nothing => exact List.nil_prefix
  | opened => exact ⟨_, rfl⟩
  | headed letter => exact ⟨_, rfl⟩
  | filled letter body => exact ⟨[')'], by simp [text, complete, Clause.text]⟩

end Begun

/-- **A reader is stuck in a clause that has been begun**, before a character that may not come next
there, or at the end of the text. -/
theorem read_eq_error_iff {t left : List Char} :
    Clause.read t = .error left ↔
      ∃ b : Begun, t = b.text ++ left ∧ ∀ d ∈ left.head?, ¬ b.Admits d := by
  constructor
  · intro h
    unfold Clause.read at h
    split at h
    · next left₁ h₁ =>
      cases h
      obtain ⟨rfl, hnext⟩ := expectChar_eq_error_iff.1 h₁
      exact ⟨.nothing, rfl, hnext⟩
    · next t₁ h₁ =>
      rw [← cons_of_expectChar h₁]
      split at h
      · next left₂ h₂ =>
        cases h
        obtain ⟨rfl, hnext⟩ := Letter.read_eq_error_iff.1 h₂
        exact ⟨.opened, rfl, hnext⟩
      · next l t₂ h₂ =>
        rw [← Letter.cons_of_read h₂]
        split at h
        · next left₃ h₃ =>
          cases h
          obtain ⟨rfl, hnext⟩ := expectChar_eq_error_iff.1 h₃
          exact ⟨.headed l, rfl, hnext⟩
        · next t₃ h₃ =>
          rw [← cons_of_expectChar h₃]
          split at h
          · next left₄ h₄ =>
            cases h
            obtain ⟨rfl, hnext⟩ := expectChar_eq_error_iff.1 h₄
            refine ⟨.filled l (Word.read t₃).1, ?_, ?_⟩
            · simp [Begun.text, Word.text_append_read]
            · intro d hd
              exact not_or_intro (Word.isBodySymbol_head_read t₃ d hd) (hnext d hd)
          · cases h
  · rintro ⟨b, rfl, hnext⟩
    have hexpect : ∀ c t, expectChar c (c :: t) = .ok t := by simp [expectChar]
    cases b with
    | nothing =>
      have hopen := (expectChar_eq_error_iff (c := '(')).2 ⟨rfl, hnext⟩
      simp [Clause.read, Begun.text, hopen]
    | opened =>
      have hletter := Letter.read_eq_error_iff.2 ⟨rfl, hnext⟩
      simp [Clause.read, Begun.text, hexpect, hletter]
    | headed letter =>
      have hcomma := (expectChar_eq_error_iff (c := ',')).2 ⟨rfl, hnext⟩
      simp [Clause.read, Begun.text, hexpect, Letter.read, Letter.ofChar?_toChar, hcomma]
    | filled letter body =>
      have hbody := Word.read_append body fun d hd hsymbol => hnext d hd (.inl hsymbol)
      have hclose := (expectChar_eq_error_iff (c := ')')).2
        ⟨rfl, fun d hd h => hnext d hd (.inr h)⟩
      simp [Clause.read, Begun.text, hexpect, Letter.read, Letter.ofChar?_toChar, hbody, hclose]

/-- A clause is read with the comma that follows it. -/
theorem comma_of_read {t rest : List Char} {c : Clause} (h : Clause.read t = .ok (c, rest)) :
    c.comma = true ∨ rest.head? ≠ some ',' := by
  by_contra hnone
  simp only [not_or, Bool.not_eq_true, not_not] at hnone
  obtain ⟨hcomma, hhead⟩ := hnone
  obtain ⟨r, rfl⟩ := List.head?_eq_some_iff.1 hhead
  -- with its comma the clause makes up the same text, and is what is read from it
  have htext : c.text ++ ',' :: r = (⟨c.letter, c.body, true⟩ : Clause).text ++ r := by
    simp [Clause.text, hcomma]
  have hread := read_text_append ⟨c.letter, c.body, true⟩ r (.inl rfl)
  rw [← htext, text_append_of_read h, h] at hread
  simp only [Except.ok.injEq, Prod.mk.injEq] at hread
  rw [hread.1] at hcomma
  cases hcomma

end Clause

namespace Reading

/-! ## Texts that cannot be read to their end -/

theorem left_of_error {t left : List Char} (ht : t ≠ []) (h : Clause.read t = .error left) :
    (ofText t).left = some left := by
  obtain ⟨d, t, rfl⟩ := List.exists_cons_of_ne_nil ht
  rw [ofText_of_error h]

theorem left_of_ok {t rest : List Char} {c : Clause} (h : Clause.read t = .ok (c, rest)) :
    (ofText t).left = (ofText rest).left := by
  cases t with
  | nil => cases h
  | cons d t => rw [ofText_of_ok h]

/-- What is left of a text comes after some clauses and the beginning of another. -/
theorem exists_begun_of_left {rules left : List Char} (h : (ofText rules).left = some left) :
    ∃ (cs : List Clause) (b : Clause.Begun), rules = Clause.textAll cs ++ b.text ++ left := by
  induction rules using ofText.induct with
  | case1 =>
    rw [ofText] at h
    cases h
  | case2 d t left' hread =>
    rw [ofText_of_error hread] at h
    obtain ⟨b, hb, -⟩ := Clause.read_eq_error_iff.1 hread
    cases h
    exact ⟨[], b, hb⟩
  | case3 d t c rest hread _ ih =>
    rw [ofText_of_ok hread] at h
    obtain ⟨cs, b, hrest⟩ := ih h
    refine ⟨c :: cs, b, ?_⟩
    rw [← Clause.text_append_of_read hread, hrest]
    simp [Clause.textAll]

/-- **A reader is stuck because of the next character**, whatever follows it. -/
theorem left_of_left {u v : List Char} {d : Char}
    (h : (ofText (u ++ d :: v)).left = some (d :: v)) (v' : List Char) :
    (ofText (u ++ d :: v')).left = some (d :: v') := by
  generalize hrules : u ++ d :: v = rules at h
  induction rules using ofText.induct generalizing u with
  | case1 => simp at hrules
  | case2 d₁ t left hread =>
    rw [ofText_of_error hread] at h
    cases h
    obtain ⟨b, hb, hnext⟩ := Clause.read_eq_error_iff.1 hread
    obtain rfl : u = b.text := List.append_cancel_right (hrules.trans hb)
    exact left_of_error (by simp) (Clause.read_eq_error_iff.2 ⟨b, rfl, hnext⟩)
  | case3 d₁ t c rest hread _ ih =>
    rw [ofText_of_ok hread] at h
    obtain ⟨cs, b, hrest⟩ := exists_begun_of_left h
    have hu : u = c.text ++ (Clause.textAll cs ++ b.text) := by
      rw [← Clause.text_append_of_read hread, hrest, ← List.append_assoc] at hrules
      exact List.append_cancel_right hrules
    have hhead : (Clause.textAll cs ++ b.text ++ d :: v').head? = rest.head? := by
      rw [hrest]
      cases Clause.textAll cs ++ b.text <;> rfl
    have hread' := Clause.read_text_append c (Clause.textAll cs ++ b.text ++ d :: v')
      (hhead ▸ Clause.comma_of_read hread)
    rw [hu, List.append_assoc, left_of_ok hread']
    exact ih hrest.symm h

end Reading

/-! ## The longest viable prefix -/

/-- A text that can be completed to a row of clauses. -/
def Viable (t : List Char) : Prop := ∃ cs : List Clause, t <+: Clause.textAll cs

/-- The beginning of a clause can be completed after any row of clauses. -/
theorem viable_textAll_append (cs : List Clause) (b : Clause.Begun) :
    Viable (Clause.textAll cs ++ b.text) := by
  refine ⟨cs ++ [b.complete], ?_⟩
  simpa [Clause.textAll] using b.text_prefix_complete

/-- No row of clauses goes on with the character at which a reader is stuck. -/
theorem Reading.not_viable_of_left {u v : List Char} {d : Char}
    (h : (Reading.ofText (u ++ d :: v)).left = some (d :: v)) (w : List Char) :
    ¬ Viable (u ++ d :: w) := by
  rintro ⟨cs, x, hcs⟩
  have hstuck := Reading.left_of_left h (w ++ x)
  have htext : u ++ d :: (w ++ x) = Clause.textAll cs := by simpa using hcs
  rw [htext, Reading.ofText_textAll] at hstuck
  cases hstuck

/-- **A broken text is read to the end of its longest viable prefix.** -/
theorem Reading.isGreatest_consumed {rules left : List Char}
    (h : (Reading.ofText rules).left = some left) :
    IsGreatest {n | ∃ u, u <+: rules ∧ Viable u ∧ n = u.length} (consumed rules left) := by
  obtain ⟨cs, b, hrules⟩ := Reading.exists_begun_of_left h
  have hconsumed : consumed rules left = (Clause.textAll cs ++ b.text).length := by
    rw [consumed, hrules, List.length_append, Nat.add_sub_cancel]
  rw [hconsumed]
  constructor
  · exact ⟨_, ⟨left, hrules.symm⟩, viable_textAll_append cs b, rfl⟩
  · rintro n ⟨u, hu, hviable, rfl⟩
    by_contra hlonger
    rw [hrules] at hu h
    -- a longer prefix goes on with the character at which the reader is stuck
    obtain ⟨w, rfl⟩ := List.prefix_of_prefix_length_le (List.prefix_append _ left) hu
      (Nat.le_of_not_le hlonger)
    rw [List.prefix_append_right_inj] at hu
    cases w with
    | nil => simp at hlonger
    | cons d w =>
      obtain ⟨v, rfl⟩ := hu
      exact Reading.not_viable_of_left h w hviable

/-! ## What is reported -/

/-- Whether the problem is a break of the grammar of clauses. -/
def GrammarProblem.isMalformedRules : GrammarProblem → Bool
  | malformedRules _ => true
  | _ => false

/-- Breaks of the grammar of clauses are found by the reader of clauses only. -/
theorem filter_isMalformedRules (start rules : List Char) :
    (grammarProblems start rules).filter GrammarProblem.isMalformedRules
      = (malformedProblem? rules).toList := by
  have hstart : (startProblem? start).toList.filter GrammarProblem.isMalformedRules = [] := by
    rw [List.filter_eq_nil_iff]
    intro p hp
    obtain ⟨position, c, rfl⟩ := eq_strayCharacter_of_startProblem? (Option.mem_toList.1 hp)
    simp [GrammarProblem.isMalformedRules]
  have hmalformed : (malformedProblem? rules).toList.filter GrammarProblem.isMalformedRules
      = (malformedProblem? rules).toList := by
    rw [List.filter_eq_self]
    intro p hp
    obtain ⟨left, -, rfl⟩ := Option.map_eq_some_iff.1 (Option.mem_toList.1 hp)
    rfl
  have hbrackets : (bracketProblems rules).filter GrammarProblem.isMalformedRules = [] := by
    rw [List.filter_eq_nil_iff]
    intro p hp
    rcases eq_brackets_of_mem_bracketProblems hp with ⟨i, m, n, rfl⟩ | ⟨i, rfl⟩ <;>
      simp [GrammarProblem.isMalformedRules]
  have hduplicates : (duplicateProblems rules).filter GrammarProblem.isMalformedRules = [] := by
    rw [List.filter_eq_nil_iff]
    intro p hp
    obtain ⟨l, -, rfl⟩ := mem_duplicateProblems_iff.1 hp
    simp [GrammarProblem.isMalformedRules]
  simp only [grammarProblems, List.filter_append, hstart, hmalformed, hbrackets, hduplicates,
    List.nil_append, List.append_nil]

/-- The break that is reported is the place at which the reader is stuck. -/
theorem exists_left_of_malformedRules_mem {start rules : List Char} {position : Nat}
    (h : .malformedRules position ∈ grammarProblems start rules) :
    malformedProblem? rules = some (.malformedRules position) ∧
      ∃ left, (Reading.ofText rules).left = some left ∧ position = consumed rules left := by
  have hmem : GrammarProblem.malformedRules position
      ∈ (grammarProblems start rules).filter GrammarProblem.isMalformedRules :=
    List.mem_filter.2 ⟨h, rfl⟩
  rw [filter_isMalformedRules, Option.mem_toList] at hmem
  obtain ⟨left, hleft, hposition⟩ := Option.map_eq_some_iff.1 hmem
  cases hposition
  exact ⟨hmem, left, hleft, rfl⟩

/-- **Where a rules text is blamed for a break of the grammar.** Validation reports a break exactly
when the text is no row of clauses. It reports one, and its position is the length of the longest
prefix that can be completed to a row of clauses; of a text that can be completed itself it is the
whole length. -/
theorem validate_malformedRules (start rules : List Char) :
    ((∃ problems position, validate start rules = .error problems ∧
        .malformedRules position ∈ problems.list) ↔
      ¬ ∃ cs : List Clause, rules = Clause.textAll cs) ∧
    ∀ problems position, validate start rules = .error problems →
      .malformedRules position ∈ problems.list →
        problems.list.filter GrammarProblem.isMalformedRules = [.malformedRules position] ∧
        IsGreatest {n | ∃ u, u <+: rules ∧ Viable u ∧ n = u.length} position ∧
        (Viable rules → position = rules.length) := by
  constructor
  · have hrow : malformedProblem? rules = none ↔ ∃ cs : List Clause, rules = Clause.textAll cs := by
      simpa [eq_comm] using malformedProblem?_eq_none_iff
    rw [← hrow]
    constructor
    · rintro ⟨problems, position, hvalidate, hmem⟩
      rw [← validate_eq_error_iff.1 hvalidate] at hmem
      simp [(exists_left_of_malformedRules_mem hmem).1]
    · intro h
      obtain ⟨p, hp⟩ := Option.ne_none_iff_exists'.1 h
      obtain ⟨left, -, rfl⟩ := Option.map_eq_some_iff.1 hp
      have hmem : _ ∈ grammarProblems start rules := mem_grammarProblems_iff.2 (.inr (.inl hp))
      exact ⟨⟨_, List.ne_nil_of_mem hmem⟩, _, validate_eq_error_iff.2 rfl, hmem⟩
  · intro problems position hvalidate hmem
    rw [← validate_eq_error_iff.1 hvalidate] at hmem ⊢
    obtain ⟨hproblem, left, hleft, rfl⟩ := exists_left_of_malformedRules_mem hmem
    have hgreatest := Reading.isGreatest_consumed hleft
    refine ⟨?_, hgreatest, fun hviable => ?_⟩
    · rw [filter_isMalformedRules, hproblem]
      rfl
    · have hle := hgreatest.2 ⟨rules, List.prefix_refl rules, hviable, rfl⟩
      exact Nat.le_antisymm (Nat.sub_le ..) hle

/-- A lowercase letter at the head of the second clause: the seven characters before it can be
completed to a row of clauses, and with it they cannot. -/
theorem validate_lowercase_head :
    ∃ problems, validate ['A'] "(A,B),(b,A)".toList = .error problems ∧
      problems.list.filter GrammarProblem.isMalformedRules = [.malformedRules 7] ∧
      IsGreatest {n | ∃ u, u <+: "(A,B),(b,A)".toList ∧ Viable u ∧ n = u.length} 7 := by
  have hmem : .malformedRules 7 ∈ grammarProblems ['A'] "(A,B),(b,A)".toList := by decide +kernel
  obtain ⟨-, hreported⟩ := validate_malformedRules ['A'] "(A,B),(b,A)".toList
  let problems : GrammarProblems := ⟨_, List.ne_nil_of_mem hmem⟩
  have hvalidate : validate ['A'] "(A,B),(b,A)".toList = .error problems :=
    validate_eq_error_iff.2 rfl
  obtain ⟨honce, hgreatest, -⟩ := hreported problems 7 hvalidate hmem
  exact ⟨problems, hvalidate, honce, hgreatest⟩

end Lindenmayer
