import Lindenmayer.Proofs.Grammar.Agreement
import Lindenmayer.Render.Message

set_option autoImplicit false

/-! # A line for each problem

The messages of several problems are shown one below another, so none of them may break its line.
Beside its own words a message holds numbers, a letter, or a character that a user has typed. That
can be any character; it is quoted, and line breaks are escaped in quotes (`oneLine_quoted`). So
every message is one line (`GrammarProblem.oneLine_message`), and the messages of a list can be told
apart again by the newlines between them (`GrammarProblems.lines_message`). -/

namespace Lindenmayer

/-! ## Texts of one line -/

/-- A text without line breaks. -/
def OneLine (t : List Char) : Prop := ∀ c ∈ t, c ≠ '\n' ∧ c ≠ '\r'

-- written out, as deciding this by a look at every `Char` there is would not end
instance (t : List Char) : Decidable (OneLine t) :=
  List.decidableBAll (fun c => c ≠ '\n' ∧ c ≠ '\r') t

theorem oneLine_append_iff {s t : List Char} : OneLine (s ++ t) ↔ OneLine s ∧ OneLine t :=
  List.forall_mem_append

theorem oneLine_cons_iff {c : Char} {t : List Char} :
    OneLine (c :: t) ↔ (c ≠ '\n' ∧ c ≠ '\r') ∧ OneLine t :=
  List.forall_mem_cons

/-- The lines of a text: what stands before, between and after its newlines. -/
def Text.lines (text : String) : List String := (text.split '\n').toList.map (·.copy)

/-- Texts of one line are the lines of the text that they make up with newlines between them. -/
theorem Text.lines_intercalate {texts : List String} (h : ∀ t ∈ texts, OneLine t.toList)
    (hne : texts ≠ []) : lines ("\n".intercalate texts) = texts := by
  have hnewline : ∀ t ∈ texts, '\n' ∉ t.toList := fun t ht hmem => (h t ht '\n' hmem).1 rfl
  exact (String.toList_split_intercalate hnewline).trans (if_neg hne)

/-! ## Numbers -/

/-- A numeral is made of digits. -/
theorem exists_digitChar_of_mem_toDigits {b n : Nat} {c : Char} (hb : 1 < b)
    (hc : c ∈ Nat.toDigits b n) : ∃ d, c = Nat.digitChar d := by
  induction n using Nat.strongRecOn with
  | ind n ih =>
    rw [Nat.toDigits_eq_if hb] at hc
    split at hc
    · exact ⟨n, List.mem_singleton.1 hc⟩
    · rcases List.mem_append.1 hc with hc | hc
      · exact ih (n / b) (Nat.div_lt_self (by omega) hb) hc
      · exact ⟨n % b, List.mem_singleton.1 hc⟩

theorem oneLine_toDigits {b : Nat} (hb : 1 < b) (n : Nat) : OneLine (Nat.toDigits b n) := by
  intro c hc
  obtain ⟨d, rfl⟩ := exists_digitChar_of_mem_toDigits hb hc
  exact ⟨Nat.digitChar_ne _ (by decide), Nat.digitChar_ne _ (by decide)⟩

theorem oneLine_nat (n : Nat) : OneLine (toString n).toList := by
  have hdigits : (toString n).toList = Nat.toDigits 10 n := Nat.toList_repr
  rw [hdigits]
  exact oneLine_toDigits (by decide) n

/-! ## Characters -/

theorem oneLine_letter {c : Char} (h : isLetter c = true) : OneLine (toString c).toList := by
  have hchars : (toString c).toList = [c] := String.toList_singleton c
  obtain ⟨l, hl⟩ := Option.isSome_iff_exists.1 h
  obtain rfl := Letter.toChar_eq_of_ofChar? hl
  rw [hchars, oneLine_cons_iff]
  exact ⟨⟨l.toChar_ne (by decide), l.toChar_ne (by decide)⟩, nofun⟩

theorem oneLine_codePointEscape (c : Char) : OneLine (Text.codePointEscape c) := by
  have hdigits := oneLine_toDigits (b := 16) (by decide) c.toNat
  simp only [Text.codePointEscape, oneLine_cons_iff, oneLine_append_iff, hdigits]
  decide

/-- The line breaks are among the characters that are escaped by a letter. -/
theorem oneLine_escaped (c : Char) : OneLine (Text.escaped c) := by
  unfold Text.escaped
  split_ifs with hnul htab hreturn hnewline hquote hbackslash hunseen
  -- six characters with escapes of their own, then numerals, then what is shown as it is
  · decide
  · decide
  · decide
  · decide
  · decide
  · decide
  · exact oneLine_codePointEscape c
  · exact oneLine_cons_iff.2 ⟨⟨hnewline, hreturn⟩, nofun⟩

/-- **A quoted character never breaks its line**, whichever it is. -/
theorem oneLine_quoted (c : Char) : OneLine (Text.quoted c).toList := by
  rw [Text.quoted, String.toList_ofList]
  simp only [oneLine_cons_iff, oneLine_append_iff, oneLine_escaped]
  decide

/-! ## Messages -/

/-- **Every message is one line**, whatever the numbers and the stray character in it. -/
theorem GrammarProblem.oneLine_message (p : GrammarProblem)
    (h : ∀ c, p = .duplicateRule c → isLetter c = true) : OneLine p.message.toList := by
  cases p with
  | strayCharacter position found =>
    have hquoted : OneLine (toString (Text.quoted found)).toList := oneLine_quoted found
    unfold message
    simp only [String.toList_append, oneLine_append_iff, oneLine_nat, hquoted]
    decide
  | malformedRules | unbalancedBrackets | misnestedBrackets =>
    unfold message
    simp only [String.toList_append, oneLine_append_iff, oneLine_nat]
    decide
  | duplicateRule letter =>
    have hletter := oneLine_letter (h letter rfl)
    unfold message
    simp only [String.toList_append, oneLine_append_iff, hletter]
    decide

/-- The letters that validation reports are among `A` to `Z`. -/
theorem letter_of_validate {start rules : List Char} {problems : GrammarProblems}
    (h : validate start rules = .error problems) {c : Char}
    (hc : .duplicateRule c ∈ problems.list) : 'A' ≤ c ∧ c ≤ 'Z' := by
  rw [← validate_eq_error_iff.1 h, mem_grammarProblems_iff] at hc
  rcases hc with hc | hc | hc | hc
  · obtain ⟨_, _, hp⟩ := eq_strayCharacter_of_startProblem? hc
    cases hp
  · obtain ⟨_, -, hp⟩ := Option.map_eq_some_iff.1 hc
    cases hp
  · rcases eq_brackets_of_mem_bracketProblems hc with ⟨_, _, _, hp⟩ | ⟨_, hp⟩ <;> cases hp
  · obtain ⟨l, -, hp⟩ := mem_duplicateProblems_iff.1 hc
    obtain rfl : c = l.toChar := GrammarProblem.duplicateRule.inj hp
    rw [← isSome_ofChar?_iff, Letter.ofChar?_toChar]
    rfl

namespace GrammarProblems

/-- **One line for each problem.** Take any list of problems whose letters are among `A` to `Z`, as
they are when validation reports them; the positions, the numbers and the stray characters in it may
be any. The lines of its message are the messages of the problems in order, and so are those of a
run that they have turned away. There is no carriage return in them either. -/
theorem lines_message (problems : GrammarProblems)
    (h : ∀ c, .duplicateRule c ∈ problems.list → 'A' ≤ c ∧ c ≤ 'Z') :
    Text.lines problems.message = problems.list.map GrammarProblem.message ∧
      Text.lines (RunError.rejected (.grammar problems)).message
        = problems.list.map GrammarProblem.message ∧
      ∀ p ∈ problems.list, '\n' ∉ p.message.toList ∧ '\r' ∉ p.message.toList := by
  have honeLine : ∀ p ∈ problems.list, OneLine p.message.toList := by
    intro p hp
    refine p.oneLine_message fun c hc => ?_
    subst hc
    exact (isSome_ofChar?_iff c).2 (h c hp)
  have hlines : Text.lines problems.message = problems.list.map GrammarProblem.message :=
    Text.lines_intercalate (List.forall_mem_map.2 honeLine) (by simpa using problems.ne_nil)
  refine ⟨hlines, hlines, fun p hp => ⟨fun hmem => ?_, fun hmem => ?_⟩⟩
  · exact (honeLine p hp '\n' hmem).1 rfl
  · exact (honeLine p hp '\r' hmem).2 rfl

/-- A newline in the starting sequence and problems of every kind in the rules are five lines. -/
theorem lines_message_of_newline :
    ∃ problems, validate "A\nB".toList "(A,[),(A,][)x".toList = .error problems ∧
      (∀ c, .duplicateRule c ∈ problems.list → 'A' ≤ c ∧ c ≤ 'Z') ∧
      Text.lines problems.message = [
        "Starting sequence wrong: '\\n' at position 1. " ++
          "A-Z, +, -, [, ] and separating commas allowed.",
        "Production rules wrong at position 12. (A,AAA+-[]),(B,CDF+-[]) allowed.",
        "Production rules wrong bracket number in clause 0: 1 '[' and 0 ']'.",
        "Production rules wrong bracket order in clause 1.",
        "Production rules wrong: letter A can't have more than 1 rule."] := by
  let problems : GrammarProblems :=
    { list := [.strayCharacter 1 '\n', .malformedRules 12, .unbalancedBrackets 0 1 0,
        .misnestedBrackets 1, .duplicateRule 'A']
      ne_nil := List.cons_ne_nil _ _ }
  have hvalidate : validate "A\nB".toList "(A,[),(A,][)x".toList = .error problems :=
    validate_eq_error_iff.2 (by decide +kernel)
  have hletters : ∀ c, .duplicateRule c ∈ problems.list → 'A' ≤ c ∧ c ≤ 'Z' :=
    fun _ => letter_of_validate hvalidate
  obtain ⟨hlines, -⟩ := problems.lines_message hletters
  refine ⟨problems, hvalidate, hletters, hlines.trans ?_⟩
  rfl

end GrammarProblems

end Lindenmayer
