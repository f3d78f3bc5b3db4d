import Lindenmayer.Symbol

set_option autoImplicit false

/-! # Clauses

Production rules are written as a row of *clauses* such as `(A,AB+[C]),(B,A-B)`: the letter to be
replaced left of the comma, its body right of it, and after the clause a comma that may be left
out. `Clause.text` writes a clause and `Clause.read` takes one off the front of a text; a text that
breaks the grammar is answered with what was left at the place where reading got stuck.

`Clause.text_append_of_read` and `Clause.read_text_append` say that the two are inverse. -/

namespace Lindenmayer

/-- One written rule. -/
structure Clause where
  /-- The letter that is replaced. -/
  letter : Letter
  /-- What replaces it. -/
  body : Word
  /-- Whether a comma follows the closing parenthesis. -/
  comma : Bool
  deriving DecidableEq, Repr

/-- The written form of a clause. -/
def Clause.text (c : Clause) : List Char :=
  '(' :: c.letter.toChar :: ',' :: (c.body.text ++ ')' :: if c.comma then [','] else [])

/-- The written form of a row of clauses. -/
def Clause.textAll (cs : List Clause) : List Char := cs.flatMap Clause.text

/-! ## Reading the parts of a clause -/

/-- Takes the character `c` off the front of a text; the error is the text itself. -/
def expectChar (c : Char) : List Char → Except (List Char) (List Char)
  | [] => .error []
  | d :: rest => if d = c then .ok rest else .error (d :: rest)

theorem cons_of_expectChar {c : Char} {t rest : List Char} (h : expectChar c t = .ok rest) :
    c :: rest = t := by
  cases t with
  | nil => cases h
  | cons d t =>
    simp only [expectChar] at h
    split at h
    · next hd => cases h; rw [hd]
    · cases h

/-- Takes a letter off the front of a text; the error is the text itself. -/
def Letter.read : List Char → Except (List Char) (Letter × List Char)
  | [] => .error []
  | d :: rest =>
    match Letter.ofChar? d with
    | some l => .ok (l, rest)
    | none => .error (d :: rest)

theorem Letter.cons_of_read {t rest : List Char} {l : Letter} (h : Letter.read t = .ok (l, rest)) :
    l.toChar :: rest = t := by
  cases t with
  | nil => cases h
  | cons d t =>
    simp only [Letter.read] at h
    split at h
    · next hd => cases h; rw [Letter.toChar_eq_of_ofChar? hd]
    · cases h

/-- The longest word a text begins with, and what follows it. -/
def Word.read : List Char → Word × List Char
  | [] => ([], [])
  | c :: rest =>
    match Symbol.ofChar? c with
    | some s =>
      let later := Word.read rest
      (s :: later.1, later.2)
    | none => ([], c :: rest)

theorem Word.text_append_read (t : List Char) :
    Word.text (Word.read t).1 ++ (Word.read t).2 = t := by
  induction t with
  | nil => rfl
  | cons c t ih =>
    unfold Word.read
    split
    · next s hs =>
      simp only [Word.text, List.map_cons, List.cons_append, Symbol.toChar_eq_of_ofChar? hs]
      rw [← Word.text, ih]
    · rfl

/-- Reading gives back a word that is followed by something other than a symbol. -/
theorem Word.read_text_append (w : Word) (c : Char) (rest : List Char)
    (hc : Symbol.ofChar? c = none) : Word.read (Word.text w ++ c :: rest) = (w, c :: rest) := by
  induction w with
  | nil => simp [Word.text, Word.read, hc]
  | cons s w ih =>
    simp only [Word.text] at ih
    simp [Word.text, Word.read, Symbol.ofChar?_toChar, ih]

/-! ## Reading a clause -/

/-- Takes a comma off the front of a text, if there is one. -/
def readComma : List Char → Bool × List Char
  | ',' :: rest => (true, rest)
  | rest => (false, rest)

/-- Takes one clause off the front of a text. The error is what was left where the text stopped
following the grammar. -/
def Clause.read (text : List Char) : Except (List Char) (Clause × List Char) :=
  match expectChar '(' text with
  | .error left => .error left
  | .ok text =>
    match Letter.read text with
    | .error left => .error left
    | .ok (letter, text) =>
      match expectChar ',' text with
      | .error left => .error left
      | .ok text =>
        match expectChar ')' (Word.read text).2 with
        | .error left => .error left
        | .ok rest => .ok (⟨letter, (Word.read text).1, (readComma rest).1⟩, (readComma rest).2)

theorem readComma_append (t : List Char) :
    (if (readComma t).1 then [','] else []) ++ (readComma t).2 = t := by
  unfold readComma
  split <;> simp

/-- **What was read is what was written**: the clause and the rest make up the text. -/
theorem Clause.text_append_of_read {t rest : List Char} {c : Clause}
    (h : Clause.read t = .ok (c, rest)) : c.text ++ rest = t := by
  unfold Clause.read at h
  split at h
  · cases h
  · next t₁ h₁ =>
    split at h
    · cases h
    · next l t₂ h₂ =>
      split at h
      · cases h
      · next t₃ h₃ =>
        split at h
        · cases h
        · next t₄ h₄ =>
          cases h
          rw [← cons_of_expectChar h₁, ← Letter.cons_of_read h₂, ← cons_of_expectChar h₃]
          have hb := Word.text_append_read t₃
          rw [← cons_of_expectChar h₄] at hb
          have hc := readComma_append t₄
          simp only [Clause.text, List.cons_append, List.append_assoc, hc, hb]

/-- A clause is read back from its written form, unless it leaves out its comma and one follows. -/
theorem Clause.read_text_append (c : Clause) (rest : List Char)
    (h : c.comma = true ∨ rest.head? ≠ some ',') : Clause.read (c.text ++ rest) = .ok (c, rest) := by
  obtain ⟨l, b, k⟩ := c
  have hb : ∀ r, Word.read (Word.text b ++ ')' :: r) = (b, ')' :: r) :=
    fun r => Word.read_text_append b ')' r (by decide)
  have hk : readComma ((if k = true then [','] else []) ++ rest) = (k, rest) := by
    cases k with
    | true => rfl
    | false =>
      cases rest with
      | nil => rfl
      | cons d rest =>
        simp only [Bool.false_eq_true, false_or, List.head?_cons, ne_eq, Option.some.injEq] at h
        simp only [Bool.false_eq_true, if_false, List.nil_append]
        unfold readComma
        split
        · next he => cases he; exact absurd rfl h
        · rfl
  simp only [Clause.text, List.cons_append, List.append_assoc, Clause.read, expectChar, if_true,
    Letter.read, Letter.ofChar?_toChar, hb, hk]

theorem Clause.length_lt_of_read {t rest : List Char} {c : Clause}
    (h : Clause.read t = .ok (c, rest)) : rest.length < t.length := by
  rw [← Clause.text_append_of_read h]
  simp only [Clause.text, List.cons_append, List.length_cons, List.length_append]
  omega

/-! ## Reading a row of clauses -/

/-- What reading a rules text gives: the clauses in order, and what is left where the text stops
following the grammar, if it does. -/
structure Reading where
  clauses : List Clause
  left : Option (List Char)
  deriving DecidableEq, Repr

/-- Reads clauses until the text ends or breaks the grammar. -/
def Reading.ofText (text : List Char) : Reading :=
  match text with
  | [] => ⟨[], none⟩
  | d :: t =>
    match h : Clause.read (d :: t) with
    | .error left => ⟨[], some left⟩
    | .ok (c, rest) =>
      have : rest.length < t.length + 1 := Clause.length_lt_of_read h
      let r := Reading.ofText rest
      ⟨c :: r.clauses, r.left⟩
termination_by text.length

/-- The number of characters read before `left`, the place a broken text is blamed at. -/
def consumed (text left : List Char) : Nat := text.length - left.length

end Lindenmayer
