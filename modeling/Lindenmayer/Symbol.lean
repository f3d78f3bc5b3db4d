set_option autoImplicit false

/-! # Symbols

A sequence is any text; what acts in it are its *symbols*: the 26 letters `A` to `Z`, the turns
`+` and `-`, and the brackets `[` and `]`. Every reader of a sequence classifies characters
through `Symbol.ofChar?`, so grammar, expansion and turtle agree on what a symbol is. -/

namespace Lindenmayer

/-! ## Letters -/

/-- A letter, by its place in the alphabet: `0` is `A`, `25` is `Z`. -/
abbrev Letter := Fin 26

/-- The character of a letter. -/
def Letter.toChar (l : Letter) : Char := Char.ofNat (65 + l.val)

/-- The letter a character is, if it is one of `A` to `Z`. -/
def Letter.ofChar? (c : Char) : Option Letter :=
  if h : 65 ≤ c.toNat ∧ c.toNat < 91 then some ⟨c.toNat - 65, by omega⟩ else none

/-- The alphabet in order. -/
def Letter.all : List Letter := List.finRange 26

theorem Letter.ofChar?_toChar (l : Letter) : Letter.ofChar? l.toChar = some l := by
  revert l; decide

theorem Letter.toChar_eq_of_ofChar? {c : Char} {l : Letter} (h : Letter.ofChar? c = some l) :
    l.toChar = c := by
  unfold Letter.ofChar? at h
  split at h
  · next hc =>
    cases h
    have hn : 65 + (c.toNat - 65) = c.toNat := by omega
    simp only [Letter.toChar, hn, Char.ofNat_toNat]
  · cases h

theorem Letter.toChar_ne (l : Letter) {c : Char} (h : Letter.ofChar? c = none) : l.toChar ≠ c := by
  rintro rfl
  cases (Letter.ofChar?_toChar l).symm.trans h

/-! ## Symbols -/

/-- What a sequence is made of. -/
inductive Symbol where
  /-- `A` to `Z`. -/
  | letter (l : Letter)
  /-- `+` -/
  | plus
  /-- `-` -/
  | minus
  /-- `[` -/
  | openBracket
  /-- `]` -/
  | closeBracket
  deriving DecidableEq, Repr

/-- A string of symbols, such as the body of a rule. -/
abbrev Word := List Symbol

namespace Symbol

/-- The character of a symbol. -/
def toChar : Symbol → Char
  | letter l => l.toChar
  | plus => '+'
  | minus => '-'
  | openBracket => '['
  | closeBracket => ']'

/-- The symbol a character is, if it is one. -/
def ofChar? (c : Char) : Option Symbol :=
  match Letter.ofChar? c with
  | some l => some (letter l)
  | none =>
    if c = '+' then some plus
    else if c = '-' then some minus
    else if c = '[' then some openBracket
    else if c = ']' then some closeBracket
    else none

theorem ofChar?_toChar (s : Symbol) : ofChar? s.toChar = some s := by
  cases s with
  | letter l => simp [toChar, ofChar?, Letter.ofChar?_toChar]
  | plus => decide
  | minus => decide
  | openBracket => decide
  | closeBracket => decide

theorem toChar_eq_of_ofChar? {c : Char} {s : Symbol} (h : ofChar? c = some s) : s.toChar = c := by
  unfold ofChar? at h
  split at h
  · next hl => cases h; exact Letter.toChar_eq_of_ofChar? hl
  · split at h
    · next hc => cases h; exact hc.symm
    split at h
    · next hc => cases h; exact hc.symm
    split at h
    · next hc => cases h; exact hc.symm
    split at h
    · next hc => cases h; exact hc.symm
    · cases h

theorem toChar_ne (s : Symbol) {c : Char} (h : ofChar? c = none) : s.toChar ≠ c := by
  rintro rfl
  cases (ofChar?_toChar s).symm.trans h

end Symbol

/-- The text of a word, a character a symbol. -/
def Word.text (w : Word) : List Char := w.map Symbol.toChar

/-! ## Classes of characters -/

/-- The characters `A` to `Z`. -/
def isLetter (c : Char) : Bool := (Letter.ofChar? c).isSome

/-- The characters a rule body may hold. -/
def isBodySymbol (c : Char) : Bool := (Symbol.ofChar? c).isSome

/-- The characters a starting sequence may hold: symbols and separating commas. -/
def isStartSymbol (c : Char) : Bool := isBodySymbol c || c == ','

end Lindenmayer
