import Lindenmayer.Grammar.Validation

set_option autoImplicit false

/-! # Rule tables

The rules of a grammar as they are used: at most one body for each letter. A table is built from
the written clauses; a letter of the starting sequence without a clause gets itself as its body. -/

namespace Lindenmayer

/-- The body of each letter that has one. -/
structure RuleTable where
  bodies : Vector (Option Word) 26
  deriving DecidableEq

namespace RuleTable

/-- The table without rules. -/
def empty : RuleTable := ⟨Vector.replicate 26 none⟩

/-- The body of a letter. -/
def get (t : RuleTable) (l : Letter) : Option Word := t.bodies[l]

/-- Gives a letter a body. -/
def insert (t : RuleTable) (l : Letter) (body : Word) : RuleTable :=
  ⟨t.bodies.set l (some body)⟩

/-- The letters that have a body, with it, in alphabetical order. -/
def toList (t : RuleTable) : List (Letter × Word) :=
  Letter.all.filterMap fun l => (t.get l).map fun body => (l, body)

/-- The number of letters that have a body. -/
def size (t : RuleTable) : Nat := t.toList.length

/-- Whether no letter has a body. -/
def isEmpty (t : RuleTable) : Bool := t.toList.isEmpty

/-- The body of a character, if it is a letter that has one. -/
def getChar (t : RuleTable) (c : Char) : Option Word :=
  match Letter.ofChar? c with
  | some l => t.get l
  | none => none

@[simp] theorem get_empty (l : Letter) : empty.get l = none := by
  simp [get, empty]

@[simp] theorem get_insert_self (t : RuleTable) (l : Letter) (body : Word) :
    (t.insert l body).get l = some body := by
  simp [get, insert]

theorem get_insert_of_ne (t : RuleTable) {l l' : Letter} (body : Word) (h : l ≠ l') :
    (t.insert l body).get l' = t.get l' := by
  have hv : l.val ≠ l'.val := fun e => h (Fin.ext e)
  simp [get, insert, hv]

theorem ext_get {t t' : RuleTable} (h : ∀ l, t.get l = t'.get l) : t = t' := by
  obtain ⟨b⟩ := t
  obtain ⟨b'⟩ := t'
  congr 1
  ext1 i hi
  exact h ⟨i, hi⟩

/-! ## Building a table -/

/-- Adds clauses in order, up to the first letter that already has a body. -/
def addClauses (t : RuleTable) : List Clause → Except GrammarProblem RuleTable
  | [] => .ok t
  | c :: cs =>
    if (t.get c.letter).isSome then .error (.duplicateRule c.letter.toChar)
    else (t.insert c.letter c.body).addClauses cs

/-- Lets a letter without a body stand for itself. -/
def addIdentity (t : RuleTable) (l : Letter) : RuleTable :=
  if (t.get l).isNone then t.insert l [.letter l] else t

/-- Lets the letters of a starting sequence that have no body stand for themselves. -/
def addIdentities (t : RuleTable) (start : List Char) : RuleTable :=
  (start.filterMap Letter.ofChar?).foldl addIdentity t

/-- The table of a rules text, for a starting sequence. Fails at the first fault met when the text
is read from left to right: a letter that has a rule already, or a break of the grammar. -/
def build (rules start : List Char) : Except GrammarProblem RuleTable :=
  let reading := Reading.ofText rules
  match empty.addClauses reading.clauses with
  | .error problem => .error problem
  | .ok table =>
    match reading.left with
    | some left => .error (.malformedRules (consumed rules left))
    | none => .ok (table.addIdentities start)

/-- The table of a grammar that passes validation, or everything wrong with the grammar. -/
def parse (start rules : List Char) : Except GrammarProblems RuleTable :=
  match validate start rules with
  | .error problems => .error problems
  | .ok () =>
    match build rules start with
    | .ok table => .ok table
    | .error problem => .error (.single problem)

end RuleTable

end Lindenmayer
