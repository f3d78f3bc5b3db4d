import Lindenmayer.Brackets
import Lindenmayer.Grammar.Clause
import Lindenmayer.Grammar.Problem

set_option autoImplicit false

/-! # Validation

Checks a starting sequence and a rules text, and reports everything that is wrong with them, not
just the first fault. The four checks are independent of each other:

* the starting sequence holds symbols and commas only;
* the rules text is a row of clauses;
* the parts of the rules text between `),` have balanced brackets;
* no letter heads two clauses.

The last two look at the raw text, so they report also on a text that is no row of clauses. -/

namespace Lindenmayer

/-! ## The starting sequence -/

/-- The first character of a starting sequence that does not belong there, with its position. -/
def startProblem? (start : List Char) : Option GrammarProblem :=
  (start.zipIdx.find? fun p => !isStartSymbol p.1).map fun p => .strayCharacter p.2 p.1

/-! ## The grammar of clauses -/

/-- The place where a rules text stops being a row of clauses, if it does. -/
def malformedProblem? (rules : List Char) : Option GrammarProblem :=
  (Reading.ofText rules).left.map fun left => .malformedRules (consumed rules left)

/-! ## Brackets -/

/-- Cuts a rules text at every `),`: the first part and the later ones. -/
def cutClauses : List Char → List Char × List (List Char)
  | [] => ([], [])
  | ')' :: ',' :: rest =>
    let later := cutClauses rest
    ([], later.1 :: later.2)
  | c :: rest =>
    let later := cutClauses rest
    (c :: later.1, later.2)

/-- All parts of a rules text between the `),` in it, at least one. -/
def clauseParts (rules : List Char) : List (List Char) :=
  let parts := cutClauses rules
  parts.1 :: parts.2

/-- What is wrong with the brackets of one part: their number, or else their order. -/
def bracketProblem? (clause : Nat) (part : List Char) : Option GrammarProblem :=
  if opened part ≠ closed part then some (.unbalancedBrackets clause (opened part) (closed part))
  else if dips 0 part then some (.misnestedBrackets clause)
  else none

/-- The parts of a rules text whose brackets are wrong. -/
def bracketProblems (rules : List Char) : List GrammarProblem :=
  (clauseParts rules).zipIdx.filterMap fun p => bracketProblem? p.2 p.1

/-! ## Letters with several rules -/

/-- The letters that stand between a `(` and a `,`, wherever that is. -/
def headLetters : List Char → List Letter
  | [] => []
  | c :: rest =>
    match c, rest with
    | '(', l :: ',' :: _ => (Letter.ofChar? l).toList ++ headLetters rest
    | _, _ => headLetters rest

/-- The letters that head several clauses, in alphabetical order. -/
def duplicateProblems (rules : List Char) : List GrammarProblem :=
  (Letter.all.filter fun l => decide (1 < (headLetters rules).count l)).map
    fun l => .duplicateRule l.toChar

/-! ## All checks -/

/-- Everything wrong with a grammar, in the order of the checks. -/
def grammarProblems (start rules : List Char) : List GrammarProblem :=
  (startProblem? start).toList ++ (malformedProblem? rules).toList ++ bracketProblems rules ++
    duplicateProblems rules

/-- Accepts a grammar with which nothing is wrong. -/
def validate (start rules : List Char) : Except GrammarProblems Unit :=
  match GrammarProblems.ofList? (grammarProblems start rules) with
  | some problems => .error problems
  | none => .ok ()

theorem validate_eq_ok_iff {start rules : List Char} :
    validate start rules = .ok () ↔ grammarProblems start rules = [] := by
  unfold validate GrammarProblems.ofList?
  by_cases h : grammarProblems start rules = [] <;> simp [h]

end Lindenmayer
