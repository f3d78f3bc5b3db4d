import Lindenmayer.Text.Quoted

set_option autoImplicit false

/-! # Problems of a grammar

What can be wrong with a starting sequence and its production rules. Every problem is one line of
text, and a list of problems is shown a line each. -/

namespace Lindenmayer

/-- One thing wrong with a starting sequence or with production rules. -/
inductive GrammarProblem where
  /-- The starting sequence holds a character that is neither a symbol nor a comma. -/
  | strayCharacter (position : Nat) (found : Char)
  /-- The rules text breaks the grammar of clauses after `position` characters. -/
  | malformedRules (position : Nat)
  /-- A part of the rules text has unequal numbers of `[` and `]`. -/
  | unbalancedBrackets (clause opened closed : Nat)
  /-- A part of the rules text closes a bracket before it is opened. -/
  | misnestedBrackets (clause : Nat)
  /-- A letter heads more than one clause. -/
  | duplicateRule (letter : Char)
  deriving DecidableEq, Repr

/-- The line that tells a user of the problem. -/
def GrammarProblem.message : GrammarProblem → String
  | strayCharacter position found =>
    s!"Starting sequence wrong: {Text.quoted found} at position {position}. " ++
      "A-Z, +, -, [, ] and separating commas allowed."
  | malformedRules position =>
    s!"Production rules wrong at position {position}. (A,AAA+-[]),(B,CDF+-[]) allowed."
  | unbalancedBrackets clause opened closed =>
    s!"Production rules wrong bracket number in clause {clause}: {opened} '[' and {closed} ']'."
  | misnestedBrackets clause => s!"Production rules wrong bracket order in clause {clause}."
  | duplicateRule letter =>
    s!"Production rules wrong: letter {letter} can't have more than 1 rule."

/-- Whether the problem is a letter with several rules. -/
def GrammarProblem.isDuplicateRule : GrammarProblem → Bool
  | duplicateRule _ => true
  | _ => false

/-- The problems found in one grammar; at least one. -/
structure GrammarProblems where
  list : List GrammarProblem
  ne_nil : list ≠ []
  deriving DecidableEq

namespace GrammarProblems

/-- A list of problems, unless there are none. -/
def ofList? (list : List GrammarProblem) : Option GrammarProblems :=
  if h : list = [] then none else some ⟨list, h⟩

/-- A single problem. -/
def single (p : GrammarProblem) : GrammarProblems := ⟨[p], List.cons_ne_nil p []⟩

/-- The messages of the problems in order, a line each. -/
def message (ps : GrammarProblems) : String :=
  "\n".intercalate (ps.list.map GrammarProblem.message)

end GrammarProblems

end Lindenmayer
