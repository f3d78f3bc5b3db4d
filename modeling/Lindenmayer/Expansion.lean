import Lindenmayer.Checkpoint
import Lindenmayer.Failure
import Lindenmayer.Grammar.RuleTable

set_option autoImplicit false

/-! # Expansion

Generation 0 is the starting sequence without its separating commas. Every later generation
replaces each letter by its body, keeps letters without a body and the symbols `+ - [ ]`, and drops
everything else.

`expand` computes a generation outright. `expandWatched` computes the same under a limit on the
length of every generation, which is predicted before the generation is written, and asks a
checkpoint on the way. -/

namespace Lindenmayer

/-! ## Generations -/

/-- A starting sequence without its separating commas. -/
def stripCommas (start : List Char) : List Char := start.filter fun c => c != ','

/-- The successor of one character: what it becomes in the next generation. -/
def successor (table : RuleTable) (c : Char) : List Char :=
  match Symbol.ofChar? c with
  | some (.letter l) =>
    match table.get l with
    | some body => Word.text body
    | none => [c]
  | some _ => [c]
  | none => []

/-- The generation after a sequence. -/
def nextGeneration (table : RuleTable) (sequence : List Char) : List Char :=
  sequence.flatMap (successor table)

/-- Characters are replaced independently of one another. -/
theorem nextGeneration_append (table : RuleTable) (s t : List Char) :
    nextGeneration table (s ++ t) = nextGeneration table s ++ nextGeneration table t :=
  List.flatMap_append

/-- The sequence `n` generations after a sequence. -/
def generationAfter (table : RuleTable) : Nat → List Char → List Char
  | 0, sequence => sequence
  | n + 1, sequence => generationAfter table n (nextGeneration table sequence)

/-- Generation `n` of a starting sequence. -/
def expand (start : List Char) (table : RuleTable) (n : Nat) : List Char :=
  generationAfter table n (stripCommas start)

/-! ## Lengths -/

/-- The greatest length that is told apart; a longer one counts as this. -/
def maxLength : Nat := UInt64.size - 1

/-- The length of a sequence in bytes of UTF-8. -/
def byteLength (sequence : List Char) : Nat := sequence.foldl (fun n c => n + c.utf8Size) 0

/-- The length of the successor of one character, found without writing it. -/
def successorLength (table : RuleTable) (c : Char) : Nat :=
  match Symbol.ofChar? c with
  | some (.letter l) =>
    match table.get l with
    | some body => body.length
    | none => 1
  | some _ => 1
  | none => 0

/-- The predicted length of a successor is its length. -/
theorem length_successor (table : RuleTable) (c : Char) :
    (successor table c).length = successorLength table c := by
  unfold successor successorLength
  split
  · split <;> simp [Word.text]
  · rfl
  · rfl

/-- The length of the generation after a sequence, found without writing it. -/
def nextLength (table : RuleTable) (sequence : List Char) : Nat :=
  sequence.foldl (fun n c => min maxLength (n + successorLength table c)) 0

/-! ## Watched expansion -/

/-- The number of characters that are replaced between two questions. -/
def blockLength : Nat := 4096

/-- Cuts a sequence into blocks of `blockLength` characters; the last may be shorter. -/
def blocks (sequence : List Char) : List (List Char) :=
  match sequence with
  | [] => []
  | c :: rest => (c :: rest).take blockLength :: blocks ((c :: rest).drop blockLength)
termination_by sequence.length
decreasing_by simp only [List.length_drop, List.length_cons, blockLength]; omega

/-- The blocks of a sequence hold all of it, in order. -/
theorem flatten_blocks (sequence : List Char) : (blocks sequence).flatten = sequence := by
  fun_induction blocks sequence with
  | case1 => rfl
  | case2 c rest ih => rw [List.flatten_cons, ih, List.take_append_drop]

variable {σ : Type}

/-- The next generation, written block by block, with a question before each. -/
def nextGenerationWatched (check : Checkpoint σ) (table : RuleTable) (sequence : List Char) :
    Watched σ Failure (List Char) := fun s =>
  match sweep check (fun written block => .ok (nextGeneration table block :: written))
      (blocks sequence) [] s with
  | ((walk, written), s) => (walk.map fun _ => written.reverse.flatten, s)

/-- The sequence `n` generations after a sequence. Before each generation comes a question, then
the comparison of its predicted length with the limit. -/
def generationAfterWatched (check : Checkpoint σ) (table : RuleTable) (limit : Nat) :
    Nat → List Char → σ → Ending Failure (List Char) × σ
  | 0, sequence, s => (.complete sequence, s)
  | n + 1, sequence, s =>
    match check s with
    | (.halt, s) => (.interrupted, s)
    | (.proceed, s) =>
      if limit < nextLength table sequence then
        (.failed (.outOfMemory (nextLength table sequence)), s)
      else
        match nextGenerationWatched check table sequence s with
        | (.complete next, s) => generationAfterWatched check table limit n next s
        | (.interrupted, s) => (.interrupted, s)
        | (.failed failure, s) => (.failed failure, s)

/-- Generation `n` of a starting sequence, if no generation up to it is longer than the limit. There
is always memory for what the limit allows: an expansion that fails because the system refuses it is
left out. -/
def expandWatched (check : Checkpoint σ) (table : RuleTable) (limit : Nat) (start : List Char)
    (n : Nat) : Watched σ Failure (List Char) := fun s =>
  let length := min maxLength (byteLength (stripCommas start))
  if limit < length then (.failed (.outOfMemory length), s)
  else generationAfterWatched check table limit n (stripCommas start) s

/-- Generation `n` of a starting sequence under a limit, without interruption. -/
def expandWithin (table : RuleTable) (limit : Nat) (start : List Char) (n : Nat) :
    Except Failure (List Char) :=
  (expandWatched Checkpoint.uninterrupted table limit start n).unwatched []

end Lindenmayer
