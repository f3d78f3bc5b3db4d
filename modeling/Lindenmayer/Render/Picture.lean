import Lindenmayer.Canvas.Drawing
import Lindenmayer.Config.Basic
import Lindenmayer.Expansion

set_option autoImplicit false

/-! # Pictures

What a run computes, however it is steered: the sequence is expanded, measured and drawn, all three
under the same checkpoint. -/

namespace Lindenmayer

/-- Figures about a finished run. -/
structure Stats (α : Type) where
  /-- The length of the expanded sequence. -/
  symbols : Nat
  /-- The number of strokes. -/
  segments : Nat
  /-- The length of all strokes together. -/
  pathLength : α
  /-- Where the figure was put. -/
  placement : Placement α
  deriving DecidableEq, Repr

/-- The drawing of a run, and the figures about it. -/
structure Picture (α : Type) where
  drawing : Drawing α
  stats : Stats α
  deriving DecidableEq, Repr

/-- Why a configuration is turned away before anything is run. -/
inductive Rejection (α : Type) where
  | config (problem : ConfigProblem α)
  | grammar (problems : GrammarProblems)
  deriving DecidableEq

namespace Config

variable {α σ : Type} [Scalar α]

/-- The rule table of a configuration that can be run. Its numbers are looked at before its
grammar. -/
def prepare (c : Config α) : Except (Rejection α) RuleTable :=
  match c.problem? with
  | some problem => .error (.config problem)
  | none =>
    match RuleTable.parse c.startSequence.toList c.productionRules.toList with
    | .ok table => .ok table
    | .error problems => .error (.grammar problems)

/-- The drawing of some strokes. -/
def drawing (c : Config α) (segments : List (Segment α)) : Drawing α :=
  ⟨c.width, c.height, c.background, c.stroke, segments⟩

/-- The picture that a sequence, its placement and its strokes make up. -/
def pictureOf (c : Config α) (sequence : List Char) (placement : Placement α)
    (segments : List (Segment α)) : Picture α where
  drawing := c.drawing segments
  stats := ⟨byteLength sequence, segments.length, pathLength segments, placement⟩

/-- The picture of a configuration: expansion, then the two walks. There is always memory for the
strokes: no room is made for them before the second walk, and a run that fails because the system
refuses that room is left out. -/
def picture (c : Config α) (table : RuleTable) (check : Checkpoint σ) :
    Watched σ Failure (Picture α) := do
  let sequence ←
    expandWatched check table c.maxSymbols c.startSequence.toList c.generations
  let placement ← c.fit.measure check sequence
  let trail ← c.fit.draw check sequence placement
  pure (c.pictureOf sequence placement trail.segments)

end Config

end Lindenmayer
