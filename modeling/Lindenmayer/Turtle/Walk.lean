import Lindenmayer.Canvas.Segment
import Lindenmayer.Checkpoint
import Lindenmayer.Failure
import Lindenmayer.Geometry.BoundingBox
import Lindenmayer.Turtle.Command
import Lindenmayer.Turtle.Pose

set_option autoImplicit false

/-! # Walks

A turtle reads a sequence character by character and does what each commands. It walks either to
*measure* the figure, which extends a bounding box, or to *draw* it, which leaves strokes. Both
kinds of walk take the same decisions on every sequence.

A checkpoint is asked before every character. What a walk left behind, its `Trail`, is known also
when it was halted or failed. -/

namespace Lindenmayer

/-- A turtle: how far it turns and how far it moves. -/
structure Turtle (α : Type) where
  /-- Degrees of a turn. -/
  angleStep : α
  /-- Length of a move. -/
  stepLength : α
  deriving DecidableEq, Repr

/-- What a walk is for. -/
inductive Mode where
  /-- Moves extend the bounding box. -/
  | measure
  /-- Moves leave strokes. -/
  | draw
  deriving DecidableEq, Repr

/-- A walk so far. -/
structure Trail (α : Type) where
  /-- Where the turtle is. -/
  pose : Pose α
  /-- The poses saved for the open branches, the newest first. -/
  branches : List (Pose α)
  /-- The box around the places moved to when measuring. -/
  bounds : BoundingBox α
  /-- The strokes left when drawing, the newest first. -/
  strokes : List (Segment α)
  /-- The number of moves. -/
  moves : Nat
  /-- The greatest number of branches open at a time. -/
  maxDepth : Nat
  /-- The number of characters read. -/
  read : Nat
  deriving DecidableEq, Repr

/-- What a completed walk reports. -/
structure Summary (α : Type) where
  pose : Pose α
  bounds : BoundingBox α
  moves : Nat
  openBranches : Nat
  maxDepth : Nat
  deriving DecidableEq, Repr

namespace Trail

variable {α : Type} [Scalar α]

/-- A walk that has not begun. -/
def start (pose : Pose α) : Trail α := ⟨pose, [], BoundingBox.origin, [], 0, 0, 0⟩

/-- The strokes in the order they were drawn. -/
def segments (t : Trail α) : List (Segment α) := t.strokes.reverse

/-- The report on a walk. -/
def summary (t : Trail α) : Summary α :=
  ⟨t.pose, t.bounds, t.moves, t.branches.length, t.maxDepth⟩

/-! ## One character -/

/-- The walk after a move. -/
def advance (turtle : Turtle α) (mode : Mode) (t : Trail α) : Trail α :=
  let pose := t.pose.advance turtle.stepLength
  match mode with
  | .measure =>
    { t with pose := pose, moves := t.moves + 1, bounds := t.bounds.extend pose.position }
  | .draw =>
    { t with
      pose := pose, moves := t.moves + 1
      strokes := ⟨t.pose.position, pose.position⟩ :: t.strokes }

/-- The walk after a command, unless the command closes a branch and none is open. There is always
memory to save a pose: a walk that fails because the system refuses it is left out. -/
def act (turtle : Turtle α) (mode : Mode) (t : Trail α) : Command → Option (Trail α)
  | .forward => some (t.advance turtle mode)
  | .turn rotation => some { t with pose := t.pose.turn (turtle.angleStep * rotation.sign) }
  | .push =>
    some { t with
      branches := t.pose :: t.branches
      maxDepth := max t.maxDepth (t.branches.length + 1) }
  | .pop =>
    match t.branches with
    | [] => none
    | pose :: branches => some { t with pose := pose, branches := branches }
  | .ignore => some t

/-- The walk after one more character. -/
def step (turtle : Turtle α) (mode : Mode) (t : Trail α) (c : Char) : Except Failure (Trail α) :=
  match t.act turtle mode (Command.ofChar c) with
  | some t => .ok { t with read := t.read + 1 }
  | none => .error (.stackUnderflow t.read)

end Trail

/-! ## Whole walks -/

namespace Turtle

variable {α σ : Type} [Scalar α]

/-- How a walk over a sequence ends, and its trail. -/
def trace (turtle : Turtle α) (mode : Mode) (check : Checkpoint σ) (sequence : List Char)
    (pose : Pose α) : σ → (Ending Failure Unit × Trail α) × σ :=
  sweep check (Trail.step turtle mode) sequence (Trail.start pose)

/-- The trail of a walk over a sequence, if it is completed. -/
def walk (turtle : Turtle α) (mode : Mode) (check : Checkpoint σ) (sequence : List Char)
    (pose : Pose α) : Watched σ Failure (Trail α) := fun s =>
  match turtle.trace mode check sequence pose s with
  | ((outcome, trail), s) => (outcome.map fun _ => trail, s)

/-- The trail of an uninterrupted walk over a sequence. -/
def follow (turtle : Turtle α) (mode : Mode) (sequence : List Char) (pose : Pose α) :
    Except Failure (Trail α) :=
  (turtle.walk mode Checkpoint.uninterrupted sequence pose).unwatched (Trail.start pose)

/-- The box around the figure of a sequence, walked from the origin. -/
def bounds (turtle : Turtle α) (sequence : List Char) : Except Failure (BoundingBox α) :=
  (turtle.follow .measure sequence Pose.initial).map Trail.bounds

/-- The strokes of a sequence, walked from `pose`. -/
def segments (turtle : Turtle α) (sequence : List Char) (pose : Pose α) :
    Except Failure (List (Segment α)) :=
  (turtle.follow .draw sequence pose).map Trail.segments

end Turtle

end Lindenmayer
