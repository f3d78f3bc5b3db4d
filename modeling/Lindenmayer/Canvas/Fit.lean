import Lindenmayer.Canvas.Placement
import Lindenmayer.Turtle.Walk

set_option autoImplicit false

/-! # Fitting a figure into a frame

A figure is walked twice: once to measure it and find its placement, and once to draw it there with
the step length scaled. -/

namespace Lindenmayer

/-- A turtle and the frame its figures are to fit into. -/
structure Fit (α : Type) where
  turtle : Turtle α
  frame : Frame
  deriving DecidableEq, Repr

namespace Fit

variable {α σ : Type} [Scalar α]

/-- The first walk: from the origin, unscaled, to the placement of the figure. -/
def measure (fit : Fit α) (check : Checkpoint σ) (sequence : List Char) :
    Watched σ Failure (Placement α) := fun s =>
  match fit.turtle.walk .measure check sequence Pose.initial s with
  | (outcome, s) => (outcome.map fun trail => Placement.ofBounds fit.frame trail.bounds, s)

/-- The turtle of the second walk. -/
def scaledTurtle (fit : Fit α) (placement : Placement α) : Turtle α :=
  { fit.turtle with stepLength := fit.turtle.stepLength * placement.scale.uniform }

/-- How the second walk ends, and its trail. -/
def drawTrace (fit : Fit α) (check : Checkpoint σ) (sequence : List Char)
    (placement : Placement α) : σ → (Ending Failure Unit × Trail α) × σ :=
  (fit.scaledTurtle placement).trace .draw check sequence (Pose.upAt placement.origin)

/-- The second walk: from the origin of the placement, scaled, leaving the strokes. -/
def draw (fit : Fit α) (check : Checkpoint σ) (sequence : List Char) (placement : Placement α) :
    Watched σ Failure (Trail α) :=
  (fit.scaledTurtle placement).walk .draw check sequence (Pose.upAt placement.origin)

/-- The placement and the strokes of a sequence, without interruption. -/
def render (fit : Fit α) (sequence : List Char) :
    Except Failure (Placement α × List (Segment α)) :=
  let unplaced := Placement.ofBounds fit.frame BoundingBox.origin
  match (fit.measure Checkpoint.uninterrupted sequence).unwatched unplaced with
  | .error failure => .error failure
  | .ok placement =>
    ((fit.scaledTurtle placement).segments sequence (Pose.upAt placement.origin)).map
      fun segments => (placement, segments)

end Fit

end Lindenmayer
