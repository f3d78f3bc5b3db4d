import Lindenmayer.Canvas.Color
import Lindenmayer.Canvas.Segment

set_option autoImplicit false

/-! # Drawings

The finished picture of a run: a background and the strokes on it, in drawing order. -/

namespace Lindenmayer

/-- A picture for a canvas of `width` by `height` pixels. -/
structure Drawing (α : Type) where
  width : Nat
  height : Nat
  background : Color
  stroke : Color
  segments : List (Segment α)
  deriving DecidableEq, Repr

namespace Drawing

variable {α : Type} [Scalar α]

/-- The ends of all strokes, in drawing order. -/
def points (d : Drawing α) : List (Point α) := d.segments.flatMap fun s => [s.start, s.finish]

/-- The least and the greatest corner of the rectangle around all strokes, if there are any. -/
def extent? (d : Drawing α) : Option (Point α × Point α) :=
  match d.points with
  | [] => none
  | p :: ps => some (ps.foldl (fun corners q => (corners.1.lower q, corners.2.upper q)) (p, p))

end Drawing

end Lindenmayer
