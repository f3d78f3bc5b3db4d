import Lindenmayer.Geometry.Point

set_option autoImplicit false

/-! # Bounding boxes

The box around the places a turtle has moved to. It starts as the single point at the origin and is
kept in whole units: a coordinate that extends the box is stored without its fraction. -/

namespace Lindenmayer

/-- An axis-parallel box, by its least and its greatest corner. -/
structure BoundingBox (α : Type) where
  min : Point α
  max : Point α
  deriving DecidableEq, Repr

namespace BoundingBox

variable {α : Type} [Scalar α]

/-- The box that holds the origin only. -/
def origin : BoundingBox α := ⟨Point.origin, Point.origin⟩

/-- A least bound, moved down to a coordinate below it. -/
def lowerBound (bound coordinate : α) : α :=
  if Scalar.lt coordinate bound then Scalar.trunc coordinate else bound

/-- A greatest bound, moved up to a coordinate above it. -/
def upperBound (bound coordinate : α) : α :=
  if Scalar.lt bound coordinate then Scalar.trunc coordinate else bound

/-- The box extended to a point. -/
def extend (b : BoundingBox α) (p : Point α) : BoundingBox α where
  min := ⟨lowerBound b.min.x p.x, lowerBound b.min.y p.y⟩
  max := ⟨upperBound b.max.x p.x, upperBound b.max.y p.y⟩

/-- The extent along the x axis of a box that holds the origin. -/
def width (b : BoundingBox α) : α := Scalar.abs b.min.x + b.max.x

/-- The extent along the y axis of a box that holds the origin. -/
def height (b : BoundingBox α) : α := Scalar.abs b.min.y + b.max.y

end BoundingBox

end Lindenmayer
