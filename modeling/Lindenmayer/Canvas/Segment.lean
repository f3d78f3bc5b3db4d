import Lindenmayer.Geometry.Point

set_option autoImplicit false

/-! # Segments

The straight strokes a drawing is made of. -/

namespace Lindenmayer

/-- One straight stroke. -/
structure Segment (α : Type) where
  start : Point α
  finish : Point α
  deriving DecidableEq, Repr

/-- The length of a stroke. -/
def Segment.length {α : Type} [Scalar α] (s : Segment α) : α := s.start.distance s.finish

/-- The length of all strokes together, added up in order. The sum starts from minus zero, which
changes no number that is added to it, and which is the length of no strokes at all. -/
def pathLength {α : Type} [Scalar α] (segments : List (Segment α)) : α :=
  segments.foldl (fun sum s => sum + s.length) (-Scalar.ofNat 0)

end Lindenmayer
