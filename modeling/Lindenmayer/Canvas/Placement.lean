import Lindenmayer.Geometry.BoundingBox

set_option autoImplicit false

/-! # Placements

Where a figure goes on a canvas, and how large: it is scaled by one factor on both axes, the
largest that keeps it inside the margin, and moved so that its box begins at the margin. -/

namespace Lindenmayer

/-- A canvas and the blank border to be kept on it, in pixels. -/
structure Frame where
  width : Nat
  height : Nat
  margin : Nat
  deriving DecidableEq, Repr

/-- A scale factor for each axis. -/
structure Scale (α : Type) where
  x : α
  y : α
  deriving DecidableEq, Repr

/-- What drawing a figure needs to know from measuring it. -/
structure Placement (α : Type) where
  /-- The box around the unscaled figure. -/
  bounds : BoundingBox α
  scale : Scale α
  /-- The place on the canvas where the turtle starts. -/
  origin : Point α
  deriving DecidableEq, Repr

variable {α : Type} [Scalar α]

namespace Scale

/-- The factor that stretches an extent to a canvas side without its two margins. An extent of zero
is left as it is. -/
def axisFactor (side margin : Nat) (extent : α) : α :=
  if Scalar.eq extent (Scalar.ofNat 0) then Scalar.ofNat 1
  else (Scalar.ofNat side - Scalar.ofNat 2 * Scalar.ofNat margin) / extent

/-- The factors that stretch a box to the whole frame. -/
def stretch (bounds : BoundingBox α) (frame : Frame) : Scale α :=
  ⟨axisFactor frame.width frame.margin bounds.width,
    axisFactor frame.height frame.margin bounds.height⟩

/-- The smaller of the two factors. -/
def uniform (s : Scale α) : α := Scalar.least s.x s.y

/-- The same factor on both axes, so that a box keeps its shape and fits into the frame. -/
def fit (bounds : BoundingBox α) (frame : Frame) : Scale α :=
  let factor := (stretch bounds frame).uniform
  ⟨factor, factor⟩

end Scale

/-- The placement of a figure in a frame. -/
def Placement.ofBounds (frame : Frame) (bounds : BoundingBox α) : Placement α :=
  let scale := Scale.fit bounds frame
  let margin : α := Scalar.ofNat frame.margin
  { bounds, scale
    origin :=
      ⟨Scalar.abs bounds.min.x * scale.x + margin, Scalar.abs bounds.min.y * scale.y + margin⟩ }

end Lindenmayer
