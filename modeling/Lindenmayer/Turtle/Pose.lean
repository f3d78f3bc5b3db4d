import Lindenmayer.Geometry.Point

set_option autoImplicit false

/-! # Poses

Where the turtle is and where it looks. Headings are added up without reduction to a full turn. -/

namespace Lindenmayer

/-- A position and a heading in degrees. Heading 0 is along the x axis, and a greater heading is
further towards the y axis: clockwise, as the y axis grows downwards. -/
structure Pose (α : Type) where
  position : Point α
  heading : α
  deriving DecidableEq, Repr

namespace Pose

variable {α : Type} [Scalar α]

/-- The heading a turtle starts with: up. -/
def initialHeading : α := -Scalar.ofNat 90

/-- A turtle at `p` that looks up. -/
def upAt (p : Point α) : Pose α := ⟨p, initialHeading⟩

/-- A turtle at the origin that looks up. -/
def initial : Pose α := upAt Point.origin

/-- The unit vector of the heading. -/
def direction (pose : Pose α) : Point α := Point.direction pose.heading

/-- The pose after a move of `length` along the heading. -/
def advance (pose : Pose α) (length : α) : Pose α :=
  { pose with position := pose.position.move pose.direction length }

/-- The pose after a turn; a positive one is clockwise. -/
def turn (pose : Pose α) (degrees : α) : Pose α := { pose with heading := pose.heading + degrees }

end Pose

end Lindenmayer
