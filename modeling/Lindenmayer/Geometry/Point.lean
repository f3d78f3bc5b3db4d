import Lindenmayer.Geometry.Scalar

set_option autoImplicit false

/-! # Points

Points of the plane, which are also its vectors. The y axis grows downwards. -/

namespace Lindenmayer

/-- A point, or a vector. -/
structure Point (α : Type) where
  x : α
  y : α
  deriving DecidableEq, Repr

namespace Point

variable {α : Type} [Scalar α]

/-- The point where the axes meet. -/
def origin : Point α := ⟨Scalar.ofNat 0, Scalar.ofNat 0⟩

/-- The unit vector of a heading. -/
def direction (heading : α) : Point α := ⟨Scalar.cosDegrees heading, Scalar.sinDegrees heading⟩

/-- The point `length` away in the direction of a unit vector. -/
def move (p : Point α) (direction : Point α) (length : α) : Point α :=
  ⟨p.x + direction.x * length, p.y + direction.y * length⟩

/-- The length of the straight line between two points. -/
def distance (p q : Point α) : α :=
  let dx := p.x - q.x
  let dy := p.y - q.y
  Scalar.sqrt (dx * dx + dy * dy)

/-- The smaller of the coordinates on either axis. -/
def lower (p q : Point α) : Point α :=
  ⟨if Scalar.lt p.x q.x then p.x else q.x, if Scalar.lt p.y q.y then p.y else q.y⟩

/-- The greater of the coordinates on either axis. -/
def upper (p q : Point α) : Point α :=
  ⟨if Scalar.lt q.x p.x then p.x else q.x, if Scalar.lt q.y p.y then p.y else q.y⟩

end Point

end Lindenmayer
