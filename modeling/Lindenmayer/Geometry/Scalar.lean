set_option autoImplicit false

/-! # Scalars

The turtle's geometry is written for any type of numbers with the operations it needs. Pictures are
computed with `Float`; the laws of the geometry are laws of other scalars, where arithmetic is
exact. -/

namespace Lindenmayer

/-- Numbers that a turtle can compute with. Angles are in degrees. -/
class Scalar (α : Type) extends Add α, Sub α, Mul α, Div α, Neg α where
  /-- The whole number `n`. -/
  ofNat : Nat → α
  /-- Whether the first number is less than the second. -/
  lt : α → α → Bool
  /-- Whether two numbers are equal; a number that is no number is not equal to itself. -/
  eq : α → α → Bool
  /-- The absolute value. -/
  abs : α → α
  /-- The number without its fraction, rounded towards zero. -/
  trunc : α → α
  /-- The square root. -/
  sqrt : α → α
  /-- Whether the number is neither infinite nor undefined. -/
  isFinite : α → Bool
  /-- The cosine of an angle. -/
  cosDegrees : α → α
  /-- The sine of an angle. -/
  sinDegrees : α → α

namespace Scalar

variable {α : Type} [Scalar α]

/-- The smaller of two numbers; an undefined one gives way to the other. -/
def least (x y : α) : α := if lt y x || !eq x x then y else x

end Scalar

/-- One degree in radians. -/
def radiansPerDegree : Float := 0.017453292519943295

instance : Scalar Float where
  ofNat := Float.ofNat
  lt x y := x < y
  eq x y := x == y
  abs := Float.abs
  trunc x := if x < 0 then x.ceil else x.floor
  sqrt := Float.sqrt
  isFinite := Float.isFinite
  cosDegrees x := (x * radiansPerDegree).cos
  sinDegrees x := (x * radiansPerDegree).sin

end Lindenmayer
