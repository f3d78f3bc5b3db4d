set_option autoImplicit false

/-! # Failures

What can end the work on an accepted grammar without a picture. -/

namespace Lindenmayer

/-- Why an expansion or a walk could not be completed. -/
inductive Failure where
  /-- A `]` was met with no branch open; `position` is its place in the sequence. -/
  | stackUnderflow (position : Nat)
  /-- A generation of `requested` bytes is more than the limit allows. -/
  | outOfMemory (requested : Nat)
  deriving DecidableEq, Repr

/-- The line that tells a user of the failure. -/
def Failure.message : Failure → String
  | stackUnderflow position =>
    s!"Branch stack underflow: ']' at symbol {position} has no matching '['"
  | outOfMemory _ => "OutOfMemory"

end Lindenmayer
