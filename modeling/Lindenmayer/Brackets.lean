set_option autoImplicit false

/-! # Brackets

The brackets `[` and `]` open and close branches. A text is *balanced* when it has as many of the
one as of the other and never closes a branch that it did not open. -/

namespace Lindenmayer

/-- The number of `[` in a text. -/
def opened (t : List Char) : Nat := t.count '['

/-- The number of `]` in a text. -/
def closed (t : List Char) : Nat := t.count ']'

/-- Whether a text read with `depth` branches open closes one that is not open. -/
def dips : Nat → List Char → Bool
  | _, [] => false
  | depth, c :: rest =>
    if c = '[' then dips (depth + 1) rest
    else if c = ']' then
      match depth with
      | 0 => true
      | depth + 1 => dips depth rest
    else dips depth rest

/-- As many `[` as `]`, and no more of the second than of the first in any part read from the
left. -/
def Balanced (t : List Char) : Prop := opened t = closed t ∧ dips 0 t = false

instance (t : List Char) : Decidable (Balanced t) := inferInstanceAs (Decidable (_ ∧ _))

end Lindenmayer
