import Lindenmayer.Geometry.Scalar
import Lindenmayer.Symbol

set_option autoImplicit false

/-! # Commands

What a turtle does on a character: every letter is a move, `+` and `-` are turns, and the brackets
save and restore the pose. Other characters mean nothing to it. -/

namespace Lindenmayer

/-- The sense of a turn, as seen on a canvas whose y axis grows downwards. -/
inductive Rotation where
  | clockwise
  | counterclockwise
  deriving DecidableEq, Repr

/-- The factor by which a turn changes the heading. -/
def Rotation.sign {α : Type} [Scalar α] : Rotation → α
  | clockwise => Scalar.ofNat 1
  | counterclockwise => -Scalar.ofNat 1

/-- One thing a turtle does. -/
inductive Command where
  /-- Move a step along the heading. -/
  | forward
  /-- Turn by the angle step. -/
  | turn (rotation : Rotation)
  /-- Open a branch: save the pose. -/
  | push
  /-- Close a branch: go back to the pose saved last. -/
  | pop
  /-- Do nothing. -/
  | ignore
  deriving DecidableEq, Repr

/-- The command of a character. -/
def Command.ofChar (c : Char) : Command :=
  match Symbol.ofChar? c with
  | some (.letter _) => forward
  | some .plus => turn .clockwise
  | some .minus => turn .counterclockwise
  | some .openBracket => push
  | some .closeBracket => pop
  | none => ignore

end Lindenmayer
