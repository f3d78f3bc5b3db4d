set_option autoImplicit false

/-! # Status -/

namespace Lindenmayer

/-- What a renderer is doing, as its user is told. -/
inductive Status where
  /-- The inputs are set and nothing was run with them. -/
  | idle
  | calculating
  | paused
  | finished
  /-- The run was given up on request. -/
  | stopped
  /-- The run failed; the text is meant for the user. -/
  | error (message : String)
  deriving DecidableEq, Repr

end Lindenmayer
