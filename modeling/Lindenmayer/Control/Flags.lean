set_option autoImplicit false

/-! # Control flags

A render in progress is steered by two flags: one asks it to stop, the other to pause. Three calls
set them, from anywhere and at any time. -/

namespace Lindenmayer

/-- The flags of one control; both are down at first. -/
structure Flags where
  /-- A stop was asked for. -/
  stopped : Bool := false
  /-- A pause is asked for. -/
  paused : Bool := false
  deriving DecidableEq, Repr

/-- What can be asked of a control. -/
inductive Call where
  /-- Wait at the next opportunity. -/
  | pause
  /-- Go on after a pause. -/
  | resume
  /-- Give up at the next opportunity, and no longer wait. -/
  | stop
  deriving DecidableEq, Repr

namespace Flags

/-- The flags after a call. A stop also lifts a pause, so that a waiting render is released. -/
def after (f : Flags) : Call → Flags
  | .pause => { f with paused := true }
  | .resume => { f with paused := false }
  | .stop => { f with stopped := true, paused := false }

/-- The flags after calls in order. -/
def afterAll (f : Flags) (calls : List Call) : Flags := calls.foldl after f

/-- The flags with an earlier request to stop taken back. -/
def clearStop (f : Flags) : Flags := { f with stopped := false }

/-- Whether a render that has come to a pause has to wait. -/
def holds (f : Flags) : Bool := f.paused && !f.stopped

end Flags

end Lindenmayer
