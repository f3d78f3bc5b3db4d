import Lindenmayer.Canvas.Drawing
import Lindenmayer.Checkpoint
import Lindenmayer.Control.Flags
import Lindenmayer.Render.Status

set_option autoImplicit false

/-! # Sessions

A run in progress, as others see it. It tells its canvas of every change of status and of the
finished drawing, and others may make control calls: while they are told of something, between two
steps of the work, and while the run waits in a pause. A `Schedule` says which calls are made when;
what matters is between which two looks at the flags a call comes, so there is a place for the
calls before each look.

The checkpoint of a session (`Session.checkpoint`) is where the flags take effect. -/

namespace Lindenmayer

/-- What a canvas is told. -/
inductive Event (α : Type) where
  | status (status : Status)
  | presented (drawing : Drawing α)
  deriving DecidableEq, Repr

/-- The control calls that others make during a run. -/
structure Schedule (α : Type) where
  /-- Calls made while the canvas is told event number `n` and the flags are as given. -/
  during : Nat → Event α → Flags → List Call
  /-- Calls made before question number `n` to the checkpoint looks for a stop. -/
  before : Nat → List Call
  /-- Calls made in question number `n` after the look for a stop and before the one for a pause. -/
  between : Nat → List Call
  /-- Calls made in pause number `n`, group by group, until the run is released. The run looks
  whether it still has to wait before every group. -/
  waiting : Nat → List (List Call)
  /-- Calls made after the release from pause number `n` and before the next look for a stop. -/
  released : Nat → List Call

/-- Nobody makes any calls. -/
def Schedule.quiet {α : Type} : Schedule α where
  during _ _ _ := []
  before _ := []
  between _ := []
  waiting _ := []
  released _ := []

/-- A run in progress. -/
structure Session (α : Type) where
  flags : Flags
  /-- The status told last. -/
  status : Status
  /-- What the canvas was told so far. -/
  events : Array (Event α) := #[]
  /-- The control calls made so far. -/
  calls : Array Call := #[]
  /-- The number of questions to the checkpoint. -/
  asked : Nat := 0
  /-- The number of pauses. -/
  pauses : Nat := 0
  /-- Whether the run waits in a pause from which nobody releases it. -/
  stuck : Bool := false
  deriving DecidableEq, Repr

namespace Session

variable {α : Type}

/-- Control calls are made. -/
def receive (s : Session α) (calls : List Call) : Session α :=
  { s with flags := s.flags.afterAll calls, calls := s.calls ++ calls }

/-- The canvas is told of an event. -/
def tell (schedule : Schedule α) (event : Event α) (s : Session α) : Session α :=
  let s' := s.receive (schedule.during s.events.size event s.flags)
  { s' with events := s'.events.push event }

/-- The canvas is told of a new status, which then holds. -/
def report (schedule : Schedule α) (status : Status) (s : Session α) : Session α :=
  { s.tell schedule (.status status) with status := status }

/-- Waits while the flags hold the run, as calls come in. -/
def wait : List (List Call) → Session α → Session α
  | [], s => if s.flags.holds then { s with stuck := true } else s
  | calls :: later, s => if s.flags.holds then wait later (s.receive calls) else s

/-- Comes to a pause and waits in it. -/
def pause (schedule : Schedule α) (s : Session α) : Session α :=
  let told := s.report schedule .paused
  let waited := wait (schedule.waiting s.pauses) { told with pauses := s.pauses + 1 }
  if waited.stuck then waited else waited.receive (schedule.released s.pauses)

/-- Halts the work when a stop was asked for. When a pause was, tells of it, waits, and goes on
unless a stop was asked for meanwhile. -/
def checkpoint (schedule : Schedule α) : Checkpoint (Session α) := fun s =>
  let asked := { s.receive (schedule.before s.asked) with asked := s.asked + 1 }
  if asked.flags.stopped then (.halt, asked)
  else
    let looked := asked.receive (schedule.between s.asked)
    if looked.flags.paused then
      let waited := looked.pause schedule
      if waited.stuck || waited.flags.stopped then (.halt, waited)
      else (.proceed, waited.report schedule .calculating)
    else (.proceed, looked)

end Session

end Lindenmayer
