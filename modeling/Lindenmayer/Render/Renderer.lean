import Lindenmayer.Render.Picture
import Lindenmayer.Render.Session

set_option autoImplicit false

/-! # Renderers

A renderer has inputs, a control and a status. It can be run any number of times, and each run
starts from the inputs alone. -/

namespace Lindenmayer

/-- Why a run came to nothing. -/
inductive RunError (α : Type) where
  /-- The inputs were turned away before the run began. -/
  | rejected (rejection : Rejection α)
  /-- The run began and failed. -/
  | failed (failure : Failure)
  deriving DecidableEq

/-- How a run ends that does not fail. -/
inductive Outcome (α : Type) where
  /-- The drawing was presented. -/
  | finished (stats : Stats α)
  /-- The run was given up on request, and nothing was presented. -/
  | stopped
  deriving DecidableEq, Repr

/-- A renderer between two runs. -/
structure Renderer (α : Type) where
  config : Config α
  /-- The flags of its control. -/
  flags : Flags
  /-- The status told last. -/
  status : Status
  deriving DecidableEq, Repr

/-- All there is to know about one run. -/
structure Run (α : Type) where
  /-- The renderer afterwards. -/
  renderer : Renderer α
  /-- What the canvas was told. -/
  events : List (Event α)
  /-- The control calls that were made. -/
  calls : List Call
  /-- What the run returned, or nothing if it waits forever. -/
  result : Option (Except (RunError α) (Outcome α))

namespace Renderer

variable {α : Type} [Scalar α]

/-- A renderer for some inputs, with a control of its own. -/
def ofConfig (config : Config α) : Renderer α := ⟨config, {}, .idle⟩

/-- The renderer with other inputs for the next run. -/
def setConfig (r : Renderer α) (config : Config α) : Renderer α :=
  { r with config := config, status := .idle }

/-- The renderer after a call of its control. -/
def call (r : Renderer α) (c : Call) : Renderer α := { r with flags := r.flags.after c }

/-- The session of a run that begins: an earlier request to stop no longer counts. -/
def session (r : Renderer α) (schedule : Schedule α) : Session α :=
  Session.report schedule .calculating { flags := r.flags.clearStop, status := r.status }

/-- The run that a session is the record of. -/
def record (r : Renderer α) (s : Session α)
    (result : Option (Except (RunError α) (Outcome α))) : Run α :=
  ⟨{ r with flags := s.flags, status := s.status }, s.events.toList, s.calls.toList, result⟩

/-- One complete run. Inputs that cannot be run are turned away before anything is told or changed;
otherwise the canvas is told `calculating`, whatever pauses there are, and last how the run
ended. -/
def run (r : Renderer α) (schedule : Schedule α) : Run α :=
  match r.config.prepare with
  | .error rejection => ⟨r, [], [], some (.error (.rejected rejection))⟩
  | .ok table =>
    match r.config.picture table (Session.checkpoint schedule) (r.session schedule) with
    | (.complete picture, s) =>
      let s := s.tell schedule (.presented picture.drawing)
      r.record (s.report schedule .finished) (some (.ok (.finished picture.stats)))
    | (.interrupted, s) =>
      if s.stuck then r.record s none
      else r.record (s.report schedule .stopped) (some (.ok .stopped))
    | (.failed failure, s) =>
      r.record (s.report schedule (.error failure.message)) (some (.error (.failed failure)))

end Renderer

end Lindenmayer
