import Lindenmayer.Document.Basic
import Lindenmayer.Render.Status

set_option autoImplicit false

/-! # Statuses as documents

A status is given by its name. An error is a record of its name and its message; the other statuses
may also be given as a record of their name and nothing. -/

namespace Lindenmayer

open Document

namespace Status

/-- The status of a name, for those that carry no message. -/
def ofName? : String → Option Status
  | "Idle" => some idle
  | "Calculating" => some calculating
  | "Paused" => some paused
  | "Finished" => some finished
  | "Stopped" => some stopped
  | _ => none

/-- Reads a status. -/
def ofDocument? : Document → Option Status
  | text name => ofName? name
  | record [("Error", message)] => message.text?.map error
  | record [(name, null)] => ofName? name
  | _ => none

/-- Writes a status. -/
def toDocument : Status → Document
  | idle => text "Idle"
  | calculating => text "Calculating"
  | paused => text "Paused"
  | finished => text "Finished"
  | stopped => text "Stopped"
  | error message => record [("Error", text message)]

end Status

end Lindenmayer
