import Lindenmayer.Config.Basic
import Lindenmayer.Decimal.Shortest

set_option autoImplicit false

/-! # Messages about configurations -/

namespace Lindenmayer

/-- The line that tells a user what is wrong with a configuration. -/
def ConfigProblem.message (problem : ConfigProblem Float) : String :=
  "Invalid render configuration: " ++
    match problem with
    | emptyCanvas width height => s!"canvas must not be empty, got {width}x{height}"
    | noRoom width height margin =>
      s!"canvas {width}x{height} leaves no room inside a {margin} px margin"
    | badStepLength stepLength =>
      s!"step length must be positive, got {floatText stepLength}"
    | badAngle angle => s!"angle must be finite, got {floatText angle}"

end Lindenmayer
