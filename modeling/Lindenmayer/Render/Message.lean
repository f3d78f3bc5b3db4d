import Lindenmayer.Config.Message
import Lindenmayer.Render.Renderer

set_option autoImplicit false

/-! # Messages about runs -/

namespace Lindenmayer

/-- The text that tells a user why the inputs were turned away. -/
def Rejection.message : Rejection Float → String
  | config problem => problem.message
  | grammar problems => problems.message

/-- The text that tells a user why a run came to nothing. -/
def RunError.message : RunError Float → String
  | rejected rejection => rejection.message
  | failed failure => failure.message

end Lindenmayer
