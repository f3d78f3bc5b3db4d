set_option autoImplicit false

/-! # Colors

Colors are carried from a configuration to its drawing and are never computed with. -/

namespace Lindenmayer

/-- A color with its opacity, a byte each. -/
structure Color where
  r : UInt8
  g : UInt8
  b : UInt8
  a : UInt8
  deriving DecidableEq, Repr

namespace Color

/-- The opaque color of three parts. -/
def rgb (r g b : UInt8) : Color := ⟨r, g, b, 255⟩

def black : Color := rgb 0 0 0

def white : Color := rgb 255 255 255

end Color

end Lindenmayer
