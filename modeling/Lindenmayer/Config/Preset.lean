import Lindenmayer.Config.Basic

set_option autoImplicit false

/-! # Presets

Well-known systems, ready to be drawn. Every letter draws, so a system whose textbook form has
letters that do not would look different here. -/

namespace Lindenmayer

/-- A well-known system. -/
inductive Preset where
  | kochSnowflake
  | dragonCurve
  | sierpinskiArrowhead
  | gosperCurve
  | fractalBush
  deriving DecidableEq, Repr

namespace Preset

/-- All presets, in the order they are offered. -/
def all : List Preset :=
  [kochSnowflake, dragonCurve, sierpinskiArrowhead, gosperCurve, fractalBush]

/-- The name a preset is offered by. -/
def name : Preset → String
  | kochSnowflake => "Koch snowflake"
  | dragonCurve => "Dragon curve"
  | sierpinskiArrowhead => "Sierpinski arrowhead"
  | gosperCurve => "Gosper curve"
  | fractalBush => "Fractal bush"

/-- The starting sequence. -/
def startSequence : Preset → String
  | kochSnowflake => "F--F--F"
  | gosperCurve => "A"
  | dragonCurve | sierpinskiArrowhead | fractalBush => "F"

/-- The production rules. -/
def productionRules : Preset → String
  | kochSnowflake => "(F,F+F--F+F)"
  | dragonCurve => "(F,F+G),(G,F-G)"
  | sierpinskiArrowhead => "(F,G-F-G),(G,F+G+F)"
  | gosperCurve => "(A,A-B--B+A++AA+B-),(B,+A-BB--B-A++A+B)"
  | fractalBush => "(F,FF+[+F-F-F]-[-F+F+F])"

/-- The number of generations. -/
def generations : Preset → Nat
  | dragonCurve => 12
  | sierpinskiArrowhead => 7
  | kochSnowflake | gosperCurve | fractalBush => 4

variable {α : Type} [Scalar α]

/-- The angle of a turn. -/
def angle : Preset → α
  | dragonCurve => Scalar.ofNat 90
  | kochSnowflake | sierpinskiArrowhead | gosperCurve => Scalar.ofNat 60
  | fractalBush => Scalar.ofNat 45 / Scalar.ofNat 2

/-- A configuration with the grammar and the angle of a preset, and all else as it was. -/
def apply (p : Preset) (c : Config α) : Config α :=
  { c with
    startSequence := p.startSequence, productionRules := p.productionRules, angle := p.angle
    generations := p.generations }

/-- The preset on the canvas of the initial configuration. -/
def config (p : Preset) : Config α := p.apply Config.initial

end Preset

end Lindenmayer
