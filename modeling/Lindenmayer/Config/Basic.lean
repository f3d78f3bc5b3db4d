import Lindenmayer.Canvas.Color
import Lindenmayer.Canvas.Fit

set_option autoImplicit false

/-! # Configurations

Everything a run needs to know: the grammar, the turtle, the canvas, the colors, and how long a
sequence may become. -/

namespace Lindenmayer

/-- The inputs of a run. -/
structure Config (α : Type) where
  /-- The starting symbols; commas between them are ignored. -/
  startSequence : String
  /-- The clauses, such as `(F,F+F--F+F)`. -/
  productionRules : String
  /-- The number of generations after the starting sequence. -/
  generations : Nat
  /-- Degrees of a turn. -/
  angle : α
  /-- Width of the canvas in pixels. -/
  width : Nat
  /-- Height of the canvas in pixels. -/
  height : Nat
  /-- Border kept blank on every side, in pixels. -/
  margin : Nat
  /-- Length of an unscaled move. -/
  stepLength : α
  background : Color
  stroke : Color
  /-- The length that no generation may exceed. -/
  maxSymbols : Nat
  deriving DecidableEq, Repr

/-- What is wrong with the numbers of a configuration. -/
inductive ConfigProblem (α : Type) where
  | emptyCanvas (width height : Nat)
  | noRoom (width height margin : Nat)
  | badStepLength (stepLength : α)
  | badAngle (angle : α)
  deriving DecidableEq, Repr

namespace Config

variable {α : Type} [Scalar α]

/-- A single upright stroke, in black on a white canvas of 800 by 600. -/
def initial : Config α where
  startSequence := "F"
  productionRules := ""
  generations := 0
  angle := Scalar.ofNat 90
  width := 800
  height := 600
  margin := 15
  stepLength := Scalar.ofNat 10
  background := Color.white
  stroke := Color.black
  maxSymbols := 64 * 1024 * 1024

instance : Inhabited (Config α) := ⟨initial⟩

/-- The canvas of a configuration. -/
def frame (c : Config α) : Frame := ⟨c.width, c.height, c.margin⟩

/-- The turtle of a configuration. -/
def turtle (c : Config α) : Turtle α := ⟨c.angle, c.stepLength⟩

/-- The two walks of a configuration. -/
def fit (c : Config α) : Fit α := ⟨c.turtle, c.frame⟩

/-- The first thing wrong with the numbers of a configuration, the grammar left aside. -/
def problem? (c : Config α) : Option (ConfigProblem α) :=
  if c.width = 0 ∨ c.height = 0 then some (.emptyCanvas c.width c.height)
  else if c.width ≤ 2 * c.margin ∨ c.height ≤ 2 * c.margin then
    some (.noRoom c.width c.height c.margin)
  else if !(Scalar.isFinite c.stepLength && Scalar.lt (Scalar.ofNat 0) c.stepLength) then
    some (.badStepLength c.stepLength)
  else if !Scalar.isFinite c.angle then some (.badAngle c.angle)
  else none

/-- Whether two configurations agree, numbers compared by their value. -/
def sameAs (c d : Config α) : Bool :=
  c.startSequence == d.startSequence && c.productionRules == d.productionRules &&
    c.generations == d.generations && Scalar.eq c.angle d.angle && c.width == d.width &&
    c.height == d.height && c.margin == d.margin && Scalar.eq c.stepLength d.stepLength &&
    c.background == d.background && c.stroke == d.stroke && c.maxSymbols == d.maxSymbols

end Config

end Lindenmayer
