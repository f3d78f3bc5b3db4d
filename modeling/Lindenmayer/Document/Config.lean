import Lindenmayer.Config.Basic
import Lindenmayer.Document.Drawing
import Lindenmayer.Expansion

set_option autoImplicit false

/-! # Configurations as documents

Any part of a configuration may be left out, and is then as in the initial configuration. -/

namespace Lindenmayer

open Document

namespace Config

def partNames : List String :=
  ["start_sequence", "production_rules", "generations", "angle", "width", "height", "margin",
    "step_length", "background", "stroke", "max_symbols"]

/-- Reads a configuration from what is said about its parts. -/
def ofParts? : List (Option Document) → Option (Config Float)
  | [start, rules, generations, angle, width, height, margin, step, background, stroke,
      symbols] => do
    let base : Config Float := initial
    let startSequence ← readOr text? base.startSequence start
    let productionRules ← readOr text? base.productionRules rules
    let generations ← readOr (count? greatestWord) base.generations generations
    let angle ← readOr number? base.angle angle
    let width ← readOr (count? greatestWord) base.width width
    let height ← readOr (count? greatestWord) base.height height
    let margin ← readOr (count? greatestWord) base.margin margin
    let stepLength ← readOr number? base.stepLength step
    let background ← readOr Color.ofDocument? base.background background
    let stroke ← readOr Color.ofDocument? base.stroke stroke
    let maxSymbols ← readOr (count? maxLength) base.maxSymbols symbols
    return { startSequence, productionRules, generations, angle, width, height, margin,
             stepLength, background, stroke, maxSymbols }
  | _ => none

/-- Reads a configuration. -/
def ofDocument? (d : Document) : Option (Config Float) := (d.parts? partNames).bind ofParts?

/-- Writes a configuration. -/
def toDocument (c : Config Float) : Document :=
  record [("start_sequence", text c.startSequence), ("production_rules", text c.productionRules),
    ("generations", integer c.generations), ("angle", real c.angle), ("width", integer c.width),
    ("height", integer c.height), ("margin", integer c.margin),
    ("step_length", real c.stepLength), ("background", c.background.toDocument),
    ("stroke", c.stroke.toDocument), ("max_symbols", integer c.maxSymbols)]

end Config

end Lindenmayer
