import Lindenmayer.Canvas.Drawing
import Lindenmayer.Document.Basic

set_option autoImplicit false

/-! # Drawings as documents

Every part of a color, a stroke and a drawing has to be given. A point is a list of its two
coordinates. -/

namespace Lindenmayer

open Document

namespace Color

def partNames : List String := ["r", "g", "b", "a"]

/-- Reads a color. -/
def ofDocument? (d : Document) : Option Color :=
  match d.allParts? partNames with
  | some [r, g, b, a] => do
    let r ← r.count? greatestByte
    let g ← g.count? greatestByte
    let b ← b.count? greatestByte
    let a ← a.count? greatestByte
    return ⟨r.toUInt8, g.toUInt8, b.toUInt8, a.toUInt8⟩
  | _ => none

/-- Writes a color. -/
def toDocument (c : Color) : Document :=
  record [("r", integer c.r.toNat), ("g", integer c.g.toNat), ("b", integer c.b.toNat),
    ("a", integer c.a.toNat)]

end Color

namespace Point

/-- Reads a point. -/
def ofDocument? : Document → Option (Point Float)
  | list [x, y] => do return ⟨← x.number?, ← y.number?⟩
  | _ => none

/-- Writes a point. -/
def toDocument (p : Point Float) : Document := list [real p.x, real p.y]

end Point

namespace Segment

def partNames : List String := ["from", "to"]

/-- Reads a stroke. -/
def ofDocument? (d : Document) : Option (Segment Float) :=
  match d.allParts? partNames with
  | some [start, finish] => do
    let start ← Point.ofDocument? start
    let finish ← Point.ofDocument? finish
    return ⟨start, finish⟩
  | _ => none

/-- Writes a stroke. -/
def toDocument (s : Segment Float) : Document :=
  record [("from", s.start.toDocument), ("to", s.finish.toDocument)]

end Segment

namespace Drawing

def partNames : List String := ["width", "height", "background", "stroke", "segments"]

/-- Reads a drawing. -/
def ofDocument? (d : Document) : Option (Drawing Float) :=
  match d.allParts? partNames with
  | some [width, height, background, stroke, segments] => do
    let width ← width.count? greatestWord
    let height ← height.count? greatestWord
    let background ← Color.ofDocument? background
    let stroke ← Color.ofDocument? stroke
    let segments ← (← segments.items?).mapM Segment.ofDocument?
    return { width, height, background, stroke, segments }
  | _ => none

/-- Writes a drawing. -/
def toDocument (d : Drawing Float) : Document :=
  record [("width", integer d.width), ("height", integer d.height),
    ("background", d.background.toDocument), ("stroke", d.stroke.toDocument),
    ("segments", list (d.segments.map Segment.toDocument))]

end Drawing

end Lindenmayer
