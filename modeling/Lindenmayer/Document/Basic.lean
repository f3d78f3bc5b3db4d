set_option autoImplicit false

/-! # Documents

Structured data as it is kept in files and sent between programs. Whole numbers and numbers with a
fraction or an exponent are told apart, because a count must be given as the former. -/

namespace Lindenmayer

/-- A piece of structured data. -/
inductive Document where
  | null
  | bool (value : Bool)
  /-- A number written without fraction and exponent. -/
  | integer (value : Int)
  /-- A number written with a fraction or an exponent. -/
  | real (value : Float)
  | text (value : String)
  | list (items : List Document)
  | record (fields : List (String × Document))

namespace Document

/-! ## Simple values -/

/-- Any number. -/
def number? : Document → Option Float
  | integer n => some (Float.ofInt n)
  | real x => some x
  | _ => none

/-- A whole number from 0 to `greatest`. -/
def count? (greatest : Nat) : Document → Option Nat
  | integer (.ofNat n) => if n ≤ greatest then some n else none
  | _ => none

/-- A text. -/
def text? : Document → Option String
  | text s => some s
  | _ => none

/-- The items of a list. -/
def items? : Document → Option (List Document)
  | list items => some items
  | _ => none

/-! ## Values with named parts

A value with named parts is a record, or a list of the parts in their fixed order. A record may
hold other fields besides; a list may hold no further items. -/

/-- What a document says about each part: nothing about the parts that a record leaves out and
about those after the end of a list. -/
def parts? (names : List String) : Document → Option (List (Option Document))
  | record fields => some (names.map fun name => fields.lookup name)
  | list items =>
    if items.length ≤ names.length then
      some (items.map some ++ List.replicate (names.length - items.length) none)
    else none
  | _ => none

/-- The parts of a document that has them all. -/
def allParts? (names : List String) (d : Document) : Option (List Document) :=
  (d.parts? names).bind fun parts => parts.mapM id

/-- Reads a part, or takes `fallback` for one about which nothing is said. -/
def readOr {β : Type} (read : Document → Option β) (fallback : β) :
    Option Document → Option β
  | some d => read d
  | none => some fallback

end Document

/-- The greatest 8-bit number. -/
def greatestByte : Nat := UInt8.size - 1

/-- The greatest 32-bit number. -/
def greatestWord : Nat := UInt32.size - 1

end Lindenmayer
