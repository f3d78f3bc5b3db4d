import Lindenmayer.Decimal.Basic
import Lindenmayer.Decimal.Binary

set_option autoImplicit false

/-! # Shortest decimals

Every finite double has an interval of numbers that are rounded to it. The decimal that stands for
it is the one on the coarsest decimal grid that has a point in that interval, and of two such
points the nearer. `floatText` writes it; zero is `0` or `-0`, and what is no finite number is
written by name. -/

namespace Lindenmayer

/-! ## The interval of a double -/

/-- The numbers that are rounded to a double, as fractions with one denominator. -/
structure RoundingInterval where
  low : Nat
  middle : Nat
  high : Nat
  denominator : Nat
  /-- Whether the ends themselves are rounded to the double. -/
  closed : Bool
  deriving DecidableEq, Repr

namespace RoundingInterval

/-- The interval of the double `mantissa * 2 ^ exponent`. Its ends lie halfway to the neighbours;
the neighbour below the least full mantissa is only half as far. A tie goes to an even mantissa. -/
def ofBinary (mantissa : Nat) (exponent : Int) : RoundingInterval :=
  let quarter := 1 <<< (exponent - 2).toNat
  { low := (4 * mantissa - if mantissa = Binary.leastFull then 1 else 2) * quarter
    middle := 4 * mantissa * quarter
    high := (4 * mantissa + 2) * quarter
    denominator := 1 <<< (2 - exponent).toNat
    closed := mantissa % 2 = 0 }

/-- The same interval in units of `10 ^ exponent`. -/
def inUnits (i : RoundingInterval) (exponent : Int) : RoundingInterval :=
  let factor := Nat.pow 10 (-exponent).toNat
  { i with
    low := i.low * factor, middle := i.middle * factor, high := i.high * factor
    denominator := i.denominator * Nat.pow 10 exponent.toNat }

/-- Whether a whole number lies in an interval. -/
def contains (i : RoundingInterval) (n : Nat) : Bool :=
  let point := n * i.denominator
  if i.closed then decide (i.low ≤ point) && decide (point ≤ i.high)
  else decide (i.low < point) && decide (point < i.high)

/-- The whole number of an interval that is nearest to its middle, if it is next to the middle. Of
two at the same distance it is the greater. -/
def nearest? (i : RoundingInterval) : Option Nat :=
  let below := i.middle / i.denominator
  let above := below + 1
  match i.contains below, i.contains above with
  | true, true =>
    if above * i.denominator - i.middle ≤ i.middle - below * i.denominator then some above
    else some below
  | true, false => some below
  | false, true => some above
  | false, false => none

/-! ## The search -/

/-- The exponent of the finest grid that is needed: its points are closer than two doubles can be. -/
def finestExponent : Int := -324

/-- Searches the grids from `10 ^ (finestExponent + n)` down to the finest. -/
def search (i : RoundingInterval) : Nat → Decimal
  | 0 => ⟨((i.inUnits finestExponent).nearest?).getD 0, finestExponent⟩
  | n + 1 =>
    match (i.inUnits (finestExponent + (n + 1 : Nat))).nearest? with
    | some coefficient => ⟨coefficient, finestExponent + (n + 1 : Nat)⟩
    | none => i.search n

end RoundingInterval

/-- The shortest decimal that is read back as the double `mantissa * 2 ^ exponent`. The search
starts at `10 ^ 308`, as no double is greater than that by a factor of ten. -/
def Decimal.shortest (mantissa : Nat) (exponent : Int) : Decimal :=
  (RoundingInterval.ofBinary mantissa exponent).search 632

/-! ## Text -/

/-- The text of what a double stands for. -/
def Binary.text : Binary → List Char
  | undefined => ['N', 'a', 'N']
  | infinite negative => (if negative then ['-'] else []) ++ ['i', 'n', 'f']
  | finite negative mantissa exponent =>
    (if negative then ['-'] else []) ++
      if mantissa = 0 then ['0'] else (Decimal.shortest mantissa exponent).text

/-- The shortest positional text that is read back as the same double. -/
def floatText (x : Float) : String := String.ofList (Binary.ofBits x.toBits).text

end Lindenmayer
