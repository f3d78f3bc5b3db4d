set_option autoImplicit false

/-! # Binary numbers

The exact value of a double, read from its bits: one sign bit, eleven bits of exponent and
fifty-two bits of fraction. -/

namespace Lindenmayer

/-- What the bits of a double stand for. A finite one is `mantissa * 2 ^ exponent`, with a sign. -/
inductive Binary where
  | undefined
  | infinite (negative : Bool)
  | finite (negative : Bool) (mantissa : Nat) (exponent : Int)
  deriving DecidableEq, Repr

/-- The number of fractions, and the least mantissa of a number that is stored with full
precision. -/
def Binary.leastFull : Nat := 1 <<< 52

/-- Reads the bits of a double. -/
def Binary.ofBits (bits : UInt64) : Binary :=
  let negative := decide (1 <<< 63 ≤ bits.toNat)
  let biased := bits.toNat / leastFull % 1 <<< 11
  let fraction := bits.toNat % leastFull
  if biased = 2047 then
    if fraction = 0 then infinite negative else undefined
  else if biased = 0 then finite negative fraction (-1074)
  else finite negative (leastFull + fraction) (Int.ofNat biased - 1075)

end Lindenmayer
