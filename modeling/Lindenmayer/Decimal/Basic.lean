set_option autoImplicit false

/-! # Decimals

Numbers with finitely many decimal places, and their text in positional notation: without an
exponent, however long that makes it, and whole numbers without a point. -/

namespace Lindenmayer

/-- The number `coefficient * 10 ^ exponent`. -/
structure Decimal where
  coefficient : Nat
  exponent : Int
  deriving DecidableEq, Repr

/-- A decimal written out, with all zeros between its digits and the point. -/
def Decimal.text (d : Decimal) : List Char :=
  let digits := Nat.toDigits 10 d.coefficient
  let places := (-d.exponent).toNat
  if places = 0 then digits ++ List.replicate d.exponent.toNat '0'
  else if places < digits.length then
    digits.take (digits.length - places) ++ '.' :: digits.drop (digits.length - places)
  else '0' :: '.' :: (List.replicate (places - digits.length) '0' ++ digits)

end Lindenmayer
