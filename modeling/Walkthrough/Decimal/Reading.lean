import Walkthrough.Decimal.Binary

/-!
# Reading decimals

The double nearest to a decimal, with exponents of any size, and whole numbers as doubles.
-/

namespace Walkthrough.Decimal

/-- The double nearest to `coefficient * 10 ^ exponent`: infinite beyond the largest double, zero
below half of the smallest. -/
def nearest (coefficient : Nat) (exponent : Int) : Float :=
  let magnitude := exponent + digitCount coefficient
  if coefficient = 0 || magnitude < -400 then 0.0
  else if 400 < magnitude then 1.0 / 0.0
  else if exponent < 0 then Float.ofScientific coefficient true exponent.natAbs
  else Float.ofScientific coefficient false exponent.toNat

/-- The number that decimal digits stand for. -/
def digitsValue (digits : List Char) : Nat :=
  digits.foldl (fun n c => 10 * n + (c.toNat - '0'.toNat)) 0

/-- The double nearest to a decimal with digits before and after its point, times a power of ten. -/
def ofDigits (whole fraction : List Char) (exponent : Int) : Float :=
  nearest (digitsValue (whole ++ fraction)) (exponent - fraction.length)

/-- The double nearest to a whole number. -/
def ofInt (i : Int) : Float :=
  let size := nearest i.natAbs 0
  if i < 0 then -size else size

/-- The whole number towards zero of a finite double. -/
def Binary.truncate (x : Binary) : Int :=
  let size : Nat := x.numerator / x.denominator
  if x.negative then -size else size

end Walkthrough.Decimal
