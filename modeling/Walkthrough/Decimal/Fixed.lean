import Walkthrough.Decimal.Binary

/-!
# A fixed number of places

Doubles rounded to so many places after the point. The rounding is that of the exact value, and a
half goes to the even neighbour.
-/

namespace Walkthrough.Decimal

/-- The size of `x` in units of the last of `places` places. -/
def Binary.inPlaces (x : Binary) (places : Nat) : Nat :=
  roundQuotient (x.numerator * Nat.pow 10 places) x.denominator

/-- The digits of a number of units, with the point before the last `places`. -/
def placed (places units : Nat) : List Char :=
  let digits := Nat.toDigits 10 units
  let full := List.replicate (places + 1 - digits.length) '0' ++ digits
  let whole := full.take (full.length - places)
  if places = 0 then whole else whole ++ '.' :: full.drop (full.length - places)

/-- The text of a double with `places` digits after the point. -/
def fixedText (places : Nat) (x : Float) : String :=
  match Kind.ofFloat x with
  | .notANumber => "nan"
  | .infinite negative => if negative then "-inf" else "inf"
  | .finite value =>
    let size := placed places (value.inPlaces places)
    String.ofList (if value.negative then '-' :: size else size)

/-- The double nearest to `x` rounded to `places` places. -/
def roundTo (places : Nat) (x : Float) : Float :=
  match Kind.ofFloat x with
  | .finite value =>
    let size := Float.ofScientific (value.inPlaces places) true places
    if value.negative then -size else size
  | _ => x

end Walkthrough.Decimal
