import Walkthrough.Decimal.Fixed
import Walkthrough.Decimal.Reading
import Walkthrough.Decimal.Shortest

/-!
# Numbers

A number is a whole number of any size or a double. The two are told apart: `1` is not `1.0`.
-/

namespace Walkthrough

/-- A whole number or a double. -/
inductive Number where
  | int (value : Int)
  | float (value : Float)

namespace Number

/-- A number in digits. -/
def text : Number → String
  | int value => toString value
  | float value => Decimal.shortestText value

/-- The double nearest to a number. -/
def toFloat : Number → Float
  | int value => Decimal.ofInt value
  | float value => value

/-- Whether a number is a whole number beyond the largest double. -/
def isTooLarge : Number → Bool
  | int value => (Decimal.ofInt value).isInf
  | float _ => false

/-- A number with so many digits after the point; one that is too large counts as infinite. -/
def fixed (places : Nat) (x : Number) : String :=
  Decimal.fixedText places x.toFloat

/-- Whether two numbers are of one size. What is not a number is of the size of its like. -/
def sameSize : Number → Number → Bool
  | int a, int b => a = b
  | float a, float b => a == b || (a.isNaN && b.isNaN)
  | int whole, float double | float double, int whole =>
    match Decimal.Kind.ofFloat double with
    | .finite value =>
      value.numerator = whole.natAbs * value.denominator &&
        (whole = 0 || value.negative = decide (whole < 0))
    | _ => false

/-- Whether a number is zero. -/
def isZero : Number → Bool
  | int value => value == 0
  | float value => value == 0.0

end Number

end Walkthrough
