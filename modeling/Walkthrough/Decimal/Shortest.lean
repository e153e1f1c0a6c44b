import Walkthrough.Decimal.Binary

/-!
# The shortest decimal of a double

The decimal with the fewest digits that reads back as the same double, of those the nearest. It is
found by trying, for one digit, then two, and so on, the two neighbours of the double on the grid of
decimals with so many digits.
-/

namespace Walkthrough.Decimal

/-- The decimal `coefficient * 10 ^ exponent`. -/
structure Scaled where
  coefficient : Nat
  exponent : Int

namespace Binary

/-- Four times the numerator, so that the limits of rounding are whole numbers too. -/
def center (x : Binary) : Nat :=
  4 * x.numerator

/-- The least fraction over `4 * denominator` that rounds to `x`. -/
def lowest (x : Binary) : Nat :=
  if x.mantissa == Nat.pow 2 52 && x.exponent > -1074 then
    x.center - Nat.pow 2 x.exponent.toNat
  else x.center - 2 * Nat.pow 2 x.exponent.toNat

/-- The greatest fraction over `4 * denominator` that rounds to `x`. -/
def highest (x : Binary) : Nat :=
  x.center + 2 * Nat.pow 2 x.exponent.toNat

/-- The position of the decimal point: the size of `x` is below `10 ^ magnitude` and not below a
tenth of that. -/
def magnitude (x : Binary) : Int :=
  if x.denominator ≤ x.numerator then digitCount (x.numerator / x.denominator)
  else 1 - (digitCount ((x.denominator - 1) / x.numerator) : Int)

/-- The neighbour of `x` with `count` digits that rounds to `x`, if there is one: of two the nearer,
and of two equally near the even one. -/
def withDigits? (x : Binary) (count : Nat) : Option Scaled :=
  let power := x.magnitude - count
  let up := Nat.pow 10 (-power).toNat
  let unit := 4 * x.denominator * Nat.pow 10 power.toNat
  let center := x.center * up
  let low := center / unit
  let fits (c : Nat) : Bool :=
    if x.mantissa % 2 == 0 then x.lowest * up ≤ c * unit && c * unit ≤ x.highest * up
    else x.lowest * up < c * unit && c * unit < x.highest * up
  let below := center - low * unit
  let above := (low + 1) * unit - center
  let nearer := if below < above then low else if above < below then low + 1 else low + low % 2
  let other := if nearer == low then low + 1 else low
  if fits nearer then some ⟨nearer, power⟩
  else if fits other then some ⟨other, power⟩
  else none

/-- The shortest decimal that reads back as `x`, which is not zero; seventeen digits always do. -/
def shortest (x : Binary) : Scaled :=
  ((List.range 17).findSome? fun count => x.withDigits? (count + 1)).getD ⟨0, 0⟩

end Binary

/-- How the decimal of a double is laid out: positional while the point stands in a range, else
with an exponent. -/
structure Layout where
  /-- The least position of the point that is written out. -/
  leastPoint : Int
  /-- The greatest position of the point that is written out. -/
  greatestPoint : Int
  /-- The least count of digits of an exponent. -/
  exponentDigits : Nat

/-- Digits without zeros at their end, and how many were taken away. -/
def dropZeros : (fuel : Nat) → Nat → Nat × Nat
  | 0, n => (n, 0)
  | fuel + 1, n =>
    if n != 0 && n % 10 == 0 then
      let (m, count) := dropZeros fuel (n / 10)
      (m, count + 1)
    else (n, 0)

/-- `digits` with the decimal point after the first `point` of them. -/
def positional (digits : List Char) (point : Int) : List Char :=
  if point ≤ 0 then '0' :: '.' :: (List.replicate (-point).toNat '0' ++ digits)
  else if digits.length ≤ point.toNat then
    digits ++ List.replicate (point.toNat - digits.length) '0' ++ ['.', '0']
  else digits.take point.toNat ++ '.' :: digits.drop point.toNat

/-- `digits` with a power of ten. -/
def exponential (layout : Layout) (digits : List Char) (point : Int) : List Char :=
  let exponent := point - 1
  let power := Nat.toDigits 10 exponent.natAbs
  let mantissa := match digits with
    | [] => ['0']
    | [digit] => [digit]
    | digit :: more => digit :: '.' :: more
  mantissa ++ ['e', if exponent < 0 then '-' else '+'] ++
    List.replicate (layout.exponentDigits - power.length) '0' ++ power

/-- The text of a decimal under a layout. -/
def Scaled.lay (layout : Layout) (x : Scaled) : List Char :=
  let (coefficient, zeros) := dropZeros 20 x.coefficient
  let digits := Nat.toDigits 10 coefficient
  let point := digits.length + zeros + x.exponent
  if layout.leastPoint ≤ point && point ≤ layout.greatestPoint then positional digits point
  else exponential layout digits point

/-- Values are written out from a ten-thousandth up to sixteen digits before the point, and an
exponent has two digits at least. -/
def plainLayout : Layout := ⟨-3, 16, 2⟩

/-- The text of a double: its shortest decimal, or a word where it has none. -/
def shortestText (x : Float) : String :=
  match Kind.ofFloat x with
  | .notANumber => "nan"
  | .infinite negative => if negative then "-inf" else "inf"
  | .finite value =>
    let size := if value.mantissa == 0 then ['0', '.', '0'] else value.shortest.lay plainLayout
    String.ofList (if value.negative then '-' :: size else size)

end Walkthrough.Decimal
