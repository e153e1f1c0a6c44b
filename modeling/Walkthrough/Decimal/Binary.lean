/-!
# Doubles as exact fractions

A finite double is a sign and a whole number times a power of two. Everything that is printed of a
double is computed from that fraction in exact arithmetic.
-/

namespace Walkthrough.Decimal

/-- A finite double: `mantissa * 2 ^ exponent`, negated if `negative`. -/
structure Binary where
  negative : Bool
  mantissa : Nat
  exponent : Int

/-- A double is finite, an infinity, or not a number. -/
inductive Kind where
  | finite (value : Binary)
  | infinite (negative : Bool)
  | notANumber

/-- The parts of a double, read off its bits. -/
def Kind.ofFloat (x : Float) : Kind :=
  let bits := x.toBits.toNat
  let negative := bits / Nat.pow 2 63 == 1
  let biased : Nat := bits / Nat.pow 2 52 % Nat.pow 2 11
  let fraction : Nat := bits % Nat.pow 2 52
  if biased == 2047 then
    if fraction == 0 then .infinite negative else .notANumber
  else if biased == 0 then .finite ⟨negative, fraction, -1074⟩
  else .finite ⟨negative, Nat.pow 2 52 + fraction, (biased : Int) - 1075⟩

namespace Binary

/-- The numerator of the size of a double. -/
def numerator (x : Binary) : Nat :=
  x.mantissa * Nat.pow 2 x.exponent.toNat

/-- The denominator of the size of a double. -/
def denominator (x : Binary) : Nat :=
  Nat.pow 2 (-x.exponent).toNat

theorem denominator_pos (x : Binary) : 0 < x.denominator :=
  Nat.two_pow_pos _

end Binary

/-- A quotient rounded to the nearest whole number, a half to the even neighbour. -/
def roundQuotient (numerator denominator : Nat) : Nat :=
  let whole := numerator / denominator
  let twice := 2 * (numerator % denominator)
  if twice < denominator then whole
  else if denominator < twice then whole + 1
  else whole + whole % 2

/-- The count of decimal digits of a number; zero has none. -/
def digitCount (n : Nat) : Nat :=
  if n = 0 then 0 else (Nat.toDigits 10 n).length

end Walkthrough.Decimal
