/-!
# The size of whole numbers

Whole numbers are read and written up to a fixed count of digits, wherever they stand, and become
doubles up to the largest of these.
-/

namespace Walkthrough.Decimal

/-- The most digits that a whole number may have. -/
def maxDigits : Nat := 4300

/-- What is said of a whole number with more digits that should be read. -/
def lengthMessage (digits : Nat) : String :=
  s!"Exceeds the limit ({maxDigits} digits) for integer string conversion: " ++
    s!"value has {digits} digits; use sys.set_int_max_str_digits() to increase the limit"

/-- What is said of a whole number with more digits that should be written. -/
def writtenLengthMessage : String :=
  s!"Exceeds the limit ({maxDigits} digits) for integer string conversion; " ++
    "use sys.set_int_max_str_digits() to increase the limit"

/-- What is said of a whole number that is too large for a double. -/
def tooLargeMessage : String :=
  "int too large to convert to float"

/-- The least size of a whole number that is not written. -/
def writtenLimit : Nat := Nat.pow 10 maxDigits

/-- Whether a whole number has few enough digits to be written. -/
def isWritable (i : Int) : Bool :=
  i.natAbs < writtenLimit

end Walkthrough.Decimal
