import Walkthrough.Decimal.Length
import Walkthrough.Text.Lines
import Walkthrough.Text.Pattern

/-!
# Step headers

A line that opens a step: `### Step 3: Create account via API` or `3. Create account via API`. The
number is read in the digits of any script, up to a fixed count of them.
-/

namespace Walkthrough

/-- The number and the title of a step. -/
structure Header where
  ordinal : Nat
  title : String
  deriving DecidableEq

/-- The number of a header has more digits than are read. -/
structure LongOrdinal where
  digits : Nat
  deriving DecidableEq

namespace Header

open Text Text.Pattern

/-- A heading of up to three marks: `### Step 3: Title`. -/
def headingPattern : Pattern :=
  all [one (· == '#'), optional (one (· == '#')), optional (one (· == '#')), many isBlank,
    word "Step", many isBlank, keep (oneOrMore isDigit),
    optional (one fun c => c == ':' || c == '.'), many isBlank, keep (many (· != '\n'))]

/-- An item of a numbered list: `3. Title`. -/
def numberedPattern : Pattern :=
  all [keep (oneOrMore isDigit), one (· == '.'), many isBlank, keep (many (· != '\n'))]

/-- The digits and the title of a header. -/
def parts? (line : List Char) : Option (List Char × List Char) :=
  let trimmedLine := trim line
  match (headingPattern.front? trimmedLine).or (numberedPattern.front? trimmedLine) with
  | some ([digits, title], _) => some (digits, title)
  | _ => none

/-- The number that digits of any script stand for. -/
def valueOf (digits : List Char) : Nat :=
  digits.foldl (fun n c => 10 * n + (digit? c).getD 0) 0

/-- The header that a line is, if it is one. -/
def ofLine? (line : String) : Except LongOrdinal (Option Header) :=
  match parts? line.toList with
  | none => .ok none
  | some (digits, title) =>
    if Decimal.maxDigits < digits.length then .error ⟨digits.length⟩
    else .ok (some ⟨valueOf digits, String.ofList title⟩)

end Header

/-- Whether a line belongs to the details of a step: it is not blank, no heading and no rule. -/
def isDetailLine (line : String) : Bool :=
  let content := trimmed line
  !content.isEmpty && !beginsWith "#" content && !beginsWith "---" content

/-- The wording of a number that is too long. -/
def LongOrdinal.message (fault : LongOrdinal) : String :=
  Decimal.lengthMessage fault.digits

end Walkthrough
