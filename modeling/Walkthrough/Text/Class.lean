import Walkthrough.Text.Table.Word
import Walkthrough.Text.Table.Unprintable

/-!
# Character classes

The classes that prompts are read by: blanks, line breaks, decimal digits with their values, word
characters and printable characters. All are Unicode classes; ASCII is decided without a table.
-/

namespace Walkthrough.Text

/-- Whether the code point of `c` lies in one of the closed `ranges`. -/
def liesIn (ranges : List (Nat × Nat)) (c : Char) : Bool :=
  ranges.any fun range => range.1 ≤ c.toNat && c.toNat ≤ range.2

/-- Blank characters: Unicode white space and the four information separators. -/
def isBlank (c : Char) : Bool :=
  liesIn [(0x9, 0xD), (0x1C, 0x20), (0x85, 0x85), (0xA0, 0xA0), (0x1680, 0x1680),
    (0x2000, 0x200A), (0x2028, 0x2029), (0x202F, 0x202F), (0x205F, 0x205F), (0x3000, 0x3000)] c

/-- The characters that end a line. -/
def isLineBreak (c : Char) : Bool :=
  liesIn [(0xA, 0xD), (0x1C, 0x1E), (0x85, 0x85), (0x2028, 0x2029)] c

/-- The value of a decimal digit of any script. -/
def digit? (c : Char) : Option Nat :=
  if c.toNat < 0x80 then
    if c.isDigit then some (c.toNat - '0'.toNat) else none
  else
    (Table.zeros.find? fun start => start ≤ c.toNat && c.toNat < start + 10).map (c.toNat - ·)

/-- Decimal digits of any script. -/
def isDigit (c : Char) : Bool :=
  (digit? c).isSome

/-- Word characters: letters, numbers and the underscore. -/
def isWord (c : Char) : Bool :=
  if c.toNat < 0x80 then c.isAlphanum || c == '_' else liesIn Table.alphanumeric c

/-- Characters that quoted text shows as themselves. -/
def isPrintable (c : Char) : Bool :=
  if c.toNat < 0x7F then 0x20 ≤ c.toNat else !liesIn Table.unprintable c

/-- A line break is blank. -/
theorem isBlank_of_isLineBreak {c : Char} (breaks : isLineBreak c = true) : isBlank c = true := by
  simp only [isLineBreak, isBlank, liesIn, List.any_cons, List.any_nil, Bool.or_false,
    Bool.or_eq_true, Bool.and_eq_true, decide_eq_true_eq] at breaks ⊢
  omega

end Walkthrough.Text
