import Walkthrough.Text.Class
import Walkthrough.Text.Code

/-!
# Quoted text

Text between quotes, with everything unprintable escaped. Single quotes are used unless the text
holds a single quote and no double quote.
-/

namespace Walkthrough.Text.Quoted

/-- The digit of a number below sixteen, in lower case. -/
def hexDigit (n : Nat) : Char :=
  if n < 10 then Char.ofNat ('0'.toNat + n) else Char.ofNat ('a'.toNat + (n - 10))

/-- The last `width` hexadecimal digits of `n`. -/
def hex : (width : Nat) → Nat → List Char
  | 0, _ => []
  | width + 1, n => hex width (n / 16) ++ [hexDigit (n % 16)]

/-- The code of one character, or of half of one, inside quotes. -/
def escape (quote : Char) (code : Nat) : List Char :=
  let c := Char.ofNat code
  if isHalf code then '\\' :: 'u' :: hex 4 code
  else if c == quote || c == '\\' then ['\\', c]
  else if c == '\n' then ['\\', 'n']
  else if c == '\r' then ['\\', 'r']
  else if c == '\t' then ['\\', 't']
  else if isPrintable c then [c]
  else if code < 0x100 then '\\' :: 'x' :: hex 2 code
  else if code < 0x10000 then '\\' :: 'u' :: hex 4 code
  else '\\' :: 'U' :: hex 8 code

/-- The quote that a text is put in. -/
def quoteFor (s : List Char) : Char :=
  if s.contains '\'' && !s.contains '"' then '"' else '\''

/-- A text in quotes. -/
def encode (s : List Char) : List Char :=
  let quote := quoteFor s
  quote :: (codes s).flatMap (escape quote) ++ [quote]

end Walkthrough.Text.Quoted

namespace Walkthrough

/-- `text` in quotes. -/
def quoted (text : String) : String :=
  String.ofList (Text.Quoted.encode text.toList)

end Walkthrough
