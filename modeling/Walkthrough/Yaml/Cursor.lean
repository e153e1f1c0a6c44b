import Walkthrough.Yaml.Fault

/-!
# Places in a YAML text

A cursor is what is left of a text, with the line and column that it starts at. Four characters
break lines; the end of the text counts as a gap wherever blanks and breaks do.
-/

namespace Walkthrough.Yaml

/-- The characters that break lines. -/
def isBreak (c : Char) : Bool :=
  c == '\n' || c == '\x85' || c == '\u2028' || c == '\u2029'

/-- What a line break stands for in a scalar. -/
def breakChar (c : Char) : Char :=
  if c == '\x85' then '\n' else c

/-- Whether a place is at an end of a line. -/
def isLineEnd (next : Option Char) : Bool :=
  next.all isBreak

/-- Whether a place is at a blank, at a break or at the end. -/
def isGap (next : Option Char) : Bool :=
  next.all fun c => c == ' ' || c == '\t' || isBreak c

/-- Whether a character is a comma or a bracket of a flow collection. -/
def isFlowMark (c : Char) : Bool :=
  c == ',' || c == '[' || c == ']' || c == '\x7b' || c == '\x7d'

/-- Whether a text starts with the mark of a document's start or end. -/
def startsDocument (s : List Char) : Bool :=
  (s.take 3 == ['-', '-', '-'] || s.take 3 == ['.', '.', '.']) && isGap s[3]?

/-- Whether a character may stand in a YAML text. -/
def isAllowed (c : Char) : Bool :=
  let n := c.toNat
  n == 0x9 || n == 0xA || n == 0xD || (0x20 ≤ n && n ≤ 0x7E) || n == 0x85 ||
    (0xA0 ≤ n && n ≤ 0xFFFD) || 0x10000 ≤ n

/-- A place in a text: what is left from there on. -/
structure Cursor where
  rest : List Char
  index : Nat := 0
  line : Nat := 0
  column : Nat := 0

namespace Cursor

/-- The character that is so many places further on. -/
def at? (cursor : Cursor) (distance : Nat) : Option Char :=
  cursor.rest[distance]?

/-- The next character. -/
def next? (cursor : Cursor) : Option Char :=
  cursor.rest.head?

/-- The place one character further on. -/
def step (cursor : Cursor) : Cursor :=
  match cursor.rest with
  | [] => cursor
  | c :: rest =>
    if isBreak c then ⟨rest, cursor.index + 1, cursor.line + 1, 0⟩
    else ⟨rest, cursor.index + 1, cursor.line,
      if c == '\ufeff' then cursor.column else cursor.column + 1⟩

/-- The place so many characters further on. -/
def skip : (count : Nat) → Cursor → Cursor
  | 0, cursor => cursor
  | count + 1, cursor => skip count cursor.step

/-- The place after the characters of a class. -/
def skipWhile (cursor : Cursor) (accepts : Char → Bool) : Cursor :=
  cursor.skip (cursor.rest.takeWhile accepts).length

end Cursor

end Walkthrough.Yaml
