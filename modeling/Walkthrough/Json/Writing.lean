import Walkthrough.Json.Basic
import Walkthrough.Text.Quoted

/-!
# Writing JSON

Values as ASCII text, on one line or indented by two blanks a level. Doubles that are no number of
the format are written by name.
-/

namespace Walkthrough.Json

/-- One unit of sixteen bits as an escape. -/
def unitEscape (unit : Nat) : List Char :=
  '\\' :: 'u' :: Text.Quoted.hex 4 unit

/-- The code of one character, or of half of one, inside a string; a character beyond the first
plane is written as its two halves. -/
def escape (code : Nat) : List Char :=
  let c := Char.ofNat code
  if c == '"' then ['\\', '"']
  else if c == '\\' then ['\\', '\\']
  else if c == '\n' then ['\\', 'n']
  else if c == '\r' then ['\\', 'r']
  else if c == '\t' then ['\\', 't']
  else if c == '\x08' then ['\\', 'b']
  else if c == '\x0c' then ['\\', 'f']
  else if 0x20 ≤ code && code < 0x7F then [c]
  else if code < 0x10000 then unitEscape code
  else
    let above := code - 0x10000
    unitEscape (0xD800 + above / 0x400) ++ unitEscape (0xDC00 + above % 0x400)

/-- A string with its quotes. -/
def writeText (text : String) : List Char :=
  '"' :: (Text.codes text.toList).flatMap escape ++ ['"']

/-- A number in the spelling of the format. -/
def writeNumber (value : Number) : List Char :=
  match value with
  | .int value => (toString value).toList
  | .float value =>
    if value.isNaN then "NaN".toList
    else if value.isInf then (if value < 0.0 then "-Infinity" else "Infinity").toList
    else (Decimal.shortestText value).toList

mutual

/-- A value on one line. -/
def writeLine : Json → List Char
  | null => "null".toList
  | bool value => (if value then "true" else "false").toList
  | number value => writeNumber value
  | text value => writeText value
  | list items => '[' :: writeItems items ++ [']']
  | object fields => '\x7b' :: writeFields fields ++ ['\x7d']

/-- Items with commas between them. -/
def writeItems : List Json → List Char
  | [] => []
  | [item] => writeLine item
  | item :: rest => writeLine item ++ ", ".toList ++ writeItems rest

/-- Members with commas between them. -/
def writeFields : List (String × Json) → List Char
  | [] => []
  | [(name, value)] => writeText name ++ ": ".toList ++ writeLine value
  | (name, value) :: rest =>
    writeText name ++ ": ".toList ++ writeLine value ++ ", ".toList ++ writeFields rest

end

/-- A new line at a level of indentation. -/
def newLine (level : Nat) : List Char :=
  '\n' :: List.replicate (2 * level) ' '

mutual

/-- A value over as many lines as it has parts, within a level of indentation. -/
def writeBlock (level : Nat) : Json → List Char
  | null => "null".toList
  | bool value => (if value then "true" else "false").toList
  | number value => writeNumber value
  | text value => writeText value
  | list [] => "[]".toList
  | list (item :: items) =>
    '[' :: newLine (level + 1) ++ writeBlock (level + 1) item ++
      writeItemLines (level + 1) items ++ newLine level ++ [']']
  | object [] => ['\x7b', '\x7d']
  | object ((name, value) :: fields) =>
    '\x7b' :: newLine (level + 1) ++ writeText name ++ ": ".toList ++
      writeBlock (level + 1) value ++ writeFieldLines (level + 1) fields ++ newLine level ++
      ['\x7d']

/-- Further items, each after a comma on a line of its own. -/
def writeItemLines (level : Nat) : List Json → List Char
  | [] => []
  | item :: rest => ',' :: newLine level ++ writeBlock level item ++ writeItemLines level rest

/-- Further members, each after a comma on a line of its own. -/
def writeFieldLines (level : Nat) : List (String × Json) → List Char
  | [] => []
  | (name, value) :: rest =>
    ',' :: newLine level ++ writeText name ++ ": ".toList ++ writeBlock level value ++
      writeFieldLines level rest

end

/-- The text of a value on one line. -/
def compact (value : Json) : String :=
  String.ofList value.writeLine

/-- The text of a value, indented. -/
def indented (value : Json) : String :=
  String.ofList (value.writeBlock 0)

end Walkthrough.Json
