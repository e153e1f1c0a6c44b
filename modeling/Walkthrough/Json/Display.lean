import Walkthrough.Json.Basic
import Walkthrough.Text.Quoted

/-!
# Values inside text

How a value reads where it takes the place of a name in a text: a text is itself, and everything
else is spelled out, with texts inside it in quotes.
-/

namespace Walkthrough.Json

mutual

/-- A value spelled out. -/
def spell : Json → String
  | null => "None"
  | bool value => if value then "True" else "False"
  | number value => value.text
  | text value => quoted value
  | list items => "[" ++ spellItems items ++ "]"
  | object fields => "\x7b" ++ spellFields fields ++ "\x7d"

/-- Items spelled out, with commas between them. -/
def spellItems : List Json → String
  | [] => ""
  | [item] => spell item
  | item :: rest => spell item ++ ", " ++ spellItems rest

/-- Members spelled out, with commas between them. -/
def spellFields : List (String × Json) → String
  | [] => ""
  | [(name, value)] => quoted name ++ ": " ++ spell value
  | (name, value) :: rest => quoted name ++ ": " ++ spell value ++ ", " ++ spellFields rest

end

/-- The text that stands for a value. -/
def display : Json → String
  | text value => value
  | value => value.spell

end Walkthrough.Json
