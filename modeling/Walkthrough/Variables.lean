import Walkthrough.Json.Display
import Walkthrough.Text.Pattern

/-!
# Variables

The values that the steps of a run hand on to each other, by name and in the order of their first
writing, and the time from which the run is measured. A text may name a variable between double
braces; such a placeholder is replaced once, by the text of the value, and what replaces it is not
read again.
-/

namespace Walkthrough

/-- Named values, and the clock when they were last empty. -/
structure Variables where
  entries : List (String × Json) := []
  started : Float := 0.0

namespace Variables

open Text Text.Pattern

/-- The value of a name. -/
def get? (vars : Variables) (name : String) : Option Json :=
  Fields.get? name vars.entries

/-- Whether a name has a value. -/
def has (vars : Variables) (name : String) : Bool :=
  (vars.get? name).isSome

/-- Gives a name a value. The last writing wins; a name that has a value keeps its place. -/
def set (vars : Variables) (name : String) (value : Json) : Variables :=
  { vars with entries := Fields.put name value vars.entries }

/-- Takes a name's value away. -/
def remove (vars : Variables) (name : String) : Variables :=
  { vars with entries := Fields.erase name vars.entries }

/-- The count of names with a value. -/
def size (vars : Variables) : Nat :=
  vars.entries.length

/-- A name between double braces. -/
def placeholder : Pattern :=
  all [exactly ['\x7b', '\x7b'], keep (oneOrMore isWord), exactly ['\x7d', '\x7d']]

/-- The names of the placeholders in a text, from left to right. -/
def placeholderNames (text : String) : List String :=
  (placeholder.findAll text.toList).filterMap fun kept => kept.head?.map String.ofList

/-- The pieces of a text with values in place of placeholders, or the first name without a value. -/
def fill (vars : Variables) : List Piece → Except String (List Char)
  | [] => .ok []
  | .char c :: rest => (vars.fill rest).map (c :: ·)
  | .found kept :: rest =>
    let name := String.ofList kept.flatten
    match vars.get? name with
    | none => .error name
    | some value => (vars.fill rest).map (value.display.toList ++ ·)

/-- The text with values in place of placeholders, or the first name without a value. -/
def expand (vars : Variables) (text : String) : Except String String :=
  (vars.fill (placeholder.pieces text.toList)).map String.ofList

@[simp] theorem get?_set (vars : Variables) (name other : String) (value : Json) :
    (vars.set name value).get? other =
      if other = name then some value else vars.get? other :=
  Fields.get?_put name other value vars.entries

end Variables

end Walkthrough
