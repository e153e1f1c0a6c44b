import Walkthrough.Text.Lines
import Walkthrough.Text.Pattern

/-!
# The self-healing directive

A prompt may say `Self-Healing: YES` or `Self-Healing: NO`, with a `#` before it or not, at the
start of any line. The first such place in the text decides.
-/

namespace Walkthrough.Directive

open Text Text.Pattern

/-- The directive, with its answer kept. -/
def pattern : Pattern :=
  all [optional (one (· == '#')), many isBlank, word "Self-Healing:", many isBlank,
    keep (either (word "YES") (word "NO"))]

/-- The answer of a directive at the start of `s`. -/
def front? (s : List Char) : Option Bool :=
  match pattern.front? s with
  | some ([answer], _) => some (upper answer == "YES".toList)
  | _ => none

/-- The answer of the first directive after a line feed in `s`. -/
def below? : List Char → Option Bool
  | [] => none
  | c :: rest =>
    if c == '\n' then
      match front? rest with
      | some answer => some answer
      | none => below? rest
    else below? rest

/-- What a text says about self-healing, if it says anything. -/
def ofText? (text : String) : Option Bool :=
  match front? text.toList with
  | some answer => some answer
  | none => below? text.toList

/-- Whether a line is a directive. -/
def isDirective (line : String) : Bool :=
  (front? (trim line.toList)).isSome

end Walkthrough.Directive
