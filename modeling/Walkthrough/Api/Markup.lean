import Walkthrough.Prompt.Details

/-!
# Values in markup

The text of the first element of a name in a marked-up answer, as far as it holds text alone. The
name is taken letter by letter, in either case.
-/

namespace Walkthrough.Markup

open Text Text.Pattern

/-- Characters that open no tag. -/
def isContent (c : Char) : Bool := c != '<'

/-- An element of a name that holds text alone, with the text kept. -/
def elementPattern (name : String) : Pattern :=
  all [letters ('<' :: name.toList ++ ['>']), many isBlank,
    keep (seq (one isContent) (few isContent)), many isBlank,
    letters ('<' :: '/' :: name.toList ++ ['>'])]

/-- The trimmed text of the first element of a name. -/
def extract? (markup name : String) : Option String :=
  ((elementPattern name).keep? markup).map trimmed

end Walkthrough.Markup
