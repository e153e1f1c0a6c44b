import Walkthrough.Text.Pattern

/-!
# Markup

In console markup a tag stands in brackets, and a backslash before the bracket takes the meaning
from it. Escaped text is shown as it is.
-/

namespace Walkthrough.Markup

open Text Text.Pattern

/-- Whether a character can start a tag. -/
def startsTag (c : Char) : Bool :=
  ('a' ≤ c && c ≤ 'z') || c == '#' || c == '/' || c == '@'

/-- Backslashes and a tag after them. -/
def tagPattern : Pattern :=
  all [keep (many (· == '\\')),
    keep (all [one (· == '['), one startsTag, few (· != '['), one (· == ']')])]

/-- The pieces of a text with every tag made plain. -/
def escapePieces : List Piece → List Char
  | [] => []
  | .char c :: rest => c :: escapePieces rest
  | .found kept :: rest =>
    let slashes := kept.headD []
    let tag := (kept.drop 1).flatten
    slashes ++ slashes ++ '\\' :: tag ++ escapePieces rest

/-- A text with a single backslash at its end doubled. -/
def closeSlash (s : List Char) : List Char :=
  match s.reverse with
  | '\\' :: '\\' :: _ => s
  | '\\' :: _ => s ++ ['\\']
  | _ => s

/-- The markup that shows a text as it is. -/
def escape (text : String) : String :=
  String.ofList (closeSlash (escapePieces (tagPattern.pieces text.toList)))

end Walkthrough.Markup
