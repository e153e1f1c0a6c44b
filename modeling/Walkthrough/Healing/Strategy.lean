import Walkthrough.Healing.Basic
import Walkthrough.Prompt.Details

/-!
# The strategies

The sources of candidates, from another spelling of the same reference to a loose guess at the
structure of the page. Their order in `Strategy.standard` is their priority.
-/

namespace Walkthrough.Strategy

open Text Text.Pattern

/-- Letters, numbers, underscores and dashes. -/
def isNameChar (c : Char) : Bool := isWord c || c == '-'

/-- The name after a `#`. -/
def idPattern : Pattern := all [one (· == '#'), keep (oneOrMore isNameChar)]

/-- The name after a point. -/
def classPattern : Pattern := all [one (· == '.'), keep (oneOrMore isNameChar)]

/-- The word that a reference starts with. -/
def tag? (reference : String) : Option String :=
  let word := reference.toList.takeWhile isWord
  if word.isEmpty then none else some (String.ofList word)

/-- The id, the class and the tag of a reference in other spellings. -/
def spellings (reference : String) : List String :=
  let id? := idPattern.keep? reference
  let class? := classPattern.keep? reference
  let ofId := match id? with
    | some id => ["#" ++ id, "[id=\"" ++ id ++ "\"]", "[id*=\"" ++ id ++ "\"]"]
    | none => []
  let ofClass := match class? with
    | some className => ["." ++ className, "[class*=\"" ++ className ++ "\"]"]
    | none => []
  let ofTag := match tag? reference with
    | some tag =>
      (id?.map fun id => tag ++ "#" ++ id).toList ++
        (class?.map fun className => tag ++ "." ++ className).toList
    | none => []
  ofId ++ ofClass ++ ofTag

/-- Spells the id, the class and the tag of the reference in other ways. -/
def cssVariations : Strategy where
  name := "css_variations"
  description := "Try different CSS selector formats (#id, [id=\"...\"], [id*=\"...\"])"
  propose reference _ := some ((spellings reference).map .selector)

/-- The words for what an element is. -/
def rolePattern : Pattern :=
  anyOf [word "element", word "button", word "link", word "field", word "input"]

/-- The least length of a text that is searched for. -/
def minTextLength : Nat := 2

/-- The texts to search for: the description, and the description without words for what the element
is, each if it is long enough and not there already. -/
def searchTexts (description : String) : List String :=
  let bare := String.ofList (trim (rolePattern.replaceAll [] description.toList))
  let texts := if Text.size description.toList < minTextLength then [] else [description]
  if Text.size bare.toList < minTextLength || texts.contains bare then texts else texts ++ [bare]

/-- The places where a text can stand. -/
def textCandidates (text : String) : List String :=
  ["text=" ++ text, "text=\"" ++ text ++ "\"", ":has-text(\"" ++ text ++ "\")",
    "button:has-text(\"" ++ text ++ "\")", "a:has-text(\"" ++ text ++ "\")",
    "[aria-label=\"" ++ text ++ "\"]", "[title=\"" ++ text ++ "\"]",
    "[placeholder=\"" ++ text ++ "\"]"]

/-- Searches for the description as text of the page. -/
def visibleText : Strategy where
  name := "text"
  description := "Search by visible text, aria-label, placeholder"
  propose _ description := some (((searchTexts description).flatMap textCandidates).map .selector)

/-- The words of a description and the roles that they speak of. -/
def roles : List (String × String) :=
  [("button", "button"), ("link", "link"), ("input", "textbox"), ("checkbox", "checkbox"),
    ("radio", "radio"), ("select", "combobox"), ("heading", "heading")]

/-- Takes the role that the description speaks of. -/
def roleMatch : Strategy where
  name := "role"
  description := "Use ARIA roles (button, link, textbox)"
  propose _ description :=
    let small := lower description.toList
    some ((roles.filter fun (word, _) => Text.occursIn word.toList small).map fun (_, role) =>
      .ofRole role)

/-- The characters of a quoted value. -/
def isInQuotes (c : Char) : Bool := c != '"'

/-- An attribute with its value: `[name="value"]`. -/
def attributePattern : Pattern :=
  all [one (· == '['), keep (oneOrMore isWord), exactly ['=', '"'], keep (oneOrMore isInQuotes),
    exactly ['"', ']']]

/-- The value after `name=`. -/
def namePattern : Pattern :=
  all [exactly "name=\"".toList, keep (oneOrMore isInQuotes), one (· == '"')]

/-- The value after `type=`. -/
def typePattern : Pattern :=
  all [exactly "type=\"".toList, keep (oneOrMore isInQuotes), one (· == '"')]

/-- The attributes of a reference, with parts of their values. -/
def partials (reference : String) : List String :=
  let ofAttribute := match attributePattern.search reference.toList with
    | some [name, value] =>
      let name := String.ofList name
      let value := String.ofList value
      ["[" ++ name ++ "*=\"" ++ value ++ "\"]", "[" ++ name ++ "^=\"" ++ value ++ "\"]"]
    | _ => []
  let ofName := (namePattern.keep? reference).map fun value => "[name*=\"" ++ value ++ "\"]"
  let ofType := (typePattern.keep? reference).map fun value => "[type=\"" ++ value ++ "\"]"
  ofAttribute ++ ofName.toList ++ ofType.toList

/-- Matches parts of the attributes that the reference names. -/
def partialAttribute : Strategy where
  name := "partial_attribute"
  description := "Match partial attribute values ([name*=\"...\"])"
  acceptance := ⟨1, some 5⟩
  propose reference _ := some ((partials reference).map .selector)

/-- The sign between parent and child, with the blanks around it. -/
def childPattern : Pattern := all [many isBlank, one (· == '>'), many isBlank]

/-- The reference without constraints on parents and children, in three degrees. -/
def loosened (reference : String) : List String :=
  let s := reference.toList
  let forms := [childPattern.replaceAll [' '] s, s.takeWhile (· != '>'), s.takeWhile (· != ' ')]
  let forms := (forms.map fun form => String.ofList (trim form)).filter fun form =>
    form != "" && form != reference
  forms.eraseDups

/-- Drops what the reference says about parents and children. -/
def structuralLoosening : Strategy where
  name := "structural_loosening"
  description := "Simplify selectors by removing parent paths"
  acceptance := ⟨1, some 10⟩
  propose reference _ := some ((loosened reference).map .selector)

/-- A strategy without a proposal, which the others fill in. -/
def bare : Strategy where
  name := ""
  description := ""
  propose _ _ := none

/-- The strategies in their order of priority. -/
def standard : List Strategy :=
  [cssVariations, visibleText, roleMatch, partialAttribute, structuralLoosening]

end Walkthrough.Strategy
