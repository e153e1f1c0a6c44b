import Walkthrough.Prompt.Details

/-!
# What a step acts on

The address that a step goes to, the label that it clicks and the variable that it looks for, as far
as the step states them.
-/

namespace Walkthrough

namespace Target

open Text Text.Pattern

/-- An address in running text: up to the next blank. -/
def addressPattern : Pattern :=
  keep (all [exactly "http".toList, optional (one (· == 's')), exactly "://".toList,
    oneOrMore fun c => !isBlank c])

/-- A label in quotes after the word for clicking. -/
def labelPattern : Pattern :=
  all [word "Click", oneOrMore isBlank, one Details.isQuote,
    keep (oneOrMore Details.isUnquoted), one Details.isQuote]

/-- The name of a variable in bold. -/
def boldPattern : Pattern :=
  all [exactly ['*', '*'], keep (oneOrMore isWord), exactly ['*', '*']]

end Target

namespace Details

/-- A field that is there and not empty. -/
def present? (field : Option String) : Option String :=
  field.filter (· != "")

/-- The address to go to: the endpoint, or else the first address in the details. -/
def address? (details : Details) : Option String :=
  (present? details.endpoint).orElse fun _ => Target.addressPattern.keep? details.rawText

/-- The label to click. -/
def label? (details : Details) : Option String :=
  Target.labelPattern.keep? details.rawText

/-- The variable whose value is looked for. -/
def boldName? (details : Details) : Option String :=
  Target.boldPattern.keep? details.rawText

/-- The name and the password to log in with. -/
def credentials? (details : Details) : Option (String × String) :=
  match present? details.username, present? details.password with
  | some username, some password => some (username, password)
  | _, _ => none

end Details

end Walkthrough
