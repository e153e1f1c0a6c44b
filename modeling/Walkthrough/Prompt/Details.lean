import Walkthrough.Text.Lines
import Walkthrough.Text.Pattern

/-!
# The details of a step

The fields that a step's detail block states. Each field is looked for in the whole block on its
own, wherever its phrase first occurs; a field whose phrase does not occur is absent.
-/

namespace Walkthrough

/-- The fields of a detail block, and the block itself. -/
structure Details where
  method : Option String := none
  endpoint : Option String := none
  username : Option String := none
  password : Option String := none
  storeAs : Option String := none
  validateText : Option String := none
  rawText : String := ""
  deriving DecidableEq

namespace Details

open Text Text.Pattern

/-- Characters that are not blank. -/
def isSolid (c : Char) : Bool := !isBlank c

/-- Characters of one line. -/
def isInline (c : Char) : Bool := c != '\n'

/-- The quotes that a quoted text may begin and end with. -/
def isQuote (c : Char) : Bool := c == '"' || c == '\x60' || c == '\''

/-- Characters inside quotes. -/
def isUnquoted (c : Char) : Bool := !isQuote c

/-- The quotes around the name of a variable. -/
def isNameQuote (c : Char) : Bool := c == '\x60' || c == '"'

/-- Blanks between two words. -/
def gap : Pattern := oneOrMore isBlank

/-- The method of a request: `HTTP Method: GET`. -/
def methodPattern : Pattern :=
  all [word "HTTP", gap, word "Method:", many isBlank, keep (oneOrMore isWord)]

/-- The address of a request or a page: `Endpoint: /accounts` or `URL: https://…`. -/
def endpointPattern : Pattern :=
  all [either (word "Endpoint") (word "URL"), word ":", many isBlank, keep (oneOrMore isSolid)]

/-- The name to log in with: `Username: john`. -/
def usernamePattern : Pattern :=
  all [word "Username:", many isBlank, keep (oneOrMore isSolid)]

/-- The password to log in with: `Password: demo`. -/
def passwordPattern : Pattern :=
  all [word "Password:", many isBlank, keep (oneOrMore isSolid)]

/-- The variable that takes the result: `Store the id into variable → accountId`, or
`Store it in a global variable called accountId`. -/
def storePattern : Pattern :=
  all [word "Store", few isInline,
    either
      (all [word "into", gap, word "variable"])
      (all [word "in", gap, optional (word "a"), gap, optional (all [word "global", gap]),
        word "variable", gap, word "calle", optional (word "d")]),
    many isBlank, many (fun c => c == '→' || c == '-'), many isBlank, optional (one isNameQuote),
    keep (oneOrMore isWord), optional (one isNameQuote)]

/-- The text that has to be on the page: `Verify that "Welcome" is shown`. -/
def validatePattern : Pattern :=
  all [anyOf [word "Check", word "Verify", word "Validate", word "Ensure"], few isInline,
    one isQuote, keep (oneOrMore isUnquoted), one isQuote]

/-- The trimmed text that a pattern keeps in a block. -/
def field? (pattern : Pattern) (block : String) : Option String :=
  (pattern.keep? block).map trimmed

/-- The details that a block states. -/
def ofBlock (block : String) : Details where
  method := (field? methodPattern block).map fun method => String.ofList (upper method.toList)
  endpoint := field? endpointPattern block
  username := field? usernamePattern block
  password := field? passwordPattern block
  storeAs := field? storePattern block
  validateText := field? validatePattern block
  rawText := block

/-- The fields that are present, by name and in order, without the block itself. -/
def fields (details : Details) : List (String × String) :=
  [("method", details.method), ("endpoint", details.endpoint), ("username", details.username),
    ("password", details.password), ("store_as", details.storeAs),
    ("validate_text", details.validateText)].filterMap fun (name, value) => value.map (name, ·)

end Details

end Walkthrough
