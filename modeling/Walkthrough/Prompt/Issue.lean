import Walkthrough.Prompt.Document
import Walkthrough.Prompt.Target
import Walkthrough.Text.Quoted
import Walkthrough.Variables

/-!
# Issues of a prompt

What can be said against a prompt before it is run: steps that are bound to fail or to be skipped,
variables that no earlier step stores, and lines that belong to no step.
-/

namespace Walkthrough

/-- How bad an issue is; `other` is a word without a meaning of its own. -/
inductive Severity where
  | error
  | warning
  | info
  | other (word : String)
  deriving DecidableEq

namespace Severity

/-- The word for a severity. -/
def name : Severity → String
  | error => "error"
  | warning => "warning"
  | info => "info"
  | other word => word

/-- The severity of a word. -/
def ofName (word : String) : Severity :=
  if word = "error" then error
  else if word = "warning" then warning
  else if word = "info" then info
  else other word

/-- The order of severities, the worst first. -/
def rank : Severity → Nat
  | error => 0
  | warning => 1
  | info => 2
  | other _ => 3

end Severity

/-- Something that can be said against a prompt, and where. -/
structure Issue where
  severity : Severity
  place : String := ""
  message : String
  deriving DecidableEq

namespace Step

/-- The words for where a step is. -/
def place (step : Step) : String := s!"step {step.ordinal}"

/-- What a step lacks to be carried out. -/
def lack? (step : Step) : Option String :=
  match step.action with
  | .apiLogin | .apiGet | .apiCreate | .apiPost | .apiDelete =>
    if (Details.present? step.details.endpoint).isNone then
      some "API step has no 'Endpoint:' or 'URL:'"
    else none
  | .uiNavigate =>
    if step.details.address?.isNone then some "Navigation step has no URL" else none
  | .uiLogin =>
    if step.details.credentials?.isNone then
      some "UI login step needs 'Username:' and 'Password:'"
    else none
  | .uiClick =>
    if step.details.label?.isNone then some "Click step has no quoted label (Click '...')"
    else none
  | .uiVerify | .unknown => none

/-- The issue of a step whose action is not known. -/
def skipIssues (step : Step) : List Issue :=
  if step.action = .unknown then
    [{ severity := .warning
       place := step.place
       message := "Action not recognized, step will be skipped: " ++ quoted step.description }]
  else []

/-- The issue of a step that lacks something. -/
def lackIssues (step : Step) : List Issue :=
  step.lack?.toList.map fun message => { severity := .error, place := step.place, message }

/-- The names that the endpoint of a step takes from variables. -/
def usedNames (step : Step) : List String :=
  Variables.placeholderNames (step.details.endpoint.getD "")

/-- The issues of names that a step uses and that are not among those stored before it. -/
def nameIssues (stored : List String) (step : Step) : List Issue :=
  (step.usedNames.filter fun name => !stored.contains name).map fun name =>
    { severity := .warning
      place := step.place
      message := "\x7b\x7b" ++ name ++ "\x7d\x7d is not stored by any earlier step" }

/-- The issues of a step, given the names stored before it. -/
def issues (stored : List String) (step : Step) : List Issue :=
  step.skipIssues ++ step.lackIssues ++ step.nameIssues stored

/-- The name that a step stores a value under. -/
def storedNames (step : Step) : List String :=
  (Details.present? step.details.storeAs).toList

/-- The issues of steps, given the names stored before them. -/
def issuesOfAll (stored : List String) : List Step → List Issue
  | [] => []
  | step :: rest => step.issues stored ++ issuesOfAll (stored ++ step.storedNames) rest

end Step

/-- The issue of a line that belongs to no step. -/
def Miss.issue (miss : Miss) : Issue where
  severity := .info
  place := s!"line {miss.lineNumber}"
  message := s!"Ignored ({Miss.reason}): {miss.text}"

/-- The issues of a document, in the order of its steps and lines. A document without steps has no
other issue. -/
def Document.issues (document : Document) : List Issue :=
  if document.steps.isEmpty then
    [{ severity := .error
       message := "No steps found (expected '### Step N:' or 'N.' headers)" }]
  else Step.issuesOfAll [] document.steps ++ document.misses.map Miss.issue

/-- The count of issues of a severity. -/
def countOf (severity : Severity) (issues : List Issue) : Nat :=
  (issues.filter (·.severity = severity)).length

end Walkthrough
