import Walkthrough.Page.Check
import Walkthrough.Prompt.Target

/-!
# Steps that use the page

Logging in and clicking have an order of ways to try: the first that works ends the step, and if
none does the fault of the last one is the step's. A check of a variable passes only if its value is
in the table or visible on the page.
-/

namespace Walkthrough.Play

variable {σ : Type}

/-- The reference of the field for a user's name. -/
def usernameField : String := "input[name=\"username\"]"

/-- The reference of the field for a password. -/
def passwordField : String := "input[name=\"password\"]"

/-- The reference of the button that sends a form. -/
def submitButton : String := "button[type=\"submit\"]"

/-- The reference of the table of results. -/
def resultsTable : String := "table"

/-- Checks that the run has a page. -/
def requirePage : Play σ Unit := do
  if (← get).page.isNone then
    refuse (.noPage "UI driver not initialized -- no browser page for this run")

variable [Outside σ]

/-- Goes to the address that a step states. -/
def carryOutNavigate (details : Details) : Play σ String := do
  requirePage
  match details.address? with
  | none => refuse (.missingTarget "No URL specified for navigation")
  | some address =>
    let url ← expand address
    navigate url
    return url

/-- Sends the form of a login. -/
def submitLogin : Play σ Unit :=
  recover (clickButton "Submit") fun _ => do
    note .debug .steps "No 'Submit' button; trying 'Log In'"
    recover (clickButton "Log In") fun _ => do
      note .debug .steps s!"No 'Log In' button; trying {submitButton}"
      click submitButton

/-- Logs in on the page. -/
def carryOutLogin (details : Details) : Play σ String := do
  requirePage
  match details.credentials? with
  | none => refuse (.missingCredentials "Username or password not specified")
  | some (username, password) =>
    fill usernameField username
    fill passwordField password
    submitLogin
    return s!"logged in as {username}"

/-- Clicks the link of a label, or else the button. -/
def clickLabel (label : String) : Play σ Unit :=
  recover (clickLink label) fun _ => do
    note .debug .steps s!"No link named {quoted label}; trying a button"
    clickButton label

/-- Clicks what a step names. -/
def carryOutClick (details : Details) : Play σ String := do
  requirePage
  match details.label? with
  | none => refuse (.missingTarget "No quoted label found to click (expected Click '<label>')")
  | some label =>
    clickLabel label
    return s!"clicked {label}"

/-- Whether a value is in the table of results or else visible on the page. -/
def isValueShown (value : String) : Play σ Bool := do
  if ← isValueInTable resultsTable value then return true
  else isTextPresent value

/-- Checks that the value of a variable is on the page. -/
def verifyVariable (name : String) : Play σ String := do
  if !(← get).vars.has name then
    refuse (.undefinedVariable name (some s!"Variable {name} to verify not found in test context"))
  let value := (← getVariable name .null).display
  if ← isValueShown value then
    note .info .steps s!"[Verification] {name} = {value} found on page"
    return s!"{name} = {value} found"
  else refuse (.unmet s!"Value {value} from variable {name} not found on page")

/-- Checks what a step expects on the page: the value of a variable, or else a text. -/
def carryOutVerify (step : Step) : Play σ String := do
  requirePage
  match step.details.boldName? with
  | some name => verifyVariable name
  | none =>
    match Details.present? step.details.validateText with
    | some text =>
      verifyTextPresent text
      return s!"\"{text}\" present"
    | none =>
      note .warning .steps s!"Step {step.ordinal} has nothing to verify"
      return "nothing to verify"

end Walkthrough.Play
