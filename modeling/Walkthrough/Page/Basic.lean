import Walkthrough.Page.Lookup
import Walkthrough.Session.Variables

/-!
# The page

What steps do on a page and read from it.
-/

namespace Walkthrough.Play

variable {σ : Type} [Outside σ]

/-- Goes to an address and waits until the page is idle. -/
def navigate (url : String) : Play σ Unit := do
  note .info .page s!"Navigating to: {url}"
  ask (.goto url)
  ask .awaitIdle

/-- Types a value into the element of a reference. -/
def fill (reference value : String) : Play σ Unit := do
  note .info .page s!"Filling {reference}"
  act (← element reference) (.fill value)

/-- Clicks the element of a reference. -/
def click (reference : String) : Play σ Unit := do
  note .info .page s!"Clicking: {reference}"
  act (← element reference) (.click none)

/-- Clicks the element of a role that has a name. -/
def clickNamed (role name : String) : Play σ Unit := do
  note .info .page s!"Clicking {role}: {name}"
  let settings ← pageSettings
  act (← locate (.role role (some name))) (.click (some settings.timeout))

/-- Clicks the button of a name. -/
def clickButton (name : String) : Play σ Unit :=
  clickNamed "button" name

/-- Clicks the link of a name. -/
def clickLink (name : String) : Play σ Unit :=
  clickNamed "link" name

/-- The text of the element of a reference; no text is the empty text. -/
def textOf (reference : String) : Play σ String := do
  let found : Option String ← act (← element reference) .textContent
  let text := found.getD ""
  note .info .page s!"Got text from {reference}: {text}"
  return text

/-- An attribute of the element of a reference. -/
def attributeOf (reference name : String) : Play σ (Option String) := do
  let value : Option String ← act (← element reference) (.attributeOf name)
  let shown := value.getD "None"
  note .info .page s!"Attribute '{name}' of {reference}: {shown}"
  return value

/-- What has been typed into the element of a reference. -/
def inputValue (reference : String) : Play σ String := do
  act (← element reference) .inputValue

/-- Whether the element of a reference can be seen; one that cannot be looked up cannot. -/
def isVisible (reference : String) : Play σ Bool := do
  let seen ← value? do
    let seen : Bool ← act (← element reference) .isVisible
    return seen
  match seen with
  | some seen =>
    note .info .page (s!"{reference} is visible: " ++ (Json.bool seen).display)
    return seen
  | none => return false

/-- Waits until the element of a reference can be seen. No time, or none at all, means the usual
time. -/
def waitFor (reference : String) (timeout : Option Int) : Play σ Unit := do
  note .info .page s!"Waiting for element: {reference}"
  let found ← element reference
  let usual := (← pageSettings).timeout
  let time := match timeout with
    | some time => if time = 0 then usual else time
    | none => usual
  act found (.waitVisible time)

/-- Gives a variable the text of the element of a reference. -/
def storeText (name reference : String) : Play σ Unit := do
  let text ← textOf reference
  setVariable name (.text text)

end Walkthrough.Play
