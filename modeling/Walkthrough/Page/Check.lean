import Walkthrough.Page.Basic

/-!
# Checks of the page

Whether a text or a value is on the page, and the checks that fail if something expected is not.
-/

namespace Walkthrough.Play

variable {σ : Type} [Outside σ]

/-- The first element with a text. -/
def firstWithText (text : String) : Play σ Locator := do
  return .first (← locate (.withText text))

/-- Whether a text can be seen; what cannot be looked up cannot. -/
def isTextPresent (text : String) : Play σ Bool := do
  note .info .page s!"Checking if text is present: {text}"
  let seen ← value? do
    let seen : Bool ← act (← firstWithText text) .isVisible
    return seen
  return seen.getD false

/-- Waits until a text can be seen. -/
def verifyTextPresent (text : String) : Play σ Unit := do
  note .info .page s!"Verifying text is present: {text}"
  let time := (← pageSettings).timeout
  recover (do act (← firstWithText text) (.waitVisible time)) fun _ =>
    refuse (.unmet s!"Expected text \"{text}\" not visible on page")

/-- Checks that the text of the element of a reference holds what is expected. -/
def verifyContains (reference expected : String) : Play σ Unit := do
  note .info .page s!"Verifying {reference} contains: {expected}"
  let actual ← textOf reference
  if !occurs expected actual then
    refuse (.unmet (s!"Element {reference} does not contain \"{expected}\" " ++
      s!"(actual: \"{trimmed actual}\")"))

/-- Waits until the element of a reference can be seen; a reference that leads to nothing is a fault
of its own. -/
def verifyVisible (reference : String) : Play σ Unit := do
  note .info .page s!"Verifying {reference} is visible"
  recover (waitFor reference none) fun
    | .step (.unresolved description reference) place =>
      throw (.step (.unresolved description reference) place)
    | _ => refuse (.unmet s!"Element {reference} is not visible")

/-- The rows of the table of a reference. -/
def tableRows (reference : String) : Play σ (List Locator) := do
  let table ← match (← get).healer with
    | some healer => resolve healer.strategies reference reference
    | none => locate (.selector reference)
  let rows := Locator.within table "tr"
  let count : Nat ← act rows .rows
  return (List.range count).map (Locator.row rows)

/-- Whether one of the rows holds a value; the rows after it are not read. -/
def someRowHolds (value : String) : List Locator → Play σ Bool
  | [] => pure false
  | row :: rest => do
    let text : Option String ← act row .textContent
    if occurs value (text.getD "") then return true
    else someRowHolds value rest

/-- The rows of the table of a reference, or nothing if no element can be resolved. -/
def tableRows? (reference : String) : Play σ (Option (List Locator)) :=
  recover (do return some (← tableRows reference)) fun
    | .step (.unresolved _ _) _ => do
      note .info .page s!"No table matching {reference} on page"
      return none
    | fault => throw fault

/-- Whether a row of the table of a reference holds a value; without a table none does. -/
def isValueInTable (reference value : String) : Play σ Bool := do
  note .info .page s!"Checking if {value} exists in table"
  match ← tableRows? reference with
  | none => return false
  | some rows =>
    if ← someRowHolds value rows then
      note .info .page s!"Found {value} in table"
      return true
    else
      note .info .page s!"{value} not found in table"
      return false

end Walkthrough.Play
