import Walkthrough.Healing.Resolve

/-!
# Looking up elements

How a reference in a step leads to an element. With a healer, every reference goes through it;
without one, a reference is a path, a selector or a visible text by the look of it.
-/

namespace Walkthrough

/-- A reference as a locator on its own: a path or a selector if it has the signs of one, else a
text that is visible on the page. -/
def Locator.ofReference (reference : String) : Locator :=
  if beginsWith "//" reference || beginsWith "(//" reference ||
      reference.toList.any (fun c => c == '#' || c == '.' || c == '[' || c == '=') then
    .selector reference
  else .withText reference

namespace Play

variable {σ : Type}

/-- How the run drives its page. -/
def pageSettings : Play σ PageSettings := do
  return (← get).page.getD {}

/-- Looks references up through a healer from now on, if there is a page; a healer that is there
already stays. -/
def attachHealer : Play σ Unit := do
  let session ← get
  if session.page.isSome && session.healer.isNone then
    set { session with healer := some { strategies := Strategy.standard } }
    note .info .page "Self-healing enabled for this driver"

variable [Outside σ]

/-- The element of a reference; a healer is told the description, or the reference if there is
none. -/
def find (reference : String) (description : Option String) : Play σ Locator := do
  match (← get).healer with
  | some healer =>
    let description := match description with
      | some text => if text.isEmpty then reference else text
      | none => reference
    resolve healer.strategies reference description
  | none => locate (.ofReference reference)

/-- The element of a reference without a description of its own. -/
def element (reference : String) : Play σ Locator :=
  find reference none

end Play

end Walkthrough
