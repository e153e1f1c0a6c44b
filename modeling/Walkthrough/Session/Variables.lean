import Walkthrough.Json.Writing
import Walkthrough.Session.Basic

/-!
# The variables of a session

Reading and writing variables leaves a line in the log; the values themselves are those of
`Variables`.
-/

namespace Walkthrough.Play

variable {σ : Type}

/-- Gives a variable a value. -/
def setVariable (name : String) (value : Json) : Play σ Unit := do
  modify fun session => { session with vars := session.vars.set name value }
  note .info .vars s!"Set {name} = {value.compact}"

/-- The value of a variable, or `default` if it has none. -/
def getVariable (name : String) (default : Json) : Play σ Json := do
  match (← get).vars.get? name with
  | none =>
    note .debug .vars s!"Get {name} -> <absent>"
    return default
  | some value =>
    note .debug .vars s!"Get {name} = {value.compact}"
    return value

/-- Takes a variable's value away. -/
def removeVariable (name : String) : Play σ Unit := do
  note .info .vars s!"Removing {name}"
  modify fun session => { session with vars := session.vars.remove name }

/-- Takes all values away and measures time from now. -/
def clearVariables [Outside σ] : Play σ Unit := do
  note .info .vars "Clearing all context data"
  let started ← clock
  modify fun session => { session with vars := { started } }

/-- The text with the values of given variables in place of placeholders. -/
def expandWith (vars : Variables) (text : String) : Play σ String := do
  match vars.expand text with
  | .error name => refuse (.undefinedVariable name none)
  | .ok expanded =>
    if expanded != text then
      note .debug .vars s!"Resolved placeholders: {text} -> {expanded}"
    return expanded

/-- The text with values in place of placeholders. -/
def expand (text : String) : Play σ String := do
  expandWith (← get).vars text

/-- Writes the name and the value of an entry into the log. -/
def noteEntries : List (String × Json) → Play σ Unit
  | [] => pure ()
  | (name, value) :: rest => do
    note .info .vars s!"{name}: {value.compact}"
    noteEntries rest

/-- Writes all variables into the log. -/
def noteVariables : Play σ Unit := do
  note .info .vars "=== Test Context Data ==="
  noteEntries (← get).vars.entries

/-- The seconds since the variables were last empty. -/
def elapsed [Outside σ] : Play σ Float := do
  return (← clock) - (← get).vars.started

end Walkthrough.Play
