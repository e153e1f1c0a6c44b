import Walkthrough.Page.Lookup
import Walkthrough.Prompt.File

/-!
# Loading a prompt

A prompt that is loaded takes the place of the one before, and the reports start anew. Its directive
can switch healing on, but not off.
-/

namespace Walkthrough.Play

variable {σ : Type}

/-- Switches healing on. -/
def enableHealing : Play σ Unit := do
  modify fun session => { session with selfHealing := true }
  attachHealer
  note .info .steps "Self-healing ENABLED"

/-- Writes the lines that belong to no step into the log. -/
def noteMisses : List Miss → Play σ Unit
  | [] => pure ()
  | miss :: rest => do
    note .debug .steps s!"Line {miss.lineNumber} ignored ({Miss.reason}): {miss.text}"
    noteMisses rest

/-- Makes a document the prompt of the session. -/
def load (document : Document) : Play σ Document := do
  modify fun session => { session with document, reports := [] }
  if document.selfHealing = some true && !(← get).selfHealing then
    note .info .steps "Self-Healing detected in prompt: ENABLED"
    enableHealing
  noteMisses document.misses
  note .info .steps s!"Parsed {document.steps.length} steps"
  return document

/-- Loads a prompt from its text. -/
def loadText (text : String) : Play σ Document := do
  match Document.ofText text with
  | .ok document => load document
  | .error fault => throw (.load (.longOrdinal fault))

/-- Loads a prompt from its file; `name` is how the log calls it. -/
def loadFile (name : String) (path : Path) : Play σ Document := do
  note .info .steps s!"Loading prompt: {name}"
  match (← get).disk.document path with
  | .ok document => load document
  | .error fault => throw (.load fault)

end Walkthrough.Play
