import Walkthrough.Steps.Interaction
import Walkthrough.Steps.Loading
import Walkthrough.Steps.Request

/-!
# Executing steps

Steps are carried out one after the other, in the order of the prompt. Each leaves a report, and the
first that fails ends the run; an interrupt ends it without a report of the step it falls into.
-/

namespace Walkthrough.Play

variable {σ : Type}

/-- The record of healing in words; without a healer there is none. -/
def healingSummary : Play σ (List String) := do
  match (← get).healer with
  | some healer => return Healer.summary healer.records
  | none => return []

/-- Writes the record of healing into the log. -/
def noteHealing : List String → Play σ Unit
  | [] => pure ()
  | line :: rest => do
    note .info .steps s!"[Self-Healing] {line}"
    noteHealing rest

/-- Adds the report of a step. -/
def addReport (report : StepReport) : Play σ Unit :=
  modify fun session => { session with reports := session.reports ++ [report] }

variable [Outside σ]

/-- Carries out a step by its action, and notes how. -/
def carryOut (step : Step) : Play σ String :=
  match step.action with
  | .apiLogin | .apiGet => carryOutRead step.details
  | .apiCreate | .apiPost => carryOutCreate step.details
  | .apiDelete => carryOutDelete step.details
  | .uiNavigate => carryOutNavigate step.details
  | .uiLogin => carryOutLogin step.details
  | .uiClick => carryOutClick step.details
  | .uiVerify => carryOutVerify step
  | .unknown => do
    note .warning .steps s!"Unknown action type for step {step.ordinal}: {step.description}"
    return "skipped: unknown action"

/-- The report of a step that began at `start`, so far without an outcome. -/
def reportSince (start : Float) (step : Step) (passed : Bool) (error : Option String)
    (notes : String) : Play σ StepReport := do
  return {
    ordinal := step.ordinal
    description := step.description
    action := step.action.name
    passed
    seconds := .float (Decimal.roundTo 2 ((← clock) - start))
    error
    notes }

/-- Reports a step that failed, and goes on failing. -/
def failStep (start : Float) (step : Step) (fault : Fault) : Play σ StepReport := do
  let fault := fault.inStep step
  let report ← reportSince start step false (some fault.message) ""
  note .error .steps s!"[Step {step.ordinal}] Failed: {fault.message}"
  addReport report
  throw fault

/-- Reports a step that passed. -/
def passStep (start : Float) (step : Step) (notes : String) : Play σ StepReport := do
  let report ← reportSince start step true none notes
  addReport report
  note .info .steps s!"[Step {step.ordinal}] Completed"
  return report

/-- Executes a step. -/
def executeStep (step : Step) : Play σ StepReport := do
  note .info .steps s!"[Step {step.ordinal}] {step.description}"
  note .info .steps s!"[Action] {step.action.name}"
  let start ← clock
  match ← outcome (carryOut step) with
  | .error fault => failStep start step fault
  | .ok notes => passStep start step notes

/-- Executes steps in order. -/
def executeSteps : List Step → Play σ Unit
  | [] => pure ()
  | step :: rest => do
    let _ ← executeStep step
    executeSteps rest

/-- Executes the prompt of the session; all reports since it was loaded. -/
def execute : Play σ (List StepReport) := do
  note .info .steps "=== Starting Prompt Execution ==="
  thenAlways
    (do
      executeSteps (← get).document.steps
      note .info .steps "=== Prompt Execution Complete ===")
    (do
      noteVariables
      noteHealing (← healingSummary))
  return (← get).reports

end Walkthrough.Play
