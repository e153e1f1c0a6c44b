import Walkthrough.Decimal.Length
import Walkthrough.Decimal.Number
import Walkthrough.Healing.Basic
import Walkthrough.Json.Basic

/-!
# Reports

What is reported of a step and of a whole run.
-/

namespace Walkthrough

/-- The report of a step that was carried out, or tried. -/
structure StepReport where
  ordinal : Int
  description : String
  action : String
  passed : Bool
  seconds : Number
  error : Option String := none
  notes : String := ""

/-- The result of a run. -/
structure RunResult where
  runId : String
  promptName : String
  environment : String
  passed : Bool
  startTime : String
  endTime : String
  seconds : Number
  stepReports : List StepReport
  healingRecords : List HealingRecord := []
  vars : List (String × Json) := []
  selfHealing : Bool := false
  /-- The count of steps in the prompt, of which the reports may cover only the first. -/
  totalSteps : Option Int := none

/-- Why a result cannot be shown. -/
inductive ShowFault where
  /-- A duration is a whole number beyond the largest double. -/
  | longDuration
  deriving DecidableEq

/-- What a fault of showing says. -/
def ShowFault.message : ShowFault → String
  | longDuration => Decimal.tooLargeMessage

/-- Refuses durations that cannot be shown. -/
def checkDurations (durations : List Number) : Except ShowFault Unit :=
  if durations.any Number.isTooLarge then .error .longDuration else .ok ()

/-- All durations of a result. -/
def RunResult.durations (result : RunResult) : List Number :=
  result.seconds :: result.stepReports.map (·.seconds)

/-- The count of steps that passed. -/
def RunResult.passedCount (result : RunResult) : Nat :=
  (result.stepReports.filter (·.passed)).length

end Walkthrough
