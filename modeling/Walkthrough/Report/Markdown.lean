import Walkthrough.Json.Writing
import Walkthrough.Report.Basic
import Walkthrough.Text.Lines

/-!
# The report of a run

The report is written in Markdown: a header, a summary, a table of the steps, what was healed, and
the variables at the end. A text in a table is put on one line, and its bars are escaped.
-/

namespace Walkthrough

namespace Markdown

/-- A text with a backslash before each bar. -/
def escapeBars (s : List Char) : List Char :=
  s.flatMap fun c => if c == '|' then ['\\', '|'] else [c]

/-- The words of a text on one line. -/
def oneLine (text : String) : String :=
  " ".intercalate (wordsOf text)

/-- A text as the cell of a table. -/
def cell (text : String) : String :=
  String.ofList (escapeBars (oneLine text).toList)

/-- The cells of a row with bars around them. -/
def row (cells : List String) : String :=
  "| " ++ " | ".intercalate cells ++ " |"

/-- Notes on one line, cut to a length that leaves the table readable. -/
def noteText (text : String) : String :=
  shortened 80 (oneLine text)

end Markdown

open Markdown

namespace StepReport

/-- What is noted of a step: its error if it has one, else its notes. -/
def remark (report : StepReport) : String :=
  (report.error.filter (· != "")).getD report.notes

/-- The word for how a step ended. -/
def verdict (report : StepReport) : String :=
  if report.passed then "PASS" else "FAIL"

/-- The row of a step. -/
def markdownRow (report : StepReport) : String :=
  row [toString report.ordinal, report.action, cell report.description, report.verdict,
    report.seconds.fixed 1 ++ "s", cell (noteText report.remark)]

end StepReport

/-- The row of a healing with its number. -/
def HealingRecord.markdownRow (index : Nat) (record : HealingRecord) : String :=
  row [toString index, s!"\x60{cell record.reference}\x60", s!"\x60{cell record.healed}\x60",
    record.strategy, record.time.isoSeconds]

namespace RunResult

/-- The header of the report. -/
def markdownHeader (result : RunResult) : String :=
  "\n".intercalate [
    s!"# promptqa Report: {result.promptName}",
    "",
    s!"**Run ID:** {result.runId}",
    s!"**Environment:** {result.environment}",
    "**Self-Healing:** " ++ (if result.selfHealing then "enabled" else "disabled"),
    s!"**Date:** {result.startTime}",
    "**Verdict:** " ++ (if result.passed then "PASS" else "FAIL")]

/-- The count of steps of the prompt. -/
def stepCount (result : RunResult) : Int :=
  result.totalSteps.getD result.stepReports.length

/-- The count of steps that were not reached. -/
def notRun (result : RunResult) : Int :=
  max (result.stepCount - result.stepReports.length) 0

/-- The summary of the report. -/
def markdownSummary (result : RunResult) : String :=
  let notRun := if result.notRun = 0 then [] else [s!"- Not run: {result.notRun}"]
  "\n".intercalate (["## Summary", s!"- Steps: {result.passedCount}/{result.stepCount} passed"] ++
    notRun ++ [s!"- Healed selectors: {result.healingRecords.length}",
      "- Duration: " ++ result.seconds.fixed 1 ++ "s"])

/-- The table of the steps. -/
def markdownSteps (result : RunResult) : String :=
  "\n".intercalate (["## Step Results",
    "| Step | Action | Description | Result | Duration | Notes |",
    "|------|--------|-------------|--------|----------|-------|"] ++
    result.stepReports.map StepReport.markdownRow)

/-- The rows of healings, numbered from `index` on. -/
def healingRows (index : Nat) : List HealingRecord → List String
  | [] => []
  | record :: rest => record.markdownRow index :: healingRows (index + 1) rest

/-- What was healed. -/
def markdownHealing (result : RunResult) : String :=
  if result.healingRecords.isEmpty then "## Self-Healing\n\nNo selector healing occurred."
  else
    "\n".intercalate (["## Self-Healing",
      "| # | Original | Healed | Strategy | Time |",
      "|---|----------|--------|----------|------|"] ++ healingRows 1 result.healingRecords)

/-- The variables at the end of the run. -/
def markdownVariables (result : RunResult) : String :=
  if result.vars.isEmpty then "## Test Context\n\nNo variables stored."
  else
    "\n".intercalate (["## Test Context", ""] ++ result.vars.map fun (name, value) =>
      s!"- **{name}**: \x60{value.compact}\x60")

/-- The report of a run. -/
def markdown (result : RunResult) : String :=
  "\n\n".intercalate [result.markdownHeader, result.markdownSummary, result.markdownSteps,
    result.markdownHealing, result.markdownVariables]

/-- The report of a run, if its durations can be shown. -/
def checkedMarkdown (result : RunResult) : Except ShowFault String := do
  checkDurations result.durations
  return result.markdown

end RunResult

end Walkthrough
