import Walkthrough.Console.Markup
import Walkthrough.Console.Printed
import Walkthrough.Disk.Path
import Walkthrough.Report.Basic
import Walkthrough.Text.Lines

/-!
# The result of a run on the console

A line for each step with its error or notes, a table of what was healed, and a panel that sums up.
-/

namespace Walkthrough

/-- A text that is there and not empty. -/
def nonEmpty? (text : Option String) : Option String :=
  text.filter (· != "")

namespace StepReport

/-- The line of a step. -/
def headLine (total : Int) (report : StepReport) : Printed :=
  let icon := if report.passed then "[bold green]✓[/bold green]" else "[bold red]✗[/bold red]"
  let status := if report.passed then "[green]PASS[/green]" else "[red]FAIL[/red]"
  let seconds := report.seconds.fixed 1
  .plain (s!"  {icon} Step {report.ordinal}/{total}: {report.description}  {status}" ++
    s!"  [dim]{seconds}s  {report.action}[/dim]")

/-- The line below it: the error of a step that failed, else the notes if there are any. -/
def noteLines (report : StepReport) : List Printed :=
  match nonEmpty? report.error with
  | some error =>
    if report.passed then notes
    else
      let shown := Markup.escape (shortened 120 error)
      [.plain s!"    [dim red]{shown}[/dim red]"]
  | none => notes
where
  /-- The line of the notes. -/
  notes : List Printed :=
    if report.notes.isEmpty then []
    else
      let shown := Markup.escape report.notes
      [.plain s!"    [dim]{shown}[/dim]"]

/-- The lines of a step of so many. -/
def lines (total : Int) (report : StepReport) : List Printed :=
  report.headLine total :: report.noteLines

end StepReport

namespace RunResult

/-- The count of steps to show: that of the prompt, or that of the reports if it has none. -/
def shownTotal (result : RunResult) : Int :=
  match result.totalSteps with
  | some total => if total = 0 then result.stepReports.length else total
  | none => result.stepReports.length

/-- The table of healed references, if there are any. -/
def healingLines (result : RunResult) : List Printed :=
  if result.healingRecords.isEmpty then []
  else
    [.blank, .table "Healed Selectors" "yellow"
      [⟨"Original", "left", ""⟩, ⟨"Healed", "left", "bold"⟩, ⟨"Strategy", "left", ""⟩]
      (result.healingRecords.map fun record => [record.reference, record.healed, record.strategy])]

/-- The panel that sums a run up. -/
def summaryPanel (result : RunResult) (reportPath : Option Path) : Printed :=
  let verdict := if result.passed then "[bold green]ALL STEPS PASSED[/bold green]"
    else "[bold red]RUN FAILED[/bold red]"
  let total := match result.totalSteps with
    | some total => toString total
    | none => "None"
  let seconds := result.seconds.fixed 1
  let lines := [verdict, "",
    s!"  Steps:     {result.passedCount}/{total} passed",
    s!"  Healed:    {result.healingRecords.length}",
    s!"  Duration:  {seconds}s",
    s!"  Run ID:    {result.runId}"] ++
    reportPath.toList.map fun path => s!"  Report:    {path.text}"
  .panel ("\n".intercalate lines) none (if result.passed then "green" else "red")

/-- The panel with the space around it. -/
def summaryLines (result : RunResult) (reportPath : Option Path) : List Printed :=
  [.blank, result.summaryPanel reportPath, .blank]

/-- The lines of all steps. -/
def stepLines (result : RunResult) : List Printed :=
  result.stepReports.flatMap (StepReport.lines result.shownTotal)

/-- The lines of a result without a fault, if its durations can be shown. -/
def checkedLines (result : RunResult) (reportPath : Option Path) :
    Except ShowFault (List Printed) := do
  checkDurations result.durations
  return result.stepLines ++ result.healingLines ++ result.summaryLines reportPath

end RunResult

end Walkthrough
