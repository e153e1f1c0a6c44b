import Walkthrough.Console.Printed
import Walkthrough.Prompt.Issue

/-!
# A prompt on the console

The table of its steps, and its issues, the worst first.
-/

namespace Walkthrough

/-- The fields of a step in words; a password is not shown. -/
def Details.summary (details : Details) : String :=
  ", ".intercalate (details.fields.map fun (name, value) =>
    let shown := if name = "password" then "***" else value
    s!"{name}={shown}")

/-- The row of a step. -/
def Step.row (step : Step) : List String :=
  [toString step.ordinal,
    if step.action = .unknown then s!"[yellow]{step.action.name}[/yellow]" else step.action.name,
    step.description, step.details.summary]

/-- The table of the steps of a document. -/
def Document.table (document : Document) : Printed :=
  .table "Parsed Steps" "cyan"
    [⟨"#", "right", ""⟩, ⟨"Action", "left", "bold"⟩, ⟨"Description", "left", ""⟩,
      ⟨"Details", "left", "dim"⟩]
    (document.steps.map Step.row)

/-- The label of a severity. -/
def Severity.label : Severity → String
  | error => "[bold red]ERROR[/bold red]"
  | warning => "[yellow]WARN[/yellow]"
  | info => "[dim]INFO[/dim]"
  | other word => word

/-- The line of an issue. -/
def Issue.line (issue : Issue) : Printed :=
  let place := if issue.place.isEmpty then "" else s!"[dim] ({issue.place})[/dim]"
  .plain s!"      {issue.severity.label}{place}  {issue.message}"

/-- The lines of issues, the worst first and else in their order. -/
def Issue.lines (issues : List Issue) : List Printed :=
  (issues.mergeSort fun a b => a.severity.rank ≤ b.severity.rank).map Issue.line

end Walkthrough
