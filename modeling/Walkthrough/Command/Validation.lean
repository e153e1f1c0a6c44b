import Walkthrough.Console.Prompt
import Walkthrough.Prompt.File
import Walkthrough.Session.Basic

/-!
# Validating a prompt

A prompt is shown with what can be said against it, and nothing is run. An error fails the
validation; a warning does so only if validation is strict.
-/

namespace Walkthrough

/-- How a validation ends: what it says last, and its exit code. -/
structure Verdict where
  panel : Printed
  code : Nat

/-- The verdict on a document with so many errors and warnings. -/
def Document.verdict (document : Document) (strict : Bool) (errors warnings : Nat) : Verdict :=
  if 0 < errors then
    ⟨.panel (s!"[bold red]Validation failed.[/bold red]  {errors} error(s), " ++
      s!"{warnings} warning(s)\n\nFix the errors above before running the prompt.") none "red", 1⟩
  else if warnings = 0 then
    ⟨.panel (s!"[bold green]{document.steps.length} step(s) parsed. " ++
      "No errors or warnings.[/bold green]") none "green", 0⟩
  else if strict then
    ⟨.panel ("[bold yellow]Validation warnings found (--strict mode).[/bold yellow]  " ++
      s!"{warnings} warning(s)") none "yellow", 1⟩
  else
    ⟨.panel (s!"[yellow]Validation passed with {warnings} warning(s).[/yellow]  " ++
      "Use [bold]--strict[/bold] to fail on warnings.") none "yellow", 0⟩

/-- The word for what a document says of healing. -/
def Document.healingWord (document : Document) : String :=
  match document.selfHealing with
  | some true => "YES"
  | some false => "NO"
  | none => "not set"

/-- What is shown of a document before the verdict. -/
def Document.overview (document : Document) : List Printed :=
  (if document.steps.isEmpty then [] else [document.table]) ++
    .plain s!"  [dim]Self-Healing directive:[/dim] {document.healingWord}" ::
    Issue.lines document.issues ++ [.blank]

namespace Play

variable {σ : Type}

/-- Shows a document and what can be said against it; the exit code. -/
def showValidation (document : Document) (strict : Bool) : Play σ Nat := do
  let issues := document.issues
  let verdict := document.verdict strict (countOf .error issues) (countOf .warning issues)
  printAll (document.overview ++ [verdict.panel])
  return verdict.code

/-- Validates the prompt in a file; the exit code. -/
def validate (prompt : Path) (strict : Bool) : Play σ Nat := do
  match (← get).disk.document prompt with
  | .ok document => showValidation document strict
  | .error cause =>
    if cause.isOfFile then
      print (.alarm "Prompt Not Found" s!"[red]{cause.message}[/red]")
      return 2
    else throw (.load cause)

end Play

end Walkthrough
