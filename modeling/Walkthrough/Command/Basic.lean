import Walkthrough.Command.Words
import Walkthrough.Disk.Path

/-!
# Commands

What can be asked for in words: to run a prompt, to validate one, or to be told the version or how
to ask. The options that only tell something win over the rest, the first of them over the second.
-/

namespace Walkthrough

/-- What a run is asked to do. -/
structure RunOrder where
  prompt : Path := {}
  environment : Option String := none
  selfHealing : Option Bool := none
  headless : Option Bool := none
  junit : Option Path := none
  /-- The name of the form that the result is put out in. -/
  form : String := "text"

/-- Something that can be asked for. -/
inductive Command where
  | version
  | help
  | validate (prompt : Path) (strict : Bool)
  | run (order : RunOrder)

namespace Command

/-- The options in front of a command: which of those that only tell something came first. -/
def frontRules : List (OptionRule (Option Command)) := [
  ⟨["--version", "-V"], .flag (·.or (some version))⟩,
  ⟨["--help"], .flag (·.or (some help))⟩,
  ⟨["--verbose", "-v"], .flag id⟩]

/-- The choices for a command, unless its help is asked for. -/
structure Choices (α : Type) where
  helps : Bool := false
  order : α

/-- The option that asks for help. -/
def helpRule {α : Type} : OptionRule (Choices α) :=
  ⟨["--help"], .flag fun choices => { choices with helps := true }⟩

/-- An option that changes the order. -/
def flagRule {α : Type} (names : List String) (change : α → α) : OptionRule (Choices α) :=
  ⟨names, .flag fun choices => { choices with order := change choices.order }⟩

/-- An option with a value that changes the order. -/
def valueRule {α : Type} (names : List String) (change : String → α → α) :
    OptionRule (Choices α) :=
  ⟨names, .value fun value choices => { choices with order := change value choices.order }⟩

/-- The options for validating: whether to be strict. -/
def validateRules : List (OptionRule (Choices Bool)) := [
  helpRule,
  flagRule ["--strict"] fun _ => true]

/-- The options for running. -/
def runRules : List (OptionRule (Choices RunOrder)) := [
  helpRule,
  valueRule ["--env", "-e"] fun name order => { order with environment := some name },
  flagRule ["--self-healing"] fun order => { order with selfHealing := some true },
  flagRule ["--no-self-healing"] fun order => { order with selfHealing := some false },
  flagRule ["--headless"] fun order => { order with headless := some true },
  flagRule ["--no-headless"] fun order => { order with headless := some false },
  valueRule ["--junit-xml"] fun path order => { order with junit := some (.ofText path) },
  valueRule ["--output", "-o"] fun form order => { order with form },
  flagRule ["--verbose", "-v"] id]

/-- The command on one prompt that words ask for. -/
def onPrompt? {α : Type} (rules : List (OptionRule (Choices α))) (usual : α)
    (command : Path → α → Command) (words : List String) : Option Command := do
  let sorted ← OptionRule.sort rules true { order := usual } none words
  if sorted.choices.helps then some help
  else match sorted.arguments with
    | [prompt] => some (command (.ofText prompt) sorted.choices.order)
    | _ => none

/-- Whether the paths of a command can be asked for. -/
def isProper : Command → Bool
  | version | help => true
  | validate prompt _ => prompt.isProper
  | run order => order.prompt.isProper && order.junit.all Path.isProper

/-- The command on one prompt that words ask for, if its paths can be asked for. -/
def properOnPrompt? {α : Type} (rules : List (OptionRule (Choices α))) (usual : α)
    (command : Path → α → Command) (words : List String) : Option Command :=
  (onPrompt? rules usual command words).filter isProper

/-- The command that words ask for, if they ask for one. -/
def ofWords? (words : List String) : Option Command := do
  let sorted ← OptionRule.sort frontRules false none none words
  match sorted.choices, sorted.arguments with
  | some command, _ => some command
  | none, "validate" :: rest => properOnPrompt? validateRules false validate rest
  | none, "run" :: rest =>
    properOnPrompt? runRules {} (fun prompt order => run { order with prompt }) rest
  | none, _ => none

end Command

end Walkthrough
