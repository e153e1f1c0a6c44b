import Walkthrough.Command.Run
import Walkthrough.Command.Validation

/-!
# Performing a command

Words are read as a command and the command is performed. Words that ask for nothing end with the
exit code 2, an interrupt that nothing answers with 130, and any other such fault with 1.
-/

namespace Walkthrough

/-- The exit code for words that are no command. -/
def misuseCode : Nat := 2

/-- The exit code for a fault that nothing answered. -/
def Fault.exitCode (fault : Fault) : Nat :=
  if fault.isInterrupt then 130 else 1

/-- What is told of the version. -/
def versionLines : List Printed :=
  [.line "promptqa" (some "bold cyan"),
    .line "  Plain-language prompts in, API + UI checks out." (some "dim"),
    .line "  v0.1.0\n" (some "bold")]

namespace Play

variable {σ : Type} [Outside σ]

/-- Performs a command; `usual` is the environment if nothing names one. The exit code. -/
def perform (command : Command) (usual : String) : Play σ Nat := do
  match command with
  | .version =>
    printAll versionLines
    return 0
  | .help => return 0
  | .validate prompt strict => validate prompt strict
  | .run order => run order usual

/-- Performs the command that words ask for; the exit code. -/
def performWords (words : List String) (usual : String) : Play σ Nat := do
  match Command.ofWords? words with
  | some command => perform command usual
  | none => return misuseCode

end Play

end Walkthrough
