import Walkthrough.Disk.Basic
import Walkthrough.Json.Reading
import Walkthrough.Outside.Mishap
import Walkthrough.Prompt.Document
import Walkthrough.Settings.Basic

/-!
# Faults

Why a run, a step or a look-up stops. A fault of a step names the step once it is known; all faults
but an interrupt may be answered by a fallback.
-/

namespace Walkthrough

/-- Why a step cannot be carried out. -/
inductive StepFault where
  /-- For a reason without a name of its own. -/
  | failed (message : String)
  /-- An API step has no usable endpoint. -/
  | missingEndpoint (message : String)
  /-- There is nothing to navigate to or to click. -/
  | missingTarget (message : String)
  /-- A login lacks a name or a password. -/
  | missingCredentials (message : String)
  /-- A page is needed and the run has none. -/
  | noPage (message : String)
  /-- Something expected is not on the page. -/
  | unmet (message : String)
  /-- A variable has no value; `message` takes the place of the usual wording unless it is empty. -/
  | undefinedVariable (name : String) (message : Option String)
  /-- Neither a reference nor any fallback leads to an element. -/
  | unresolved (description reference : String)
  deriving DecidableEq

/-- What a fault of a step says. -/
def StepFault.message : StepFault → String
  | failed message | missingEndpoint message | missingTarget message | missingCredentials message
  | noPage message | unmet message => message
  | undefinedVariable name message =>
    match message with
    | some message => if message.isEmpty then usual name else message
    | none => usual name
  | unresolved description reference =>
    "Failed to locate element: \"" ++ description ++ "\" using selector: \"" ++ reference ++
      "\" and all fallback strategies"
where
  /-- The usual wording for a variable without a value. -/
  usual (name : String) : String := s!"Variable {name} not found in test context"

/-- What a fault of a step says once its step is known. -/
def StepFault.located (fault : StepFault) : Option Step → String
  | none => fault.message
  | some step =>
    s!"[Step {step.ordinal}: {step.description} ({step.action.name})] {fault.message}"

/-- Why a prompt file gives no document. -/
inductive LoadFault where
  | missing (path : Path)
  | unreadable (path : Path) (reason : String)
  /-- The disk does not even say whether there is a file. -/
  | refused (fault : DiskFault)
  | undecodable (fault : Utf8.Fault)
  | longOrdinal (fault : LongOrdinal)

namespace LoadFault

/-- What a fault of loading says. -/
def message : LoadFault → String
  | missing path => s!"Prompt file not found: {path.text}"
  | unreadable path reason => s!"Cannot read prompt file {path.text}: {reason}"
  | refused fault => fault.message
  | undecodable fault => fault.message
  | longOrdinal fault => fault.message

/-- Whether the file itself is at fault, and not what is in it. -/
def isOfFile : LoadFault → Bool
  | missing _ | unreadable _ _ => true
  | refused _ | undecodable _ | longOrdinal _ => false

end LoadFault

/-- Why something stops. -/
inductive Fault where
  /-- A step cannot be carried out; `place` is the step once it is known. -/
  | step (cause : StepFault) (place : Option Step)
  /-- A prompt cannot be loaded. -/
  | load (cause : LoadFault)
  /-- The outside world fails or interrupts. -/
  | outside (mishap : Mishap)
  /-- The disk refuses. -/
  | disk (fault : DiskFault)
  /-- A text cannot be written into a file. -/
  | unwritable (fault : Utf8.Unwritable)
  /-- A project gives no settings. -/
  | settings (fault : SettingsFault)
  /-- The browser is asked for a page before it is started. -/
  | notStarted
  /-- A strategy proposes nothing by its nature. -/
  | proposesNothing
  /-- The body of an answer is nested too deep. -/
  | tooDeep (collection : Json.Collection)
  /-- The address of the API is no text but something of another kind. -/
  | addressKind (kind : String)

namespace Fault

/-- What a fault says. -/
def message : Fault → String
  | step cause place => cause.located place
  | load cause => cause.message
  | outside mishap => mishap.message
  | disk fault => fault.message
  | unwritable fault => fault.message
  | settings fault => fault.message
  | notStarted => "Browser session not started -- call start() first"
  | proposesNothing => ""
  | tooDeep collection => collection.tooDeepMessage
  | addressKind kind => s!"'{kind}' object has no attribute 'rstrip'"

/-- Whether a fault is an interrupt, which no fallback answers. -/
def isInterrupt : Fault → Bool
  | outside (.interrupt _) => true
  | _ => false

/-- Whether a fault is a refusal of the disk. -/
def isRefusal : Fault → Bool
  | disk fault => fault.isRefusal
  | _ => false

/-- Whether a fault is one of a step. -/
def isStepFault : Fault → Bool
  | step _ _ => true
  | _ => false

/-- The fault with its step named, if it is one of a step that has none yet. -/
def inStep (fault : Fault) (place : Step) : Fault :=
  match fault with
  | step cause none => step cause (some place)
  | other => other

end Fault

end Walkthrough
