import Walkthrough.Console.Printed
import Walkthrough.Fault
import Walkthrough.Outside.Call
import Walkthrough.Report.Basic
import Walkthrough.Variables

/-!
# Sessions

The state of one run: the outside world with the calls made to it, the log, the variables, and what
is known of the API, the page, the prompt and its reports. A `Play` is an action on a session; a
fault stops it but keeps the session as it is by then.
-/

namespace Walkthrough

/-- How much a line of the log matters. -/
inductive LogLevel where
  | debug
  | info
  | warning
  | error
  deriving DecidableEq

/-- The part of the program that a line of the log comes from. -/
inductive LogSource where
  | vars
  | api
  | healing
  | page
  | steps
  | command
  deriving DecidableEq

/-- A line of the log. -/
structure LogLine where
  level : LogLevel
  source : LogSource
  message : String
  deriving DecidableEq

/-- The API that a run talks to. -/
structure Client where
  /-- The address that relative endpoints are joined to, without a slash at its end. -/
  baseUrl : String := ""
  timeout : Number := .int 30
  /-- The client's own variables, if it does not share those of the run. -/
  own : Option Variables := none

/-- How a run drives its page. -/
structure PageSettings where
  timeout : Int := 30000
  screenshotDir : Option Path := none

/-- What of the browser is open. -/
structure Browser where
  driver : Bool := false
  browser : Bool := false
  context : Bool := false
  page : Bool := false
  deriving DecidableEq

/-- The state of a run in a world of type `σ`. -/
structure Session (σ : Type) where
  outside : σ
  calls : List Call := []
  log : List LogLine := []
  vars : Variables := {}
  client : Client := {}
  page : Option PageSettings := none
  healer : Option Healer := none
  browser : Browser := {}
  disk : Disk := {}
  document : Document := {}
  reports : List StepReport := []
  selfHealing : Bool := false
  console : List Printed := []
  /-- What is put out besides the console, for other programs to read. -/
  output : String := ""

/-- An action on a session, which ends with a value or a fault. -/
abbrev Play (σ : Type) := ExceptT Fault (StateM (Session σ))

namespace Play

variable {σ α : Type}

/-- Does `handler` on a fault other than an interrupt; what was done up to the fault stays done. -/
def recover (play : Play σ α) (handler : Fault → Play σ α) : Play σ α :=
  fun session =>
    match play session with
    | (.error fault, after) =>
      if fault.isInterrupt then (.error fault, after) else handler fault after
    | (.ok value, after) => (.ok value, after)

/-- How a play ends: with a value, or with a fault other than an interrupt. -/
def outcome (play : Play σ α) : Play σ (Except Fault α) :=
  recover (do return .ok (← play)) fun fault => pure (.error fault)

/-- The value of a play, or nothing if it ends with a fault other than an interrupt. -/
def value? (play : Play σ α) : Play σ (Option α) :=
  recover (do return some (← play)) fun _ => pure none

/-- How a play ends: with a value, or with a fault of any kind, interrupts among them. -/
def ending (play : Play σ α) : Play σ (Except Fault α) :=
  fun session =>
    match play session with
    | (ended, after) => (.ok ended, after)

/-- Does something after a play, whether it ends with a value or a fault. -/
def thenAlways (play : Play σ α) (last : Play σ Unit) : Play σ α :=
  fun session =>
    match play session with
    | (.ok value, after) => (do last; return value : Play σ α) after
    | (.error fault, after) => (do last; throw fault : Play σ α) after

/-- Writes a line into the log. -/
def note (level : LogLevel) (source : LogSource) (message : String) : Play σ Unit :=
  modify fun session => { session with log := session.log ++ [⟨level, source, message⟩] }

/-- Prints on the console. -/
def print (printed : Printed) : Play σ Unit :=
  modify fun session => { session with console := session.console ++ [printed] }

/-- Prints several things on the console, one after the other. -/
def printAll (lines : List Printed) : Play σ Unit :=
  modify fun session => { session with console := session.console ++ lines }

/-- Puts a text out for other programs to read. -/
def putOut (text : String) : Play σ Unit :=
  modify fun session => { session with output := session.output ++ text }

/-- Stops at a step that cannot be carried out. -/
def refuse (cause : StepFault) : Play σ α :=
  throw (.step cause none)

variable [Outside σ]

/-- Makes a call to the outside world. -/
def ask (call : Call) : Play σ call.Answer :=
  fun session =>
    let (answer, outside) := Outside.reply call session.outside
    let calls := if call.isTraced then session.calls ++ [call] else session.calls
    (answer.mapError .outside, { session with outside, calls })

/-- Does something to the elements of a locator. -/
def act (locator : Locator) (act : ElementAct) : Play σ act.Answer :=
  ask (.element locator act)

/-- The locator itself, once the page has made it. -/
def locate (locator : Locator) : Play σ Locator := do
  ask (.locate locator)
  return locator

/-- The seconds on the clock. -/
def clock : Play σ Float := do
  return Outside.clock (← get).outside

/-- The date and time. -/
def now : Play σ Instant := do
  return Outside.now (← get).outside

/-- What tells this run apart from others of the same second. -/
def mark : Play σ String := do
  return Outside.mark (← get).outside

end Play

end Walkthrough
