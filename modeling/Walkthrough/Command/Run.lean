import Walkthrough.Api.Client
import Walkthrough.Command.Basic
import Walkthrough.Console.Result
import Walkthrough.Page.Screenshot
import Walkthrough.Report.Junit
import Walkthrough.Report.Markdown
import Walkthrough.Report.Record
import Walkthrough.Session.Browser
import Walkthrough.Settings.Project
import Walkthrough.Steps.Execution

/-!
# Running a prompt

A run opens the browser, executes the prompt, and closes browser and API again whatever happened in
between. It then writes its report, shows its result, and writes a test suite if one is asked for.
The exit code is 0 if every step passed, 2 if the run could not start for want of settings or a
prompt, and else 1.
-/

namespace Walkthrough

/-- What a run wants besides the settings of the project. -/
def RunOrder.wishes (order : RunOrder) : Settings.Wishes where
  environment := order.environment
  headless := order.headless
  selfHealing := order.selfHealing

/-- The form that the result of a run is put out in. -/
inductive OutputForm where
  | text
  | json
  deriving DecidableEq

/-- The form of a name. -/
def OutputForm.ofName? (name : String) : Option OutputForm :=
  if name = "text" then some text
  else if name = "json" then some json
  else none

/-- A run that has its settings and can start. -/
structure RunPlan where
  settings : Settings
  prompt : Path
  runId : String
  form : OutputForm
  junit : Option Path

namespace RunPlan

/-- The directory for what the run leaves behind. -/
def directory (plan : RunPlan) : Path :=
  plan.settings.evidenceDir.child plan.runId

/-- An address in words. -/
def addressText (address : Yaml) : Except Fault String :=
  (Coercion.text address).mapError fun fault => .settings (.value fault)

/-- The header of a run in words. -/
def header (plan : RunPlan) : Except Fault (List Printed) := do
  let pages ← addressText plan.settings.baseUrl
  let api ← addressText plan.settings.apiBaseUrl
  let headless := (Yaml.bool plan.settings.headless).display
  return [.blank,
    .panel ("\n".intercalate [
      s!"[bold]Prompt:[/bold]        {plan.prompt.text}",
      s!"[bold]Environment:[/bold]   {plan.settings.environment}",
      s!"[bold]Base URL:[/bold]      {pages}",
      s!"[bold]API URL:[/bold]       {api}",
      s!"[bold]Headless:[/bold]      {headless}",
      s!"[bold]Run ID:[/bold]        {plan.runId}"]) (some "[bold cyan]promptqa Run[/bold cyan]")
      "cyan",
    .blank]

/-- The client that the settings ask for. -/
def client (plan : RunPlan) : Except Fault Client :=
  match plan.settings.apiBaseUrl with
  | .text address => .ok (Client.ofAddress address plan.settings.apiTimeout)
  | other => .error (.addressKind other.kind)

/-- The browser that the settings ask for. -/
def browser (plan : RunPlan) : BrowserSettings where
  headless := plan.settings.headless
  slowMo := plan.settings.slowMo
  width := plan.settings.width
  height := plan.settings.height
  timeout := plan.settings.timeout

/-- How the run drives its page. -/
def page (plan : RunPlan) : PageSettings where
  timeout := plan.settings.timeout
  screenshotDir := some plan.directory

/-- The result of a run from its session. -/
def result {σ : Type} (plan : RunPlan) (session : Session σ) (passed : Bool)
    (started ended : Instant) (seconds : Float) : RunResult where
  runId := plan.runId
  promptName := plan.prompt.stem
  environment := plan.settings.environment
  passed
  startTime := started.isoSeconds
  endTime := ended.isoSeconds
  seconds := .float (Decimal.roundTo 2 seconds)
  stepReports := session.reports
  healingRecords := (session.healer.map (·.records)).getD []
  vars := session.vars.entries
  selfHealing := if session.page.isSome then session.selfHealing else plan.settings.selfHealing
  totalSteps := some session.document.steps.length

end RunPlan

/-- What is shown of the fault that ended a run. -/
def Fault.panelLines (fault : Fault) : List Printed :=
  let shown := Markup.escape fault.message
  if fault.isStepFault then [.blank, .alarm "Step Failed" s!"[red]{shown}[/red]"]
  else
    [.alarm "Infrastructure Error" (s!"[red]Unexpected error:[/red] {shown}\n\n" ++
      "Run with [bold]--verbose[/bold] for full traceback.")]

/-- What is shown of the result of a run. -/
def RunResult.lines (result : RunResult) (failure : Option Fault) (reportPath : Option Path) :
    List Printed :=
  result.stepLines ++ failure.toList.flatMap Fault.panelLines ++ result.healingLines ++
    result.summaryLines reportPath

namespace Play

variable {σ : Type}

/-- Prints lines if the run is put out as text. -/
def printText (plan : RunPlan) (lines : List Printed) : Play σ Unit := do
  if plan.form = .text then printAll lines

/-- Shows the header of a run if the run is put out as text. -/
def showHeader (plan : RunPlan) : Play σ Unit := do
  if plan.form = .text then
    match plan.header with
    | .ok lines => printAll lines
    | .error fault => throw fault

/-- Writes octets into a file. -/
def writeOctets (path : Path) (octets : List UInt8) : Play σ Unit := do
  let session ← get
  match session.disk.write path octets with
  | .ok disk => set { session with disk }
  | .error fault => throw (.disk fault)

/-- Writes a text into a file, which is left empty by a text that cannot be written. -/
def writeFile (path : Path) (text : String) : Play σ Unit := do
  writeOctets path []
  match Utf8.unwritable? text with
  | some fault => throw (.unwritable fault)
  | none => writeOctets path (Utf8.encode text)

/-- Does `handler` if the disk refuses. -/
def unlessRefused {α : Type} (play : Play σ α) (handler : Fault → Play σ α) : Play σ α :=
  recover play fun fault => if fault.isRefusal then handler fault else throw fault

/-- Writes the report of a run; its path, or nothing if it cannot be written. -/
def saveReport (plan : RunPlan) (result : RunResult) : Play σ (Option Path) :=
  let path := plan.directory.child "report.md"
  unlessRefused
    (do
      makeDirectory plan.directory
      writeFile path result.markdown
      return some path)
    fun fault => do
      print (.plain s!"[yellow]Warning: Failed to write report: {fault.message}[/yellow]")
      return none

/-- Writes the test suite of a run. -/
def saveSuite (plan : RunPlan) (result : RunResult) (path : Path) : Play σ Unit :=
  unlessRefused
    (do
      writeFile path
        (testSuite result.promptName result.seconds result.stepReports).document
      printText plan [.plain s!"[dim]JUnit XML written to: {path.text}[/dim]\n"])
    fun fault =>
      print (.plain s!"[yellow]Warning: Failed to write JUnit XML: {fault.message}[/yellow]")

/-- Shows the result of a run in its form. -/
def showResult (plan : RunPlan) (result : RunResult) (failure : Option Fault)
    (reportPath : Option Path) : Play σ Unit :=
  match plan.form with
  | .json => putOut ((result.toJson reportPath).indented ++ "\n")
  | .text => printAll (result.lines failure reportPath)

/-- Writes and shows what a run leaves behind; the exit code. -/
def deliver (plan : RunPlan) (result : RunResult) (failure : Option Fault) : Play σ Nat := do
  let reportPath ← saveReport plan result
  showResult plan result failure reportPath
  match plan.junit with
  | some path => saveSuite plan result path
  | none => pure ()
  return if result.passed then 0 else 1

/-- Complains of settings or of a prompt that a run cannot start with; the exit code. -/
def complain (title message : String) : Play σ Nat := do
  print (.alarm title s!"[red]{Markup.escape message}[/red]")
  return 2

variable [Outside σ]

/-- Forgets what is known of a run before. -/
def startAfresh : Play σ Unit := do
  let started ← clock
  modify fun session => {
    session with
    vars := { started }
    page := none
    healer := none
    browser := {}
    document := {}
    reports := []
    selfHealing := false }

/-- Opens the browser, loads the prompt and executes it. -/
def performPrompt (plan : RunPlan) : Play σ Unit := do
  openBrowser plan.browser
  modify fun session => { session with page := some plan.page }
  if plan.settings.selfHealing then enableHealing
  let document ← loadFile plan.prompt.text plan.prompt
  printText plan [.plain s!"[bold]Running {document.steps.length} step(s)...[/bold]\n"]
  let _ ← execute

/-- Closes the browser and the API. -/
def closeDown : Play σ Unit := do
  closeBrowser
  closeClient

/-- Takes a screenshot of a failure if there is a page to take it of. -/
def captureFailure (plan : RunPlan) : Play σ Unit := do
  if plan.settings.screenshotOnFailure && (← get).page.isSome then
    recover (do let _ ← takeScreenshot "failure") fun fault =>
      note .warning .command s!"Failure screenshot not captured: {fault.message}"

/-- The result of a run that has just ended, passed or with a failure. -/
def summarize (plan : RunPlan) (started : Instant) (start : Float) (failure : Option Fault) :
    Play σ RunResult := do
  if failure.isSome then captureFailure plan
  let seconds := (← clock) - start
  return plan.result (← get) failure.isNone started (← now) seconds

/-- Ends a run that passed or failed; the exit code. -/
def conclude (plan : RunPlan) (started : Instant) (start : Float) (failure : Option Fault) :
    Play σ Nat := do
  let result ← thenAlways (summarize plan started start failure) closeDown
  deliver plan result failure

/-- Ends a run that was interrupted; the exit code. -/
def concludeInterrupted : Play σ Nat := do
  print (.plain "\n[yellow]Run interrupted by user.[/yellow]")
  closeDown
  return 1

/-- Ends a run whose prompt file is at fault; the exit code. -/
def concludeWithoutPrompt (cause : LoadFault) : Play σ Nat := do
  closeDown
  complain "Prompt Error" cause.message

/-- Carries a run out; the exit code. -/
def carryOutRun (plan : RunPlan) : Play σ Nat := do
  let started ← now
  let start ← clock
  match ← ending (performPrompt plan) with
  | .ok () => conclude plan started start none
  | .error fault =>
    match fault with
    | .outside (.interrupt _) => concludeInterrupted
    | .step _ _ => conclude plan started start (some fault)
    | .load cause =>
      if cause.isOfFile then concludeWithoutPrompt cause
      else concludeUnexpected plan started start fault
    | _ => concludeUnexpected plan started start fault
where
  /-- Ends a run with a fault that is not one of a step. -/
  concludeUnexpected (plan : RunPlan) (started : Instant) (start : Float) (fault : Fault) :
      Play σ Nat := do
    note .error .command "Unexpected error during run"
    conclude plan started start (some fault)

/-- The plan of a run with given settings. -/
def planRun (order : RunOrder) (form : OutputForm) (settings : Settings) : Play σ RunPlan := do
  let disk := (← get).disk
  let prompt ← match settings.promptPath disk order.prompt with
    | .ok prompt => pure prompt
    | .error fault => throw (.disk fault)
  let stamp := (← now).stamp
  let mark ← mark
  return {
    settings
    prompt
    runId := s!"PQA-RUN-{stamp}-{mark}"
    form
    junit := order.junit }

/-- Starts a run with given settings; the exit code. -/
def startRun (order : RunOrder) (form : OutputForm) (settings : Settings) : Play σ Nat := do
  let plan ← planRun order form settings
  showHeader plan
  startAfresh
  match plan.client with
  | .error fault => throw fault
  | .ok client =>
    openClient client
    carryOutRun plan

/-- Runs a prompt; `usual` is the environment if nothing names one. The exit code. -/
def run (order : RunOrder) (usual : String) : Play σ Nat := do
  match OutputForm.ofName? order.form with
  | none =>
    print (.alarm "Config Error"
      s!"[red]Invalid output format:[/red] {order.form}\n\nValid formats: text, json")
    return 2
  | some form =>
    let disk := (← get).disk
    match Settings.build disk disk.projectDir usual order.wishes with
    | .ok settings => startRun order form settings
    | .error fault =>
      if fault.isOfSettings then complain "Config Error" fault.message
      else throw (.settings fault)

end Play

end Walkthrough
