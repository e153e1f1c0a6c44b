import Walkthrough.Session.Basic

/-!
# The browser of a session

Opening the browser takes five calls, each of which can fail and leave open what the earlier ones
opened. Closing releases whatever is open, the last opened first, even where a release fails.
-/

namespace Walkthrough

/-- How the browser is opened. -/
structure BrowserSettings where
  headless : Bool := true
  slowMo : Int := 0
  width : Yaml := .number (.int 1280)
  height : Yaml := .number (.int 720)
  timeout : Int := 30000

/-- A size in whole numbers, if it is a finite number or a truth value. -/
def wholeSize? : Yaml → Option Int
  | .bool value => some (if value then 1 else 0)
  | .number (.int value) => some value
  | .number (.float value) =>
    match Decimal.Kind.ofFloat value with
    | .finite value => some value.truncate
    | _ => none
  | _ => none

/-- The line of the log for an opened browser, if both sizes are numbers. -/
def BrowserSettings.openedLine? (settings : BrowserSettings) : Option String := do
  let width ← wholeSize? settings.width
  let height ← wholeSize? settings.height
  return s!"Browser started: headless={(Yaml.bool settings.headless).display} " ++
    s!"viewport={width}x{height}"

namespace Play

variable {σ α : Type}

/-- Changes what is open. -/
def updateBrowser (change : Browser → Browser) : Play σ Unit :=
  modify fun session => { session with browser := change session.browser }

/-- Checks that the browser has a page. -/
def requireOpenPage : Play σ Unit := do
  if !(← get).browser.page then throw .notStarted

variable [Outside σ]

/-- Opens the browser with a page. -/
def openBrowser (settings : BrowserSettings) : Play σ Unit := do
  ask (.browser .startDriver)
  updateBrowser fun opened => { opened with driver := true }
  ask (.browser (.launch settings.headless settings.slowMo))
  updateBrowser fun opened => { opened with browser := true }
  ask (.browser (.newContext settings.width settings.height))
  updateBrowser fun opened => { opened with context := true }
  ask (.browser (.setTimeout settings.timeout))
  ask (.browser .newPage)
  updateBrowser fun opened => { opened with page := true }
  match settings.openedLine? with
  | some line => note .info .page line
  | none => pure ()

/-- Makes a release call if there is something to release; its failure means nothing. -/
def release (isOpen : Bool) (call : BrowserCall) : Play σ Unit := do
  if isOpen then recover (ask (.browser call)) fun _ => pure ()

/-- Releases whatever of the browser is open. -/
def closeBrowser : Play σ Unit := do
  let opened := (← get).browser
  release opened.context .closeContext
  release opened.browser .closeBrowser
  release opened.driver .stopDriver
  updateBrowser fun _ => {}

/-- Does something while the browser is open. It is closed afterwards, unless it could not be opened
in the first place. -/
def withBrowser (settings : BrowserSettings) (body : Play σ α) : Play σ α := do
  openBrowser settings
  thenAlways body closeBrowser

end Play

end Walkthrough
