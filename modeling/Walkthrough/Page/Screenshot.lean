import Walkthrough.Page.Lookup

/-!
# Screenshots

A screenshot is a file directly in the run's directory for them. Its name keeps letters, digits, low
lines, points and dashes; all else becomes a dash.
-/

namespace Walkthrough

namespace Screenshot

open Text

/-- Whether a character stays in the name of a file. -/
def isKept (c : Char) : Bool :=
  isWord c || c == '.' || c == '-'

/-- A text with a dash for each run of other characters than those kept; `inRun` says whether the
character before belongs to such a run. -/
def dashed (inRun : Bool) : List Char → List Char
  | [] => []
  | c :: rest =>
    if isKept c then c :: dashed false rest
    else if inRun then dashed true rest
    else '-' :: dashed true rest

/-- A text without the dashes at both ends. -/
def trimDashes (s : List Char) : List Char :=
  ((s.dropWhile (· == '-')).reverse.dropWhile (· == '-')).reverse

/-- The name of the file for a screenshot, without its ending. -/
def fileName (name : String) : String :=
  let kept := trimDashes (dashed false name.toList)
  if kept.isEmpty then "screenshot" else String.ofList kept

/-- The file for a screenshot. -/
def place (directory : Path) (name : String) : Path :=
  directory.child (fileName name ++ ".png")

end Screenshot

namespace Play

variable {σ : Type}

/-- Makes a directory and those it lies in. -/
def makeDirectory (path : Path) : Play σ Unit := do
  let session ← get
  match session.disk.makeDirectory path with
  | .ok disk => set { session with disk }
  | .error fault => throw (.disk fault)

/-- Takes a screenshot of the whole page, if the run has a directory for them. -/
def takeScreenshot [Outside σ] (name : String) : Play σ (Option Path) := do
  match (← pageSettings).screenshotDir with
  | none =>
    note .debug .page s!"No screenshot directory configured; skipping {name}"
    return none
  | some directory =>
    makeDirectory directory
    let path := Screenshot.place directory name
    ask (.screenshot path)
    note .info .page s!"Screenshot saved: {path.text}"
    return some path

end Play

end Walkthrough
