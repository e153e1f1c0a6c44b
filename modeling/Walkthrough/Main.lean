import Walkthrough.Command.Perform
import Walkthrough.Command.Survey
import Walkthrough.Console.Plain
import Walkthrough.Outside.Scripted

/-!
# The command line

Reads what a command looks at, performs it, and prints and writes what comes of it. No browser and
no API are attached here, so a run tells of a browser that cannot be opened, and its clock stands
still.
-/

namespace Walkthrough.CommandLine

/-- What is at a path of this machine. -/
def nodeAt (path : Path) : IO (Option DiskNode) := do
  try
    return some (.file (← IO.FS.readBinFile (shown path.text)).toList)
  catch
    | .noFileOrDirectory .. => return none
    | .inappropriateType .. => return some .directory
    | fault => return some (.sealed (received (toString fault)))

/-- A disk with what is at a path and above it. -/
def survey (disk : Disk) (path : Path) : IO Disk := do
  let mut disk := disk
  for above in (disk.currentPath.join path).ancestry.reverse do
    if let .ok place := disk.place above then
      if (disk.at? place).isNone then
        if let some node ← nodeAt ⟨"/", place⟩ then
          disk := disk.put place node
  return disk

/-- A disk with what is at several paths and above them. -/
def surveyAll (disk : Disk) (paths : List Path) : IO Disk :=
  paths.foldlM survey disk

/-- Writes what a place of this machine is to hold. -/
def keep (place : List String) (node : DiskNode) : IO Unit := do
  match node with
  | .directory => IO.FS.createDirAll (shown (Path.text ⟨"/", place⟩))
  | .file octets =>
    IO.FS.writeBinFile (shown (Path.text ⟨"/", place⟩)) ⟨octets.toArray⟩
  | .sealed _ => pure ()

/-- A world in which no browser can be opened. -/
def world : Scripted where
  browserFails :=
    [(BrowserCall.startDriver.name, .failure .page "No browser is attached to this program")]

/-- The files that the command of words looks at, in the current directory. -/
def surveyFor (words : List String) (usual : String) : IO Disk := do
  let here := Path.ofText (received (toString (← IO.currentDir)))
  let disk ← surveyAll { current := here.parts } [here]
  let disk ← surveyAll disk disk.settingsPaths
  match Command.ofWords? words with
  | some command => surveyAll disk (command.paths disk usual)
  | none => return disk

end Walkthrough.CommandLine

open Walkthrough Walkthrough.CommandLine in
/-- Performs the command that the words ask for. -/
def main (given : List String) : IO UInt32 := do
  let words := given.map received
  let usual := Environment.named ((← IO.getEnv "PROMPTQA_ENV").map received)
  let disk ← surveyFor words usual
  let (ended, after) := Play.performWords words usual { outside := world, disk }
  for printed in after.console do
    for line in printed.plainLines do IO.eprintln (shown line)
  IO.print after.output
  for (place, node) in after.disk.changesSince disk do keep place node
  match ended with
  | .ok code => return code.toUInt32
  | .error fault =>
    IO.eprintln (shown fault.message)
    return fault.exitCode.toUInt32
