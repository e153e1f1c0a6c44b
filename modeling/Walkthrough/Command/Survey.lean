import Walkthrough.Command.Run

/-!
# What a command looks at

The paths whose content a command depends on. The settings come first, since they say where further
files may lie.
-/

namespace Walkthrough

/-- The paths that settings may lie at. -/
def Disk.settingsPaths (disk : Disk) : List Path :=
  disk.projectDirs.map Settings.settingsPath

/-- The paths besides those of the settings that a run looks at. -/
def RunOrder.paths (order : RunOrder) (disk : Disk) (usual : String) : List Path :=
  order.prompt :: order.junit.toList ++
    match Settings.build disk disk.projectDir usual order.wishes with
    | .ok settings => settings.evidenceDir :: settings.namedPrompts order.prompt
    | .error _ => []

/-- The paths besides those of the settings that a command looks at. -/
def Command.paths (command : Command) (disk : Disk) (usual : String) : List Path :=
  match command with
  | .version | .help => []
  | .validate prompt _ => [prompt]
  | .run order => order.paths disk usual

/-- The places where a disk differs from what it was, with what they hold now. -/
def Disk.changesSince (after before : Disk) : List (List String × DiskNode) :=
  after.nodes.filter fun (place, node) => before.at? place != some node

end Walkthrough
