import Walkthrough.Prompt.File
import Walkthrough.Settings.Basic

/-!
# Projects

A project is a directory of a fixed name, with a settings file in it. It is looked for upwards from
the current directory.
-/

namespace Walkthrough

namespace Disk

/-- The path of the current directory. -/
def currentPath (disk : Disk) : Path := ⟨"/", disk.current⟩

/-- The directories that may be that of the project, the nearest first. -/
def projectDirs (disk : Disk) : List Path :=
  disk.currentPath.ancestry.map fun directory => directory.child ".promptqa"

/-- The directory of the project: the nearest one upwards, or else one to be made here. -/
def projectDir (disk : Disk) : Path :=
  (disk.projectDirs.find? disk.isDirectory).getD (disk.currentPath.child ".promptqa")

/-- The settings in a file, which lies in the directory of its project. -/
def settings (disk : Disk) (path : Path) (usual : String) : Except SettingsFault Settings := do
  let octets ← match disk.look path with
    | .ok (some (.file octets)) => .ok octets
    | .ok (some .directory) => .error (.unreadable ⟨.isDirectory, path⟩)
    | .ok (some (.sealed _)) | .ok none => .error (.missing path)
    | .error fault => .error (.unreadable fault)
  let value ← (Yaml.ofOctets octets).mapError .yaml
  if !value.isTruthy then Settings.ofEntries [] path.parent usual
  else match value with
    | .mapping entries => Settings.ofEntries entries path.parent usual
    | _ => .error (.notMapping path)

end Disk

namespace Settings

/-- What is asked for besides the settings of the project. -/
structure Wishes where
  environment : Option String := none
  headless : Option Bool := none
  selfHealing : Option Bool := none

/-- The settings file of a project. -/
def settingsPath (directory : Path) : Path :=
  directory.child "config.yaml"

/-- The settings of a project, or the usual ones if it has no settings file. -/
def ofProject (disk : Disk) (directory : Path) (usual : String) :
    Except SettingsFault Settings := do
  let path := settingsPath directory
  if ← (disk.isFile path).mapError .unreadable then disk.settings path usual
  else
    let settings ← ({} : Settings).withEnvironment usual
    return settings.withProject directory

/-- The settings with what is asked for. -/
def wished (settings : Settings) (wishes : Wishes) : Except SettingsFault Settings := do
  let settings ← match wishes.environment with
    | some name => if name.isEmpty then .ok settings else settings.withEnvironment name
    | none => .ok settings
  return { settings with
    headless := wishes.headless.getD settings.headless
    selfHealing := wishes.selfHealing.getD settings.selfHealing }

/-- The settings of a project with what is asked for. -/
def build (disk : Disk) (directory : Path) (usual : String) (wishes : Wishes) :
    Except SettingsFault Settings := do
  (← ofProject disk directory usual).wished wishes

/-- The paths that a name among the project's prompts may stand for. -/
def namedPrompts (settings : Settings) (prompt : Path) : List Path :=
  [settings.promptsDir.join prompt, settings.promptsDir.child (prompt.text ++ ".prompt")]

/-- The path of a prompt, which may be given by its name among the project's prompts. -/
def promptPath (settings : Settings) (disk : Disk) (prompt : Path) : Except DiskFault Path := do
  if (← disk.isFile prompt) || prompt.isAbsolute then return prompt
  else return (← disk.firstFile? (settings.namedPrompts prompt)).getD prompt

end Settings

end Walkthrough
