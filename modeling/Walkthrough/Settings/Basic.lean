import Walkthrough.Disk.Basic
import Walkthrough.Settings.Coercion
import Walkthrough.Yaml.Reading

/-!
# Settings

Where a run goes and how it behaves. An environment gives the addresses; two are built in, and the
settings can add more or change these. Addresses of their own outdo those of the environment.
-/

namespace Walkthrough

/-- An environment: its addresses, among whatever else is said of it. -/
abbrev Environment := List (Yaml × Yaml)

namespace Environment

/-- An environment with an address for pages and one for the API. -/
def ofAddresses (pages api : String) : Environment :=
  [(.text "base_url", .text pages), (.text "api_base_url", .text api)]

/-- The environments that are built in. -/
def builtIn : List (String × Environment) :=
  [("parabank", ofAddresses "https://parabank.parasoft.com/parabank"
      "https://parabank.parasoft.com/parabank/services/bank"),
    ("contactlist", ofAddresses "https://thinking-tester-contact-list.herokuapp.com"
      "https://thinking-tester-contact-list.herokuapp.com")]

/-- The environment that is meant if none is named. -/
def usual : String := "parabank"

/-- The environment that a variable of the system names: `usual` if it is absent or blank. -/
def named (setting : Option String) : String :=
  match setting.map trimmed with
  | some name => if name.isEmpty then usual else name
  | none => usual

/-- The address for pages, which is empty if there is none. -/
def pages (environment : Environment) : Yaml :=
  (Yaml.entry? "base_url" environment).getD (.text "")

/-- The address of the API, which is that for pages if there is none. -/
def api (environment : Environment) : Yaml :=
  (Yaml.entry? "api_base_url" environment).getD environment.pages

end Environment

/-- Why there are no settings. -/
inductive SettingsFault where
  | unknownEnvironment (name : String) (known : List String)
  | missing (path : Path)
  | notMapping (path : Path)
  | unreadable (fault : DiskFault)
  | yaml (fault : YamlFault)
  | value (fault : CoercionFault)

namespace SettingsFault

/-- What a fault says. -/
def message : SettingsFault → String
  | unknownEnvironment name known =>
    s!"Unknown environment: {name}\n\nKnown environments: " ++ ", ".intercalate known
  | missing path => s!"Config file not found: {path.text}"
  | notMapping path => s!"Config file must be a YAML mapping: {path.text}"
  | unreadable fault => fault.message
  | yaml fault => fault.message
  | value fault => fault.message

/-- Whether the settings as such are at fault, and not a value among them or the file's form. -/
def isOfSettings : SettingsFault → Bool
  | unknownEnvironment _ _ | missing _ | notMapping _ => true
  | _ => false

end SettingsFault

/-- The settings of a run. -/
structure Settings where
  environment : String := Environment.usual
  baseUrl : Yaml := .text "https://parabank.parasoft.com/parabank"
  apiBaseUrl : Yaml := .text "https://parabank.parasoft.com/parabank/services/bank"
  projectDir : Path := .ofText ".promptqa"
  promptsDir : Path := .ofText ".promptqa/prompts"
  evidenceDir : Path := .ofText ".promptqa/evidence"
  /-- Milliseconds to wait for the page. -/
  timeout : Int := 30000
  /-- Seconds to wait for the API. -/
  apiTimeout : Number := .int 30
  headless : Bool := true
  slowMo : Int := 0
  width : Yaml := .number (.int 1280)
  height : Yaml := .number (.int 720)
  selfHealing : Bool := false
  screenshotOnFailure : Bool := true
  /-- Environments besides those built in, or in their place. -/
  environments : List (String × Environment) := []

namespace Settings

/-- All known environments. -/
def known (settings : Settings) : List (String × Environment) :=
  settings.environments.foldl (fun all (name, environment) => Fields.put name environment all)
    Environment.builtIn

/-- The names of all known environments in the order of their codes. -/
def knownNames (settings : Settings) : List String :=
  (settings.known.map (·.1)).mergeSort fun a b =>
    !(Text.codes b.toList < Text.codes a.toList)

/-- The settings with the addresses of a named environment. -/
def withEnvironment (settings : Settings) (name : String) : Except SettingsFault Settings :=
  match Fields.get? name settings.known with
  | none => .error (.unknownEnvironment name settings.knownNames)
  | some environment => .ok {
      settings with
      environment := name
      baseUrl := environment.pages
      apiBaseUrl := environment.api }

/-- The settings with a project's directories in their usual places. -/
def withProject (settings : Settings) (directory : Path) : Settings :=
  { settings with
    projectDir := directory
    promptsDir := directory.child "prompts"
    evidenceDir := directory.child "evidence" }

/-- The environments that entries declare. -/
def environmentsOf : List (Yaml × Yaml) → List (String × Environment) →
    Except CoercionFault (List (String × Environment))
  | [], declared => .ok declared
  | (name, value) :: rest, declared => do
    environmentsOf rest
      (Fields.put (← Coercion.text name) (← Coercion.entries value) declared)

/-- The environments that a value declares, if it is a mapping. -/
def declared (value : Option Yaml) : Except CoercionFault (List (String × Environment)) :=
  match value with
  | some (.mapping entries) => environmentsOf entries []
  | _ => .ok []

/-- A setting of a name, taken for what it has to be, or `usual` if there is none. -/
def setting {α : Type} (entries : List (Yaml × Yaml)) (name : String) (usual : α)
    (coerce : Yaml → Except CoercionFault α) : Except CoercionFault α :=
  match Yaml.entry? name entries with
  | some value => coerce value
  | none => .ok usual

/-- The width and the height of the page. -/
def viewport (settings : Settings) (entries : List (Yaml × Yaml)) : Yaml × Yaml :=
  match Yaml.entry? "viewport" entries with
  | some (.mapping sizes) =>
    ((Yaml.entry? "width" sizes).getD (.number (.int 1280)),
      (Yaml.entry? "height" sizes).getD (.number (.int 720)))
  | _ => (settings.width, settings.height)

/-- The settings with what entries say, besides the environment. -/
def withEntries (settings : Settings) (entries : List (Yaml × Yaml)) :
    Except CoercionFault Settings := do
  let asText := fun (value : Yaml) => (Coercion.text value).map Yaml.text
  let baseUrl ← setting entries "base_url" settings.baseUrl asText
  let apiBaseUrl ← setting entries "api_base_url" settings.apiBaseUrl asText
  let promptsDir ← setting entries "prompts_dir" settings.promptsDir
    (Coercion.below settings.projectDir)
  let evidenceDir ← setting entries "evidence_dir" settings.evidenceDir
    (Coercion.below settings.projectDir)
  let timeout ← setting entries "timeout_ms" settings.timeout Coercion.whole
  let apiTimeout ← setting entries "api_timeout" settings.apiTimeout fun value =>
    (Coercion.real value).map .float
  let headless ← setting entries "headless" settings.headless fun value => .ok value.isTruthy
  let slowMo ← setting entries "slow_mo" settings.slowMo Coercion.whole
  let selfHealing ← setting entries "self_healing" settings.selfHealing fun value =>
    .ok value.isTruthy
  let screenshotOnFailure ← setting entries "screenshot_on_failure" settings.screenshotOnFailure
    fun value => .ok value.isTruthy
  let (width, height) := settings.viewport entries
  return { settings with
    baseUrl, apiBaseUrl, promptsDir, evidenceDir, timeout, apiTimeout, headless, slowMo,
    selfHealing, screenshotOnFailure, width, height }

/-- The settings of a project that entries give; `usual` is the environment if they name none. -/
def ofEntries (entries : List (Yaml × Yaml)) (directory : Path) (usual : String) :
    Except SettingsFault Settings := do
  let environments ← (declared (Yaml.entry? "environments" entries)).mapError .value
  let settings : Settings := { environments }
  let name ← (setting entries "environment" usual Coercion.text).mapError .value
  let settings ← (settings.withProject directory).withEnvironment name
  (settings.withEntries entries).mapError .value

end Settings

end Walkthrough
