import Walkthrough.Proofs.Settings.Selection

/-!
# Projects that state nothing

A project can state nothing in two ways: it has no settings file, or it has one that says nothing.
The settings are then put together in two ways, too: from the defaults, in the environment of the
system and with the directories of the project, or from the entries of the file, of which there are
none. Both give the same settings, or the same fault
(`Walkthrough.Settings.build_of_unstated`).
-/

namespace Walkthrough

/-- Octets of a settings file that says nothing: there are none, or they are read as a value that
counts as nothing, like those of a file of comments alone. -/
def Yaml.SaysNothing (octets : List UInt8) : Prop :=
  octets = [] ∨ ∃ value, ofOctets octets = .ok value ∧ value.isTruthy = false

theorem Yaml.SaysNothing.exists_value {octets : List UInt8} (silent : SaysNothing octets) :
    ∃ value, ofOctets octets = .ok value ∧ value.isTruthy = false := by
  rcases silent with empty | read
  · subst empty
    exact ⟨.null, rfl, rfl⟩
  · exact read

namespace Disk

variable {disk : Disk} {path : Path} {octets : List UInt8}

theorem isFile_of_look (held : disk.look path = .ok (some (.file octets))) :
    disk.isFile path = .ok true := by
  rw [isFile, held]
  rfl

/-- A settings file that says nothing has no entries. -/
theorem entriesIn_of_silent (held : disk.look path = .ok (some (.file octets)))
    (silent : Yaml.SaysNothing octets) : disk.entriesIn path = .ok [] := by
  obtain ⟨value, read, falsy⟩ := silent.exists_value
  simp only [entriesIn, held, ok_bind, read, mapError_ok, entriesOf, falsy, Bool.not_false, if_true]

end Disk

namespace Settings

/-- The settings of a project that states nothing, in an environment. -/
def plain (directory : Path) (name : String) (place : Environment) : Settings where
  environment := name
  baseUrl := place.pages
  apiBaseUrl := place.api
  projectDir := directory
  promptsDir := directory.child "prompts"
  evidenceDir := directory.child "evidence"

/-- The settings of a project that states nothing, in the environment of a name, which has to be
built in. -/
def plainIn (directory : Path) (name : String) : Except SettingsFault Settings :=
  match Fields.get? name Environment.builtIn with
  | some place => .ok (plain directory name place)
  | none => .error (.unknownEnvironment name ({} : Settings).knownNames)

variable {bare full : Disk} {directory : Path} {octets : List UInt8}

theorem entriesOf_of_missing (missing : bare.isFile (settingsPath directory) = .ok false) :
    entriesOf bare directory = .ok [] := by
  rw [entriesOf, missing]
  rfl

theorem entriesOf_of_silent
    (held : full.look (settingsPath directory) = .ok (some (.file octets)))
    (silent : Yaml.SaysNothing octets) : entriesOf full directory = .ok [] := by
  rw [entriesOf, Disk.isFile_of_look held]
  exact Disk.entriesIn_of_silent held silent

/-- Without entries the settings are those of a project that states nothing. -/
theorem ofEntries_nil_eq_plainIn (directory : Path) (usual : String) :
    ofEntries [] directory usual = plainIn directory usual := by
  have known : ({} : Settings).known = Environment.builtIn := rfl
  rw [ofEntries_nil, withEnvironment, known, plainIn]
  cases Fields.get? usual Environment.builtIn with
  | none => rfl
  | some place => rfl

/-- Settings that state nothing go to another environment as if it were the usual one. -/
theorem withEnvironment_plain (directory : Path) (name other : String) (place : Environment) :
    (plain directory name place).withEnvironment other = plainIn directory other := by
  have known : (plain directory name place).known = Environment.builtIn := rfl
  have names : (plain directory name place).knownNames = ({} : Settings).knownNames := rfl
  rw [withEnvironment, known, names, plainIn]
  cases Fields.get? other Environment.builtIn with
  | none => rfl
  | some there => rfl

/-- Where there are no entries, the usual environment has to be built in, and so has the one that is
asked for, to which the settings then go. -/
theorem build_of_no_entries (held : entriesOf bare directory = .ok []) (usual : String)
    (wishes : Wishes) :
    build bare directory usual wishes = do
      let _ ← plainIn directory usual
      let settings ← plainIn directory (wishes.name?.getD usual)
      return settings.withChoices wishes := by
  rw [build_eq held, ofEntries_nil_eq_plainIn]
  cases found : plainIn directory usual with
  | error fault => rfl
  | ok settings =>
      rw [ok_bind, ok_bind]
      cases asked : wishes.name? with
      | none =>
          rw [wished_of_none asked, Option.getD_none, found]
          rfl
      | some name =>
          obtain ⟨place, here⟩ : ∃ place, settings = plain directory usual place := by
            rw [plainIn] at found
            split at found
            · next place _ => exact ⟨place, (Except.ok.inj found).symm⟩
            · cases found
          rw [wished_of_some asked, here, withEnvironment_plain, Option.getD_some]
          cases plainIn directory name with
          | error fault => rfl
          | ok other => rfl

/-- An environment that is not built in puts the settings as such at fault. -/
theorem isOfSettings_of_plainIn {name : String} {fault : SettingsFault}
    (failed : plainIn directory name = .error fault) : fault.isOfSettings = true := by
  rw [plainIn] at failed
  split at failed
  · cases failed
  · obtain rfl := Except.error.inj failed
    rfl

/-- **No settings file is as good as an empty one.** Whatever the directory of the project, the
environment of the system and what is asked for, a project without a settings file and one whose
settings file says nothing have the same settings in every field, or they are refused by the same
fault, with the settings as such at fault. The settings are those of a project that states nothing,
in the environment that is asked for or else in that of the system, with the other choices that are
made; that of the system has to be built in even if another one is asked for. -/
theorem build_of_unstated (missing : bare.isFile (settingsPath directory) = .ok false)
    (held : full.look (settingsPath directory) = .ok (some (.file octets)))
    (silent : Yaml.SaysNothing octets) (system : Option String) (wishes : Wishes) :
    build bare directory (Environment.named system) wishes =
        build full directory (Environment.named system) wishes ∧
      (build bare directory (Environment.named system) wishes = do
        let _ ← plainIn directory (Environment.named system)
        let settings ← plainIn directory (wishes.name?.getD (Environment.named system))
        return settings.withChoices wishes) ∧
      ∀ fault, build bare directory (Environment.named system) wishes = .error fault →
        fault.isOfSettings = true := by
  have without :=
    build_of_no_entries (entriesOf_of_missing missing) (Environment.named system) wishes
  have within :=
    build_of_no_entries (entriesOf_of_silent held silent) (Environment.named system) wishes
  refine ⟨without.trans within.symm, without, ?_⟩
  intro fault failed
  rw [without] at failed
  rcases bind_eq_error_iff.mp failed with unknown | ⟨_, -, later⟩
  · exact isOfSettings_of_plainIn unknown
  · rcases bind_eq_error_iff.mp later with unknown | ⟨_, -, given⟩
    · exact isOfSettings_of_plainIn unknown
    · cases given

/-- The directory of a project that is looked for from the current directory. -/
def usualDir : Path := .ofText ".promptqa"

/-- A project whose settings file is empty. -/
def emptyDisk : Disk where
  nodes := [([".promptqa"], .directory), ([".promptqa", "config.yaml"], .file [])]

/-- The other environment is asked for, with a page to be seen and healing. -/
theorem build_of_unstated_contactlist :
    let wishes : Wishes :=
      { environment := some "contactlist", headless := some false, selfHealing := some true }
    ({} : Disk).isFile (settingsPath usualDir) = .ok false ∧
      emptyDisk.look (settingsPath usualDir) = .ok (some (.file [])) ∧ Yaml.SaysNothing [] ∧
      ∃ settings, build {} usualDir (Environment.named none) wishes = .ok settings ∧
        build emptyDisk usualDir (Environment.named none) wishes = .ok settings ∧
        settings.promptsDir.text = ".promptqa/prompts" ∧ settings.headless = false := by
  intro wishes
  have missing : ({} : Disk).isFile (settingsPath usualDir) = .ok false := by rfl
  have held : emptyDisk.look (settingsPath usualDir) = .ok (some (.file [])) := by rfl
  have silent : Yaml.SaysNothing [] := .inl rfl
  have same := (build_of_unstated missing held silent none wishes).1
  exact ⟨missing, held, silent, _, rfl, same.symm.trans rfl, by decide +kernel, rfl⟩

end Settings

end Walkthrough
