import Walkthrough.Proofs.Json.Names
import Walkthrough.Proofs.Settings.Entries

/-!
# Which environment is chosen

The name that is asked for outdoes the one in the settings file, and that one outdoes the variable
of the system; what they lead to are the built-in environments with those of the file put over them.
A name that is outdone by one that is asked for is looked up all the same, and there are no settings
if it is unknown (`Walkthrough.Settings.build_selects`).
-/

namespace Walkthrough

namespace Fields

variable {α : Type}

/-- Fields put over others are found first. -/
theorem get?_foldl_put {name : String} {above base : List (String × α)}
    (once : (above.map (·.1)).Nodup) :
    get? name (above.foldl (fun all field => put field.1 field.2 all) base) =
      (get? name above).or (get? name base) := by
  induction above generalizing base with
  | nil => simp [get?]
  | cons field rest ih =>
      obtain ⟨fresh, once⟩ := List.nodup_cons.mp once
      rw [List.foldl_cons, ih once, get?_put]
      by_cases same : name = field.1
      · subst same
        have missing : get? field.1 rest = none := get?_eq_none_iff.mpr fresh
        simp [get?, missing]
      · simp [get?, same, Ne.symm same]

end Fields

namespace Disk

/-- The entries that the value in a settings file holds. -/
def entriesOf (path : Path) (value : Yaml) : Except SettingsFault (List (Yaml × Yaml)) :=
  if !value.isTruthy then .ok []
  else match value with
    | .mapping entries => .ok entries
    | _ => .error (.notMapping path)

/-- The entries in a settings file; one without content has none. -/
def entriesIn (disk : Disk) (path : Path) : Except SettingsFault (List (Yaml × Yaml)) := do
  let octets ← match disk.look path with
    | .ok (some (.file octets)) => .ok octets
    | .ok (some .directory) => .error (.unreadable ⟨.isDirectory, path⟩)
    | .ok (some (.sealed _)) | .ok none => .error (.missing path)
    | .error fault => .error (.unreadable fault)
  entriesOf path (← (Yaml.ofOctets octets).mapError .yaml)

theorem settings_eq (disk : Disk) (path : Path) (usual : String) :
    disk.settings path usual =
      disk.entriesIn path >>= fun entries => Settings.ofEntries entries path.parent usual := by
  unfold settings entriesIn
  cases disk.look path with
  | error fault => exact error_bind _ _
  | ok found =>
      cases found with
      | none => exact error_bind _ _
      | some node =>
          cases node with
          | directory => exact error_bind _ _
          | «sealed» reason => exact error_bind _ _
          | file octets =>
              simp only [ok_bind]
              cases (Yaml.ofOctets octets).mapError SettingsFault.yaml with
              | error fault => exact error_bind _ _
              | ok value =>
                  simp only [ok_bind, entriesOf]
                  by_cases truthy : value.isTruthy = true
                  · simp only [truthy, Bool.not_true, Bool.false_eq_true, if_false]
                    cases value with
                    | mapping entries => rfl
                    | _ => rfl
                  · simp only [truthy, Bool.not_false, if_true, ok_bind]

end Disk

namespace Settings

open Yaml

/-- The entries of a project's settings; none if it has no settings file. -/
def entriesOf (disk : Disk) (directory : Path) : Except SettingsFault (List (Yaml × Yaml)) := do
  if ← (disk.isFile (settingsPath directory)).mapError .unreadable then
    disk.entriesIn (settingsPath directory)
  else return []

theorem parent_settingsPath (directory : Path) : (settingsPath directory).parent = directory := by
  have named : Path.ofText "config.yaml" = ⟨"", ["config.yaml"]⟩ := by decide +kernel
  simp [settingsPath, Path.child, Path.join, Path.isAbsolute, Path.parent, named]

/-- Without entries the settings are the usual ones. -/
theorem ofEntries_nil (directory : Path) (usual : String) :
    ofEntries [] directory usual = do
      let settings ← ({} : Settings).withEnvironment usual
      return settings.withProject directory := by
  have declares : declared (Yaml.entry? "environments" []) = .ok [] := rfl
  have named : setting [] "environment" usual Coercion.text = .ok usual := rfl
  have known : (({} : Settings).withProject directory).known = ({} : Settings).known := rfl
  have names : (({} : Settings).withProject directory).knownNames = ({} : Settings).knownNames :=
    rfl
  simp only [ofEntries, declares, named, mapError_ok, ok_bind, withEnvironment, known, names]
  cases Fields.get? usual ({} : Settings).known with
  | none => rfl
  | some place => rfl

theorem ofProject_eq (disk : Disk) (directory : Path) (usual : String) :
    ofProject disk directory usual =
      entriesOf disk directory >>= fun entries => ofEntries entries directory usual := by
  simp only [ofProject, entriesOf]
  cases (disk.isFile (settingsPath directory)).mapError SettingsFault.unreadable with
  | error fault => exact error_bind _ _
  | ok present =>
      cases present with
      | false =>
          simp only [ok_bind, Bool.false_eq_true, if_false]
          exact (ofEntries_nil directory usual).symm
      | true =>
          simp only [ok_bind, if_true]
          rw [Disk.settings_eq, parent_settingsPath]

/-- The name of the environment that is asked for; an empty one asks for none. -/
def Wishes.name? (wishes : Wishes) : Option String :=
  wishes.environment.filter fun name => !name.isEmpty

/-- The name of the environment that is chosen: the one that is asked for, else that of the entries,
else that of a variable of the system. -/
def chosenName (wishes : Wishes) (entries : List (Yaml × Yaml)) (system : Option String) :
    Except CoercionFault String :=
  match wishes.name? with
  | some name => .ok name
  | none => nameIn entries (Environment.named system)

variable {entries others : List (Yaml × Yaml)} {settings after : Settings} {wishes : Wishes}

/-- Declared environments have names of their own. -/
theorem nodup_environmentsOf {group : List (Yaml × Yaml)}
    {before environments : List (String × Environment)}
    (once : (before.map (·.1)).Nodup) (declares : environmentsOf group before = .ok environments) :
    (environments.map (·.1)).Nodup := by
  induction group generalizing before with
  | nil =>
      cases declares
      exact once
  | cons entry rest ih =>
      simp only [environmentsOf, bind_eq_ok_iff] at declares
      obtain ⟨name, _, content, _, later⟩ := declares
      exact ih (Fields.nodup_put once) later

theorem nodup_declared {value : Option Yaml} {environments : List (String × Environment)}
    (declares : declared value = .ok environments) : (environments.map (·.1)).Nodup := by
  unfold declared at declares
  split at declares
  · exact @nodup_environmentsOf _ [] _ List.nodup_nil declares
  · cases declares
    exact List.nodup_nil

/-- What is known are the declared environments over those built in. -/
theorem get?_known {value : Option Yaml} {name : String}
    (declares : declared value = .ok settings.environments) :
    Fields.get? name settings.known =
      (Fields.get? name settings.environments).or (Fields.get? name Environment.builtIn) :=
  Fields.get?_foldl_put (nodup_declared declares)

/-- Entries that give settings with a usual name and what is asked for. The name that the entries
choose has to be known even where another one is asked for. -/
structure Selectable (entries : List (Yaml × Yaml)) (usual : String) (wishes : Wishes)
    (known : List (String × Environment)) (lower : String) : Prop where
  declares : knownIn entries = .ok known
  named : nameIn entries usual = .ok lower
  knowsLower : (Fields.get? lower known).isSome
  knowsWished : ∀ name, wishes.name? = some name → (Fields.get? name known).isSome
  fit : Fit entries

/-- What settings have of the environment that is chosen, which is found among the declared ones or
else among those built in. Its addresses are outdone by those that the entries state, unless it is
asked for by name. -/
structure Selected (entries : List (Yaml × Yaml)) (system : Option String) (wishes : Wishes)
    (settings : Settings) (place : Environment) : Prop where
  named : chosenName wishes entries system = .ok settings.environment
  declares : declared (Yaml.entry? "environments" entries) = .ok settings.environments
  found : (Fields.get? settings.environment settings.environments).or
    (Fields.get? settings.environment Environment.builtIn) = some place
  wishedAddresses : wishes.name?.isSome →
    settings.baseUrl = place.pages ∧ settings.apiBaseUrl = place.api
  statedAddresses : wishes.name? = none →
    setting entries "base_url" place.pages addressOf = .ok settings.baseUrl ∧
      setting entries "api_base_url" place.api addressOf = .ok settings.apiBaseUrl

/-- Where settings lead. -/
def target (settings : Settings) : String × Yaml × Yaml :=
  (settings.environment, settings.baseUrl, settings.apiBaseUrl)

/-- Entries that differ at most in the entry of a name. -/
def AlikeBut (name : String) (entries others : List (Yaml × Yaml)) : Prop :=
  ∀ key, key ≠ name → entry? key entries = entry? key others

/-- The settings with what is asked for besides the environment. -/
def withChoices (settings : Settings) (wishes : Wishes) : Settings :=
  { settings with
    headless := wishes.headless.getD settings.headless
    selfHealing := wishes.selfHealing.getD settings.selfHealing }

theorem wished_of_none (nothing : wishes.name? = none) :
    settings.wished wishes = .ok (settings.withChoices wishes) := by
  unfold wished
  cases asked : wishes.environment with
  | none => rfl
  | some name =>
      have empty : name.isEmpty = true := by simpa [Wishes.name?, asked] using nothing
      simp only [empty, if_true]
      rfl

theorem wished_of_some {name : String} (asked : wishes.name? = some name) :
    settings.wished wishes =
      (settings.withEnvironment name).map fun chosen => chosen.withChoices wishes := by
  obtain ⟨stated, filled⟩ : wishes.environment = some name ∧ name.isEmpty = false := by
    simpa [Wishes.name?, Option.filter_eq_some_iff] using asked
  simp only [wished, stated, filled, Bool.false_eq_true, if_false, withEnvironment]
  cases Fields.get? name settings.known with
  | none => rfl
  | some place => rfl

/-- What is asked for can be had exactly if an environment that is named is known. -/
theorem wished_ok_iff : (∃ after, settings.wished wishes = .ok after) ↔
    ∀ name, wishes.name? = some name → (Fields.get? name settings.known).isSome := by
  cases asked : wishes.name? with
  | none => simp [wished_of_none asked]
  | some name =>
      rw [wished_of_some asked, map_ok_iff]
      simp only [withEnvironment_eq_ok_iff, Option.some.injEq, Option.isSome_iff_exists]
      constructor
      · rintro ⟨_, place, found, _⟩ _ rfl
        exact ⟨place, found⟩
      · intro knows
        obtain ⟨place, found⟩ := knows name rfl
        exact ⟨_, place, found, rfl⟩

variable {disk : Disk} {directory : Path} {usual : String}

theorem build_eq (held : entriesOf disk directory = .ok entries) :
    build disk directory usual wishes =
      ofEntries entries directory usual >>= fun settings => settings.wished wishes := by
  rw [build, ofProject_eq, held, ok_bind]

theorem known_of_declares (declares : declared (Yaml.entry? "environments" entries) =
    .ok settings.environments) : knownIn entries = .ok settings.known :=
  knownIn_eq_ok_iff.mpr ⟨_, declares, rfl⟩

theorem build_ok_iff (held : entriesOf disk directory = .ok entries) :
    (∃ settings, build disk directory usual wishes = .ok settings) ↔
      ∃ known lower, Selectable entries usual wishes known lower := by
  simp only [build_eq held, bind_eq_ok_iff]
  constructor
  · rintro ⟨after, settings, ended, asked⟩
    obtain ⟨lower, place, named, chosen⟩ := chosen_of_ofEntries ended
    exact ⟨settings.known, lower, {
      declares := known_of_declares chosen.declares
      named
      knowsLower := Option.isSome_of_eq_some chosen.found
      knowsWished := wished_ok_iff.mp ⟨after, asked⟩
      fit := (ofEntries_ok_iff.mp ⟨settings, ended⟩).2 }⟩
  · rintro ⟨known, lower, able⟩
    obtain ⟨place, found⟩ := Option.isSome_iff_exists.mp able.knowsLower
    have given : ∃ settings, ofEntries entries directory usual = .ok settings :=
      ofEntries_ok_iff.mpr ⟨⟨known, lower, place, able.declares, able.named, found⟩, able.fit⟩
    obtain ⟨settings, ended⟩ := given
    obtain ⟨_, _, _, chosen⟩ := chosen_of_ofEntries ended
    have same : known = settings.known :=
      Except.ok.inj (able.declares.symm.trans (known_of_declares chosen.declares))
    obtain ⟨after, asked⟩ := wished_ok_iff.mpr (same ▸ able.knowsWished)
    exact ⟨after, settings, ended, asked⟩

theorem selected_of_build {system : Option String} (held : entriesOf disk directory = .ok entries)
    (built : build disk directory (Environment.named system) wishes = .ok settings) :
    ∃ place, Selected entries system wishes settings place := by
  rw [build_eq held, bind_eq_ok_iff] at built
  obtain ⟨early, ended, asked⟩ := built
  obtain ⟨lower, place, named, chosen⟩ := chosen_of_ofEntries ended
  cases wished : wishes.name? with
  | none =>
      obtain rfl : early.withChoices wishes = settings :=
        Except.ok.inj ((wished_of_none wished).symm.trans asked)
      refine ⟨place, ?_, chosen.declares, ?_, ?_, fun _ => ⟨chosen.baseUrl, chosen.apiBaseUrl⟩⟩
      · rw [chosenName, wished]
        exact named.trans (congrArg Except.ok chosen.named.symm)
      · exact (get?_known chosen.declares).symm.trans (chosen.named ▸ chosen.found)
      · intro present
        rw [wished] at present
        cases present
  | some name =>
      rw [wished_of_some wished] at asked
      cases found : Fields.get? name early.known with
      | none =>
          simp only [withEnvironment, found] at asked
          cases asked
      | some other =>
          simp only [withEnvironment, found] at asked
          cases asked
          refine ⟨other, ?_, chosen.declares, ?_, fun _ => ⟨rfl, rfl⟩, ?_⟩
          · rw [chosenName, wished]
            exact Eq.refl (Except.ok name)
          · exact (get?_known chosen.declares).symm.trans found
          · intro nothing
            rw [wished] at nothing
            cases nothing

/-- Without a name that is asked for, one in the settings file outdoes any variable. -/
theorem build_of_stated {system other : Option String}
    (held : entriesOf disk directory = .ok entries)
    (stated : (Yaml.entry? "environment" entries).isSome) :
    build disk directory (Environment.named system) wishes =
      build disk directory (Environment.named other) wishes := by
  obtain ⟨value, stated⟩ := Option.isSome_iff_exists.mp stated
  rw [build_eq held, build_eq held]
  simp only [ofEntries, setting, stated]

theorem AlikeBut.entryFits {name key : String} {fits : Yaml → Prop}
    (alike : AlikeBut name entries others) (other : key ≠ name) :
    EntryFits entries key fits ↔ EntryFits others key fits := by
  simp only [EntryFits, alike key other]

/-- The entry that names the environment is all the same to the other ones. -/
theorem AlikeBut.fit (alike : AlikeBut "environment" entries others) (fit : Fit entries) :
    Fit others where
  baseUrl := (alike.entryFits (by decide)).mp fit.baseUrl
  apiBaseUrl := (alike.entryFits (by decide)).mp fit.apiBaseUrl
  promptsDir := (alike.entryFits (by decide)).mp fit.promptsDir
  evidenceDir := (alike.entryFits (by decide)).mp fit.evidenceDir
  timeout := (alike.entryFits (by decide)).mp fit.timeout
  apiTimeout := (alike.entryFits (by decide)).mp fit.apiTimeout
  slowMo := (alike.entryFits (by decide)).mp fit.slowMo

theorem AlikeBut.knownIn (alike : AlikeBut "environment" entries others) :
    knownIn entries = Settings.knownIn others := by
  rw [Settings.knownIn, Settings.knownIn, alike "environments" (by decide)]

/-- Settings for one name that is asked for lead to one place. -/
theorem Selected.target_eq {system other : Option String} {place there : Environment}
    {name : String} (asked : wishes.name? = some name)
    (alike : AlikeBut "environment" entries others)
    (first : Selected entries system wishes settings place)
    (second : Selected others other wishes after there) : after.target = settings.target := by
  have name_eq {held : List (Yaml × Yaml)} {setting : Option String} {chosen : String}
      (named : chosenName wishes held setting = .ok chosen) : chosen = name := by
    rw [chosenName, asked] at named
    exact (Except.ok.inj named).symm
  have named : settings.environment = name := name_eq first.named
  have names : after.environment = name := name_eq second.named
  have environments : after.environments = settings.environments := by
    have declares := second.declares
    rw [← alike "environments" (by decide), first.declares] at declares
    exact (Except.ok.inj declares).symm
  have places : there = place := by
    have found := second.found
    rw [names, environments, ← named, first.found] at found
    exact (Option.some.inj found).symm
  obtain ⟨pages, api⟩ := first.wishedAddresses (Option.isSome_of_eq_some asked)
  obtain ⟨others, other⟩ := second.wishedAddresses (Option.isSome_of_eq_some asked)
  rw [target, target, named, names, pages, api, others, other, places]

/-- A name that is asked for leads to the same place whatever it outdoes, if there are settings at
all; and these only lack if the name that is outdone is unknown. -/
theorem build_of_asked {system other : Option String} {elsewhere : Disk} {beside : Path}
    {name : String} (asked : wishes.name? = some name)
    (held : entriesOf disk directory = .ok entries)
    (holds : entriesOf elsewhere beside = .ok others)
    (alike : AlikeBut "environment" entries others)
    (built : build disk directory (Environment.named system) wishes = .ok settings) :
    ((∃ after, build elsewhere beside (Environment.named other) wishes = .ok after) ↔
      ∃ lower, nameIn others (Environment.named other) = .ok lower ∧
        (Fields.get? lower settings.known).isSome) ∧
    ∀ after, build elsewhere beside (Environment.named other) wishes = .ok after →
      after.target = settings.target := by
  obtain ⟨place, selected⟩ := selected_of_build held built
  have knows : knownIn others = .ok settings.known :=
    alike.knownIn.symm.trans (known_of_declares selected.declares)
  constructor
  · rw [build_ok_iff holds]
    constructor
    · rintro ⟨known, lower, able⟩
      have same : known = settings.known := Except.ok.inj (able.declares.symm.trans knows)
      exact ⟨lower, able.named, same ▸ able.knowsLower⟩
    · rintro ⟨lower, named, knowsLower⟩
      obtain ⟨known, before, able⟩ := (build_ok_iff held).mp ⟨settings, built⟩
      have same : known = settings.known :=
        Except.ok.inj (able.declares.symm.trans (alike.knownIn.trans knows))
      exact ⟨settings.known, lower, {
        declares := knows
        named
        knowsLower
        knowsWished := same ▸ able.knowsWished
        fit := alike.fit able.fit }⟩
  · intro after builds
    obtain ⟨there, selects⟩ := selected_of_build holds builds
    exact selected.target_eq asked alike selects

/-- **Which environment is chosen.** With entries from a settings file, or none if there is no such
file, there are settings exactly if the environments are declared well, the entries fit, and every
name is known that is asked for or would be chosen without; they lead to the environment whose name
is the first of the one asked for, the one that the entries state and the one of the system. One
that the entries state makes the system's irrelevant. One that is asked for makes both irrelevant to
where the settings lead, but there are no settings if the name that it outdoes is unknown. -/
theorem build_selects (held : entriesOf disk directory = .ok entries) (wishes : Wishes)
    (system : Option String) :
    ((∃ settings, build disk directory (Environment.named system) wishes = .ok settings) ↔
      ∃ known lower, Selectable entries (Environment.named system) wishes known lower) ∧
    (∀ settings, build disk directory (Environment.named system) wishes = .ok settings →
      ∃ place, Selected entries system wishes settings place) ∧
    ((Yaml.entry? "environment" entries).isSome → ∀ other,
      build disk directory (Environment.named other) wishes =
        build disk directory (Environment.named system) wishes) ∧
    (wishes.name?.isSome → ∀ settings,
      build disk directory (Environment.named system) wishes = .ok settings →
      ∀ elsewhere beside others other, entriesOf elsewhere beside = .ok others →
        AlikeBut "environment" entries others →
        ((∃ after, build elsewhere beside (Environment.named other) wishes = .ok after) ↔
          ∃ lower, nameIn others (Environment.named other) = .ok lower ∧
            (Fields.get? lower settings.known).isSome) ∧
        ∀ after, build elsewhere beside (Environment.named other) wishes = .ok after →
          after.target = settings.target) := by
  refine ⟨build_ok_iff held, fun _ built => selected_of_build held built,
    fun stated _ => build_of_stated held stated, ?_⟩
  intro asked settings built elsewhere beside others other holds alike
  obtain ⟨name, asked⟩ := Option.isSome_iff_exists.mp asked
  exact build_of_asked asked held holds alike built

/-- A project whose settings file names the second of the built-in environments. -/
def contactListDisk : Disk where
  nodes := [([".promptqa"], .directory),
    ([".promptqa", "config.yaml"], .file (Utf8.encode "environment: contactlist\n"))]

/-- What is asked for outdoes the settings file, and an unknown name of the system does no harm
there. -/
theorem build_selects_contactlist :
    ∃ entries settings, entriesOf contactListDisk (.ofText ".promptqa") = .ok entries ∧
      build contactListDisk (.ofText ".promptqa") (Environment.named (some "staging"))
        { environment := some "parabank" } = .ok settings ∧
      settings.environment = "parabank" := by
  have read : (entriesOf contactListDisk (.ofText ".promptqa")).toOption.isSome = true := by
    decide +kernel
  have builds : (build contactListDisk (.ofText ".promptqa") (Environment.named (some "staging"))
      { environment := some "parabank" }).toOption.isSome = true := by
    decide +kernel
  cases held : entriesOf contactListDisk (.ofText ".promptqa") with
  | error fault =>
      rw [held] at read
      cases read
  | ok entries =>
      cases built : build contactListDisk (.ofText ".promptqa") (Environment.named (some "staging"))
          { environment := some "parabank" } with
      | error fault =>
          rw [built] at builds
          cases builds
      | ok settings =>
          obtain ⟨place, selected⟩ := (build_selects held { environment := some "parabank" }
            (some "staging")).2.1 settings built
          exact ⟨entries, settings, rfl, rfl, (Except.ok.inj selected.named).symm⟩

/-- Without a settings file there is nothing to do the same for an unknown name of the system: there
are no settings although a known environment is asked for. -/
theorem build_of_unknown_system :
    (∃ known, build {} (.ofText ".promptqa") (Environment.named (some "staging"))
      { environment := some "parabank" } = .error (.unknownEnvironment "staging" known)) ∧
    ∃ settings, build {} (.ofText ".promptqa") (Environment.named none)
      { environment := some "parabank" } = .ok settings ∧ settings.environment = "parabank" :=
  ⟨⟨_, rfl⟩, ⟨_, rfl, rfl⟩⟩

end Settings

end Walkthrough
