import Walkthrough.Settings.Project

/-!
# What entries make of settings

Which values can be taken for what a setting has to be, told by their kinds, and what the entries of
a settings file make of settings when all of their values can
(`Walkthrough.Settings.withEntries_ok_iff`, `Walkthrough.Settings.ofEntries_ok_iff`).
-/

namespace Walkthrough

section Steps

variable {ε δ α β : Type}

theorem ok_bind (value : α) (second : α → Except ε β) :
    (Except.ok value >>= second) = second value :=
  rfl

theorem error_bind (fault : ε) (second : α → Except ε β) :
    (Except.error fault >>= second) = .error fault :=
  rfl

/-- A sequence ends well exactly if both parts do, one after the other. -/
theorem bind_eq_ok_iff {first : Except ε α} {second : α → Except ε β} {value : β} :
    first >>= second = .ok value ↔ ∃ early, first = .ok early ∧ second early = .ok value := by
  cases first with
  | ok early =>
      constructor
      · intro ended
        exact ⟨early, rfl, ended⟩
      · rintro ⟨_, ⟨⟩, ended⟩
        exact ended
  | error fault =>
      constructor
      · rintro ⟨⟩
      · rintro ⟨_, ⟨⟩, _⟩

/-- A sequence fails exactly if its first part does, or the second one after it. -/
theorem bind_eq_error_iff {first : Except ε α} {second : α → Except ε β} {fault : ε} :
    first >>= second = .error fault ↔
      first = .error fault ∨ ∃ early, first = .ok early ∧ second early = .error fault := by
  cases first with
  | ok early =>
      constructor
      · intro failed
        exact .inr ⟨early, rfl, failed⟩
      · rintro (⟨⟨⟩⟩ | ⟨_, ⟨⟩, failed⟩)
        exact failed
  | error other =>
      constructor
      · rintro ⟨⟩
        exact .inl rfl
      · rintro (⟨⟨⟩⟩ | ⟨_, ⟨⟩, _⟩)
        rfl

theorem mapError_ok (rename : ε → δ) (value : α) :
    (Except.ok value).mapError rename = .ok value :=
  rfl

theorem mapError_eq_ok_iff {ended : Except ε α} {rename : ε → δ} {value : α} :
    ended.mapError rename = .ok value ↔ ended = .ok value := by
  cases ended with
  | ok other =>
      constructor
      · rintro ⟨⟩
        rfl
      · rintro ⟨⟩
        rfl
  | error fault =>
      constructor
      · rintro ⟨⟩
      · rintro ⟨⟩

theorem mapError_eq_error_iff {ended : Except ε α} {rename : ε → δ} {fault : δ} :
    ended.mapError rename = .error fault ↔
      ∃ early, ended = .error early ∧ rename early = fault := by
  cases ended with
  | ok value =>
      constructor
      · rintro ⟨⟩
      · rintro ⟨_, ⟨⟩, _⟩
  | error early =>
      constructor
      · rintro ⟨⟩
        exact ⟨early, rfl, rfl⟩
      · rintro ⟨_, ⟨⟩, rfl⟩
        rfl

/-- What is changed in the end is there exactly if it was before. -/
theorem map_ok_iff {ended : Except ε α} {change : α → β} :
    (∃ value, ended.map change = .ok value) ↔ ∃ early, ended = .ok early := by
  cases ended with
  | ok early => exact ⟨fun _ => ⟨early, rfl⟩, fun _ => ⟨change early, rfl⟩⟩
  | error fault =>
      constructor
      · rintro ⟨_, ⟨⟩⟩
      · rintro ⟨_, ⟨⟩⟩

end Steps

namespace Yaml

/-- A value that can be taken for a whole number. -/
inductive FitsWhole : Yaml → Prop
  | int (value : Int) : FitsWhole (.number (.int value))
  | finite {value : Float} {size : Decimal.Binary} :
      Decimal.Kind.ofFloat value = .finite size → FitsWhole (.number (.float value))
  | bool (value : Bool) : FitsWhole (.bool value)
  | text {value : String} {whole : Int} :
      Coercion.wholeOfText value = .ok whole → FitsWhole (.text value)

/-- A value that can be taken for a number. -/
inductive FitsReal : Yaml → Prop
  | int {value : Int} : (Decimal.ofInt value).isInf = false → FitsReal (.number (.int value))
  | float (value : Float) : FitsReal (.number (.float value))
  | bool (value : Bool) : FitsReal (.bool value)
  | text {value : String} {real : Float} :
      Coercion.realOfText value = .ok real → FitsReal (.text value)

/-- A value that is a text. -/
def IsText (value : Yaml) : Prop :=
  ∃ content, value = .text content

/-- A value that is a whole number. -/
def IsWhole (value : Yaml) : Prop :=
  ∃ size, value = .number (.int size)

/-- An item that consists of a key and a value. -/
def IsPair (item : Yaml) : Prop :=
  ∃ key value, Coercion.parts? item = some [key, value] ∧ Coercion.isKey key = true

/-- A value that can be taken for a group of entries. -/
inductive FitsEntries : Yaml → Prop
  | nothing {value : Yaml} : value.isTruthy = false → FitsEntries value
  | mapping (entries : List (Yaml × Yaml)) : FitsEntries (.mapping entries)
  | pairs {value : Yaml} {items : List Yaml} : Coercion.parts? value = some items →
      (∀ item ∈ items, item.IsPair) → FitsEntries value

/-- If an entry of a name is there, its value fits. -/
def EntryFits (entries : List (Yaml × Yaml)) (name : String) (fits : Yaml → Prop) : Prop :=
  ∀ value, entry? name entries = some value → fits value

end Yaml

namespace Coercion

open Yaml

theorem text_ok_iff {value : Yaml} : (∃ content, text value = .ok content) ↔
    value.isWritable = true := by
  by_cases written : value.isWritable = true
  · simp [text, written]
  · simp [text, written]

theorem whole_ok_iff {value : Yaml} : (∃ size, whole value = .ok size) ↔ value.FitsWhole := by
  constructor
  · rintro ⟨size, taken⟩
    cases value with
    | number number =>
        cases number with
        | int other => exact .int other
        | float other =>
            cases kind : Decimal.Kind.ofFloat other with
            | finite parts => exact .finite kind
            | infinite negative => simp [whole, kind] at taken
            | notANumber => simp [whole, kind] at taken
    | bool other => exact .bool other
    | text other => exact .text taken
    | null => cases taken
    | date other => cases taken
    | moment other => cases taken
    | list items => cases taken
    | mapping entries => cases taken
  · intro fits
    cases fits with
    | int other => exact ⟨other, rfl⟩
    | finite kind => exact ⟨_, by rw [whole, kind]⟩
    | bool other => exact ⟨_, rfl⟩
    | text read => exact ⟨_, read⟩

theorem real_ok_iff {value : Yaml} : (∃ size, real value = .ok size) ↔ value.FitsReal := by
  constructor
  · rintro ⟨size, taken⟩
    cases value with
    | number number =>
        cases number with
        | int other =>
            by_cases large : (Decimal.ofInt other).isInf = true
            · simp [real, large] at taken
            · exact .int (Bool.not_eq_true _ ▸ large)
        | float other => exact .float other
    | bool other => exact .bool other
    | text other => exact .text taken
    | null => cases taken
    | date other => cases taken
    | moment other => cases taken
    | list items => cases taken
    | mapping entries => cases taken
  · intro fits
    cases fits with
    | @int other small =>
        refine ⟨Decimal.ofInt other, ?_⟩
        simp only [real, small, Bool.false_eq_true, if_false]
    | float other => exact ⟨other, rfl⟩
    | bool other => exact ⟨_, rfl⟩
    | text read => exact ⟨_, read⟩

theorem below_ok_iff {directory : Path} {value : Yaml} :
    (∃ path, below directory value = .ok path) ↔ value.IsText := by
  constructor
  · rintro ⟨path, taken⟩
    cases value with
    | text content => exact ⟨content, rfl⟩
    | _ => cases taken
  · rintro ⟨content, rfl⟩
    exact ⟨_, rfl⟩

theorem pair_ok_iff {index : Nat} {item : Yaml} :
    (∃ entry, pair index item = .ok entry) ↔ item.IsPair := by
  constructor
  · rintro ⟨entry, taken⟩
    unfold pair at taken
    split at taken
    · cases taken
    · next key value parts =>
        split at taken
        · next isKey => exact ⟨key, value, parts, isKey⟩
        · cases taken
    · cases taken
  · rintro ⟨key, value, parts, isKey⟩
    exact ⟨(key, value), by simp only [pair, parts, isKey, if_true]⟩

/-- Items are taken for entries exactly if each consists of a key and a value. -/
theorem pairsFrom_ok_iff {index : Nat} {before : List (Yaml × Yaml)} {items : List Yaml} :
    (∃ entries, pairsFrom index before items = .ok entries) ↔ ∀ item ∈ items, item.IsPair := by
  induction items generalizing index before with
  | nil => simp [pairsFrom]
  | cons item rest ih =>
      simp only [pairsFrom, bind_eq_ok_iff, List.forall_mem_cons]
      constructor
      · rintro ⟨entries, entry, taken, later⟩
        exact ⟨pair_ok_iff.mp ⟨entry, taken⟩, ih.mp ⟨entries, later⟩⟩
      · rintro ⟨isPair, others⟩
        obtain ⟨entry, taken⟩ := pair_ok_iff.mpr isPair
        obtain ⟨entries, later⟩ := ih.mpr others
        exact ⟨entries, entry, taken, later⟩

theorem entries_ok_iff {value : Yaml} :
    (∃ group, entries value = .ok group) ↔ value.FitsEntries := by
  by_cases truthy : value.isTruthy = true
  · constructor
    · rintro ⟨group, taken⟩
      simp only [entries, truthy, Bool.not_true, Bool.false_eq_true, if_false] at taken
      split at taken
      · exact .mapping _
      · split at taken
        · next items parts => exact .pairs parts (pairsFrom_ok_iff.mp ⟨group, taken⟩)
        · cases taken
    · intro fits
      simp only [entries, truthy, Bool.not_true, Bool.false_eq_true, if_false]
      cases fits with
      | nothing falsy =>
          rw [truthy] at falsy
          cases falsy
      | mapping group => exact ⟨group, rfl⟩
      | pairs parts all =>
          split
          · exact ⟨_, rfl⟩
          · simp only [parts]
            exact pairsFrom_ok_iff.mpr all
  · refine iff_of_true ⟨[], ?_⟩ (.nothing (Bool.not_eq_true _ ▸ truthy))
    simp only [entries, truthy, Bool.not_false, if_true]

end Coercion

namespace Settings

open Yaml

/-- Entries of which each that is taken for something has a value that fits. -/
structure Fit (entries : List (Yaml × Yaml)) : Prop where
  baseUrl : EntryFits entries "base_url" fun value => value.isWritable = true
  apiBaseUrl : EntryFits entries "api_base_url" fun value => value.isWritable = true
  promptsDir : EntryFits entries "prompts_dir" IsText
  evidenceDir : EntryFits entries "evidence_dir" IsText
  timeout : EntryFits entries "timeout_ms" FitsWhole
  apiTimeout : EntryFits entries "api_timeout" FitsReal
  slowMo : EntryFits entries "slow_mo" FitsWhole

/-- A value as an address. -/
def addressOf (value : Yaml) : Except CoercionFault Yaml :=
  (Coercion.text value).map .text

/-- What entries make of settings, but for what is the same in any case. -/
structure Taken (settings : Settings) (entries : List (Yaml × Yaml)) (after : Settings) : Prop where
  environment : after.environment = settings.environment
  environments : after.environments = settings.environments
  baseUrl : setting entries "base_url" settings.baseUrl addressOf = .ok after.baseUrl
  apiBaseUrl : setting entries "api_base_url" settings.apiBaseUrl addressOf = .ok after.apiBaseUrl
  sizes : (after.width, after.height) = settings.viewport entries

variable {entries : List (Yaml × Yaml)} {settings after : Settings}

theorem setting_ok_iff {α : Type} {name : String} {usual : α}
    {coerce : Yaml → Except CoercionFault α} :
    (∃ value, setting entries name usual coerce = .ok value) ↔
      EntryFits entries name fun value => ∃ taken, coerce value = .ok taken := by
  rw [setting]
  cases stated : entry? name entries with
  | none => simp [EntryFits, stated]
  | some value => simp [EntryFits, stated]

theorem addressOf_ok_iff {value : Yaml} :
    (∃ address, addressOf value = .ok address) ↔ value.isWritable = true := by
  rw [← Coercion.text_ok_iff, addressOf, map_ok_iff]

theorem setting_address_ok_iff {name : String} {usual : Yaml} :
    (∃ value, setting entries name usual addressOf = .ok value) ↔
      EntryFits entries name fun value => value.isWritable = true := by
  simp only [setting_ok_iff, addressOf_ok_iff]

theorem setting_path_ok_iff {name : String} {usual directory : Path} :
    (∃ value, setting entries name usual (Coercion.below directory) = .ok value) ↔
      EntryFits entries name IsText := by
  simp only [setting_ok_iff, Coercion.below_ok_iff]

theorem setting_whole_ok_iff {name : String} {usual : Int} :
    (∃ value, setting entries name usual Coercion.whole = .ok value) ↔
      EntryFits entries name FitsWhole := by
  simp only [setting_ok_iff, Coercion.whole_ok_iff]

theorem setting_real_ok_iff {name : String} {usual : Number} :
    (∃ value, setting entries name usual (fun value => (Coercion.real value).map .float) =
      .ok value) ↔ EntryFits entries name FitsReal := by
  simp only [setting_ok_iff, map_ok_iff, Coercion.real_ok_iff]

/-- A setting that any value can be taken for is taken. -/
theorem setting_any_ok {α : Type} (name : String) (usual : α) (take : Yaml → α) :
    ∃ value, setting entries name usual (fun value => .ok (take value)) = .ok value :=
  setting_ok_iff.mpr fun value _ => ⟨take value, rfl⟩

/-- What entries make of settings is there exactly if they fit. -/
theorem withEntries_ok_iff :
    (∃ after, settings.withEntries entries = .ok after) ↔ Fit entries := by
  simp only [withEntries, bind_eq_ok_iff]
  constructor
  · rintro ⟨after, baseUrl, tookBase, apiBaseUrl, tookApi, prompts, tookPrompts, evidence,
      tookEvidence, timeout, tookTimeout, apiTimeout, tookApiTimeout, _, _, slowMo, tookSlowMo, _⟩
    exact ⟨setting_address_ok_iff.mp ⟨_, tookBase⟩, setting_address_ok_iff.mp ⟨_, tookApi⟩,
      setting_path_ok_iff.mp ⟨_, tookPrompts⟩, setting_path_ok_iff.mp ⟨_, tookEvidence⟩,
      setting_whole_ok_iff.mp ⟨_, tookTimeout⟩, setting_real_ok_iff.mp ⟨_, tookApiTimeout⟩,
      setting_whole_ok_iff.mp ⟨_, tookSlowMo⟩⟩
  · intro fit
    obtain ⟨_, base⟩ := setting_address_ok_iff.mpr fit.baseUrl
    obtain ⟨_, api⟩ := setting_address_ok_iff.mpr fit.apiBaseUrl
    obtain ⟨_, prompts⟩ := setting_path_ok_iff.mpr fit.promptsDir
    obtain ⟨_, evidence⟩ := setting_path_ok_iff.mpr fit.evidenceDir
    obtain ⟨_, timeout⟩ := setting_whole_ok_iff.mpr fit.timeout
    obtain ⟨_, apiTimeout⟩ := setting_real_ok_iff.mpr fit.apiTimeout
    obtain ⟨_, slowMo⟩ := setting_whole_ok_iff.mpr fit.slowMo
    obtain ⟨_, headless⟩ := setting_any_ok "headless" settings.headless isTruthy
    obtain ⟨_, healing⟩ := setting_any_ok "self_healing" settings.selfHealing isTruthy
    obtain ⟨_, screenshot⟩ :=
      setting_any_ok "screenshot_on_failure" settings.screenshotOnFailure isTruthy
    exact ⟨_, _, base, _, api, _, prompts, _, evidence, _, timeout, _, apiTimeout, _, headless,
      _, slowMo, _, healing, _, screenshot, rfl⟩

theorem taken_of_withEntries (ended : settings.withEntries entries = .ok after) :
    Taken settings entries after := by
  simp only [withEntries, bind_eq_ok_iff] at ended
  obtain ⟨baseUrl, tookBase, apiBaseUrl, tookApi, _, _, _, _, _, _, _, _, _, _, _, _, _, _, _, _,
    final⟩ := ended
  cases final
  exact ⟨rfl, rfl, tookBase, tookApi, rfl⟩

/-- All environments that are known with those that entries declare. -/
def knownIn (entries : List (Yaml × Yaml)) : Except CoercionFault (List (String × Environment)) :=
  (declared (Yaml.entry? "environments" entries)).map fun environments =>
    ({ environments } : Settings).known

/-- The name of the environment that entries choose, or the usual one if they name none. -/
def nameIn (entries : List (Yaml × Yaml)) (usual : String) : Except CoercionFault String :=
  setting entries "environment" usual Coercion.text

/-- What entries make of the usual settings in an environment of a name. -/
structure Chosen (entries : List (Yaml × Yaml)) (name : String) (place : Environment)
    (settings : Settings) : Prop where
  named : settings.environment = name
  declares : declared (Yaml.entry? "environments" entries) = .ok settings.environments
  found : Fields.get? name settings.known = some place
  baseUrl : setting entries "base_url" place.pages addressOf = .ok settings.baseUrl
  apiBaseUrl : setting entries "api_base_url" place.api addressOf = .ok settings.apiBaseUrl
  sizes : (settings.width, settings.height) = ({} : Settings).viewport entries

theorem environmentsOf_ok_iff {group : List (Yaml × Yaml)}
    {before : List (String × Environment)} :
    (∃ environments, environmentsOf group before = .ok environments) ↔
      ∀ entry ∈ group, entry.1.isWritable = true ∧ entry.2.FitsEntries := by
  induction group generalizing before with
  | nil => simp [environmentsOf]
  | cons entry rest ih =>
      simp only [environmentsOf, bind_eq_ok_iff, List.forall_mem_cons]
      constructor
      · rintro ⟨environments, name, named, content, held, later⟩
        exact ⟨⟨Coercion.text_ok_iff.mp ⟨name, named⟩, Coercion.entries_ok_iff.mp ⟨content, held⟩⟩,
          ih.mp ⟨environments, later⟩⟩
      · rintro ⟨⟨written, fits⟩, others⟩
        obtain ⟨name, named⟩ := Coercion.text_ok_iff.mpr written
        obtain ⟨content, held⟩ := Coercion.entries_ok_iff.mpr fits
        obtain ⟨environments, later⟩ := ih.mpr others
        exact ⟨environments, name, named, content, held, later⟩

/-- The environments of entries can be declared exactly if each has a name and entries of its own;
what is not a group of environments declares none. -/
theorem knownIn_ok_iff : (∃ known, knownIn entries = .ok known) ↔
    ∀ group, entry? "environments" entries = some (.mapping group) →
      ∀ entry ∈ group, entry.1.isWritable = true ∧ entry.2.FitsEntries := by
  rw [knownIn, map_ok_iff]
  cases stated : entry? "environments" entries with
  | none => simp [declared]
  | some value =>
      cases value with
      | mapping group => simp [declared, environmentsOf_ok_iff]
      | _ => simp [declared]

theorem withEnvironment_eq_ok_iff {name : String} :
    settings.withEnvironment name = .ok after ↔
      ∃ environment, Fields.get? name settings.known = some environment ∧
        after = { settings with
          environment := name
          baseUrl := environment.pages
          apiBaseUrl := environment.api } := by
  rw [withEnvironment]
  cases found : Fields.get? name settings.known with
  | none => simp
  | some environment => simp [eq_comm]

theorem knownIn_eq_ok_iff {known : List (String × Environment)} :
    knownIn entries = .ok known ↔ ∃ environments,
      declared (Yaml.entry? "environments" entries) = .ok environments ∧
        known = ({ environments } : Settings).known := by
  rw [knownIn]
  cases declared (Yaml.entry? "environments" entries) with
  | ok environments =>
      constructor
      · rintro ⟨⟩
        exact ⟨environments, rfl, rfl⟩
      · rintro ⟨_, ⟨⟩, rfl⟩
        rfl
  | error fault =>
      constructor
      · rintro ⟨⟩
      · rintro ⟨_, ⟨⟩, _⟩

/-- Entries give settings in three parts: what is known, the environment of the name they choose,
and what else they say. -/
theorem ofEntries_eq_ok_iff {directory : Path} {usual : String} :
    ofEntries entries directory usual = .ok after ↔ ∃ environments name chosen,
      declared (Yaml.entry? "environments" entries) = .ok environments ∧
      nameIn entries usual = .ok name ∧
      (({ environments } : Settings).withProject directory).withEnvironment name = .ok chosen ∧
      chosen.withEntries entries = .ok after := by
  simp only [ofEntries, nameIn, bind_eq_ok_iff, mapError_eq_ok_iff]
  constructor
  · rintro ⟨environments, declares, name, named, chosen, found, taken⟩
    exact ⟨environments, name, chosen, declares, named, found, taken⟩
  · rintro ⟨environments, name, chosen, declares, named, found, taken⟩
    exact ⟨environments, declares, name, named, chosen, found, taken⟩

/-- **What entries choose.** There are settings exactly if the environments are declared well, the
name that is chosen is known among them, and the other entries fit. -/
theorem ofEntries_ok_iff {directory : Path} {usual : String} :
    (∃ settings, ofEntries entries directory usual = .ok settings) ↔
      (∃ known name place, knownIn entries = .ok known ∧ nameIn entries usual = .ok name ∧
        Fields.get? name known = some place) ∧ Fit entries := by
  simp only [ofEntries_eq_ok_iff]
  constructor
  · rintro ⟨after, environments, name, chosen, declares, named, found, taken⟩
    obtain ⟨place, got, _⟩ := withEnvironment_eq_ok_iff.mp found
    exact ⟨⟨_, name, place, knownIn_eq_ok_iff.mpr ⟨environments, declares, rfl⟩, named, got⟩,
      withEntries_ok_iff.mp ⟨after, taken⟩⟩
  · rintro ⟨⟨known, name, place, knows, named, got⟩, fit⟩
    obtain ⟨environments, declares, rfl⟩ := knownIn_eq_ok_iff.mp knows
    obtain ⟨after, taken⟩ := withEntries_ok_iff.mpr fit
    exact ⟨after, environments, name, _, declares, named,
      withEnvironment_eq_ok_iff.mpr ⟨place, got, rfl⟩, taken⟩

theorem chosen_of_ofEntries {directory : Path} {usual : String}
    (ended : ofEntries entries directory usual = .ok settings) :
    ∃ name place, nameIn entries usual = .ok name ∧ Chosen entries name place settings := by
  obtain ⟨environments, name, chosen, declares, named, found, taken⟩ :=
    ofEntries_eq_ok_iff.mp ended
  obtain ⟨place, got, rfl⟩ := withEnvironment_eq_ok_iff.mp found
  obtain ⟨environment, lasting, baseUrl, apiBaseUrl, sizes⟩ := taken_of_withEntries taken
  have known : settings.known = ({ environments } : Settings).known := by
    rw [Settings.known, lasting]
    rfl
  exact ⟨name, place, named, {
    named := environment
    declares := lasting ▸ declares
    found := known ▸ got
    baseUrl, apiBaseUrl, sizes }⟩

end Settings

end Walkthrough
