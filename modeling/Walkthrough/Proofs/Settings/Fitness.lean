import Walkthrough.Proofs.Settings.Entries

/-!
# Settings that are what a run takes them for

Entries should either be refused as settings or give settings whose values are of the right kinds.
They do so exactly if some of their values are (`Walkthrough.Settings.wellEnded_iff`): others are
not refused as settings, since the fault of taking them for a number, a text, a path or a group
stays what it is, or they are not even looked at, like the addresses of an environment and the sizes
of the page.
-/

namespace Walkthrough

namespace Settings

open Yaml

/-- Settings of which every value is what a run takes it for. Times are numbers by themselves; a
truth value is no size. -/
structure Proper (settings : Settings) : Prop where
  known : (Fields.get? settings.environment settings.known).isSome
  baseUrl : settings.baseUrl.IsText
  apiBaseUrl : settings.apiBaseUrl.IsText
  width : settings.width.IsWhole
  height : settings.height.IsWhole

/-- The end of a reading that gives proper settings or refuses the entries as settings. -/
def WellEnded : Except SettingsFault Settings → Prop
  | .ok settings => settings.Proper
  | .error fault => fault.isOfSettings = true

/-- Groups of environments all of which have a name and entries of their own. -/
def Declares (entries : List (Yaml × Yaml)) : Prop :=
  ∀ group, entry? "environments" entries = some (.mapping group) →
    ∀ entry ∈ group, entry.1.isWritable = true ∧ entry.2.FitsEntries

/-- Entries with which the addresses are texts: their own always are, those of the environment are
taken as they stand. -/
def Addressed (entries : List (Yaml × Yaml)) (place : Environment) : Prop :=
  (Yaml.entry? "base_url" entries = none → place.pages.IsText) ∧
    (Yaml.entry? "api_base_url" entries = none → place.api.IsText)

/-- Entries that give whole numbers for the sizes of the page, if any. -/
def Sized (entries : List (Yaml × Yaml)) : Prop :=
  ∀ sizes, entry? "viewport" entries = some (.mapping sizes) →
    EntryFits sizes "width" IsWhole ∧ EntryFits sizes "height" IsWhole

/-- Entries of which each has a value of the right kind. Once the environment is unknown the entries
are refused whatever else they say. -/
structure Sound (entries : List (Yaml × Yaml)) (usual : String) : Prop where
  declares : Declares entries
  named : EntryFits entries "environment" fun value => value.isWritable = true
  others : ∀ known name place, knownIn entries = .ok known → nameIn entries usual = .ok name →
    Fields.get? name known = some place → Fit entries ∧ Addressed entries place ∧ Sized entries

variable {entries : List (Yaml × Yaml)} {settings : Settings} {directory : Path} {usual : String}

theorem nameIn_ok_iff : (∃ name, nameIn entries usual = .ok name) ↔
    EntryFits entries "environment" fun value => value.isWritable = true := by
  simp only [nameIn, setting_ok_iff, Coercion.text_ok_iff]

theorem isText_iff_of_setting {name : String} {before address : Yaml}
    (taken : setting entries name before addressOf = .ok address) :
    address.IsText ↔ (Yaml.entry? name entries = none → before.IsText) := by
  unfold setting at taken
  cases stated : entry? name entries with
  | none =>
      rw [stated] at taken
      cases taken
      simp
  | some value =>
      rw [stated] at taken
      simp only [addressOf] at taken
      cases read : Coercion.text value with
      | error fault =>
          rw [read] at taken
          cases taken
      | ok content =>
          rw [read] at taken
          cases taken
          exact iff_of_true ⟨content, rfl⟩ (by simp)

theorem isWhole_getD_iff {name : String} {size : Int} {sizes : List (Yaml × Yaml)} :
    ((Yaml.entry? name sizes).getD (.number (.int size))).IsWhole ↔
      EntryFits sizes name IsWhole := by
  cases stated : entry? name sizes with
  | none => simp [EntryFits, stated, IsWhole]
  | some value => simp [EntryFits, stated]

theorem sized_iff (sizes : (settings.width, settings.height) = ({} : Settings).viewport entries) :
    settings.width.IsWhole ∧ settings.height.IsWhole ↔ Sized entries := by
  unfold viewport at sizes
  split at sizes
  · next group stated =>
      obtain ⟨width, height⟩ := Prod.mk.inj sizes
      rw [width, height, isWhole_getD_iff, isWhole_getD_iff]
      constructor
      · intro whole other held
        cases stated.symm.trans held
        exact whole
      · intro whole
        exact whole group stated
  · next other =>
      obtain ⟨width, height⟩ := Prod.mk.inj sizes
      rw [width, height]
      refine iff_of_true ⟨⟨1280, rfl⟩, ⟨720, rfl⟩⟩ ?_
      intro group held
      exact (other group held).elim

theorem Chosen.proper_iff {name : String} {place : Environment}
    (chosen : Chosen entries name place settings) :
    settings.Proper ↔ Addressed entries place ∧ Sized entries := by
  rw [Addressed, ← isText_iff_of_setting chosen.baseUrl, ← isText_iff_of_setting chosen.apiBaseUrl,
    ← sized_iff chosen.sizes]
  constructor
  · intro proper
    exact ⟨⟨proper.baseUrl, proper.apiBaseUrl⟩, proper.width, proper.height⟩
  · rintro ⟨⟨baseUrl, apiBaseUrl⟩, width, height⟩
    have known : (Fields.get? settings.environment settings.known).isSome :=
      Option.isSome_of_eq_some (chosen.named ▸ chosen.found)
    exact { known, baseUrl, apiBaseUrl, width, height }

/-- How entries fail to give settings: only an unknown environment is refused as such. -/
inductive Fails (entries : List (Yaml × Yaml)) (usual : String) : SettingsFault → Prop
  | declared {fault : CoercionFault} : knownIn entries = .error fault →
      Fails entries usual (.value fault)
  | named {known : List (String × Environment)} {fault : CoercionFault} :
      knownIn entries = .ok known → nameIn entries usual = .error fault →
      Fails entries usual (.value fault)
  | unknown {known : List (String × Environment)} {name : String} {names : List String} :
      knownIn entries = .ok known → nameIn entries usual = .ok name →
      Fields.get? name known = none → Fails entries usual (.unknownEnvironment name names)
  | unfit {known : List (String × Environment)} {name : String} {place : Environment}
      {fault : CoercionFault} : knownIn entries = .ok known → nameIn entries usual = .ok name →
      Fields.get? name known = some place → ¬ Fit entries → Fails entries usual (.value fault)

theorem fails_of_ofEntries {fault : SettingsFault}
    (ended : ofEntries entries directory usual = .error fault) : Fails entries usual fault := by
  simp only [ofEntries, bind_eq_error_iff, mapError_eq_error_iff, mapError_eq_ok_iff] at ended
  obtain ⟨early, declares, rfl⟩ | ⟨environments, declares, ended⟩ := ended
  · refine .declared ?_
    rw [knownIn, declares]
    exact Eq.refl (Except.error early)
  have knows : knownIn entries = .ok ({ environments } : Settings).known :=
    knownIn_eq_ok_iff.mpr ⟨environments, declares, rfl⟩
  obtain ⟨early, named, rfl⟩ | ⟨name, named, ended⟩ := ended
  · exact .named knows named
  obtain missing | ⟨chosen, found, early, unfit, rfl⟩ := ended
  · rw [withEnvironment] at missing
    split at missing
    · next absent =>
        cases missing
        exact .unknown knows named absent
    · cases missing
  · obtain ⟨place, got, _⟩ := withEnvironment_eq_ok_iff.mp found
    refine .unfit knows named got ?_
    intro fit
    obtain ⟨after, taken⟩ := withEntries_ok_iff.mpr fit
    cases unfit.symm.trans taken

/-- **What entries come to.** They give proper settings or are refused as settings exactly if they
are sound: the environments have names and entries, the environment's name can be written, and, if
it is known, numbers, addresses, directories and sizes of the page are what they have to be. -/
theorem wellEnded_iff (entries : List (Yaml × Yaml)) (directory : Path) (usual : String) :
    WellEnded (ofEntries entries directory usual) ↔ Sound entries usual := by
  cases ended : ofEntries entries directory usual with
  | ok settings =>
      obtain ⟨name, place, named, chosen⟩ := chosen_of_ofEntries ended
      have knows := knownIn_eq_ok_iff.mpr ⟨_, chosen.declares, rfl⟩
      have fit : Fit entries := (ofEntries_ok_iff.mp ⟨settings, ended⟩).2
      constructor
      · intro proper
        have kinds := chosen.proper_iff.mp proper
        refine ⟨knownIn_ok_iff.mp ⟨_, knows⟩, nameIn_ok_iff.mp ⟨name, named⟩, ?_⟩
        intro known other there declares names found
        cases declares.symm.trans knows
        cases names.symm.trans named
        cases found.symm.trans chosen.found
        exact ⟨fit, kinds⟩
      · intro sound
        exact chosen.proper_iff.mpr (sound.others _ name place knows named chosen.found).2
  | error fault =>
      cases fails_of_ofEntries ended with
      | declared failed =>
          refine iff_of_false (by rintro ⟨⟩) ?_
          intro sound
          obtain ⟨known, declares⟩ := knownIn_ok_iff.mpr sound.declares
          cases failed.symm.trans declares
      | named _ failed =>
          refine iff_of_false (by rintro ⟨⟩) ?_
          intro sound
          obtain ⟨name, named⟩ := nameIn_ok_iff.mpr sound.named
          cases failed.symm.trans named
      | unknown knows named missing =>
          refine iff_of_true rfl ⟨knownIn_ok_iff.mp ⟨_, knows⟩, nameIn_ok_iff.mp ⟨_, named⟩, ?_⟩
          intro known other there declares names found
          cases declares.symm.trans knows
          cases names.symm.trans named
          cases found.symm.trans missing
      | unfit knows named found unfit =>
          refine iff_of_false (by rintro ⟨⟩) ?_
          intro sound
          exact unfit (sound.others _ _ _ knows named found).1

/-- A time that is no number is a fault of its own, and an address that is a number or a size that
is a text is taken as it stands. -/
theorem not_wellEnded_soon :
    ¬ WellEnded (ofEntries [(.text "timeout_ms", .text "soon")] (.ofText ".promptqa") "parabank") ∧
    ¬ WellEnded (ofEntries [(.text "environments", .mapping [(.text "qa",
        .mapping [(.text "base_url", .number (.int 5))])]), (.text "environment", .text "qa")]
        (.ofText ".promptqa") "parabank") ∧
    ¬ WellEnded (ofEntries [(.text "viewport", .mapping [(.text "width", .text "wide")])]
        (.ofText ".promptqa") "parabank") := by
  refine ⟨?_, ?_, ?_⟩
  · intro ended
    have refused : SettingsFault.isOfSettings (.value (.notWhole "soon")) = true := ended
    cases refused
  · intro proper
    have written : IsText (.number (.int 5)) := Proper.baseUrl proper
    obtain ⟨_, ⟨⟩⟩ := written
  · intro proper
    have whole : IsWhole (.text "wide") := Proper.width proper
    obtain ⟨_, ⟨⟩⟩ := whole

end Settings

end Walkthrough
