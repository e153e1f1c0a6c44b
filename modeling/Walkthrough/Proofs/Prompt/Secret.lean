import Mathlib.Data.List.Forall2
import Walkthrough.Console.Prompt

/-!
# Prompts that differ in their passwords

Two prompts are openly the same if they differ in nothing but the passwords and the wording of their
logins (`Walkthrough.Document.OpenlySame`). Validating them says the same: neither the issues nor
the table of the steps shows a password (`Walkthrough.Document.OpenlySame.issues`,
`Walkthrough.Document.OpenlySame.table`).
-/

namespace Walkthrough

/-- Two detail blocks that differ in nothing but their wording and the password, which both state if
it is not the same. -/
structure Details.OpenlySame (details other : Details) : Prop where
  rest : other = { details with password := other.password, rawText := other.rawText }
  password : details.password = other.password ∨
    (present? details.password).isSome = true ∧ (present? other.password).isSome = true

/-- Two steps that are the same, but that a login may have another password and another wording. -/
structure Step.OpenlySame (step other : Step) : Prop where
  ordinal : step.ordinal = other.ordinal
  description : step.description = other.description
  action : step.action = other.action
  details : step.details = other.details ∨
    step.action = .uiLogin ∧ step.details.OpenlySame other.details

/-- Two documents that differ in nothing but the passwords and the wording of their logins. -/
structure Document.OpenlySame (document other : Document) : Prop where
  steps : List.Forall₂ Step.OpenlySame document.steps other.steps
  misses : document.misses = other.misses
  selfHealing : document.selfHealing = other.selfHealing

/-- Two passwords that are stated by logins at the same place of two documents. -/
def Document.Secrets (document other : Document) (password otherPassword : String) : Prop :=
  ∃ pair ∈ document.steps.zip other.steps, pair.1.action = .uiLogin ∧
    Details.present? pair.1.details.password = some password ∧
    Details.present? pair.2.details.password = some otherPassword

namespace Details.OpenlySame

variable {details other : Details}

theorem present (same : details.OpenlySame other) :
    (present? details.password).isSome = (present? other.password).isSome := by
  rcases same.password with equal | ⟨stated, otherStated⟩
  · rw [equal]
  · rw [stated, otherStated]

/-- The logins of both blocks are for the same name, or both lack something. -/
theorem credentials (same : details.OpenlySame other) :
    details.credentials? = none ∧ other.credentials? = none ∨
      ∃ username password otherPassword, details.credentials? = some (username, password) ∧
        other.credentials? = some (username, otherPassword) ∧
        present? details.password = some password ∧
        present? other.password = some otherPassword := by
  have username : other.username = details.username := by rw [same.rest]
  have present := same.present
  unfold credentials?
  rw [username]
  cases named : present? details.username with
  | none => exact .inl ⟨rfl, rfl⟩
  | some name =>
      cases stated : present? details.password with
      | none =>
          rw [stated] at present
          rw [Option.isNone_iff_eq_none.mp (Option.isSome_eq_false_iff.mp present.symm)]
          exact .inl ⟨rfl, rfl⟩
      | some password =>
          rw [stated] at present
          obtain ⟨otherPassword, otherStated⟩ := Option.isSome_iff_exists.mp present.symm
          rw [otherStated]
          exact .inr ⟨name, password, otherPassword, rfl, rfl, rfl, rfl⟩

/-- A password that is stated is shown as stars. -/
theorem summary (same : details.OpenlySame other) : details.summary = other.summary := by
  have stated : details.password.isSome = other.password.isSome := by
    rcases same.password with equal | ⟨first, second⟩
    · rw [equal]
    · rw [Option.isSome_of_isSome_filter _ _ first, Option.isSome_of_isSome_filter _ _ second]
  rw [same.rest]
  unfold Details.summary Details.fields
  rw [List.map_filterMap, List.map_filterMap]
  cases first : details.password with
  | none =>
      rw [first] at stated
      rw [Option.isNone_iff_eq_none.mp (Option.isSome_eq_false_iff.mp stated.symm)]
  | some password =>
      rw [first] at stated
      obtain ⟨otherPassword, second⟩ := Option.isSome_iff_exists.mp stated.symm
      rw [second]
      rfl

end Details.OpenlySame

namespace Step.OpenlySame

variable {step other : Step}

theorem refl (step : Step) : step.OpenlySame step :=
  ⟨rfl, rfl, rfl, .inl rfl⟩

theorem endpoint (same : step.OpenlySame other) :
    step.details.endpoint = other.details.endpoint := by
  rcases same.details with equal | ⟨-, details⟩
  · rw [equal]
  · rw [details.rest]

theorem storeAs (same : step.OpenlySame other) : step.details.storeAs = other.details.storeAs := by
  rcases same.details with equal | ⟨-, details⟩
  · rw [equal]
  · rw [details.rest]

theorem lack? (same : step.OpenlySame other) : step.lack? = other.lack? := by
  unfold Step.lack?
  rw [← same.action]
  rcases same.details with equal | ⟨action, details⟩
  · rw [equal]
  · rw [action]
    rcases details.credentials with ⟨none, otherNone⟩ | ⟨_, _, _, some, otherSome, -⟩
    · rw [none, otherNone]
    · rw [some, otherSome]
      rfl

theorem issues (same : step.OpenlySame other) (stored : List String) :
    step.issues stored = other.issues stored := by
  unfold Step.issues Step.skipIssues Step.lackIssues Step.nameIssues Step.usedNames Step.place
  rw [same.action, same.ordinal, same.description, same.lack?, same.endpoint]

theorem row (same : step.OpenlySame other) : step.row = other.row := by
  have summary : step.details.summary = other.details.summary := by
    rcases same.details with equal | ⟨-, details⟩
    · rw [equal]
    · exact details.summary
  unfold Step.row
  rw [same.ordinal, same.action, same.description, summary]

theorem issuesOfAll {steps others : List Step} (same : List.Forall₂ Step.OpenlySame steps others)
    (stored : List String) : Step.issuesOfAll stored steps = Step.issuesOfAll stored others := by
  induction same generalizing stored with
  | nil => rfl
  | @cons step other _ _ first _ ih =>
      have names : step.storedNames = other.storedNames := by
        rw [Step.storedNames, first.storeAs, Step.storedNames]
      rw [Step.issuesOfAll, Step.issuesOfAll, first.issues, names, ih]

end Step.OpenlySame

namespace Document.OpenlySame

variable {document other : Document}

theorem issues (same : document.OpenlySame other) : document.issues = other.issues := by
  have empty : document.steps.isEmpty = other.steps.isEmpty := by
    rw [Bool.eq_iff_iff, List.isEmpty_iff_length_eq_zero, List.isEmpty_iff_length_eq_zero,
      same.steps.length_eq]
  unfold Document.issues
  rw [empty, Step.OpenlySame.issuesOfAll same.steps, same.misses]

theorem table (same : document.OpenlySame other) : document.table = other.table := by
  have rows : document.steps.map Step.row = other.steps.map Step.row := by
    refine List.forall₂_eq_eq_eq ▸ ?_
    exact List.forall₂_map_left_iff.mpr (List.forall₂_map_right_iff.mpr
      (same.steps.imp fun _ _ same => same.row))
  unfold Document.table
  rw [rows]

end Document.OpenlySame

end Walkthrough
