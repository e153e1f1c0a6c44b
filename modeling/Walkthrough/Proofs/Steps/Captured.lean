import Walkthrough.Proofs.Steps.Writes

/-!
# What is captured

A step that reads captures the first of its fields that has a value, of an object or of the first
object of a list, or the first element of marked-up text that is not empty
(`Walkthrough.Capture.ofRead_eq_some_iff`). A step that creates captures the same where there is
something, and else the whole body unless that is text (`Walkthrough.Capture.captures_alike`).
-/

namespace Walkthrough

/-- The first possible value that is a good one, whatever comes after it. -/
inductive FirstGood {α : Type} (good : α → Prop) : List (Option α) → α → Prop
  | here {value : α} {later : List (Option α)} :
      good value → FirstGood good (some value :: later) value
  | missing {value : α} {later : List (Option α)} :
      FirstGood good later value → FirstGood good (none :: later) value
  | passed {other value : α} {later : List (Option α)} :
      ¬good other → FirstGood good later value → FirstGood good (some other :: later) value

/-- The first good value is the first one that a filter lets through. -/
theorem firstGood_iff {α : Type} {good : α → Prop} {accepts : α → Bool}
    (same : ∀ value, accepts value = true ↔ good value) {options : List (Option α)} {value : α} :
    FirstGood good options value ↔ options.findSome? (·.filter accepts) = some value := by
  induction options with
  | nil =>
      constructor
      · intro first
        cases first
      · intro found
        cases found
  | cons option later ih =>
      cases option with
      | none =>
          rw [List.findSome?_cons, Option.filter_none, ← ih]
          constructor
          · intro first
            cases first with
            | missing later => exact later
          · exact .missing
      | some other =>
          rw [List.findSome?_cons, Option.filter_some]
          by_cases accepted : accepts other = true
          · rw [if_pos accepted]
            have holds : good other := (same other).mp accepted
            constructor
            · intro first
              cases first with
              | here => rfl
              | passed bad => exact absurd holds bad
            · intro found
              cases found
              exact .here holds
          · rw [if_neg accepted, ← ih]
            have bad : ¬good other := fun holds => accepted ((same other).mpr holds)
            constructor
            · intro first
              cases first with
              | here holds => exact absurd holds bad
              | passed _ later => exact later
            · exact .passed bad

namespace Text

theorem occursIn_singleton {c : Char} {s : List Char} : occursIn [c] s = true ↔ c ∈ s := by
  induction s with
  | nil => simp [occursIn]
  | cons d rest ih =>
      rw [occursIn, Bool.or_eq_true, ih, List.mem_cons, List.isPrefixOf_cons_cons, List.isPrefixOf,
        Bool.and_true, beq_iff_eq]

end Text

namespace Capture

/-- A value that is worth storing: neither nothing nor the empty text. Zero, the truth values and
empty collections are. -/
def IsPresent (value : Json) : Prop :=
  value ≠ .null ∧ value ≠ .text ""

/-- The first present value of an object among the field of a name and the field `id`. -/
def OfFields (name : String) (fields : List (String × Json)) (value : Json) : Prop :=
  FirstGood IsPresent [Fields.get? name fields, Fields.get? "id" fields] value

/-- What a step that reads captures of the body of an answer for a name: a list stands for its first
object, and text has to be marked up. -/
inductive Reads (name : String) : Json → Json → Prop
  | object {fields : List (String × Json)} {value : Json} :
      OfFields name fields value → Reads name (.object fields) value
  | list {early late : List Json} {fields : List (String × Json)} {value : Json} :
      (∀ item ∈ early, ∀ others, item ≠ .object others) → OfFields name fields value →
        Reads name (.list (early ++ .object fields :: late)) value
  | text {text value : String} :
      '<' ∈ text.toList →
        FirstGood (· ≠ "") [Markup.extract? text name, Markup.extract? text "id"] value →
          Reads name (.text text) (.text value)

section Fields

variable {name : String} {fields : List (String × Json)} {value : Json}

theorem firstField_eq_some_iff :
    firstField fields [name, "id"] = some value ↔ OfFields name fields value := by
  have present (value : Json) : isValue value = true ↔ IsPresent value := isValue_iff
  rw [OfFields, firstGood_iff present]
  rfl

/-- The first object of a list comes after items that are none. -/
theorem firstObject_eq_some_iff {items : List Json} :
    firstObject items = some fields ↔
      ∃ early late, items = early ++ .object fields :: late ∧
        ∀ item ∈ early, ∀ others, item ≠ .object others := by
  rw [firstObject, List.findSome?_eq_some_iff]
  constructor
  · intro first
    obtain ⟨early, item, late, rfl, found, before⟩ := first
    cases item with
    | object others =>
        cases found
        refine ⟨early, late, rfl, ?_⟩
        intro item among others same
        rw [same] at among
        exact absurd (before _ among) (by simp)
    | _ => cases found
  · intro split
    obtain ⟨early, late, rfl, apart⟩ := split
    refine ⟨early, .object fields, late, rfl, rfl, ?_⟩
    intro item among
    cases item with
    | object others => exact absurd rfl (apart _ among others)
    | _ => rfl

end Fields

section Text

variable {text name value : String}

theorem ofMarkup_eq_some_iff {captured : Json} :
    ofMarkup text name = some captured ↔
      '<' ∈ text.toList ∧ ∃ value, captured = .text value ∧
        FirstGood (· ≠ "") [Markup.extract? text name, Markup.extract? text "id"] value := by
  have marked : occurs "<" text = true ↔ '<' ∈ text.toList := Text.occursIn_singleton
  have present (value : String) : (value != "") = true ↔ value ≠ "" := bne_iff_ne
  rw [ofMarkup, ← marked]
  by_cases open? : occurs "<" text = true
  · rw [if_pos open?, Option.map_eq_some_iff]
    constructor
    · intro found
      obtain ⟨value, first, rfl⟩ := found
      exact ⟨open?, value, rfl, (firstGood_iff present).mpr first⟩
    · intro first
      obtain ⟨-, value, rfl, first⟩ := first
      exact ⟨value, (firstGood_iff present).mp first, rfl⟩
  · rw [if_neg open?]
    constructor
    · intro found
      cases found
    · intro first
      exact absurd first.1 open?

theorem ofMarkup_of_plain (plain : '<' ∉ text.toList) : ofMarkup text name = none := by
  rw [Option.eq_none_iff_forall_ne_some]
  intro captured found
  exact plain (ofMarkup_eq_some_iff.mp found).1

end Text

section Bodies

variable {name : String} {body value : Json}

theorem ofRead_eq_some_iff : ofRead body name = some value ↔ Reads name body value := by
  cases body with
  | object fields =>
      rw [ofRead, firstField_eq_some_iff]
      constructor
      · exact .object
      · intro reads
        cases reads with
        | object first => exact first
  | list items =>
      rw [ofRead, Option.bind_eq_some_iff]
      constructor
      · intro found
        obtain ⟨fields, first, field⟩ := found
        obtain ⟨early, late, rfl, apart⟩ := firstObject_eq_some_iff.mp first
        exact .list apart (firstField_eq_some_iff.mp field)
      · intro reads
        cases reads with
        | @list early late fields _ apart first =>
            exact ⟨fields, firstObject_eq_some_iff.mpr ⟨early, late, rfl, apart⟩,
              firstField_eq_some_iff.mpr first⟩
  | text text =>
      rw [ofRead, ofMarkup_eq_some_iff]
      constructor
      · intro found
        obtain ⟨marked, value, rfl, first⟩ := found
        exact .text marked first
      · intro reads
        cases reads with
        | @text _ value marked first => exact ⟨marked, value, rfl, first⟩
  | null | bool _ | number _ =>
      constructor
      · intro found
        cases found
      · intro reads
        cases reads

/-- A step that creates captures of an object what one that reads does, and else the object. -/
theorem ofCreated_object (fields : List (String × Json)) (name : String) :
    ofCreated (.object fields) name =
      some ((ofRead (.object fields) name).getD (.object fields)) :=
  rfl

end Bodies

end Capture

/-- What a step captures of the body of its answer for a name, by its action. -/
def Step.Captures (step : Step) (body : Json) (name : String) (value : Json) : Prop :=
  match step.action with
  | .apiLogin | .apiGet => Capture.ofRead body name = some value
  | .apiCreate | .apiPost => Capture.ofCreated body name = some value
  | .apiDelete | .uiNavigate | .uiLogin | .uiClick | .uiVerify | .unknown => False

theorem Step.captures_of_capture? {step : Step} {capture : Json → String → Option Json}
    {body value : Json} {name : String} (captures : step.action.capture? = some capture)
    (captured : capture body name = some value) : step.Captures body name value := by
  rw [Step.Captures]
  cases action : step.action with
  | apiLogin | apiGet | apiCreate | apiPost =>
      rw [action] at captures
      cases captures
      exact captured
  | apiDelete | uiNavigate | uiLogin | uiClick | uiVerify | unknown =>
      rw [action] at captures
      cases captures

/-- A step leaves the variables as they were, or stores a value that it captured. -/
theorem Step.stores_of_carryOut {σ : Type} [Outside σ] (step : Step) (session : Session σ) :
    (Play.carryOut step session).2.vars = session.vars ∨
      ∃ stored body value, step.details.storeAs = some stored ∧
        step.answer? session = some body ∧ step.Captures body stored value ∧
        Capture.IsPresent value ∧
        (Play.carryOut step session).2.vars = session.vars.set stored value := by
  have leaves := Play.carryOut_writes step session
  rcases ended : Play.carryOut step session with ⟨fault | notes, after⟩
  · rw [ended] at leaves
    exact .inl leaves
  · rw [ended] at leaves
    cases writes : step.written? session with
    | none =>
        rw [Step.Leaves, writes] at leaves
        exact .inl leaves
    | some entry =>
        obtain ⟨stored, value⟩ := entry
        rw [Step.Leaves, writes] at leaves
        obtain ⟨body, answered, captured⟩ := Option.bind_eq_some_iff.mp writes
        obtain ⟨capture, captures, states, -, found, present⟩ :=
          Step.captured?_eq_some_iff.mp captured
        exact .inr ⟨stored, body, value, states, answered, captures_of_capture? captures found,
          present, leaves⟩

namespace Capture

/-- **Reading and creating capture alike.** What a step that reads captures is the first present
value that the body has for the name or for `id`. Where that is something, a step that creates
captures the same of an object, and of text always; of any other body, and of an object without such
a field, it captures the whole. Text without a tag yields nothing. Whatever a step of either kind
stores is what it captured of its answer, and neither nothing nor the empty text. -/
theorem captures_alike (name : String) :
    (∀ body value, ofRead body name = some value ↔ Reads name body value) ∧
    (∀ fields value, ofRead (.object fields) name = some value →
      ofCreated (.object fields) name = some value) ∧
    (∀ text, ofCreated (.text text) name = ofRead (.text text) name) ∧
    (∀ body, (∀ text, body ≠ .text text) →
      (∀ fields, body = .object fields → ∀ value, ¬OfFields name fields value) →
        ofCreated body name = some body) ∧
    (∀ text, '<' ∉ text.toList →
      ofRead (.text text) name = none ∧ ofCreated (.text text) name = none) ∧
    ∀ {σ : Type} [Outside σ] (step : Step) (session : Session σ),
      (Play.carryOut step session).2.vars = session.vars ∨
        ∃ stored body value, step.details.storeAs = some stored ∧
          step.answer? session = some body ∧ step.Captures body stored value ∧
          IsPresent value ∧
          (Play.carryOut step session).2.vars = session.vars.set stored value := by
  refine ⟨fun body value => ofRead_eq_some_iff, ?_, fun _ => rfl, ?_, ?_, ?_⟩
  · intro fields value found
    rw [ofCreated_object, found, Option.getD_some]
  · intro body untexted fieldless
    cases body with
    | text text => exact absurd rfl (untexted text)
    | object fields =>
        have none : ofRead (.object fields) name = none := by
          rw [Option.eq_none_iff_forall_ne_some]
          intro value found
          exact fieldless fields rfl value (firstField_eq_some_iff.mp found)
        rw [ofCreated_object, none, Option.getD_none]
    | _ => rfl
  · intro text plain
    exact ⟨ofMarkup_of_plain plain, ofMarkup_of_plain plain⟩
  · intro σ _ step session
    exact step.stores_of_carryOut session

end Capture

end Walkthrough
