import Mathlib.Data.List.Forall2
import Walkthrough.Proofs.Session.Parallel
import Walkthrough.Steps.Interaction

/-!
# Work on a page in two runs

What steps do on a page goes together in two runs under a pairing for the page: what is asked of the
worlds is answered alike, elements that are looked up can be filled in and clicked alike, and tables
have the same rows (`Walkthrough.Pairing.Paged`). A pairing of runs with the same healer is one
without further conditions (`Walkthrough.Pairing.Guided.paged`). Pairings that say nothing of the
logs are called fair and faithful (`Walkthrough.Pairing.Fair`, `Walkthrough.Pairing.Faithful`).
-/

namespace Walkthrough

variable {σ τ : Type} [Outside σ] [Outside τ]

open Play (Parallel)

/-- Whether an act changes something about an element that was looked up. -/
def ElementAct.isTouch : ElementAct → Bool
  | fill _ | click _ => true
  | _ => false

/-- Two rows with the same text, as far as the runs can tell. -/
def Pairing.SameRow (pairing : Pairing σ τ) (row other : Locator) : Prop :=
  Parallel pairing Eq (Play.act row .textContent) (Play.act other .textContent)

/-- An even pairing under which the same call is answered alike in both runs. -/
structure Pairing.Answering (pairing : Pairing σ τ) : Prop extends Pairing.Even pairing where
  asks : ∀ call, Parallel pairing Eq (Play.ask call) (Play.ask call)

/-- An even pairing under which elements that are looked up in both runs answer alike. -/
structure Pairing.Paged (pairing : Pairing σ τ) : Prop extends Pairing.Answering pairing where
  touches : ∀ reference (act : ElementAct), Locator.ofReference reference = .selector reference →
    act.isTouch = true →
      Parallel pairing Eq (do Play.act (← Play.element reference) act)
        (do Play.act (← Play.element reference) act)
  rows : ∀ reference, Parallel pairing (List.Forall₂ pairing.SameRow) (Play.tableRows reference)
    (Play.tableRows reference)

/-- An even pairing of runs that have the same healer, with strategies that stay, and the same time
of day. -/
structure Pairing.Guided (pairing : Pairing σ τ) : Prop extends Pairing.Answering pairing where
  healer : ∀ {session other}, pairing.alike session other → session.healer = other.healer
  now : Parallel pairing Eq Play.now Play.now
  remembers : ∀ change, (∀ healer : Healer, (change healer).strategies = healer.strategies) →
    Parallel pairing Eq (Play.updateHealer change) (Play.updateHealer change)

/-- A pairing under which the same call is answered alike in both runs. -/
structure Pairing.Responsive (pairing : Pairing σ τ) : Prop extends Pairing.Sound pairing where
  asks : ∀ call, Parallel pairing Eq (Play.ask call) (Play.ask call)

/-- A pairing under which elements that are looked up in both runs answer alike. -/
structure Pairing.Fair (pairing : Pairing σ τ) : Prop extends Pairing.Responsive pairing where
  touches : ∀ reference (act : ElementAct), Locator.ofReference reference = .selector reference →
    act.isTouch = true →
      Parallel pairing Eq (do Play.act (← Play.element reference) act)
        (do Play.act (← Play.element reference) act)
  rows : ∀ reference, Parallel pairing (List.Forall₂ pairing.SameRow) (Play.tableRows reference)
    (Play.tableRows reference)

/-- A pairing of runs that have the same healer and the same time of day. -/
structure Pairing.Faithful (pairing : Pairing σ τ) : Prop
    extends Pairing.Responsive pairing where
  healer : ∀ {session other}, pairing.alike session other → session.healer = other.healer
  now : Parallel pairing Eq Play.now Play.now
  remembers : ∀ change, Parallel pairing Eq (Play.updateHealer change) (Play.updateHealer change)

section Evenness

variable {pairing : Pairing σ τ}

theorem Pairing.Responsive.answering (responsive : pairing.Responsive) : pairing.Answering where
  toEven := responsive.even
  asks := responsive.asks

theorem Pairing.Fair.paged (fair : pairing.Fair) : pairing.Paged where
  toAnswering := fair.answering
  touches := fair.touches
  rows := fair.rows

theorem Pairing.Faithful.guided (faithful : pairing.Faithful) : pairing.Guided where
  toAnswering := faithful.answering
  healer := faithful.healer
  now := faithful.now
  remembers change _ := faithful.remembers change

end Evenness

namespace Play

section LookingUp

/-- What a reference leads to: what the healer finds, or without one a locator as it is. -/
def lookUp (reference : String) (plain : Locator) : Option Healer → Play σ Locator
  | some healer => resolve healer.strategies reference reference
  | none => locate plain

/-- The rows of a table that was looked up. -/
def rowsOf (table : Locator) : Play σ (List Locator) := do
  let count : Nat ← act (.within table "tr") .rows
  return (List.range count).map (Locator.row (.within table "tr"))

theorem element_eq (reference : String) :
    (element reference : Play σ Locator) =
      get >>= fun session => lookUp reference (.ofReference reference) session.healer :=
  rfl

theorem tableRows_eq (reference : String) :
    (tableRows reference : Play σ (List Locator)) =
      get >>= fun session => lookUp reference (.selector reference) session.healer >>= rowsOf := by
  refine congrArg (get >>= ·) (funext fun session => ?_)
  cases session.healer with
  | none => rfl
  | some healer => rfl

end LookingUp

section Reading

omit [Outside σ] [Outside τ]

variable {pairing : Pairing σ τ}

theorem pageSettings_parallel (even : pairing.Even) :
    Parallel pairing Eq pageSettings pageSettings := by
  have late (page : Option PageSettings) : Parallel pairing Eq
      (pure (page.getD {}) : Play σ PageSettings) (pure (page.getD {}) : Play τ PageSettings) :=
    .pure rfl
  exact .read (·.page) (·.page) even.page late

theorem requirePage_parallel (even : pairing.Even) :
    Parallel pairing Eq requirePage requirePage := by
  have late (page : Option PageSettings) : Parallel pairing Eq
      (if page.isNone then
        refuse (.noPage "UI driver not initialized -- no browser page for this run")
      else pure () : Play σ Unit)
      (if page.isNone then
        refuse (.noPage "UI driver not initialized -- no browser page for this run")
      else pure () : Play τ Unit) :=
    .ite (.fail _) (.pure rfl)
  exact .read (·.page) (·.page) even.page late

end Reading

section Answering

variable {pairing : Pairing σ τ}

theorem act_parallel (answering : pairing.Answering) (locator : Locator)
    (done : ElementAct) : Parallel pairing Eq (act locator done) (act locator done) :=
  answering.asks (.element locator done)

theorem locate_parallel (answering : pairing.Answering) (locator : Locator) :
    Parallel pairing Eq (locate locator) (locate locator) :=
  .andThen (answering.asks (.locate locator)) fun _ => .pure rfl

theorem navigate_parallel (answering : pairing.Answering) (url : String) :
    Parallel pairing Eq (navigate url) (navigate url) :=
  .andThen (.line answering.toEven) fun _ =>
    .andThen (answering.asks (.goto url)) fun _ => answering.asks .awaitIdle

end Answering

section Paged

variable {pairing : Pairing σ τ}

theorem fill_parallel (paged : pairing.Paged) {reference : String}
    (direct : Locator.ofReference reference = .selector reference) (value : String) :
    Parallel pairing Eq (fill reference value) (fill reference value) :=
  .andThen (.line paged.toEven) fun _ => paged.touches reference (.fill value) direct rfl

theorem click_parallel (paged : pairing.Paged) {reference : String}
    (direct : Locator.ofReference reference = .selector reference) :
    Parallel pairing Eq (click reference) (click reference) :=
  .andThen (.line paged.toEven) fun _ => paged.touches reference (.click none) direct rfl

theorem clickNamed_parallel (paged : pairing.Paged) (role name : String) :
    Parallel pairing Eq (clickNamed role name) (clickNamed role name) :=
  .andThen (.line paged.toEven) fun _ =>
    .andThen (pageSettings_parallel paged.toEven) fun _ =>
      .andThen (locate_parallel paged.toAnswering _) fun _ =>
        act_parallel paged.toAnswering _ (.click _)

theorem submitLogin_parallel (paged : pairing.Paged) :
    Parallel pairing Eq submitLogin submitLogin := by
  refine .recover (clickNamed_parallel paged _ _) fun _ =>
    .andThen (.line paged.toEven) fun _ => ?_
  refine .recover (clickNamed_parallel paged _ _) fun _ =>
    .andThen (.line paged.toEven) fun _ => ?_
  exact click_parallel paged rfl

theorem clickLabel_parallel (paged : pairing.Paged) (label : String) :
    Parallel pairing Eq (clickLabel label) (clickLabel label) :=
  .recover (clickNamed_parallel paged _ _) fun _ =>
    .andThen (.line paged.toEven) fun _ => clickNamed_parallel paged _ _

theorem firstWithText_parallel (paged : pairing.Paged) (text : String) :
    Parallel pairing Eq (firstWithText text) (firstWithText text) :=
  .andThen (locate_parallel paged.toAnswering _) fun _ => .pure rfl

theorem isTextPresent_parallel (paged : pairing.Paged) (text : String) :
    Parallel pairing Eq (isTextPresent text) (isTextPresent text) := by
  refine .andThen (.line paged.toEven) fun _ => .andThen (.value? ?_) fun _ => .pure rfl
  exact .andThen (firstWithText_parallel paged text) fun _ =>
    act_parallel paged.toAnswering _ .isVisible

theorem verifyTextPresent_parallel (paged : pairing.Paged) (text : String) :
    Parallel pairing Eq (verifyTextPresent text) (verifyTextPresent text) := by
  refine .andThen (.line paged.toEven) fun _ =>
    .andThen (pageSettings_parallel paged.toEven) fun _ => .recover ?_ fun _ => .fail _
  exact .andThen (firstWithText_parallel paged text) fun _ =>
    act_parallel paged.toAnswering _ (.waitVisible _)

/-- The rows of two tables are read alike, up to the first that holds the value. -/
theorem someRowHolds_parallel {rows others : List Locator}
    (same : List.Forall₂ pairing.SameRow rows others) (value : String) :
    Parallel pairing Eq (someRowHolds value rows) (someRowHolds value others) := by
  induction same with
  | nil => exact .pure rfl
  | cons sameRow _ ih => exact .andThen sameRow fun _ => .ite (.pure rfl) ih

theorem tableRows?_parallel (paged : pairing.Paged) (reference : String) :
    Parallel pairing (Option.Rel (List.Forall₂ pairing.SameRow)) (tableRows? reference)
      (tableRows? reference) := by
  have total (rows : List Locator) : ∃ others, List.Forall₂ pairing.SameRow rows others :=
    ⟨rows, List.forall₂_same.mpr fun _ _ => act_parallel paged.toAnswering _ _⟩
  refine .recover (.bind (paged.rows reference) total fun _ _ same => .pure (.some same)) ?_
  intro fault
  split
  · exact .andThen (.line paged.toEven) fun _ => .pure .none
  · exact .fail _

theorem isValueInTable_parallel (paged : pairing.Paged) (reference value : String) :
    Parallel pairing Eq (isValueInTable reference value) (isValueInTable reference value) := by
  have total (rows? : Option (List Locator)) :
      ∃ others?, Option.Rel (List.Forall₂ pairing.SameRow) rows? others? := by
    refine ⟨rows?, ?_⟩
    cases rows? with
    | none => exact .none
    | some rows => exact .some (List.forall₂_same.mpr fun _ _ => act_parallel paged.toAnswering _ _)
  refine .andThen (.line paged.toEven) fun _ =>
    .bind (tableRows?_parallel paged reference) total ?_
  rintro _ _ (same | _)
  · exact .andThen (someRowHolds_parallel same value) fun _ =>
      .ite (.andThen (.line paged.toEven) fun _ => .pure rfl)
        (.andThen (.line paged.toEven) fun _ => .pure rfl)
  · exact .pure rfl

theorem isValueShown_parallel (paged : pairing.Paged) (value : String) :
    Parallel pairing Eq (isValueShown value) (isValueShown value) :=
  .andThen (isValueInTable_parallel paged _ _) fun _ =>
    .ite (.pure rfl) (isTextPresent_parallel paged _)

end Paged

section Guided

variable {pairing : Pairing σ τ}

theorem probe_parallel (guided : pairing.Guided) (locator : Locator) :
    Parallel pairing Eq (probe locator) (probe locator) :=
  .andThen (locate_parallel guided.toAnswering _) fun _ =>
    act_parallel guided.toAnswering _ .count

theorem resolvePrimary_parallel (guided : pairing.Guided) (reference : String) :
    Parallel pairing Eq (resolvePrimary reference) (resolvePrimary reference) := by
  refine .recover (.andThen (probe_parallel guided _) fun count => .ite ?_ (.pure rfl)) ?_
  · exact .andThen (.line guided.toEven) fun _ => .pure rfl
  · exact fun _ => .andThen (.line guided.toEven) fun _ => .pure rfl

theorem tryCandidates_parallel (guided : pairing.Guided) (strategy : Strategy)
    (tried : List String) (candidates : List Candidate) :
    Parallel pairing Eq (tryCandidates strategy tried candidates)
      (tryCandidates strategy tried candidates) := by
  induction candidates generalizing tried with
  | nil => exact .pure rfl
  | cons candidate rest ih =>
      have probed : Parallel pairing Eq (probeCandidate candidate) (probeCandidate candidate) :=
        .recover (.andThen (probe_parallel guided _) fun _ => .pure rfl)
          fun _ => .andThen (.line guided.toEven) fun _ => .pure rfl
      refine .andThen probed fun count? => ?_
      cases count? with
      | none => exact ih _
      | some count =>
          exact .ite (.andThen (.line guided.toEven) fun _ => .pure rfl)
            (.andThen (.line guided.toEven) fun _ => ih _)

theorem tryStrategy_parallel (guided : pairing.Guided) (strategy : Strategy)
    (reference description : String) :
    Parallel pairing Eq (tryStrategy strategy reference description)
      (tryStrategy strategy reference description) := by
  unfold tryStrategy
  split
  · exact .fail _
  · exact .andThen (.line guided.toEven) fun _ => .pure rfl
  · refine .andThen (tryCandidates_parallel guided strategy [] _) fun (tried, accepted) => ?_
    cases accepted with
    | none => exact .andThen (.line guided.toEven) fun _ => .pure rfl
    | some candidate => exact .pure rfl

theorem tryStrategies_parallel (guided : pairing.Guided) (reference description : String)
    (index : Nat) (strategies : List Strategy) :
    Parallel pairing Eq (tryStrategies reference description index strategies)
      (tryStrategies reference description index strategies) := by
  induction strategies generalizing index with
  | nil => exact .fail _
  | cons strategy rest ih =>
      refine .andThen (.line guided.toEven) fun _ => ?_
      refine .andThen (tryStrategy_parallel guided strategy _ _) fun (attempt, accepted) => ?_
      refine .andThen (guided.remembers _ fun _ => rfl) fun _ => ?_
      cases accepted with
      | none => exact ih _
      | some candidate =>
          have labelled : Parallel pairing Eq (labelOf (.first candidate.locator))
              (labelOf (.first candidate.locator)) :=
            .recover (.andThen (act_parallel guided.toAnswering _ .label) fun _ => .pure rfl)
              fun _ => .pure rfl
          refine .andThen labelled fun label => .andThen ?_ fun _ => .pure rfl
          exact .andThen guided.now fun _ => .andThen (guided.remembers _ fun _ => rfl) fun _ =>
            .line guided.toEven

theorem resolve_parallel (guided : pairing.Guided) (strategies : List Strategy)
    (reference description : String) :
    Parallel pairing Eq (resolve strategies reference description)
      (resolve strategies reference description) := by
  refine .andThen (.line guided.toEven) fun _ =>
    .andThen (.line guided.toEven) fun _ => .andThen (guided.remembers _ fun _ => rfl) fun _ => ?_
  refine .andThen (resolvePrimary_parallel guided reference) fun primary => ?_
  cases primary with
  | some element => exact .pure rfl
  | none =>
      exact .andThen (.line guided.toEven) fun _ =>
        tryStrategies_parallel guided _ _ _ _

theorem lookUp_parallel (guided : pairing.Guided) (reference : String) (plain : Locator)
    (healer : Option Healer) :
    Parallel pairing Eq (lookUp reference plain healer) (lookUp reference plain healer) := by
  cases healer with
  | some healer => exact resolve_parallel guided _ _ _
  | none => exact locate_parallel guided.toAnswering _

theorem element_parallel (guided : pairing.Guided) (reference : String) :
    Parallel pairing Eq (element reference) (element reference) := by
  rw [element_eq, element_eq]
  exact .read (·.healer) (·.healer) guided.healer (lookUp_parallel guided reference _)

theorem tableRows_parallel (guided : pairing.Guided) (reference : String) :
    Parallel pairing Eq (tableRows reference) (tableRows reference) := by
  have late (healer : Option Healer) : Parallel pairing Eq
      (lookUp reference (.selector reference) healer >>= rowsOf)
      (lookUp reference (.selector reference) healer >>= rowsOf) :=
    .andThen (lookUp_parallel guided reference _ healer) fun _ =>
      .andThen (act_parallel guided.toAnswering _ .rows) fun _ => .pure rfl
  rw [tableRows_eq, tableRows_eq]
  exact .read (·.healer) (·.healer) guided.healer late

end Guided

end Play

/-- With the same healer, look-ups lead to the same elements. -/
theorem Pairing.Guided.paged {pairing : Pairing σ τ} (guided : pairing.Guided) :
    pairing.Paged where
  toAnswering := guided.toAnswering
  touches reference _ _ _ :=
    .andThen (Play.element_parallel guided reference) fun _ =>
      Play.act_parallel guided.toAnswering _ _
  rows reference := by
    refine ⟨(Play.tableRows_parallel guided reference).lasts, fun session other alike => ?_⟩
    rcases (Play.tableRows_parallel guided reference).goes session other alike with
      excused | ⟨ends, alike⟩
    · exact .inl excused
    · refine .inr ⟨?_, alike⟩
      generalize (Play.tableRows reference session).1 = first,
        (Play.tableRows reference other).1 = second at ends
      cases ends with
      | error fault => exact .error fault
      | ok same =>
          cases same
          exact .ok (List.forall₂_same.mpr fun _ _ => Play.act_parallel guided.toAnswering _ _)

theorem Pairing.Faithful.fair {pairing : Pairing σ τ} (faithful : pairing.Faithful) :
    pairing.Fair where
  toResponsive := faithful.toResponsive
  touches := faithful.guided.paged.touches
  rows := faithful.guided.paged.rows

end Walkthrough
