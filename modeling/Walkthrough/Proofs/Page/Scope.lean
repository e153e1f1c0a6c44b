import Walkthrough.Proofs.Session.Scope
import Walkthrough.Steps.Interaction

/-!
# What work on a page may do

Looking up elements, with healing or without it, acting on them and checking what a page shows make
calls to the page alone and write no variable. They end with three faults of their own besides those
of the outside world: nothing resolves a reference, a strategy proposes nothing by its nature, or
something expected is not on the page.
-/

namespace Walkthrough

/-- Whether a call goes to the page. -/
def Call.isOfPage : Call → Bool
  | goto _ | awaitIdle | screenshot _ | locate _ | element _ _ => true
  | request _ _ _ _ | closeClient | browser _ => false

variable {σ : Type}

/-- A scope that allows work on a page. -/
structure Scope.Pages (scope : Scope σ) : Prop where
  calls : ∀ call : Call, call.isOfPage = true → scope.calls call
  unmet : ∀ message, scope.faults (.step (.unmet message) none)
  unresolved : ∀ description reference,
    scope.faults (.step (.unresolved description reference) none)
  proposesNothing : scope.faults .proposesNothing

namespace Play

/-- A scope that allows everything. -/
def anything : Scope σ where
  calls _ := True
  faults _ := True
  mishaps _ := trivial

theorem anything_pages : (anything : Scope σ).Pages :=
  ⟨fun _ _ => trivial, fun _ => trivial, fun _ _ => trivial, trivial⟩

variable [Outside σ] {scope : Scope σ}

theorem Within.now : Within scope (Play.now : Play σ Instant) :=
  .look fun _ _ => .pure _

theorem Within.pageSettings : Within scope (Play.pageSettings : Play σ PageSettings) :=
  .look fun _ _ => .pure _

/-- A branch on a condition is within a scope if both sides are. -/
theorem Within.ite {α : Type} {condition : Prop} [Decidable condition] {first second : Play σ α}
    (yes : Within scope first) (no : Within scope second) :
    Within scope (if condition then first else second) := by
  split
  · exact yes
  · exact no

/-- A look-up that may fail is within a scope that allows the look-up. -/
theorem Within.value? {α : Type} {play : Play σ α} (within : Within scope play) :
    Within scope (Play.value? play) :=
  .recover (.bind within fun _ => .pure _) fun _ _ => .pure _

section Healing

theorem labelOf_within (pages : scope.Pages) (locator : Locator) :
    Within scope (labelOf locator) :=
  .recover (.bind (.ask (pages.calls _ rfl)) fun _ => .pure _) fun _ _ => .pure _

theorem locate_within (pages : scope.Pages) (locator : Locator) : Within scope (locate locator) :=
  .bind (.ask (pages.calls _ rfl)) fun _ => .pure _

theorem probe_within (pages : scope.Pages) (locator : Locator) : Within scope (probe locator) :=
  .bind (locate_within pages locator) fun _ => .ask (pages.calls _ rfl)

theorem resolvePrimary_within (pages : scope.Pages) (reference : String) :
    Within scope (resolvePrimary reference) := by
  refine .recover (.bind (probe_within pages _) fun count => .ite ?_ (.pure _)) ?_
  · exact .bind (.note _ _ _) fun _ => .pure _
  · exact fun _ _ => .bind (.note _ _ _) fun _ => .pure _

theorem probeCandidate_within (pages : scope.Pages) (candidate : Candidate) :
    Within scope (probeCandidate candidate) :=
  .recover (.bind (probe_within pages _) fun _ => .pure _)
    fun _ _ => .bind (.note _ _ _) fun _ => .pure _

theorem tryCandidates_within (pages : scope.Pages) (strategy : Strategy) (tried : List String)
    (candidates : List Candidate) : Within scope (tryCandidates strategy tried candidates) := by
  induction candidates generalizing tried with
  | nil => exact .pure _
  | cons candidate rest ih =>
      refine .bind (probeCandidate_within pages candidate) fun count? => ?_
      cases count? with
      | none => exact ih _
      | some count =>
          refine .ite (.bind (.note _ _ _) fun _ => .pure _) ?_
          exact .bind (.note _ _ _) fun _ => ih _

theorem tryStrategy_within (pages : scope.Pages) (strategy : Strategy)
    (reference description : String) :
    Within scope (tryStrategy strategy reference description) := by
  unfold tryStrategy
  split
  · exact .fail pages.proposesNothing
  · exact .bind (.note _ _ _) fun _ => .pure _
  · refine .bind (tryCandidates_within pages strategy [] _) fun (tried, accepted) => ?_
    cases accepted with
    | none => exact .bind (.note _ _ _) fun _ => .pure _
    | some candidate => exact .pure _

theorem noteAttempt_within (attempt : Attempt) :
    Within scope (noteAttempt attempt : Play σ Unit) :=
  .remember fun _ => ⟨rfl, List.prefix_rfl⟩

theorem recordHealing_within (reference healed strategy : String) :
    Within scope (recordHealing reference healed strategy : Play σ Unit) :=
  .bind .now fun _ => .bind (.remember fun _ => ⟨rfl, List.prefix_append _ _⟩)
    fun _ => .note _ _ _

theorem tryStrategies_within (pages : scope.Pages) (reference description : String) (index : Nat)
    (strategies : List Strategy) :
    Within scope (tryStrategies reference description index strategies) := by
  induction strategies generalizing index with
  | nil => exact .fail (pages.unresolved description reference)
  | cons strategy rest ih =>
      refine .bind (.note _ _ _) fun _ => ?_
      refine .bind (tryStrategy_within pages strategy _ _) fun (attempt, accepted) => ?_
      refine .bind (noteAttempt_within attempt) fun _ => ?_
      cases accepted with
      | none => exact ih _
      | some candidate =>
          exact .bind (labelOf_within pages _) fun _ =>
            .bind (recordHealing_within _ _ _) fun _ => .pure _

theorem resolve_within (pages : scope.Pages) (strategies : List Strategy)
    (reference description : String) :
    Within scope (resolve strategies reference description) := by
  refine .bind (.note _ _ _) fun _ => .bind (.note _ _ _) fun _ => ?_
  refine .bind (.remember fun _ => ⟨rfl, List.prefix_rfl⟩) fun _ => ?_
  refine .bind (resolvePrimary_within pages reference) fun primary => ?_
  cases primary with
  | some element => exact .pure _
  | none => exact .bind (.note _ _ _) fun _ => tryStrategies_within pages _ _ _ _

end Healing

section Acting

theorem find_within (pages : scope.Pages) (reference : String) (description : Option String) :
    Within scope (find reference description) := by
  refine .look fun session _ => ?_
  cases session.healer with
  | some healer => exact resolve_within pages _ _ _
  | none => exact locate_within pages _

theorem navigate_within (pages : scope.Pages) (url : String) : Within scope (navigate url) :=
  .bind (.note _ _ _) fun _ => .bind (.ask (pages.calls _ rfl)) fun _ =>
    .ask (pages.calls _ rfl)

theorem fill_within (pages : scope.Pages) (reference value : String) :
    Within scope (fill reference value) :=
  .bind (.note _ _ _) fun _ => .bind (find_within pages _ _) fun _ => .ask (pages.calls _ rfl)

theorem click_within (pages : scope.Pages) (reference : String) : Within scope (click reference) :=
  .bind (.note _ _ _) fun _ => .bind (find_within pages _ _) fun _ => .ask (pages.calls _ rfl)

theorem clickNamed_within (pages : scope.Pages) (role name : String) :
    Within scope (clickNamed role name) :=
  .bind (.note _ _ _) fun _ => .bind .pageSettings fun _ =>
    .bind (locate_within pages _) fun _ => .ask (pages.calls _ rfl)

theorem submitLogin_within (pages : scope.Pages) : Within scope (submitLogin : Play σ Unit) := by
  refine .recover (clickNamed_within pages _ _) fun _ _ => .bind (.note _ _ _) fun _ => ?_
  refine .recover (clickNamed_within pages _ _) fun _ _ => .bind (.note _ _ _) fun _ => ?_
  exact click_within pages _

theorem clickLabel_within (pages : scope.Pages) (label : String) :
    Within scope (clickLabel label) :=
  .recover (clickNamed_within pages _ _) fun _ _ =>
    .bind (.note _ _ _) fun _ => clickNamed_within pages _ _

end Acting

section Checking

theorem firstWithText_within (pages : scope.Pages) (text : String) :
    Within scope (firstWithText text) :=
  .bind (locate_within pages _) fun _ => .pure _

theorem isTextPresent_within (pages : scope.Pages) (text : String) :
    Within scope (isTextPresent text) := by
  refine .bind (.note _ _ _) fun _ => .bind (.value? ?_) fun _ => .pure _
  exact .bind (firstWithText_within pages text) fun _ => .ask (pages.calls _ rfl)

theorem verifyTextPresent_within (pages : scope.Pages) (text : String) :
    Within scope (verifyTextPresent text) := by
  refine .bind (.note _ _ _) fun _ => .bind .pageSettings fun _ => .recover ?_ ?_
  · exact .bind (firstWithText_within pages text) fun _ => .ask (pages.calls _ rfl)
  · exact fun _ _ => .fail (pages.unmet _)

theorem tableRows_within (pages : scope.Pages) (reference : String) :
    Within scope (tableRows reference) := by
  refine .look fun session _ => ?_
  have rows : ∀ table : Locator, Within scope (do
      let rows := Locator.within table "tr"
      let count : Nat ← act rows .rows
      return (List.range count).map (Locator.row rows) : Play σ (List Locator)) := fun table =>
    .bind (.ask (pages.calls _ rfl)) fun _ => .pure _
  cases session.healer with
  | some healer => exact .bind (resolve_within pages _ _ _) fun table => rows table
  | none => exact .bind (locate_within pages _) fun table => rows table

theorem someRowHolds_within (pages : scope.Pages) (value : String) (rows : List Locator) :
    Within scope (someRowHolds value rows) := by
  induction rows with
  | nil => exact .pure _
  | cons row rest ih => exact .bind (.ask (pages.calls _ rfl)) fun _ => .ite (.pure _) ih

theorem tableRows?_within (pages : scope.Pages) (reference : String) :
    Within scope (tableRows? reference) := by
  refine .recover (.bind (tableRows_within pages reference) fun _ => .pure _) ?_
  intro fault allowed
  -- only a reference that nothing resolves is answered, any other fault goes on
  split
  · exact .bind (.note _ _ _) fun _ => .pure _
  · exact .fail allowed

theorem isValueInTable_within (pages : scope.Pages) (reference value : String) :
    Within scope (isValueInTable reference value) := by
  refine .bind (.note _ _ _) fun _ => .bind (tableRows?_within pages reference) fun rows? => ?_
  cases rows? with
  | none => exact .pure _
  | some rows =>
      refine .bind (someRowHolds_within pages value rows) fun _ => .ite ?_ ?_
      · exact .bind (.note _ _ _) fun _ => .pure _
      · exact .bind (.note _ _ _) fun _ => .pure _

theorem isValueShown_within (pages : scope.Pages) (value : String) :
    Within scope (isValueShown value) :=
  .bind (isValueInTable_within pages _ _) fun _ => .ite (.pure _) (isTextPresent_within pages _)

end Checking

end Play

end Walkthrough
