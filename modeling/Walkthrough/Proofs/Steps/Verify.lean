import Walkthrough.Outside.Scripted
import Walkthrough.Proofs.Page.Evidence
import Walkthrough.Proofs.Steps.Lack
import Walkthrough.Proofs.Text.Finding

/-!
# Steps that check the page

The first name in bold in the details of a step says which variable's value has to be on the page
(`Walkthrough.Details.boldName?_eq_some_iff`); without one it is the text that the step states. A
check of a variable passes exactly if there is evidence of its value, and every other way that it
can end has a fault of its own (`Walkthrough.Play.carryOut_verifies`).
-/

namespace Walkthrough

namespace Details

open Text Text.Pattern

/-- A text begins with a name in bold: word characters between two asterisks on either side. -/
def BeginsWithBold (name s : List Char) : Prop :=
  ∃ rest, s = ['*', '*'] ++ name ++ ['*', '*'] ++ rest ∧ name ≠ [] ∧ ∀ c ∈ name, isWord c = true

/-- A text begins with some name in bold. -/
def HasBold (s : List Char) : Prop :=
  ∃ name, BeginsWithBold name s

section Bold

variable {name other s : List Char} {details : Details}

/-- The name is the run of word characters behind the asterisks. -/
theorem BeginsWithBold.eq (bold : BeginsWithBold name s) (another : BeginsWithBold other s) :
    name = other := by
  have run {name rest : List Char} (words : ∀ c ∈ name, isWord c = true) :
      (name ++ (['*', '*'] ++ rest)).takeWhile isWord = name := by
    rw [List.takeWhile_append_of_pos words, List.cons_append,
      List.takeWhile_cons_of_neg (by decide), List.append_nil]
  obtain ⟨rest, rfl, -, words⟩ := bold
  obtain ⟨more, same, -, wordsOther⟩ := another
  simp only [List.append_assoc, List.append_cancel_left_eq] at same
  rw [← run words, same, run wordsOther]

theorem bold_of_matches {taken : List Char} {kept : List (List Char)}
    (fits : Target.boldPattern.Matches taken kept) :
    ∃ name, kept = [name] ∧ ∀ rest, BeginsWithBold name (taken ++ rest) := by
  obtain ⟨name, some, words, rfl, rfl⟩ := matches_enclosed.mp fits
  exact ⟨name, rfl, fun rest => ⟨rest, rfl, some, words⟩⟩

theorem BeginsWithBold.fitsFront (bold : BeginsWithBold name s) :
    Target.boldPattern.FitsFront s := by
  obtain ⟨rest, rfl, some, words⟩ := bold
  exact ⟨_, rest, [name], rfl, matches_enclosed.mpr ⟨name, some, words, rfl, rfl⟩⟩

/-- The variable whose value is looked for is the first name in bold. -/
theorem boldName?_eq_some_iff {name : String} :
    details.boldName? = some name ↔
      ∃ place, IsLeftmost HasBold details.rawText.toList place ∧
        BeginsWithBold name.toList place :=
  keep?_eq_some_iff_of_begins bold_of_matches BeginsWithBold.fitsFront BeginsWithBold.eq

theorem boldName?_eq_none_iff :
    details.boldName? = none ↔
      ∀ place, place <:+ details.rawText.toList → ¬HasBold place := by
  rw [boldName?, keep?_eq_none_iff_of_begins bold_of_matches BeginsWithBold.fitsFront]
  simp only [HasBold, not_exists]

end Bold

end Details

variable {σ : Type} [Outside σ]

namespace Play

namespace Does

variable {session : Session σ}

theorem tableRows (reference : String) (session : Session σ) :
    Does (Play.tableRows reference) session
      (Outside.tableRows session.manner reference session.outside) := by
  rw [tableRows_eq]
  refine .look (.bind (.lookUp reference _ session) fun table after _ => ?_)
  exact .bind (.act _ .rows after) fun count final _ => .pure _ final

theorem someRowHolds (value : String) (rows : List Locator) (session : Session σ) :
    Does (Play.someRowHolds value rows) session
      (Outside.searchRows value rows session.outside) := by
  induction rows generalizing session with
  | nil => exact .pure false session
  | cons row rest ih =>
      refine .bind (.act row .textContent session) fun (text : Option String) after _ => ?_
      by_cases holds : occurs value (text.getD "") = true
      · simp only [if_pos holds]
        exact .pure true after
      · simp only [if_neg holds]
        exact ih after

theorem tableRows? (reference : String) (session : Session σ) :
    Does (Play.tableRows? reference) session
      (Outside.tableRows? session.manner reference session.outside) := by
  refine .recover (.bind (.tableRows reference session) fun rows after _ => .pure _ after) ?_
  intro fault after _
  -- only a reference that nothing resolves is answered, any other fault goes on
  cases fault with
  | step cause place =>
      cases cause with
      | unresolved description missing => exact .note _ _ _ (.pure _ _)
      | _ => exact .fail _ after
  | _ => exact .fail _ after

theorem isValueInTable (reference value : String) (session : Session σ) :
    Does (Play.isValueInTable reference value) session
      (Outside.searchTable session.manner reference value session.outside) := by
  refine .note _ _ _ (.bind (.tableRows? reference _) fun rows? after _ => ?_)
  cases rows? with
  | none => exact .pure false after
  | some rows =>
      dsimp only
      rw [← Deed.andThen_pure (Outside.searchRows value rows after.outside)]
      refine .bind (.someRowHolds value rows after) fun held final _ => ?_
      cases held with
      | true => exact .note _ _ _ (.pure true _)
      | false => exact .note _ _ _ (.pure false _)

theorem firstWithText (text : String) (session : Session σ) :
    Does (Play.firstWithText text) session (Outside.firstWithText text session.outside) :=
  .bind (.locate _ session) fun _ after _ => .pure _ after

theorem isTextPresent (text : String) (session : Session σ) :
    Does (Play.isTextPresent text) session (Outside.isSeen text session.outside) := by
  refine .note _ _ _ (.bind (.recover (.bind ?_ fun shown after _ => .pure (some shown) after)
    fun _ after _ => .pure none after) fun seen? after _ => .pure _ after)
  exact .bind (.firstWithText text _) fun element after _ => .act element .isVisible after

/-- The text of a check is waited for within the time of the page. -/
theorem awaited (text : String) (session : Session σ) :
    Does (do Play.act (← Play.firstWithText text) (.waitVisible session.manner.settings.timeout))
      session (Outside.awaited text session.manner.settings.timeout session.outside) :=
  .bind (.firstWithText text session) fun _ after _ => .act _ _ after

theorem isValueShown (value : String) (session : Session σ) :
    Does (Play.isValueShown value) session
      (Outside.lookFor session.manner resultsTable value session.outside) := by
  refine .bind (.isValueInTable resultsTable value session) fun held after _ => ?_
  cases held with
  | true => exact .pure true after
  | false => exact .isTextPresent value after

end Does

section Variable

variable {session : Session σ} {name : String}

/-- A variable without a value is the fault of the check, and nothing is done. -/
theorem verifyVariable_of_absent (absent : session.vars.has name = false) :
    verifyVariable name session =
      (.error (.step (.undefinedVariable name
        (some s!"Variable {name} to verify not found in test context")) none), session) := by
  rw [verifyVariable, bind_apply_of_ok (get_apply session), absent]
  rfl

omit [Outside σ] in
theorem getVariable_does {value : Json} (present : session.vars.get? name = some value)
    (default : Json) :
    Does (getVariable name default) session (.pure value session.outside) := by
  refine .look ?_
  rw [present]
  exact .note _ _ _ (.pure value _)

/-- A check of a variable looks for its value. -/
theorem verifyVariable_does {value : Json} (present : session.vars.get? name = some value) :
    Does (verifyVariable name) session
      ((Outside.lookFor session.manner resultsTable value.display session.outside).andThen
        fun found after =>
          if found then .pure s!"{name} = {value.display} found" after
          else
            ⟨.error (.step (.unmet
              s!"Value {value.display} from variable {name} not found on page") none),
              [], after⟩) := by
  have has : session.vars.has name = true := by
    rw [Variables.has, present]
    rfl
  refine .look ?_
  rw [has]
  refine .bind_of_pure (getVariable_does present .null) fun after same outside => ?_
  rw [← same, ← outside]
  refine .bind (.isValueShown _ after) fun found final _ => ?_
  cases found with
  | true => exact .note _ _ _ (.pure _ _)
  | false => exact .fail _ final

end Variable

theorem verifyTextPresent_does (text : String) (session : Session σ) :
    Does (verifyTextPresent text) session
      ((Outside.awaited text session.manner.settings.timeout session.outside).orElse
        fun _ after =>
          ⟨.error (.step (.unmet s!"Expected text \"{text}\" not visible on page") none),
            [], after⟩) := by
  refine .note _ _ _ (.look ?_)
  exact .recover (.awaited text _) fun _ after _ => .fail _ after

section CarryOut

variable {step : Step} {session : Session σ} {name : String}

theorem carryOut_of_bold (action : step.action = .uiVerify) (page : session.page.isSome = true)
    (bold : step.details.boldName? = some name) :
    carryOut step session = verifyVariable name session := by
  rw [carryOut, action]
  simp only [carryOutVerify, bind_apply_of_ok (requirePage_of_page page), bold]

/-- A check of a variable that has a value ends as the value is looked for. -/
theorem carryOut_looks {value : Json} (action : step.action = .uiVerify)
    (page : session.page.isSome = true) (bold : step.details.boldName? = some name)
    (present : session.vars.get? name = some value) {looked : Deed σ Bool}
    (looks : LooksFor session.manner resultsTable value.display session.outside looked) :
    session.Led (carryOut step session).2 looked.calls looked.world ∧
      (carryOut step session).1 =
        match looked.ended with
        | .ok true => .ok s!"{name} = {value.display} found"
        | .ok false => .error (.step (.unmet
            s!"Value {value.display} from variable {name} not found on page") none)
        | .error fault => .error fault := by
  have does := verifyVariable_does present
  rw [← looksFor_iff.mp looks] at does
  rw [carryOut_of_bold action page bold]
  obtain ⟨fault | found, calls, world⟩ := looked
  · rw [Deed.andThen_of_error rfl] at does
    exact ⟨does.led, does.ended⟩
  · rw [Deed.andThen_of_ok rfl] at does
    cases found with
    | true => exact ⟨by simpa using does.led, does.ended⟩
    | false => exact ⟨by simpa using does.led, does.ended⟩

/-- A check without a name in bold waits for the text that it states. -/
theorem carryOut_awaits {text : String} (action : step.action = .uiVerify)
    (page : session.page.isSome = true) (plain : step.details.boldName? = none)
    (stated : Details.present? step.details.validateText = some text) :
    session.Led (carryOut step session).2
        (Outside.awaited text session.manner.settings.timeout session.outside).calls
        (Outside.awaited text session.manner.settings.timeout session.outside).world ∧
      (carryOut step session).1 =
        match (Outside.awaited text session.manner.settings.timeout session.outside).ended with
        | .ok _ => .ok s!"\"{text}\" present"
        | .error fault =>
          .error (if fault.isInterrupt then fault else
            .step (.unmet s!"Expected text \"{text}\" not visible on page") none) := by
  have carried : carryOut step session =
      (verifyTextPresent text >>= fun _ => pure s!"\"{text}\" present") session := by
    rw [carryOut, action]
    simp only [carryOutVerify, bind_apply_of_ok (requirePage_of_page page), plain, stated]
  have does := (verifyTextPresent_does text session).returning s!"\"{text}\" present"
  rw [carried]
  generalize Outside.awaited text session.manner.settings.timeout session.outside = awaited at *
  obtain ⟨fault | _, calls, world⟩ := awaited
  · cases interrupt : fault.isInterrupt with
    | true =>
        rw [Deed.orElse_of_interrupt rfl interrupt] at does
        exact ⟨does.led, by rw [does.ended]; simp [Except.map, interrupt]⟩
    | false =>
        rw [Deed.orElse_of_failure rfl interrupt] at does
        exact ⟨by simpa using does.led, by rw [does.ended]; simp [Except.map, interrupt]⟩
  · rw [Deed.orElse_of_ok rfl] at does
    exact ⟨does.led, does.ended⟩

/-- A check of nothing passes without a look at the page. -/
theorem carryOut_of_bare (action : step.action = .uiVerify) (page : session.page.isSome = true)
    (plain : step.details.boldName? = none) (bare : Details.IsBare step.details.validateText) :
    Does (carryOut step) session (.pure "nothing to verify" session.outside) := by
  have carried : carryOut step session = (do
      note .warning .steps s!"Step {step.ordinal} has nothing to verify"
      return "nothing to verify" : Play σ String) session := by
    rw [carryOut, action]
    simp only [carryOutVerify, bind_apply_of_ok (requirePage_of_page page), plain,
      Details.present?_eq_none_iff.mpr bare]
  have does : Does (do
      note .warning .steps s!"Step {step.ordinal} has nothing to verify"
      return "nothing to verify" : Play σ String) session
      (.pure "nothing to verify" session.outside) := .note _ _ _ (.pure _ _)
  exact ⟨by rw [carried]; exact does.ended, by rw [carried]; exact does.led,
    by rw [carried]; exact does.manner⟩

end CarryOut

/-- **A check passes only with evidence.** The first name in bold decides. If it has no value, that
is the fault of the check, and nothing is asked of the page. Otherwise its value is looked for in
the table of results, row by row up to the first that holds it, and then as a text of the page: the
check passes exactly if there is evidence, a fault on the way to the rows or in reading them goes
on, and in all other cases the value is not found. Without a name in bold the check waits for the
text that it states, if it states one, and any failure means that the text is not visible. An
interrupt goes on from anywhere. -/
theorem carryOut_verifies {step : Step} {session : Session σ} (action : step.action = .uiVerify)
    (page : session.page.isSome = true) :
    (∀ name place, Text.IsLeftmost Details.HasBold step.details.rawText.toList place →
      Details.BeginsWithBold name.toList place →
        (session.vars.has name = false → carryOut step session =
          (.error (.step (.undefinedVariable name
            (some s!"Variable {name} to verify not found in test context")) none), session)) ∧
        ∀ value, session.vars.get? name = some value →
          ((carryOut step session).1 = .ok s!"{name} = {value.display} found" ↔
            HasEvidence session.manner resultsTable value.display session.outside) ∧
          ∃ looked, LooksFor session.manner resultsTable value.display session.outside looked ∧
            session.Led (carryOut step session).2 looked.calls looked.world ∧
            (carryOut step session).1 =
              match looked.ended with
              | .ok true => .ok s!"{name} = {value.display} found"
              | .ok false => .error (.step (.unmet
                  s!"Value {value.display} from variable {name} not found on page") none)
              | .error fault => .error fault) ∧
    ((∀ place, place <:+ step.details.rawText.toList → ¬Details.HasBold place) →
      (Details.IsBare step.details.validateText →
        session.Led (carryOut step session).2 [] session.outside ∧
          (carryOut step session).1 = .ok "nothing to verify") ∧
      ∀ text, step.details.validateText = some text → text ≠ "" →
        let awaited := Outside.awaited text session.manner.settings.timeout session.outside
        session.Led (carryOut step session).2 awaited.calls awaited.world ∧
          (carryOut step session).1 =
            match awaited.ended with
            | .ok _ => .ok s!"\"{text}\" present"
            | .error fault =>
              .error (if fault.isInterrupt then fault else
                .step (.unmet s!"Expected text \"{text}\" not visible on page") none)) := by
  refine ⟨?_, ?_⟩
  · intro name place leftmost begins
    have bold := Details.boldName?_eq_some_iff.mpr ⟨place, leftmost, begins⟩
    refine ⟨?_, ?_⟩
    · intro absent
      rw [carryOut_of_bold action page bold, verifyVariable_of_absent absent]
    · intro value present
      have looks := looksFor_iff.mpr (rfl : Outside.lookFor session.manner resultsTable
        value.display session.outside = _)
      have comes := carryOut_looks action page bold present looks
      refine ⟨?_, _, looks, comes⟩
      rw [comes.2, ← lookFor_true_iff]
      split
      · next found => simp [found]
      · next missed => simp [missed]
      · next failed => simp [failed]
  · intro plain
    have plain := Details.boldName?_eq_none_iff.mpr plain
    refine ⟨?_, ?_⟩
    · intro bare
      have does := carryOut_of_bare action page plain bare
      exact ⟨does.led, does.ended⟩
    · intro text stated nonempty awaited
      have present : Details.present? step.details.validateText = some text := by
        rw [stated, Details.present?, Option.filter_some, if_pos (bne_iff_ne.mpr nonempty)]
      exact carryOut_awaits action page plain present

/-- A value in the second row of a table that a healer looks up; the row after it cannot be read. -/
theorem carryOut_verifies_row :
    let name := "accountId"
    let value := Json.text "12345"
    let step : Step := ⟨3, "Verify the account", .uiVerify,
      { rawText := "Verify that **accountId** is in the table, not **other**" }⟩
    let world : Scripted := { elements := [(resultsTable, {}), ("table >> tr", { rows :=
      [.text (some "Account"), .text (some "12345 $"), .failing (.failure .page "gone")] })] }
    let session : Session Scripted :=
      { outside := world, page := some {}, healer := some { strategies := Strategy.standard },
        vars := { entries := [(name, value)] } }
    step.action = .uiVerify ∧ session.page.isSome = true ∧
      ∃ place, Text.IsLeftmost Details.HasBold step.details.rawText.toList place ∧
        Details.BeginsWithBold name.toList place ∧ session.vars.get? name = some value ∧
        (carryOut step session).1 = .ok s!"{name} = {value.display} found" ∧
        HasEvidence session.manner resultsTable value.display session.outside := by
  intro name value step world session
  have bold : step.details.boldName? = some name := by decide +kernel
  have passed : (carryOut step session).1.toOption = some s!"{name} = {value.display} found" := by
    decide +kernel
  have ended := eq_ok_of_toOption passed
  obtain ⟨place, leftmost, begins⟩ := Details.boldName?_eq_some_iff.mp bold
  obtain ⟨checks, -⟩ := @carryOut_verifies Scripted _ step session rfl rfl
  obtain ⟨evidence, -⟩ := (checks name place leftmost begins).2 value rfl
  exact ⟨rfl, rfl, place, leftmost, begins, rfl, ended, evidence.mp ended⟩

end Play

end Walkthrough
