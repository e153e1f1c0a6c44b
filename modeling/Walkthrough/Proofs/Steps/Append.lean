import Walkthrough.Outside.Scripted
import Walkthrough.Proofs.Prompt.Append
import Walkthrough.Proofs.Steps.Parallel
import Walkthrough.Proofs.Steps.Reports

/-!
# Prompts executed one after the other

Loading a prompt takes away the reports and nothing else (`Walkthrough.Play.load_ended`), and its
run is that through its steps (`Walkthrough.Play.runText_ended`). So a prompt that is cut in front
of a header runs like its parts one after the other (`Walkthrough.Play.runText_append`).
-/

namespace Walkthrough

variable {σ : Type} [Outside σ]

namespace Play

omit [Outside σ] in
/-- Loading a prompt that does not switch healing on takes the reports away, and nothing else
changes. -/
theorem load_ended {document : Document} {session : Session σ}
    (unswitched : session.selfHealing = true ∨ document.selfHealing ≠ some true) :
    ∃ log, load document session =
      (.ok document, { session with document, reports := [], log }) := by
  rw [load, bind_apply_of_ok (modify_apply _ session), bind_apply_of_ok (get_apply _)]
  split
  · next switches =>
      rw [Bool.and_eq_true, decide_eq_true_eq, Bool.not_eq_true'] at switches
      rcases unswitched with on | none
      · rw [on] at switches
        cases switches.2
      · exact absurd switches.1 none
  · obtain ⟨_, log, ended⟩ := noteMisses_silent document.misses
      { session with document, reports := [] }
    exact ⟨_, bind_apply_of_ok ended _⟩

/-- A run through steps that ends with a fault does not reach those after them. -/
theorem executeSteps_append_of_error {steps : List Step} {session after : Session σ} {fault : Fault}
    (ended : executeSteps steps session = (.error fault, after)) (rest : List Step) :
    executeSteps (steps ++ rest) session = (.error fault, after) := by
  induction steps generalizing session with
  | nil => cases ended
  | cons step later ih =>
      rcases first : executeStep step session with ⟨raised | report, middle⟩
      · rw [executeSteps, bind_apply_of_error first] at ended
        cases ended
        rw [List.cons_append, executeSteps, bind_apply_of_error first]
      · rw [executeSteps_cons_of_ok first] at ended
        rw [List.cons_append, executeSteps_cons_of_ok first, ih ended]

theorem executeSteps_selfHealing (steps : List Step) (session : Session σ) :
    (executeSteps steps session).2.selfHealing = session.selfHealing := by
  induction steps generalizing session with
  | nil => rfl
  | cons step rest ih =>
      have same : (executeStep step session).2.selfHealing = session.selfHealing := by
        obtain ⟨reports, log, after⟩ := executeStep_after step session
        rw [after]
        exact (carryOut_frame step (announced step session)).selfHealing
      rcases ended : executeStep step session with ⟨raised | report, middle⟩
      · rw [ended] at same
        rw [executeSteps, bind_apply_of_error ended]
        exact same
      · rw [ended] at same
        rw [executeSteps_cons_of_ok ended, ih, same]

/-- Loads a prompt from its text and executes it. -/
def runText (text : String) : Play σ (List StepReport) := do
  let _ ← loadText text
  execute

/-- A prompt that does not switch healing on runs through its steps from the session that it finds,
without earlier reports. -/
theorem runText_ended {text : String} {document : Document}
    (read : Document.ofText text = .ok document) {session : Session σ}
    (unswitched : session.selfHealing = true ∨ document.selfHealing ≠ some true) :
    ∃ log final, runText text session =
      match executeSteps document.steps { session with document, reports := [], log } with
      | (.ok _, after) => (.ok after.reports, { after with log := final })
      | (.error fault, after) => (.error fault, { after with log := final }) := by
  obtain ⟨log, loaded⟩ := load_ended unswitched
  have loadedText : loadText text session =
      (.ok document, { session with document, reports := [], log }) := by
    rw [loadText, read]
    exact loaded
  obtain ⟨final, ended⟩ := execute_ended { session with document, reports := [], log }
  exact ⟨_, final, (bind_apply_of_ok loadedText _).trans ended⟩

/-- **A prompt can be cut in front of a header.** If neither part switches healing on, the whole
runs like its parts one after the other: in the same world, with the same calls, variables and
healer, and with the reports of both. What the first part fails with, the whole fails with at the
same step; otherwise it ends like the second. -/
theorem runText_append {first second : String} {early late : Document}
    (joint : Joint first second) (readFirst : Document.ofText first = .ok early)
    (readSecond : Document.ofText second = .ok late) (session : Session σ)
    (unswitched : session.selfHealing = true ∨
      early.selfHealing ≠ some true ∧ late.selfHealing ≠ some true) :
    (∀ fault after, runText first session = (.error fault, after) →
      (runText (first ++ second) session).1 = .error fault ∧
        Session.Matches Eq [] (runText (first ++ second) session).2 after) ∧
    ∀ reports middle, runText first session = (.ok reports, middle) →
      (runText (first ++ second) session).1 = (runText second middle).1.map (reports ++ ·) ∧
        Session.Matches Eq reports (runText (first ++ second) session).2
          (runText second middle).2 := by
  have neither :
      session.selfHealing = true ∨ early.selfHealing.or late.selfHealing ≠ some true := by
    refine unswitched.imp_right fun ⟨unswitchedFirst, unswitchedSecond⟩ => ?_
    cases given : early.selfHealing with
    | none => exact unswitchedSecond
    | some switch =>
        rw [given] at unswitchedFirst
        exact unswitchedFirst
  obtain ⟨log, final, whole⟩ :=
    runText_ended (Document.ofText_append joint readFirst readSecond) neither
  obtain ⟨firstLog, firstFinal, firstRun⟩ := runText_ended readFirst (unswitched.imp_right And.left)
  have begins : Session.Matches Eq []
      { session with
        document := ⟨early.steps ++ late.steps, early.misses,
          early.selfHealing.or late.selfHealing⟩
        reports := []
        log }
      { session with document := early, reports := [], log := firstLog } :=
    ⟨rfl, rfl, rfl, rfl, rfl, rfl, rfl⟩
  -- The second part is loaded into a session that the first part's steps leave, switch and all.
  have kept := executeSteps_selfHealing early.steps
    { session with document := early, reports := [], log := firstLog }
  rcases (executeSteps_parallel (Outside.simulates_eq.reporting []) early.steps).cases begins with
    excused | ⟨_, _, reached, middle, -, alike, ended, endedFirst⟩ |
    ⟨fault, after, other, alike, ended, endedFirst⟩
  · exact excused.elim
  · rw [endedFirst] at firstRun kept
    rw [executeSteps_append_of_ok ended] at whole
    have unswitchedAfter : ({ middle with log := firstFinal } : Session σ).selfHealing = true ∨
        late.selfHealing ≠ some true :=
      unswitched.imp kept.trans And.right
    obtain ⟨secondLog, secondFinal, secondRun⟩ := runText_ended readSecond unswitchedAfter
    -- In the whole, the steps of the second part find the reports of the first.
    have resumes : Session.Matches Eq middle.reports reached
        { middle with document := late, reports := [], log := secondLog } :=
      { alike with reports := alike.reports.trans (List.append_nil _).symm }
    refine ⟨fun fault after run => ?_, fun reports final run => ?_⟩
    · rw [firstRun] at run
      cases run
    rw [firstRun] at run
    cases run
    rcases (executeSteps_parallel (Outside.simulates_eq.reporting middle.reports) late.steps).cases
      resumes with
      excused | ⟨_, _, after, other, -, alike, ended, endedSecond⟩ |
      ⟨fault, after, other, alike, ended, endedSecond⟩
    · exact excused.elim
    · rw [ended] at whole
      rw [endedSecond] at secondRun
      rw [secondRun, whole]
      exact ⟨congrArg Except.ok alike.reports, { alike with }⟩
    · rw [ended] at whole
      rw [endedSecond] at secondRun
      rw [secondRun, whole]
      exact ⟨rfl, { alike with }⟩
  · rw [endedFirst] at firstRun
    rw [executeSteps_append_of_error ended] at whole
    rw [whole]
    refine ⟨fun fault after run => ?_, fun reports final run => ?_⟩
    · rw [firstRun] at run
      cases run
      exact ⟨rfl, { alike with }⟩
    · rw [firstRun] at run
      cases run

/-- A first prompt with a text before its step, and a second one that goes on with the account that
the first one stored. -/
theorem runText_append_account :
    let first := "Accounts\n1. Retrieve by API\nURL: /a\nStore it into variable id\n"
    let second := "#Step 2: Retrieve by API\nURL: /a/\x7b\x7bid\x7d\x7d\nSelf-Healing: YES"
    let account : HttpReply :=
      ⟨200, [("Content-Type", "application/json")], "\x7b\"id\": 7\x7d"⟩
    let session : Session Scripted :=
      { outside := { replies := [⟨0.0, .ok account⟩, ⟨0.0, .ok ⟨500, [], "none"⟩⟩] }
        client := { baseUrl := "http://api" }, selfHealing := true }
    (runText (first ++ second) session).2.calls.length = 2 ∧
      ∃ reports middle, runText first session = (.ok reports, middle) ∧
        (runText (first ++ second) session).1 = (runText second middle).1.map (reports ++ ·) ∧
        Session.Matches Eq reports (runText (first ++ second) session).2
          (runText second middle).2 := by
  intro first second account session
  let read : Step := ⟨1, "Retrieve by API", .apiGet,
    { endpoint := some "/a", storeAs := some "id"
      rawText := "URL: /a\nStore it into variable id" }⟩
  let use : Step := ⟨2, "Retrieve by API", .apiGet,
    { endpoint := some "/a/\x7b\x7bid\x7d\x7d"
      rawText := "URL: /a/\x7b\x7bid\x7d\x7d\nSelf-Healing: YES" }⟩
  have joint : Joint first second := by
    refine ⟨.inr ?_, "#Step 2: Retrieve by API",
      ["URL: /a/\x7b\x7bid\x7d\x7d", "Self-Healing: YES"], ⟨2, "Retrieve by API"⟩,
      by decide +kernel, by decide +kernel⟩
    rw [Text.EndsLine]
    decide +kernel
  have readFirst : Document.ofText first = .ok ⟨[read], [⟨1, "Accounts"⟩], none⟩ := by
    decide +kernel
  have readSecond : Document.ofText second = .ok ⟨[use], [], some true⟩ := by
    decide +kernel
  have passes : (runText first session).1.toOption.isSome = true := by
    rw [runText, loadText, readFirst]
    decide +kernel
  have asked : (runText (first ++ second) session).2.calls.length = 2 := by
    rw [runText, loadText, Document.ofText_append joint readFirst readSecond]
    decide +kernel
  obtain ⟨-, passed⟩ := runText_append joint readFirst readSecond session (.inl rfl)
  rcases run : runText first session with ⟨fault | reports, middle⟩
  · rw [run] at passes
    cases passes
  · exact ⟨asked, reports, middle, rfl, passed reports middle run⟩

end Play

end Walkthrough
