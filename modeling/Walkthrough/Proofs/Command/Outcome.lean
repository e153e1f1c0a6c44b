import Walkthrough.Proofs.Command.Closing
import Walkthrough.Proofs.Command.Verdict
import Walkthrough.Proofs.Report.Sections

/-!
# What the artifacts of a run say

A run that gets as far as to deliver a result (`Walkthrough.RunPlan.Reaches`) says four times
whether it failed: by its exit code, in the header of its report, in its result as JSON and in the
failures that its test suite counts. The first three agree on whether the prompt was executed to its
end. The suite only knows the reports of steps, so it counts no failure of a run that failed before
its prompt was loaded (`Walkthrough.Play.run_outcome`).
-/

namespace Walkthrough

/-- The value of the first attribute of a name. -/
def Xml.attribute? (name : String) : Xml → Option String
  | leaf _ attributes _ | branch _ attributes _ => Fields.get? name attributes

namespace RunResult

/-- The report starts with its header. -/
theorem header_starts (result : RunResult) :
    result.markdownHeader.toList <+: result.markdown.toList := by
  rw [markdown, String.intercalate_cons_cons, String.toList_append, String.toList_append,
    List.append_assoc]
  exact List.prefix_append _ _

/-- The header of the report ends with the verdict. -/
theorem verdict_ends (result : RunResult) :
    ("**Verdict:** " ++ if result.passed then "PASS" else "FAIL").toList <:+
      result.markdownHeader.toList := by
  obtain ⟨front, whole⟩ := result.exists_markdownHeader
  exact ⟨front ++ ['\n'], by rw [whole, List.append_assoc]; rfl⟩

/-- The verdict of the report is that of a failure exactly if the run did not pass. -/
theorem verdict_fails_iff (result : RunResult) :
    "**Verdict:** FAIL".toList <:+ result.markdownHeader.toList ↔ result.passed = false := by
  have verdict := result.verdict_ends
  cases passed : result.passed with
  | false =>
      rw [passed] at verdict
      exact iff_of_true verdict rfl
  | true =>
      rw [passed] at verdict
      refine iff_of_false (fun fails => ?_) (by decide)
      have same := (List.suffix_of_suffix_length_le fails verdict (by decide)).eq_of_length
        (by decide)
      exact absurd same (by decide)

/-- The result as JSON says whether the run passed. -/
theorem toJson_passed (result : RunResult) (reportPath : Option Path) :
    ∃ fields, result.toJson reportPath = .object fields ∧
      Fields.get? "passed" fields = some (.bool result.passed) := by
  refine ⟨_, rfl, ?_⟩
  simp [Fields.get?]

end RunResult

/-- The test suite counts the reports of steps that failed. -/
theorem testSuite_failures (promptName : String) (seconds : Number) (reports : List StepReport) :
    (testSuite promptName seconds reports).attribute? "failures" =
      some (toString (reports.filter fun report => !report.passed).length) := by
  simp [testSuite, Xml.attribute?, Fields.get?]

variable {σ : Type} [Outside σ]

/-- A run gets as far as to deliver a result: it is concluded, summed up and closed. -/
def RunPlan.Reaches (plan : RunPlan) (ready : Session σ) (failure : Option Fault)
    (result : RunResult) (closed : Session σ) : Prop :=
  ∃ worked, plan.Concludes ready failure worked ∧
    Play.thenAlways (Play.summarize plan (Outside.now ready.outside) (Outside.clock ready.outside)
      failure) Play.closeDown worked = (.ok result, closed)

namespace Play

section Failing

/-- Where a session has no reports, a play leaves none either. -/
def StaysFresh (session after : Session σ) : Prop :=
  session.reports = [] → after.reports = []

omit [Outside σ] in
theorem staysFresh_order : Session.Onward (StaysFresh : Session σ → Session σ → Prop) where
  refl _ := id
  trans before after := after ∘ before

omit [Outside σ] in
theorem loadFile_fresh (name : String) (path : Path) :
    Confined StaysFresh (fun _ => True) (loadFile name path : Play σ Document) := by
  refine ⟨fun session fresh => ?_, fun _ _ _ => trivial⟩
  rcases read : session.disk.document path with fault | document
  · exact (loadFile_of_error read name).2.reports.trans fresh
  · exact (loadFile_loaded read name).reports

omit [Outside σ] in
theorem enableHealing_fresh :
    Confined StaysFresh (fun _ => True) (enableHealing : Play σ Unit) := by
  refine ⟨fun session fresh => ?_, fun _ _ _ => trivial⟩
  obtain ⟨_, after, ended, same⟩ := enableHealing_quiet session
  rw [ended]
  exact same.reports.trans fresh

/-- Up to the moment when the prompt is loaded there are no reports. -/
theorem loadPrompt_fresh (plan : RunPlan) :
    Confined StaysFresh (fun _ => True) (loadPrompt plan : Play σ Document) :=
  loadPrompt_confined staysFresh_order
    ((openBrowser_opens plan.browser).weaken (fun _ _ opens fresh => opens.2.trans fresh)
      fun _ => id)
    (fun _ _ => id) enableHealing_fresh (loadFile_fresh _ _) fun _ _ => id

/-- Executing a prompt that ends with a fault leaves the report of a step that failed, unless it was
interrupted. -/
theorem execute_fails {session : Session σ} {fault : Fault}
    (failed : (execute session).1 = .error fault) (caught : fault.isInterrupt = false) :
    ∃ report ∈ (execute session).2.reports, report.passed = false := by
  rcases ended : executeSteps session.document.steps (started session) with ⟨raised | _, after⟩
  · obtain ⟨final, closed, same⟩ := execute_of_error ended
    obtain ⟨stop, reports, endsWith, leaves, added, -⟩ := executeSteps_stop ended
    rw [closed] at failed ⊢
    cases failed
    -- The step where it stops leaves a report unless it is interrupted, which is not caught.
    have kept : stop.raised.isInterrupt = false := endsWith.isInterrupt_eq.trans caught
    unfold Stop.Leaves at leaves
    rw [if_neg (Bool.eq_false_iff.mp kept)] at leaves
    obtain ⟨before, last, rfl, -, verdict⟩ := leaves
    refine ⟨last, ?_, verdict.passed⟩
    simp only [same.reports, added]
    simp
  · obtain ⟨final, closed, -⟩ := execute_of_ok ended
    rw [closed] at failed
    cases failed

end Failing

section Outcome

variable {plan : RunPlan} {ready worked closed : Session σ} {failure : Option Fault}
  {result : RunResult}

theorem concludes_isNone (concludes : plan.Concludes ready failure worked) :
    failure.isNone = true ↔ plan.Executes ready := by
  rw [← performPrompt_ok_iff]
  cases concludes with
  | passed performed => exact iff_of_true rfl (by rw [performed])
  | failed performed => exact iff_of_false Bool.false_ne_true (by rw [performed]; rintro ⟨⟩)

/-- **What fails without a report.** Among the reports of a run that is concluded is one of a step
that failed exactly if the run failed once its prompt was loaded. -/
theorem concludes_fails_iff (fresh : ready.reports = [])
    (concludes : plan.Concludes ready failure worked) :
    (∃ report ∈ worked.reports, report.passed = false) ↔
      ¬ plan.Executes ready ∧
        ∃ document loaded, loadPrompt plan ready = (.ok document, loaded) := by
  have reports : worked.reports = (performPrompt plan ready).2.reports := by
    obtain ⟨log, same⟩ := concludes.worked_eq
    rw [same]
  rcases loaded : loadPrompt plan ready with ⟨fault | document, after⟩
  · have none := (loadPrompt_fresh plan).leads ready fresh
    rw [performPrompt_eq, bind_apply_of_error loaded] at reports
    rw [loaded] at none
    refine iff_of_false ?_ (by rintro ⟨-, _, _, ⟨⟩⟩)
    rw [reports, none]
    simp
  · have failing : (∃ report ∈ worked.reports, report.passed = false) ↔ ¬ plan.Executes ready := by
      constructor
      · rintro ⟨report, member, fails⟩ executes
        obtain ⟨other, _, -, passed⟩ := executes_iff.mp executes
        rw [reports] at member
        rw [StepReport.SaysPassed.all passed report member] at fails
        cases fails
      · intro stops
        cases concludes with
        | passed performed => exact (stops (performPrompt_ok_iff.mp (by rw [performed]))).elim
        | @failed fault _ performed caught =>
            rw [reports, (performPrompt_of_loaded loaded).1]
            refine execute_fails ?_ caught
            rw [performPrompt_eq, bind_apply_of_ok loaded] at performed
            rcases executed : execute after with ⟨raised | returned, final⟩
            · rw [bind_apply_of_error executed] at performed
              cases performed
              rfl
            · rw [bind_apply_of_ok executed] at performed
              cases performed
    rw [failing]
    exact ⟨fun stops => ⟨stops, document, after, rfl⟩, And.left⟩

/-- In an orderly world a run that is to be concluded reaches its artifacts. -/
theorem exists_reaches (orderly : Outside.Orderly ready.outside)
    (concludes : plan.Concludes ready failure worked) :
    ∃ result closed, plan.Reaches ready failure result closed := by
  have later := performPrompt_later plan ready
  have same : worked.outside = (performPrompt plan ready).2.outside := by
    obtain ⟨log, same⟩ := concludes.worked_eq
    rw [same]
  rw [← same] at later
  obtain ⟨result, closed, summed, -⟩ := conclude_closes (orderly.later later) plan
    (Outside.now ready.outside) (Outside.clock ready.outside) failure
  exact ⟨result, closed, worked, concludes, summed⟩

/-- A run that reaches its artifacts delivers a result about its reports, which says that it passed
if it was executed to its end. -/
theorem carryOutRun_of_reaches (reaches : plan.Reaches ready failure result closed) :
    carryOutRun plan ready = deliver plan result failure closed ∧
      (result.passed = false ↔ ¬ plan.Executes ready) ∧
      ∃ worked, plan.Concludes ready failure worked ∧ result.stepReports = worked.reports := by
  obtain ⟨worked, concludes, summed⟩ := reaches
  have sums : Returns (thenAlways (summarize plan (Outside.now ready.outside)
      (Outside.clock ready.outside) failure) closeDown) worked fun result _ =>
        result.passed = failure.isNone ∧ result.stepReports = worked.reports :=
    .thenAlways (summarize_returns worked) _
  obtain ⟨passed, reports⟩ := sums result closed summed
  refine ⟨?_, ?_, worked, concludes, reports⟩
  · rw [carryOutRun_of_concludes concludes, conclude, bind_apply_of_ok summed]
  · rw [passed, ← concludes_isNone concludes, Bool.not_eq_true]

omit [Outside σ] in
/-- A run that failed has the exit code for that, whatever becomes of what it delivers. -/
theorem deliver_exitCode (failed : result.passed = false) (plan : RunPlan)
    (failure : Option Fault) (session : Session σ) :
    Command.exitCode (deliver plan result failure session).1 = 1 := by
  have fails := (deliver_rests plan result failure).fails session
  rcases delivered : deliver plan result failure session with ⟨fault | code, after⟩
  · rw [delivered] at fails
    obtain ⟨writing, -⟩ := fails fault rfl
    cases fault with
    | outside => cases writing
    | _ => rfl
  · rw [Command.exitCode, deliver_returns plan result failure session code after delivered, failed]
    rfl

/-- **What the artifacts say.** A run that gets as far as to deliver a result is said to have failed
exactly if its prompt was not executed to its end, by its exit code, by the verdict of its report
and by its result as JSON. Its test suite counts failures exactly if, besides, the prompt was
loaded: a run that fails before that fails in no step. -/
theorem run_outcome {order : RunOrder} {usual : String} {session : Session σ}
    (starts : order.Starts usual session plan ready)
    (reaches : plan.Reaches ready failure result closed) :
    run order usual session = deliver plan result failure closed ∧
    ((¬ plan.Executes ready → Command.exitCode (run order usual session).1 = 1) ∧
      ∀ code, (run order usual session).1 = .ok code →
        (code = 0 ∨ code = 1) ∧ (code = 1 ↔ ¬ plan.Executes ready)) ∧
    (result.markdownHeader.toList <+: result.markdown.toList ∧
      ("**Verdict:** FAIL".toList <:+ result.markdownHeader.toList ↔ ¬ plan.Executes ready)) ∧
    (∀ reportPath, ∃ fields, result.toJson reportPath = .object fields ∧
      (Fields.get? "passed" fields = some (.bool false) ↔ ¬ plan.Executes ready)) ∧
    ∃ failures : Nat, (testSuite result.promptName result.seconds result.stepReports).attribute?
        "failures" = some (toString failures) ∧
      (0 < failures ↔ ¬ plan.Executes ready ∧
        ∃ document loaded, loadPrompt plan ready = (.ok document, loaded)) := by
  obtain ⟨delivers, passed, worked, concludes, reports⟩ := carryOutRun_of_reaches reaches
  rw [run_of_starts starts, delivers]
  refine ⟨rfl, ⟨fun stops => deliver_exitCode (passed.mpr stops) plan failure closed,
    fun code ended => ?_⟩, ⟨result.header_starts, ?_⟩, fun reportPath => ?_, ?_⟩
  · rcases delivered : deliver plan result failure closed with ⟨fault | value, after⟩
    · rw [delivered] at ended
      cases ended
    · rw [delivered] at ended
      cases ended
      rw [deliver_returns plan result failure closed code after delivered, ← passed]
      cases result.passed with
      | true => decide
      | false => decide
  · rw [result.verdict_fails_iff, passed]
  · obtain ⟨fields, written, verdict⟩ := result.toJson_passed reportPath
    refine ⟨fields, written, ?_⟩
    rw [← passed, verdict]
    simp
  · refine ⟨(result.stepReports.filter fun report => !report.passed).length,
      testSuite_failures _ _ _, ?_⟩
    obtain ⟨client, console, log, vars, same⟩ :=
      (prepareRun_leaves plan session).2 ready starts.prepared
    rw [← concludes_fails_iff (by rw [same]) concludes, reports, List.length_pos_iff_exists_mem]
    simp only [List.mem_filter, Bool.not_eq_true']

/-- A run of a prompt without steps, in a project where no report can be written. -/
theorem run_outcome_without_steps :
    let order : RunOrder := { prompt := .ofText "flow.prompt", form := "json" }
    let session : Session Scripted :=
      { outside := {}
        disk := { nodes := [(["flow.prompt"], .file "just prose\n".toUTF8.toList),
          ([".promptqa"], .file [])] } }
    ∃ (plan : RunPlan) (result : RunResult) (closed : Session Scripted),
      run order Environment.usual session = deliver plan result none closed ∧
        (run order Environment.usual session).1 = .ok 0 ∧
        ¬ "**Verdict:** FAIL".toList <:+ result.markdownHeader.toList ∧
        (testSuite result.promptName result.seconds result.stepReports).attribute? "failures" =
          some "0" := by
  intro order session
  have ended : (run order Environment.usual session).1.toOption = some 0 := by decide +kernel
  obtain ⟨plan, ready, starts⟩ : ∃ plan ready,
      order.Starts Environment.usual session plan ready :=
    exists_starts (by decide) (by decide +kernel) (by decide +kernel)
  obtain ⟨client, console, log, vars, fresh⟩ :=
    (prepareRun_leaves plan session).2 ready starts.prepared
  have orderly : Outside.Orderly ready.outside := by
    rw [fresh]
    exact Scripted.orderly (fun _ _ => by rintro ⟨⟩) fun _ _ => by rintro ⟨⟩
  rcases passed : run order Environment.usual session with ⟨fault | code, after⟩
  · rw [passed] at ended
    cases ended
  rw [passed] at ended
  cases ended
  have zero := carryOutRun_returns plan ready 0 after (by rw [← run_of_starts starts, passed])
  rcases performed : performPrompt plan ready with ⟨outcome, worked⟩
  rw [performed] at zero
  cases RunPlan.codeFor_eq_zero.mp zero.symm
  obtain ⟨result, closed, reaches⟩ := exists_reaches orderly (.passed performed)
  have executes : plan.Executes ready := performPrompt_ok_iff.mp (by rw [performed])
  obtain ⟨delivers, -, ⟨-, verdict⟩, -, failures, counted, suite⟩ := run_outcome starts reaches
  refine ⟨plan, result, closed, passed.symm.trans delivers, rfl, ?_, ?_⟩
  · exact fun fails => verdict.mp fails executes
  · have none : failures = 0 :=
      Nat.eq_zero_of_not_pos fun some => (suite.mp some).1 executes
    rw [counted, none]
    rfl

/-- **A failure that the test suite does not count.** The browser of a run cannot be launched. The
run fails, and its report and its result say so, but there is no report of a step, so that its test
suite counts no failure. -/
theorem run_without_browser :
    let order : RunOrder :=
      { prompt := .ofText "flow.prompt", junit := some (.ofText "junit.xml"), form := "json" }
    let session : Session Scripted :=
      { outside := { browserFails := [("launch", .failure .other "no browser")] }
        disk := { nodes := [(["flow.prompt"],
          .file "1. Login via API\nEndpoint: /login\n".toUTF8.toList)] } }
    ∃ (plan : RunPlan) (ready : Session Scripted) (failure : Option Fault) (result : RunResult)
      (closed : Session Scripted), order.Starts Environment.usual session plan ready ∧
        plan.Reaches ready failure result closed ∧
        run order Environment.usual session = deliver plan result failure closed ∧
        Command.exitCode (run order Environment.usual session).1 = 1 ∧
        "**Verdict:** FAIL".toList <:+ result.markdownHeader.toList ∧
        result.passed = false ∧
        (testSuite result.promptName result.seconds result.stepReports).attribute? "failures" =
          some "0" := by
  intro order session
  obtain ⟨plan, ready, starts⟩ : ∃ plan ready,
      order.Starts Environment.usual session plan ready :=
    exists_starts (by decide) (by decide +kernel) (by decide +kernel)
  obtain ⟨client, console, log, vars, fresh⟩ :=
    (prepareRun_leaves plan session).2 ready starts.prepared
  have failed : (performPrompt plan ready).1 =
      .error (.outside (.failure .other "no browser")) := by
    rw [fresh]
    rfl
  have unreported : (performPrompt plan ready).2.reports = [] := by
    rw [fresh]
    rfl
  have orderly : Outside.Orderly ready.outside := by
    rw [fresh]
    refine Scripted.orderly (fun _ _ => by rintro ⟨⟩) fun name message => ?_
    show (if "launch" = name then _ else none) ≠ _
    split <;> simp
  have stops : ¬ plan.Executes ready := by
    rw [← performPrompt_ok_iff, failed]
    rintro ⟨⟩
  rcases performed : performPrompt plan ready with ⟨outcome, worked⟩
  rw [performed] at failed
  cases failed
  obtain ⟨result, closed, reaches⟩ := exists_reaches orderly (.failed performed rfl rfl)
  obtain ⟨delivers, fails, other, concludes, reports⟩ := carryOutRun_of_reaches reaches
  have delivered := (run_of_starts starts).trans delivers
  refine ⟨plan, ready, _, result, closed, starts, reaches, delivered, ?_, ?_, fails.mpr stops, ?_⟩
  · rw [delivered]
    exact deliver_exitCode (fails.mpr stops) plan _ closed
  · rw [result.verdict_fails_iff, fails]
    exact stops
  · obtain ⟨log, left⟩ := concludes.worked_eq
    have none : other.reports = [] := by
      rw [left]
      exact unreported
    rw [testSuite_failures, reports, none]
    rfl

end Outcome

end Play

end Walkthrough
