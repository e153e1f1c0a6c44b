import Walkthrough.Proofs.Command.Outcome

/-!
# What a report adds up to

The summary of a report takes its counts from different places: the steps that passed from the
reports, all steps from the prompt, and those that were not reached from both. Once its prompt was
loaded, the reports of a run are of steps that passed, and of one more if the run stopped at a step
(`Walkthrough.Play.tally_of_reaches`). So the counts and the rows of the table always add up to the
steps of the prompt (`Walkthrough.Play.run_accounts`).
-/

namespace Walkthrough

open Markdown

/-- What the reports of a result add up to, for a prompt of so many steps: so many that passed, and
after them one that failed if there is one. -/
structure RunResult.Tally (result : RunResult) (steps passed : Nat) (failed : Bool) : Prop where
  named : ∀ report ∈ result.stepReports, areFigures report.action = true
  verdicts : result.stepReports.map (·.passed) =
    List.replicate passed true ++ if failed then [false] else []
  verdict : result.passed = !failed
  total : result.totalSteps = some (steps : Int)
  fits : result.stepReports.length ≤ steps

namespace RunResult.Tally

variable {result : RunResult} {steps passed : Nat} {failed : Bool}

theorem length_eq (tally : result.Tally steps passed failed) :
    result.stepReports.length = passed + failed.toNat := by
  have length := congrArg List.length tally.verdicts
  cases failed <;> simpa using length

theorem passedCount_eq (tally : result.Tally steps passed failed) :
    result.passedCount = passed := by
  have count : result.passedCount = (result.stepReports.map (·.passed)).countP id := by
    rw [passedCount, ← List.countP_eq_length_filter, List.countP_map]
    rfl
  rw [count, tally.verdicts, List.countP_append, List.countP_replicate]
  cases failed <;> simp

theorem stepCount_eq (tally : result.Tally steps passed failed) : result.stepCount = steps := by
  rw [stepCount, tally.total, Option.getD_some]

theorem notRun_eq (tally : result.Tally steps passed failed) :
    result.notRun = (steps - result.stepReports.length : Nat) := by
  have fits := tally.fits
  rw [notRun, tally.stepCount_eq]
  omega

/-- The rows say of the steps that they passed, but for the last one if a step failed. -/
theorem results_eq (tally : result.Tally steps passed failed) :
    (result.stepReports.map StepReport.markdownRow).map resultOf =
      List.replicate passed (some "PASS") ++ if failed then [some "FAIL"] else [] := by
  have read (report : StepReport) (among : report ∈ result.stepReports) :
      resultOf report.markdownRow = some (if report.passed then "PASS" else "FAIL") :=
    StepReport.resultOf_markdownRow (tally.named report among)
  have rows : (result.stepReports.map StepReport.markdownRow).map resultOf =
      (result.stepReports.map (·.passed)).map fun passed =>
        some (if passed then "PASS" else "FAIL") := by
    simpa using read
  rw [rows, tally.verdicts, List.map_append, List.map_replicate, if_pos rfl]
  cases failed with
  | true => rfl
  | false => rfl

end RunResult.Tally

variable {σ : Type} [Outside σ]

namespace Play

section Stopping

variable {steps : List Step} {session : Session σ}

/-- A run through steps does not get past where it stops. -/
theorem executeSteps_of_stop (stop : Stop steps session) :
    ∃ fault after, executeSteps steps session = (.error fault, after) := by
  obtain ⟨before, step, rest, reached, raised, stopped, rfl, executed, carried⟩ := stop
  rw [executeSteps_append_of_ok executed, executeSteps]
  cases interrupt : raised.isInterrupt with
  | true => exact ⟨_, _, bind_apply_of_error (executeStep_of_interrupt carried interrupt) _⟩
  | false => exact ⟨_, _, bind_apply_of_error (executeStep_of_failure carried interrupt) _⟩

end Stopping

section Accounting

omit [Outside σ] in
/-- Reports of steps that passed. -/
theorem passed_verdicts {steps : List Step} {reports : List StepReport}
    (passed : List.Forall₂ StepReport.SaysPassed steps reports) :
    reports.map (·.passed) = List.replicate steps.length true ∧ reports.length = steps.length ∧
      ∀ report ∈ reports, areFigures report.action = true := by
  induction passed with
  | nil => simp
  | @cons step report steps reports first _ ih =>
      obtain ⟨verdicts, length, named⟩ := ih
      refine ⟨?_, congrArg (· + 1) length, List.forall_mem_cons.mpr ⟨?_, named⟩⟩
      · rw [List.map_cons, first.passed, verdicts]
        rfl
      · rw [first.isOf.action]
        exact areFigures_actionName _

variable {plan : RunPlan} {document : Document} {ready loaded closed : Session σ}
  {failure : Option Fault} {result : RunResult}

/-- Executing a prompt leaves it loaded. -/
theorem execute_document (session : Session σ) :
    (execute session).2.document = session.document := by
  have step (step : Step) : Confined (fun session after => after.document = session.document)
      (fun _ => True) (executeStep step : Play σ StepReport) := by
    refine ⟨fun session => ?_, fun _ _ _ => trivial⟩
    obtain ⟨reports, log, after⟩ := executeStep_after step session
    rw [after]
    exact (carryOut_frame step (announced step session)).document
  exact (execute_confined (.view (·.document)) (fun _ _ => rfl) step).leads session

/-- A run is summed up with the count of the steps of its prompt. -/
theorem summarize_total (plan : RunPlan) (started : Instant) (start : Float)
    (failure : Option Fault) (session : Session σ) :
    Returns (summarize plan started start failure) session fun result _ =>
      result.totalSteps = some (session.document.steps.length : Int) := by
  have order : Session.Onward fun session after : Session σ => after.document = session.document :=
    .view (·.document)
  have captures : Confined (fun session after => after.document = session.document) (fun _ => True)
      (capture plan failure : Play σ Unit) :=
    capture_confined order (takeScreenshot_confined order
      (fun _ => .ask (fun _ _ _ => rfl) (fun _ => trivial) _) (fun _ _ _ => rfl) _) (fun _ _ => rfl)
      plan failure
  rw [summarize_eq]
  refine .bind (fun _ after captured => ?_ : Returns (capture plan failure) session
    fun _ after => after.document = session.document) fun _ after same => ?_
  · have leads := captures.leads session
    rwa [captured] at leads
  · refine .step (clock_apply after) (.step (get_apply after) (.step (now_apply after) (.pure ?_)))
    rw [← same]
    rfl

/-- What a run through steps leaves where it stops without an interrupt are reports of steps that
passed, and the one of the step that failed. -/
theorem leaves_verdicts {steps : List Step} {session : Session σ} {stop : Stop steps session}
    {fault : Fault} {reports : List StepReport} (caught : stop.raised.isInterrupt = false)
    (leaves : stop.Leaves fault reports) :
    reports.map (·.passed) = List.replicate stop.before.length true ++ [false] ∧
      reports.length ≤ steps.length ∧ ∀ report ∈ reports, areFigures report.action = true := by
  unfold Stop.Leaves at leaves
  rw [if_neg (Bool.eq_false_iff.mp caught)] at leaves
  obtain ⟨before, last, rfl, passed, failed⟩ := leaves
  obtain ⟨verdicts, length, named⟩ := passed_verdicts passed
  refine ⟨?_, ?_, ?_⟩
  · rw [List.map_append, verdicts, List.map_singleton, failed.passed]
  · rw [stop.place, List.length_append, List.length_append, length]
    simp
  · refine List.forall_mem_append.mpr ⟨named, List.forall_mem_singleton.mpr ?_⟩
    rw [failed.isOf.action]
    exact areFigures_actionName _

/-- A run that is concluded after its prompt was loaded fails just as executing the prompt does. -/
theorem concludes_failure {worked : Session σ} {fault : Fault}
    (opened : loadPrompt plan ready = (.ok document, loaded))
    (concludes : plan.Concludes ready failure worked)
    (failed : (execute loaded).1 = .error fault) :
    failure = some fault ∧ fault.isInterrupt = false := by
  have performed : (performPrompt plan ready).1 = .error fault := by
    rw [performPrompt_eq, bind_apply_of_ok opened, bind_apply_of_error (Prod.ext failed rfl)]
  cases concludes with
  | passed ended =>
      rw [ended] at performed
      cases performed
  | failed ended caught =>
      rw [ended] at performed
      cases performed
      exact ⟨rfl, caught⟩

/-- **What the reports of a run add up to.** Once its prompt was loaded, a run that is concluded has
reports of steps that passed and, just if it stopped at a step, one of this step. -/
theorem tally_of_reaches (opened : loadPrompt plan ready = (.ok document, loaded))
    (reaches : plan.Reaches ready failure result closed) :
    ∃ passed failed, result.Tally document.steps.length passed failed ∧
      (failed = true ↔ Nonempty (Stop document.steps (started loaded))) ∧
      result.stepReports = (execute loaded).2.reports := by
  obtain ⟨worked, concludes, summed⟩ := reaches
  obtain ⟨rfl, fresh⟩ := loadPrompt_returns plan ready document loaded opened
  obtain ⟨log, left⟩ := concludes.worked_eq
  rw [(performPrompt_of_loaded opened).1] at left
  obtain ⟨verdict, reports⟩ :=
    Returns.thenAlways (summarize_returns worked) closeDown result closed summed
  have total :=
    Returns.thenAlways (summarize_total plan _ _ failure worked) closeDown result closed summed
  rw [left] at reports total
  rw [execute_document] at total
  -- The run stopped at a step, or got through all of them.
  rcases ended : executeSteps loaded.document.steps (started loaded) with ⟨fault | _, after⟩
  · obtain ⟨final, executed, same⟩ := execute_of_error ended
    obtain ⟨stop, added, endsWith, leaves, kept, -⟩ := executeSteps_stop ended
    obtain ⟨rfl, caught⟩ := concludes_failure opened concludes (congrArg Prod.fst executed)
    have all : result.stepReports = added := by
      rw [reports, executed, same.reports, kept]
      exact congrArg (· ++ added) fresh
    obtain ⟨verdicts, fits, named⟩ := leaves_verdicts (endsWith.isInterrupt_eq.trans caught) leaves
    rw [← all] at verdicts fits named
    exact ⟨stop.before.length, true, ⟨named, verdicts, verdict, total, fits⟩,
      iff_of_true rfl ⟨stop⟩, reports⟩
  · obtain ⟨final, executed, same⟩ := execute_of_ok ended
    obtain ⟨added, passed, kept, -⟩ := executeSteps_reports_of_ok ended
    have all : result.stepReports = added := by
      rw [reports, executed, same.reports, kept]
      exact congrArg (· ++ added) fresh
    obtain ⟨verdicts, length, named⟩ := passed_verdicts passed
    rw [← all] at verdicts length named
    have executes : plan.Executes ready := ⟨_, loaded, _, opened, congrArg Prod.fst executed⟩
    have never : ¬ Nonempty (Stop loaded.document.steps (started loaded)) := by
      rintro ⟨stop⟩
      obtain ⟨fault, _, stops⟩ := executeSteps_of_stop stop
      rw [ended] at stops
      cases stops
    refine ⟨loaded.document.steps.length, false, ⟨named, ?_, ?_, total, length.le⟩,
      iff_of_false Bool.false_ne_true never, reports⟩
    · rw [verdicts]
      exact (List.append_nil _).symm
    · rw [verdict, (concludes_isNone concludes).mpr executes]
      rfl

/-- **The account of a run.** Once its prompt was loaded, a run that reaches its artifacts has a
report that adds up, whatever the steps are called and whatever they failed with: below the header
of the table is one line for each report, in order. They say of as many steps as the summary counts
that they passed, and of the last one that it failed just if the run stopped at a step; just then
the verdict is that of a failure. With the steps that were not reached, which are counted if there
are any, these are all steps of the prompt. -/
theorem run_accounts (opened : loadPrompt plan ready = (.ok document, loaded))
    (reaches : plan.Reaches ready failure result closed) :
    ∃ (passed notRun : Nat) (failed : Bool) (rows before after : List String),
      linesOf result.markdown =
        before ++ ("**Verdict:** " ++ if failed then "FAIL" else "PASS") :: "" :: "## Summary" ::
          s!"- Steps: {passed}/{document.steps.length} passed" ::
            ((if notRun = 0 then [] else [s!"- Not run: {notRun}"]) ++
              s!"- Healed selectors: {result.healingRecords.length}" ::
              ("- Duration: " ++ result.seconds.fixed 1 ++ "s") :: "" ::
              "## Step Results" :: stepHeader :: stepRule ::
                (rows ++ "" :: "## Self-Healing" :: after)) ∧
      rows = (execute loaded).2.reports.map StepReport.markdownRow ∧
      rows.map resultOf =
        List.replicate passed (some "PASS") ++ (if failed then [some "FAIL"] else []) ∧
      rows.length + notRun = document.steps.length ∧
      passed + failed.toNat + notRun = document.steps.length ∧
      (failed = true ↔ Nonempty (Stop document.steps (started loaded))) := by
  obtain ⟨passed, failed, tally, stops, reports⟩ := tally_of_reaches opened reaches
  obtain ⟨before, after, lines⟩ := RunResult.linesOf_markdown tally.named
  have fits := tally.fits
  have length := tally.length_eq
  have verdict : result.verdictLine = "**Verdict:** " ++ if failed then "FAIL" else "PASS" := by
    rw [RunResult.verdictLine, tally.verdict]
    cases failed <;> rfl
  have notRun : RunResult.notRunLines result.notRun =
      if document.steps.length - result.stepReports.length = 0 then []
      else [s!"- Not run: {document.steps.length - result.stepReports.length}"] := by
    rw [RunResult.notRunLines, tally.notRun_eq]
    simp only [Int.natCast_eq_zero]
    rfl
  refine ⟨passed, document.steps.length - result.stepReports.length, failed,
    result.stepReports.map StepReport.markdownRow, before, after, ?_, ?_, tally.results_eq, ?_, ?_,
    stops⟩
  · rw [lines, verdict, RunResult.accountLines, notRun, tally.passedCount_eq, tally.stepCount_eq,
      RunResult.tableLines]
    simp only [List.append_assoc, List.cons_append, List.nil_append]
    rfl
  · rw [reports]
  · rw [List.length_map]
    omega
  · omega

/-- A run that stops at the second of three steps. -/
theorem run_accounts_click :
    let plan : RunPlan :=
      { settings := {}, prompt := .ofText "flow.prompt", runId := "PQA-RUN-1", form := .json
        junit := none }
    let ready : Session Scripted :=
      { outside := {}
        disk := { nodes := [(["flow.prompt"],
          .file "1. Wait\n2. Click here | there\n3. Wait\n".toUTF8.toList)] } }
    ∃ (failure : Option Fault) (result : RunResult) (closed : Session Scripted)
      (rows before after : List String), plan.Reaches ready failure result closed ∧
      linesOf result.markdown =
        before ++ "**Verdict:** FAIL" :: "" :: "## Summary" :: "- Steps: 1/3 passed" ::
          "- Not run: 1" :: s!"- Healed selectors: {result.healingRecords.length}" ::
            ("- Duration: " ++ result.seconds.fixed 1 ++ "s") :: "" :: "## Step Results" ::
              stepHeader :: stepRule :: (rows ++ "" :: "## Self-Healing" :: after) ∧
      rows.map resultOf = [some "PASS", some "FAIL"] := by
  intro plan ready
  have evaluated : ((loadPrompt plan ready).1.toOption.map (·.steps.length),
      (execute (loadPrompt plan ready).2).2.reports.length,
      (executeSteps (loadPrompt plan ready).2.document.steps
        (started (loadPrompt plan ready).2)).1.isOk) = (some 3, 2, false) := by decide +kernel
  obtain ⟨steps, evaluated⟩ := Prod.mk.inj evaluated
  obtain ⟨reports, stops⟩ := Prod.mk.inj evaluated
  rcases opened : loadPrompt plan ready with ⟨fault | document, loaded⟩
  · rw [opened] at steps
    cases steps
  rw [opened] at steps reports stops
  obtain ⟨same, -⟩ := loadPrompt_returns plan ready document loaded opened
  have stopped : Nonempty (Stop document.steps (started loaded)) := by
    rcases ended : executeSteps loaded.document.steps (started loaded) with ⟨fault | _, after⟩
    · obtain ⟨stop, -⟩ := executeSteps_stop ended
      exact ⟨same ▸ stop⟩
    · rw [ended] at stops
      cases stops
  have orderly : Outside.Orderly ready.outside :=
    Scripted.orderly (fun _ _ => by rintro ⟨⟩) fun _ _ => by rintro ⟨⟩
  have caught : ((performPrompt plan ready).1.tryCatch fun fault =>
      if fault.isInterrupt || fault.isOfFile then .error fault else .ok ()).isOk = true := by
    decide +kernel
  obtain ⟨failure, worked, concludes⟩ : ∃ failure worked, plan.Concludes ready failure worked := by
    rcases performed : performPrompt plan ready with ⟨fault | _, worked⟩
    · rw [performed] at caught
      cases outright : fault.isInterrupt || fault.isOfFile with
      | true => simp [Except.tryCatch, outright, Except.isOk, Except.toBool] at caught
      | false =>
          obtain ⟨interrupt, ofFile⟩ := Bool.or_eq_false_iff.mp outright
          exact ⟨_, _, .failed performed interrupt ofFile⟩
    · exact ⟨_, _, .passed performed⟩
  obtain ⟨result, closed, reaches⟩ := exists_reaches orderly concludes
  obtain ⟨passed, notRun, failed, rows, before, after, lines, all, results, length, total, fails⟩ :=
    run_accounts opened reaches
  cases fails.mpr stopped
  have count : document.steps.length = 3 := Option.some.inj steps
  have two : rows.length = 2 := by rw [all, List.length_map, reports]
  obtain rfl : notRun = 1 := by omega
  obtain rfl : passed = 1 := by
    rw [Bool.toNat_true] at total
    omega
  rw [count] at lines
  exact ⟨failure, result, closed, rows, before, after, reaches, lines, results⟩

end Accounting

end Play

end Walkthrough
