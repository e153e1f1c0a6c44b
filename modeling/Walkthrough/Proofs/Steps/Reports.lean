import Mathlib.Data.List.Forall2
import Walkthrough.Proofs.Session.Confined
import Walkthrough.Proofs.Steps.Execution

/-!
# The reports of a run

A run leaves one report for each step that it executes, in the order of the prompt. All of them say
that their step passed, but for the last one of a run that fails
(`Walkthrough.Play.execute_reports`). Reports go after those that are there already, and only
loading a prompt takes them away.
-/

namespace Walkthrough

namespace StepReport

/-- A report is about a step. -/
structure IsOf (report : StepReport) (step : Step) : Prop where
  ordinal : report.ordinal = step.ordinal
  description : report.description = step.description
  action : report.action = step.action.name

/-- A report says that a step passed. -/
structure SaysPassed (step : Step) (report : StepReport) : Prop where
  isOf : report.IsOf step
  passed : report.passed = true
  error : report.error = none

/-- A report says that a step failed with a fault. -/
structure SaysFailed (step : Step) (fault : Fault) (report : StepReport) : Prop where
  isOf : report.IsOf step
  passed : report.passed = false
  error : report.error = some fault.message

end StepReport

/-- Reports that say of their steps that they passed have no other verdict. -/
theorem StepReport.SaysPassed.all {steps : List Step} {reports : List StepReport}
    (passed : List.Forall₂ StepReport.SaysPassed steps reports) :
    ∀ report ∈ reports, report.passed = true := by
  induction passed with
  | nil => simp
  | cons first _ ih => exact List.forall_mem_cons.mpr ⟨first.passed, ih⟩

/-- What stands in front of a fault of a step once the step is known. -/
def Step.tag (step : Step) : String :=
  s!"[Step {step.ordinal}: {step.description} ({step.action.name})] "

variable {σ : Type} [Outside σ]

/-- Where a run through steps stops: the steps before were executed, and the next one raises a fault
while it is carried out. -/
structure Stop (steps : List Step) (session : Session σ) where
  before : List Step
  step : Step
  rest : List Step
  reached : Session σ
  raised : Fault
  stopped : Session σ
  place : steps = before ++ step :: rest
  executed : Play.executeSteps before session = (.ok (), reached)
  carried : Play.carryOut step (Play.announced step reached) = (.error raised, stopped)

namespace Stop

variable {steps : List Step} {session : Session σ}

/-- The fault that a run ends with where it stops is the one that was raised, with the step named in
it and in front of what it says if it is a fault of the step. -/
def EndsWith (stop : Stop steps session) (fault : Fault) : Prop :=
  match stop.raised with
  | .step cause place =>
    place = none ∧ fault = .step cause (some stop.step) ∧
      fault.message = stop.step.tag ++ cause.message
  | raised => fault = raised

/-- A run is interrupted where it stops just if it ends with an interrupt. -/
theorem EndsWith.isInterrupt_eq {stop : Stop steps session} {fault : Fault}
    (endsWith : stop.EndsWith fault) : stop.raised.isInterrupt = fault.isInterrupt := by
  unfold EndsWith at endsWith
  split at endsWith
  · next raised =>
      rw [raised, endsWith.2.1]
      rfl
  · rw [endsWith]

/-- The reports that a run leaves where it stops with a fault: one for each step before, and one for
the step that fails unless it was interrupted. -/
def Leaves (stop : Stop steps session) (fault : Fault) (reports : List StepReport) : Prop :=
  if stop.raised.isInterrupt then List.Forall₂ StepReport.SaysPassed stop.before reports
  else ∃ (passed : List StepReport) (last : StepReport), reports = passed ++ [last] ∧
    List.Forall₂ StepReport.SaysPassed stop.before passed ∧ last.SaysFailed stop.step fault

end Stop

namespace Play

variable {step : Step} {steps : List Step} {session after : Session σ} {fault : Fault}

/-- While a step is carried out, the prompt and the reports stay as they are. -/
theorem carryOut_frame (step : Step) (session : Session σ) :
    session.Frame (carryOut step session).2 :=
  ((carryOut_within session.client step).allows session rfl).1.frame

theorem carryOut_raises (raised : (carryOut step session).1 = .error fault) :
    fault.isPlaceless = true :=
  (((carryOut_within session.client step).allows session rfl).2 fault raised).1

theorem executeStep_page (step : Step) (session : Session σ) :
    (executeStep step session).2.page = session.page := by
  obtain ⟨reports, log, after⟩ := executeStep_after step session
  rw [after]
  exact (carryOut_frame step (announced step session)).page

/-- A step that passes adds the report that says so. -/
theorem executeStep_reports_of_ok {report : StepReport}
    (ended : executeStep step session = (.ok report, after)) :
    report.SaysPassed step ∧ after.reports = session.reports ++ [report] ∧
      after.document = session.document := by
  have frame := carryOut_frame step (announced step session)
  rcases carried : carryOut step (announced step session) with ⟨raised | notes, stopped⟩
  · cases interrupt : raised.isInterrupt with
    | true =>
        rw [executeStep_of_interrupt carried interrupt] at ended
        cases ended
    | false =>
        rw [executeStep_of_failure carried interrupt] at ended
        cases ended
  · rw [carried] at frame
    rw [executeStep_of_ok carried] at ended
    cases ended
    refine ⟨⟨⟨rfl, rfl, rfl⟩, rfl, rfl⟩, ?_, frame.document⟩
    exact congrArg (· ++ _) frame.reports

/-- A step that stops the run raised the fault while it was carried out. It adds the report that
says so, unless the fault is an interrupt, and nothing is asked of the world outside any more. -/
theorem executeStep_of_error (ended : executeStep step session = (.error fault, after)) :
    ∃ raised stopped, carryOut step (announced step session) = (.error raised, stopped) ∧
      fault = raised.inStep step ∧ after.outside = stopped.outside ∧
      after.calls = stopped.calls ∧ after.document = session.document ∧
      if raised.isInterrupt then after.reports = session.reports
      else ∃ report : StepReport, report.SaysFailed step fault ∧
        after.reports = session.reports ++ [report] := by
  have frame := carryOut_frame step (announced step session)
  rcases carried : carryOut step (announced step session) with ⟨raised | notes, stopped⟩
  · rw [carried] at frame
    refine ⟨raised, stopped, rfl, ?_⟩
    cases interrupt : raised.isInterrupt with
    | true =>
        rw [executeStep_of_interrupt carried interrupt] at ended
        cases ended
        refine ⟨?_, rfl, rfl, frame.document, frame.reports⟩
        cases fault with
        | step => cases interrupt
        | _ => rfl
    | false =>
        rw [executeStep_of_failure carried interrupt] at ended
        cases ended
        refine ⟨rfl, rfl, rfl, frame.document, ?_⟩
        exact ⟨_, ⟨⟨rfl, rfl, rfl⟩, rfl, rfl⟩, congrArg (· ++ _) frame.reports⟩
  · rw [executeStep_of_ok carried] at ended
    cases ended

theorem executeSteps_cons_of_ok {report : StepReport} {middle : Session σ}
    (ended : executeStep step session = (.ok report, middle)) (rest : List Step) :
    executeSteps (step :: rest) session = executeSteps rest middle := by
  rw [executeSteps, bind_apply_of_ok ended]

/-- A run through steps that ends well passes the first one and goes on with the rest. -/
theorem passed_of_executeSteps_cons {rest : List Step}
    (ended : executeSteps (step :: rest) session = (.ok (), after)) :
    ∃ report middle, executeStep step session = (.ok report, middle) ∧
      executeSteps rest middle = (.ok (), after) := by
  rcases first : executeStep step session with ⟨raised | report, middle⟩
  · rw [executeSteps, bind_apply_of_error first] at ended
    cases ended
  · rw [executeSteps_cons_of_ok first] at ended
    exact ⟨report, middle, rfl, ended⟩

/-- A run through steps goes on behind those that it passed. -/
theorem executeSteps_append_of_ok {before : List Step} {reached : Session σ}
    (passed : executeSteps before session = (.ok (), reached)) (rest : List Step) :
    executeSteps (before ++ rest) session = executeSteps rest reached := by
  induction before generalizing session with
  | nil =>
      cases passed
      rfl
  | cons step before ih =>
      obtain ⟨report, middle, first, later⟩ := passed_of_executeSteps_cons passed
      rw [List.cons_append, executeSteps_cons_of_ok first, ih later]

/-- A run through steps that ends well leaves a report of each that it passed. -/
theorem executeSteps_reports_of_ok (ended : executeSteps steps session = (.ok (), after)) :
    ∃ fresh, List.Forall₂ StepReport.SaysPassed steps fresh ∧
      after.reports = session.reports ++ fresh ∧ after.document = session.document := by
  induction steps generalizing session with
  | nil =>
      cases ended
      exact ⟨[], .nil, (List.append_nil _).symm, rfl⟩
  | cons step rest ih =>
      obtain ⟨report, middle, first, ended⟩ := passed_of_executeSteps_cons ended
      obtain ⟨passed, reports, document⟩ := executeStep_reports_of_ok first
      obtain ⟨fresh, allPassed, later, same⟩ := ih ended
      refine ⟨report :: fresh, .cons passed allPassed, ?_, same.trans document⟩
      rw [later, reports, List.append_assoc, List.singleton_append]

/-- A run through steps has the same page all the time. -/
theorem executeSteps_page (steps : List Step) (session : Session σ) :
    (executeSteps steps session).2.page = session.page := by
  induction steps generalizing session with
  | nil => rfl
  | cons step rest ih =>
      have page := executeStep_page step session
      rcases ended : executeStep step session with ⟨raised | report, middle⟩
      · rw [ended] at page
        rw [executeSteps, bind_apply_of_error ended]
        exact page
      · rw [ended] at page
        rw [executeSteps_cons_of_ok ended, ih, page]

/-- A run through steps that ends with a fault stops at one of them. -/
theorem executeSteps_of_error (ended : executeSteps steps session = (.error fault, after)) :
    ∃ (before rest : List Step) (step : Step) (reached : Session σ),
      steps = before ++ step :: rest ∧ executeSteps before session = (.ok (), reached) ∧
        executeStep step reached = (.error fault, after) := by
  induction steps generalizing session with
  | nil => cases ended
  | cons step rest ih =>
      rcases first : executeStep step session with ⟨raised | report, middle⟩
      · rw [executeSteps, bind_apply_of_error first] at ended
        cases ended
        exact ⟨[], rest, step, session, rfl, rfl, first⟩
      · rw [executeSteps_cons_of_ok first] at ended
        obtain ⟨before, later, stopped, reached, rfl, executed, failed⟩ := ih ended
        refine ⟨step :: before, later, stopped, reached, rfl, ?_, failed⟩
        rw [executeSteps_cons_of_ok first, executed]

/-- Where a run through steps stops, what it ends with and what it leaves. -/
theorem executeSteps_stop (ended : executeSteps steps session = (.error fault, after)) :
    ∃ (stop : Stop steps session) (fresh : List StepReport),
      stop.EndsWith fault ∧ stop.Leaves fault fresh ∧ after.reports = session.reports ++ fresh ∧
        after.outside = stop.stopped.outside ∧ after.calls = stop.stopped.calls ∧
        after.document = session.document := by
  obtain ⟨before, rest, step, reached, place, executed, failed⟩ := executeSteps_of_error ended
  obtain ⟨passed, allPassed, early, document⟩ := executeSteps_reports_of_ok executed
  obtain ⟨raised, stopped, carried, named, outside, calls, same, late⟩ :=
    executeStep_of_error failed
  -- Handlers raise faults that name no step, so the step is put in front exactly once.
  have endsWith : Stop.EndsWith
      ⟨before, step, rest, reached, raised, stopped, place, executed, carried⟩ fault := by
    have placeless := carryOut_raises (congrArg Prod.fst carried)
    cases raised with
    | step cause place =>
        cases place with
        | none => exact ⟨rfl, named, by rw [named]; rfl⟩
        | some other => cases placeless
    | _ => exact named
  split at late
  · next interrupt =>
      refine ⟨_, passed, endsWith, ?_, late.trans early, outside, calls, same.trans document⟩
      rw [Stop.Leaves, if_pos interrupt]
      exact allPassed
  · next caught =>
      obtain ⟨report, failure, late⟩ := late
      refine ⟨_, passed ++ [report], endsWith, ?_, ?_, outside, calls, same.trans document⟩
      · rw [Stop.Leaves, if_neg caught]
        exact ⟨passed, report, rfl, allPassed, failure⟩
      · rw [late, early, List.append_assoc]

section Execution

/-- A session in which the start of a run is noted in the log. -/
def started (session : Session σ) : Session σ :=
  { session with
    log := session.log ++ [⟨.info, .steps, "=== Starting Prompt Execution ==="⟩] }

omit [Outside σ] in
theorem noteHealing_silent (lines : List String) : Silent (noteHealing lines : Play σ Unit) := by
  induction lines with
  | nil => exact .pure ()
  | cons line rest ih => exact .bind (.note _ _ _) fun _ => ih

omit [Outside σ] in
/-- What is written at the end of a run is only the log. -/
theorem closing_silent :
    Silent (do noteVariables; noteHealing (← healingSummary) : Play σ Unit) := by
  refine .bind noteVariables_silent fun _ => .bind (.look fun session => ?_) noteHealing_silent
  split
  · exact .pure _
  · exact .pure _

omit [Outside σ] in
theorem note_started (session : Session σ) :
    note .info .steps "=== Starting Prompt Execution ===" session = (.ok (), started session) :=
  rfl

/-- What the end of a run leaves of the session in which its steps end. -/
theorem execute_ended (session : Session σ) :
    ∃ log, execute session =
      match executeSteps session.document.steps (started session) with
      | (.ok _, after) => (.ok after.reports, { after with log })
      | (.error fault, after) => (.error fault, { after with log }) := by
  rw [execute, bind_apply_of_ok (note_started session)]
  rcases ended : executeSteps session.document.steps (started session) with ⟨fault | _, after⟩
  · have body : (do
        executeSteps (← get).document.steps
        note .info .steps "=== Prompt Execution Complete ===" : Play σ Unit) (started session) =
        (.error fault, after) := by
      rw [bind_apply_of_ok (get_apply _)]
      exact bind_apply_of_error ended _
    obtain ⟨_, log, closed⟩ := closing_silent after
    refine ⟨log, ?_⟩
    rw [bind_apply_of_error (thenAlways_apply_of_error body closed)]
  · have body : (do
        executeSteps (← get).document.steps
        note .info .steps "=== Prompt Execution Complete ===" : Play σ Unit) (started session) =
        (.ok (), { after with
          log := after.log ++ [⟨.info, .steps, "=== Prompt Execution Complete ==="⟩] }) := by
      rw [bind_apply_of_ok (get_apply _)]
      exact bind_apply_of_ok ended _
    obtain ⟨_, log, closed⟩ := closing_silent { after with
      log := after.log ++ [⟨.info, .steps, "=== Prompt Execution Complete ==="⟩] }
    refine ⟨log, ?_⟩
    rw [bind_apply_of_ok (thenAlways_apply_of_ok body closed), bind_apply_of_ok (get_apply _),
      pure_apply]

theorem execute_of_ok
    (ended : executeSteps session.document.steps (started session) = (.ok (), after)) :
    ∃ final, execute session = (.ok after.reports, final) ∧ after.SameRun final := by
  obtain ⟨log, executed⟩ := execute_ended session
  rw [ended] at executed
  exact ⟨_, executed, rfl, rfl, rfl, rfl, rfl⟩

theorem execute_of_error
    (ended : executeSteps session.document.steps (started session) = (.error fault, after)) :
    ∃ final, execute session = (.error fault, final) ∧ after.SameRun final := by
  obtain ⟨log, executed⟩ := execute_ended session
  rw [ended] at executed
  exact ⟨_, executed, rfl, rfl, rfl, rfl, rfl⟩

/-- Executing steps leads where each step does, and the log. -/
theorem execute_confined {onward : Session σ → Session σ → Prop} {faults : Fault → Prop}
    (order : Session.Onward onward)
    (notes : ∀ (session : Session σ) log, onward session { session with log })
    (step : ∀ step, Confined onward faults (executeStep step : Play σ StepReport)) :
    Confined onward faults (execute : Play σ (List StepReport)) := by
  have steps (steps : List Step) : Confined onward faults (executeSteps steps : Play σ Unit) := by
    induction steps with
    | nil => exact .pure order ()
    | cons first rest ih => exact .bind order (step first) fun _ => ih
  refine .bind order (.note notes _ _ _) fun _ => .bind order (.thenAlways order ?_
    (closing_silent.confined notes)) fun _ => .look fun _ => .pure order _
  exact .look fun session => .bind order (steps _) fun _ => .note notes _ _ _

end Execution

section Loading

omit [Outside σ]

theorem attachHealer_quiet : Quiet (attachHealer : Play σ Unit) := by
  intro session
  rw [attachHealer, bind_apply_of_ok (get_apply session)]
  split
  · rw [bind_apply_of_ok (set_apply _ session)]
    exact ⟨(), _, note_apply _ _ _ _, ⟨rfl, rfl, rfl, rfl, rfl⟩⟩
  · exact ⟨(), session, rfl, .refl session⟩

theorem enableHealing_quiet : Quiet (enableHealing : Play σ Unit) := by
  intro session
  obtain ⟨_, after, ended, same⟩ :=
    (attachHealer_quiet.bind fun _ => .note .info .steps "Self-healing ENABLED" :
      Quiet (do attachHealer; note .info .steps "Self-healing ENABLED" : Play σ Unit))
      { session with selfHealing := true }
  refine ⟨(), after, ?_, ⟨same.outside, same.calls, same.vars, same.document, same.reports⟩⟩
  rw [enableHealing, bind_apply_of_ok (modify_apply _ session)]
  exact ended

theorem noteMisses_silent (misses : List Miss) : Silent (noteMisses misses : Play σ Unit) := by
  induction misses with
  | nil => exact .pure ()
  | cons miss rest ih => exact .bind (.note _ _ _) fun _ => ih

/-- How loading a prompt ends: with the prompt, no reports, and nothing asked of the world
outside. -/
structure Loaded (session : Session σ) (document : Document)
    (ended : Except Fault Document × Session σ) : Prop where
  value : ended.1 = .ok document
  document : ended.2.document = document
  reports : ended.2.reports = []
  outside : ended.2.outside = session.outside
  calls : ended.2.calls = session.calls

theorem load_loaded (document : Document) (session : Session σ) :
    Loaded session document (load document session) := by
  have rest (middle : Session σ)
      (same : ({ session with document, reports := [] } : Session σ).SameRun middle) :
      Loaded session document ((do
        noteMisses document.misses
        note .info .steps s!"Parsed {document.steps.length} steps"
        return document : Play σ Document) middle) := by
    obtain ⟨_, after, ended, sameAfter⟩ := (noteMisses_silent document.misses).quiet middle
    rw [bind_apply_of_ok ended, bind_apply_of_ok (note_apply _ _ _ _), pure_apply]
    have all := same.trans sameAfter
    exact ⟨rfl, all.document, all.reports, all.outside, all.calls⟩
  rw [load, bind_apply_of_ok (modify_apply _ session), bind_apply_of_ok (get_apply _)]
  split
  · rw [bind_apply_of_ok (note_apply _ _ _ _)]
    obtain ⟨_, healed, ended, same⟩ := enableHealing_quiet _
    rw [bind_apply_of_ok ended]
    exact rest healed ⟨same.outside, same.calls, same.vars, same.document, same.reports⟩
  · exact rest _ (.refl _)

theorem loadFile_loaded {path : Path} {document : Document} {session : Session σ}
    (read : session.disk.document path = .ok document) (name : String) :
    Loaded session document (loadFile name path session) := by
  rw [loadFile, bind_apply_of_ok (note_apply _ _ _ _), bind_apply_of_ok (get_apply _)]
  simp only [read]
  obtain ⟨value, same, reports, outside, calls⟩ := load_loaded document { session with
    log := session.log ++ [⟨.info, .steps, s!"Loading prompt: {name}"⟩] }
  exact ⟨value, same, reports, outside, calls⟩

theorem loadFile_of_error {path : Path} {fault : LoadFault} {session : Session σ}
    (refused : session.disk.document path = .error fault) (name : String) :
    (loadFile name path session).1 = .error (.load fault) ∧
      session.SameRun (loadFile name path session).2 := by
  rw [loadFile, bind_apply_of_ok (note_apply _ _ _ _), bind_apply_of_ok (get_apply _)]
  simp only [refused]
  exact ⟨rfl, rfl, rfl, rfl, rfl, rfl⟩

end Loading

end Play

end Walkthrough
