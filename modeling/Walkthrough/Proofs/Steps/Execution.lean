import Walkthrough.Proofs.Steps.Scope

/-!
# Executing one step

The three ways in which a step can end, each as one equation: it passes, it fails and names itself
in the fault, or an interrupt passes through it. Only the first two leave a report.
-/

namespace Walkthrough

/-- The report of a step that was executed between two moments of the clock. -/
def StepReport.between (step : Step) (start finish : Float) (passed : Bool) (error : Option String)
    (notes : String) : StepReport where
  ordinal := step.ordinal
  description := step.description
  action := step.action.name
  passed
  seconds := .float (Decimal.roundTo 2 (finish - start))
  error
  notes

namespace Play

variable {σ : Type}

/-- A session in which a step is announced in the log. -/
def announced (step : Step) (session : Session σ) : Session σ :=
  { session with
    log := session.log ++ [⟨.info, .steps, s!"[Step {step.ordinal}] {step.description}"⟩] ++
      [⟨.info, .steps, s!"[Action] {step.action.name}"⟩] }

/-- A session with the report of a step that ended at this moment and a line of the log about it. -/
def reported [Outside σ] (step : Step) (start : Float) (passed : Bool) (error : Option String)
    (notes : String) (level : LogLevel) (line : String) (session : Session σ) : Session σ :=
  { session with
    reports := session.reports ++
      [.between step start (Outside.clock session.outside) passed error notes]
    log := session.log ++ [⟨level, .steps, line⟩] }

variable [Outside σ] {step : Step} {session after : Session σ}

/-- Executing a step announces it and carries it out. -/
theorem executeStep_apply (step : Step) (session : Session σ) :
    executeStep step session =
      ((do
        match ← outcome (carryOut step) with
        | .error fault => failStep (Outside.clock session.outside) step fault
        | .ok notes => passStep (Outside.clock session.outside) step notes : Play σ StepReport)
          (announced step session)) := by
  calc
    executeStep step session = _ := bind_apply_of_ok (note_apply _ _ _ session) _
    _ = _ := bind_apply_of_ok (note_apply _ _ _ _) _
    _ = _ := bind_apply_of_ok (clock_apply _) _

/-- A step that is carried out leaves a report that it passed. -/
theorem executeStep_of_ok {notes : String}
    (ended : carryOut step (announced step session) = (.ok notes, after)) :
    executeStep step session =
      (.ok (.between step (Outside.clock session.outside) (Outside.clock after.outside) true none
          notes),
        reported step (Outside.clock session.outside) true none notes .info
          s!"[Step {step.ordinal}] Completed" after) := by
  rw [executeStep_apply, bind_apply_of_ok (outcome_apply_of_ok ended)]
  rfl

/-- A step that cannot be carried out leaves a report that it failed, with what its fault says once
the step is named in it, and that fault goes on. -/
theorem executeStep_of_failure {fault : Fault}
    (ended : carryOut step (announced step session) = (.error fault, after))
    (caught : fault.isInterrupt = false) :
    executeStep step session =
      (.error (fault.inStep step),
        reported step (Outside.clock session.outside) false (some (fault.inStep step).message) ""
          .error s!"[Step {step.ordinal}] Failed: {(fault.inStep step).message}" after) := by
  rw [executeStep_apply, bind_apply_of_ok (outcome_apply_of_failure ended caught)]
  rfl

/-- An interrupt passes through a step without a report. -/
theorem executeStep_of_interrupt {fault : Fault}
    (ended : carryOut step (announced step session) = (.error fault, after))
    (interrupt : fault.isInterrupt = true) :
    executeStep step session = (.error fault, after) := by
  rw [executeStep_apply, bind_apply_of_error (outcome_apply_of_interrupt ended interrupt)]

/-- A step that passes was carried out. -/
theorem carryOut_of_executeStep {report : StepReport}
    (passed : executeStep step session = (.ok report, after)) :
    ∃ notes stopped, carryOut step (announced step session) = (.ok notes, stopped) := by
  rcases carried : carryOut step (announced step session) with ⟨raised | notes, stopped⟩
  · cases interrupt : raised.isInterrupt with
    | true =>
        rw [executeStep_of_interrupt carried interrupt] at passed
        cases passed
    | false =>
        rw [executeStep_of_failure carried interrupt] at passed
        cases passed
  · exact ⟨notes, stopped, rfl⟩

/-- However a step ends, it adds to what carrying it out leaves a report and lines of the log at
most. -/
theorem executeStep_after (step : Step) (session : Session σ) :
    ∃ reports log, (executeStep step session).2 =
      { (carryOut step (announced step session)).2 with reports, log } := by
  rcases carried : carryOut step (announced step session) with ⟨raised | notes, stopped⟩
  · cases interrupt : raised.isInterrupt with
    | true =>
        rw [executeStep_of_interrupt carried interrupt]
        exact ⟨stopped.reports, stopped.log, rfl⟩
    | false =>
        rw [executeStep_of_failure carried interrupt]
        exact ⟨_, _, rfl⟩
  · rw [executeStep_of_ok carried]
    exact ⟨_, _, rfl⟩

end Play

end Walkthrough
