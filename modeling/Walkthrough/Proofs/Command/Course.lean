import Walkthrough.Proofs.Command.Conclusion

/-!
# The course of a run

Once a run performed its prompt or failed to, it takes one of three ways
(`Walkthrough.RunPlan.Course`): it was interrupted, it has no prompt file, or it is concluded. If it
ends with an exit code, that is the one for how the prompt was performed
(`Walkthrough.Play.carryOutRun_returns`).
-/

namespace Walkthrough

/-- Whether a fault says that there is no prompt file, or none that can be read. -/
def Fault.isOfFile : Fault → Bool
  | load cause => cause.isOfFile
  | _ => false

/-- The exit code of a run by how it performed its prompt. -/
def RunPlan.codeFor : Except Fault Unit → Nat
  | .ok () => 0
  | .error fault => if fault.isOfFile then 2 else 1

namespace RunPlan

theorem codeFor_eq_zero {ended : Except Fault Unit} : codeFor ended = 0 ↔ ended = .ok () := by
  cases ended with
  | ok => exact iff_of_true rfl rfl
  | error fault =>
      refine iff_of_false ?_ (by rintro ⟨⟩)
      rw [codeFor]
      split <;> decide

theorem codeFor_eq_two {ended : Except Fault Unit} :
    codeFor ended = 2 ↔ ∃ cause, ended = .error (.load cause) ∧ cause.isOfFile = true := by
  constructor
  · intro two
    cases ended with
    | ok => cases two
    | error fault =>
        rw [codeFor] at two
        split at two
        · next ofFile =>
            cases fault with
            | load cause => exact ⟨cause, rfl, ofFile⟩
            | _ => cases ofFile
        · cases two
  · rintro ⟨cause, rfl, ofFile⟩
    exact if_pos ofFile

theorem codeFor_cases (ended : Except Fault Unit) :
    codeFor ended = 0 ∨ codeFor ended = 1 ∨ codeFor ended = 2 := by
  cases ended with
  | ok => exact .inl rfl
  | error fault =>
      rw [codeFor]
      split
      · exact .inr (.inr rfl)
      · exact .inr (.inl rfl)

end RunPlan

variable {σ : Type}

/-- Noted in the log that a run failed with a fault, unless it is one of a step. -/
def Session.unexpected (session : Session σ) (fault : Fault) : Session σ :=
  if fault.isStepFault then session
  else { session with
    log := session.log ++ [⟨.error, .command, "Unexpected error during run"⟩] }

theorem Session.unexpected_eq (session : Session σ) (fault : Fault) :
    ∃ log, session.unexpected fault = { session with log } := by
  rw [unexpected]
  split
  · exact ⟨session.log, rfl⟩
  · exact ⟨_, rfl⟩

variable [Outside σ]

/-- A run is concluded after it performed its prompt, or after it failed to for a reason of another
kind than an interrupt or a missing prompt file. -/
inductive RunPlan.Concludes (plan : RunPlan) (ready : Session σ) :
    Option Fault → Session σ → Prop
  | passed {worked : Session σ} :
    Play.performPrompt plan ready = (.ok (), worked) → Concludes plan ready none worked
  | failed {fault : Fault} {worked : Session σ} :
    Play.performPrompt plan ready = (.error fault, worked) → fault.isInterrupt = false →
      fault.isOfFile = false → Concludes plan ready (some fault) (worked.unexpected fault)

/-- A run is concluded from the session that its prompt left, but for a line of the log. -/
theorem RunPlan.Concludes.worked_eq {plan : RunPlan} {ready worked : Session σ}
    {failure : Option Fault} (concludes : plan.Concludes ready failure worked) :
    ∃ log, worked = { (Play.performPrompt plan ready).2 with log } := by
  cases concludes with
  | passed performed => exact ⟨worked.log, by rw [performed]⟩
  | @failed fault worked performed =>
      rw [performed]
      exact worked.unexpected_eq fault

/-- The ways that a run can take once it performed its prompt or failed to. -/
inductive RunPlan.Course (plan : RunPlan) (ready : Session σ) :
    Except Fault Nat × Session σ → Prop
  | interrupted {message : String} {worked : Session σ} :
    Play.performPrompt plan ready = (.error (.outside (.interrupt message)), worked) →
      Course plan ready (Play.concludeInterrupted worked)
  | withoutPrompt {cause : LoadFault} {worked : Session σ} :
    Play.performPrompt plan ready = (.error (.load cause), worked) → cause.isOfFile = true →
      Course plan ready (Play.concludeWithoutPrompt cause worked)
  | concluded {failure : Option Fault} {worked : Session σ} : plan.Concludes ready failure worked →
      Course plan ready (Play.conclude plan (Outside.now ready.outside)
        (Outside.clock ready.outside) failure worked)

namespace Play

section Courses

variable {plan : RunPlan} {ready worked : Session σ}

/-- Once a run performed its prompt, what it does is a matter of how that ended. -/
theorem carryOutRun_apply {ended : Except Fault Unit}
    (performed : performPrompt plan ready = (ended, worked)) :
    carryOutRun plan ready =
      (match ended with
      | .ok () => conclude plan (Outside.now ready.outside) (Outside.clock ready.outside) none
      | .error fault =>
        match fault with
        | .outside (.interrupt _) => concludeInterrupted
        | .step _ _ =>
          conclude plan (Outside.now ready.outside) (Outside.clock ready.outside) (some fault)
        | .load cause =>
          if cause.isOfFile then concludeWithoutPrompt cause
          else carryOutRun.concludeUnexpected plan (Outside.now ready.outside)
            (Outside.clock ready.outside) fault
        | _ => carryOutRun.concludeUnexpected plan (Outside.now ready.outside)
            (Outside.clock ready.outside) fault) worked := by
  have ending : ending (performPrompt plan) ready = (.ok ended, worked) := by
    rw [Play.ending, performed]
  rw [carryOutRun, bind_apply_of_ok (now_apply ready), bind_apply_of_ok (clock_apply ready)]
  exact bind_apply_of_ok ending _

/-- A run that is to be concluded is. -/
theorem carryOutRun_of_concludes {failure : Option Fault}
    (concludes : plan.Concludes ready failure worked) :
    carryOutRun plan ready = conclude plan (Outside.now ready.outside)
      (Outside.clock ready.outside) failure worked := by
  cases concludes with
  | passed performed => rw [carryOutRun_apply performed]
  | @failed fault worked performed caught noFile =>
      rw [carryOutRun_apply performed]
      -- The run tells faults apart by their kind: only those of a step are not noted in the log.
      cases fault with
      | outside mishap =>
          cases mishap with
          | interrupt => cases caught
          | failure => rfl
      | load cause =>
          simp only [show cause.isOfFile = false from noFile, Bool.false_eq_true, if_false]
          rfl
      | _ => rfl

/-- A run takes one of the three ways. -/
theorem carryOutRun_course (plan : RunPlan) (ready : Session σ) :
    plan.Course ready (carryOutRun plan ready) := by
  rcases performed : performPrompt plan ready with ⟨fault | _, worked⟩
  · cases interrupt : fault.isInterrupt with
    | true =>
        obtain ⟨message, rfl⟩ : ∃ message, fault = .outside (.interrupt message) := by
          unfold Fault.isInterrupt at interrupt
          split at interrupt
          · exact ⟨_, rfl⟩
          · cases interrupt
        rw [carryOutRun_apply performed]
        exact .interrupted performed
    | false =>
        cases ofFile : fault.isOfFile with
        | true =>
            obtain ⟨cause, rfl⟩ : ∃ cause, fault = .load cause := by
              unfold Fault.isOfFile at ofFile
              split at ofFile
              · exact ⟨_, rfl⟩
              · cases ofFile
            rw [carryOutRun_apply performed]
            simp only [show cause.isOfFile = true from ofFile, if_true]
            exact .withoutPrompt performed ofFile
        | false =>
            have concludes := RunPlan.Concludes.failed performed interrupt ofFile
            rw [carryOutRun_of_concludes concludes]
            exact .concluded concludes
  · have concludes := RunPlan.Concludes.passed performed
    rw [carryOutRun_of_concludes concludes]
    exact .concluded concludes

end Courses

/-- **The exit code of a run.** If a run ends with an exit code, it is the one for how the run
performed its prompt. -/
theorem carryOutRun_returns (plan : RunPlan) (ready : Session σ) :
    Returns (carryOutRun plan) ready fun code _ =>
      code = RunPlan.codeFor (performPrompt plan ready).1 := by
  intro code after ended
  have course := carryOutRun_course plan ready
  generalize carryOutRun plan ready = outcome at course ended
  cases course with
  | @interrupted message worked performed =>
      have one : Returns concludeInterrupted worked fun code _ => code = 1 :=
        .bind (.any _) fun _ _ _ => .bind (.any _) fun _ _ _ => .pure rfl
      rw [performed]
      exact one code after ended
  | @withoutPrompt cause worked performed ofFile =>
      have two : Returns (concludeWithoutPrompt cause) worked fun code _ => code = 2 :=
        .bind (.any _) fun _ _ _ => .bind (.any _) fun _ _ _ => .pure rfl
      rw [performed, two code after ended]
      exact (if_pos ofFile).symm
  | @concluded failure worked concludes =>
      rw [conclude_returns plan _ _ failure worked code after ended]
      cases concludes with
      | passed performed => rw [performed]; rfl
      | failed performed caught noFile =>
          rw [performed, RunPlan.codeFor, if_neg (Bool.eq_false_iff.mp noFile)]
          rfl

end Play

end Walkthrough
