import Walkthrough.Proofs.Json.Names
import Walkthrough.Proofs.Steps.Reports
import Walkthrough.Proofs.Steps.Request

/-!
# What a run writes into variables

A step that passes writes at most one variable, and only if it is one of the API that stores what it
gets; a step that fails writes none (`Walkthrough.Play.executeStep_writes`). So the variables at the
end of a run are those at its start with the writings of the steps that passed, one after the other
(`Walkthrough.Play.execute_writes`), however the run ends. In them, and in all objects among their
values, every name is there once (`Walkthrough.Play.execute_once`).
-/

namespace Walkthrough

theorem Capture.isValue_iff {value : Json} :
    isValue value = true ↔ value ≠ .null ∧ value ≠ .text "" := by
  cases value <;> simp [isValue]

theorem HttpReply.content_once {reply : HttpReply} {body : Json}
    (read : reply.content = .ok body) : body.Once := by
  unfold content at read
  split at read
  · split at read
    · next given =>
        cases read
        exact Json.once_of_read given
    · cases read
    · cases read
      trivial
  · cases read
    trivial

/-- Variables in which, and in all objects among whose values, every name is there once. -/
def Variables.Once (vars : Variables) : Prop :=
  (Json.object vars.entries).Once

theorem Variables.Once.setAll {vars : Variables} {written : List (String × Json)}
    (before : vars.Once) (once : ∀ entry ∈ written, entry.2.Once) :
    (vars.setAll written).Once := by
  induction written generalizing vars with
  | nil => exact before
  | cons entry rest ih =>
      obtain ⟨first, later⟩ := List.forall_mem_cons.mp once
      exact ih (Json.Once.put before entry.1 first) later

variable {σ : Type} [Outside σ]

namespace Step

/-- What a step writes in a session where it passes. -/
def written? (step : Step) (session : Session σ) : Option (String × Json) :=
  (step.answer? session).bind step.captured?

/-- The variables are left as the step has to leave them: with its writing if it passes, and else as
they were. -/
def Leaves {α : Type} (step : Step) (session : Session σ) : Except Fault α × Session σ → Prop
  | (.ok _, after) => after.vars = session.vars.setAll (step.written? session).toList
  | (.error _, after) => after.vars = session.vars

omit [Outside σ] in
/-- What a step writes is what its action captures for the name that it states, and never nothing or
the empty text. -/
theorem captured?_eq_some_iff {step : Step} {body value : Json} {name : String} :
    step.captured? body = some (name, value) ↔
      ∃ capture, step.action.capture? = some capture ∧ step.details.storeAs = some name ∧
        name ≠ "" ∧ capture body name = some value ∧ value ≠ .null ∧ value ≠ .text "" := by
  rw [← Capture.isValue_iff]
  constructor
  · intro writes
    obtain ⟨capture, captures, writes⟩ := Option.bind_eq_some_iff.mp writes
    obtain ⟨stated, present, writes⟩ := Option.bind_eq_some_iff.mp writes
    obtain ⟨found, captured, same⟩ := Option.map_eq_some_iff.mp writes
    cases same
    obtain ⟨captured, kept⟩ := Option.filter_eq_some_iff.mp captured
    obtain ⟨stores, some⟩ := Option.filter_eq_some_iff.mp present
    exact ⟨capture, captures, stores, by simpa using some, captured, kept⟩
  · rintro ⟨capture, captures, stores, some, captured, kept⟩
    simp [captured?, captures, Details.present?, stores, some, captured, kept, Option.filter_some]

theorem answer?_once {step : Step} {session : Session σ} {body : Json}
    (answered : step.answer? session = some body) : body.Once := by
  unfold answer? at answered
  simp only [Option.bind_eq_bind, Option.bind_eq_some_iff] at answered
  obtain ⟨_, _, _, _, _, _, _, _, reply, _, content⟩ := answered
  rcases read : reply.content with fault | value
  · rw [read] at content
    cases content
  · rw [read] at content
    cases content
    exact HttpReply.content_once read

/-- What a step writes comes from a body that was read, so that every name is there once. -/
theorem written?_once {step : Step} {session : Session σ} {entry : String × Json}
    (writes : step.written? session = some entry) : entry.2.Once := by
  obtain ⟨name, value⟩ := entry
  obtain ⟨body, answered, writes⟩ := Option.bind_eq_some_iff.mp writes
  obtain ⟨capture, captures, -, -, captured, -⟩ := captured?_eq_some_iff.mp writes
  have once := answer?_once answered
  have ways : capture = Capture.ofRead ∨ capture = Capture.ofCreated := by
    cases action : step.action <;> simp_all [Action.capture?]
  rcases ways with rfl | rfl
  · exact Capture.ofRead_once once captured
  · exact Capture.ofCreated_once once captured

end Step

namespace Play

variable {step : Step} {steps : List Step} {session : Session σ}

/-- The steps that pass in a run through steps, each with the session that it passes in. -/
def passes : List Step → Session σ → List (Step × Session σ)
  | [], _ => []
  | step :: rest, session =>
    match executeStep step session with
    | (.ok _, after) => (step, session) :: passes rest after
    | (.error _, _) => []

/-- A step that does not use the API writes nothing, whatever becomes of it. -/
theorem carryOut_vars_of_not_usesApi (apart : step.action.usesApi = false) (session : Session σ) :
    (carryOut step session).2.vars = session.vars := by
  obtain ⟨written, vars, allowed⟩ :=
    ((carryOut_within session.client step).allows session rfl).1.vars
  cases written with
  | nil => exact vars
  | cons entry rest =>
      have api := (allowed entry List.mem_cons_self).1
      rw [apart] at api
      cases api

theorem written?_of_not_usesApi (apart : step.action.usesApi = false) (session : Session σ) :
    step.written? session = none := by
  have asks : step.action.method? = none := by
    cases action : step.action <;> simp_all [Action.usesApi, Action.method?]
  rw [Step.written?, Step.answer?, asks]
  rfl

/-- **What a step writes.** A step that is carried out leaves the variables with its writing, and
one that fails leaves them as they were. -/
theorem carryOut_writes (step : Step) (session : Session σ) :
    step.Leaves session (carryOut step session) := by
  cases api : step.action.usesApi with
  | false =>
      have vars := carryOut_vars_of_not_usesApi api session
      rcases ended : carryOut step session with ⟨fault | notes, after⟩
      · rw [ended] at vars
        exact vars
      · rw [ended] at vars
        rw [Step.Leaves, written?_of_not_usesApi api]
        exact vars
  | true =>
      have ends := carryOut_requests api session
      generalize carryOut step session = ended at ends
      cases ends with
      | unstated => rfl
      | undefined => rfl
      | failed _ _ _ vars => exact vars
      | answered _ _ answer vars =>
          rw [Step.Leaves, Step.written?, answer]
          exact vars

theorem executeStep_writes (step : Step) (session : Session σ) :
    step.Leaves session (executeStep step session) := by
  have leaves := carryOut_writes step (announced step session)
  rcases carried : carryOut step (announced step session) with ⟨raised | notes, after⟩
  · rw [carried] at leaves
    cases interrupt : raised.isInterrupt with
    | true =>
        rw [executeStep_of_interrupt carried interrupt]
        exact leaves
    | false =>
        rw [executeStep_of_failure carried interrupt]
        exact leaves
  · rw [carried] at leaves
    rw [executeStep_of_ok carried]
    exact leaves

/-- A run through steps leaves the variables with the writings of the steps that pass, in order. -/
theorem executeSteps_writes (steps : List Step) (session : Session σ) :
    (executeSteps steps session).2.vars = session.vars.setAll
      ((passes steps session).filterMap fun pass => pass.1.written? pass.2) := by
  induction steps generalizing session with
  | nil => rfl
  | cons step rest ih =>
      have leaves := executeStep_writes step session
      rcases ended : executeStep step session with ⟨fault | report, after⟩
      · rw [ended] at leaves
        rw [executeSteps, bind_apply_of_error ended, passes, ended]
        exact leaves
      · rw [ended] at leaves
        rw [executeSteps_cons_of_ok ended, ih, leaves, ← Variables.setAll_append, passes, ended]
        cases written : step.written? session <;> simp [written]

/-- The steps that pass are the first ones of a run, and of the reports that it adds theirs are
those that say so. -/
theorem executeSteps_passes (steps : List Step) (session : Session σ) :
    (passes steps session).map (·.1) <+: steps ∧
      ∃ fresh, (executeSteps steps session).2.reports = session.reports ++ fresh ∧
        List.Forall₂ StepReport.SaysPassed ((passes steps session).map (·.1))
          (fresh.filter (·.passed)) := by
  induction steps generalizing session with
  | nil => exact ⟨List.prefix_rfl, [], (List.append_nil _).symm, .nil⟩
  | cons step rest ih =>
      rcases ended : executeStep step session with ⟨fault | report, after⟩
      · rw [executeSteps, bind_apply_of_error ended, passes, ended]
        refine ⟨List.nil_prefix, ?_⟩
        obtain ⟨raised, stopped, -, -, -, -, -, reports⟩ := executeStep_of_error ended
        split at reports
        · exact ⟨[], by rw [reports, List.append_nil], .nil⟩
        · obtain ⟨report, failed, reports⟩ := reports
          exact ⟨[report], reports, by simp [failed.passed]⟩
      · obtain ⟨passed, reports, -⟩ := executeStep_reports_of_ok ended
        obtain ⟨first, fresh, later, allPassed⟩ := ih after
        rw [executeSteps_cons_of_ok ended, passes, ended]
        refine ⟨(List.prefix_cons_inj step).mpr first, report :: fresh, ?_, ?_⟩
        · rw [later, reports, List.append_assoc, List.singleton_append]
        · rw [List.map_cons, List.filter_cons_of_pos passed.passed]
          exact .cons passed allPassed

/-- A run from its start leaves the world, the variables and the reports as the run through its
steps does. -/
theorem execute_sameRun (session : Session σ) :
    (executeSteps session.document.steps (started session)).2.SameRun (execute session).2 := by
  rcases ended : executeSteps session.document.steps (started session) with ⟨fault | _, after⟩
  · obtain ⟨final, closed, same⟩ := execute_of_error ended
    rw [closed]
    exact same
  · obtain ⟨final, closed, same⟩ := execute_of_ok ended
    rw [closed]
    exact same

/-- **What a run writes.** However a run ends, the variables are in the end those at its start with
one writing after the other: one for each step that passes, uses the API, states a name to store
under and gets an answer that yields a value, which is never nothing or the empty text. The steps
that pass are the first ones of the prompt and those whose reports say so. A step by itself leaves
the variables with that one writing if it passes, and as they were if it fails. -/
theorem execute_writes (session : Session σ) :
    let passed := passes session.document.steps (started session)
    (execute session).2.vars =
        session.vars.setAll (passed.filterMap fun pass => pass.1.written? pass.2) ∧
      (passed.map (·.1) <+: session.document.steps ∧
        ∃ fresh, (execute session).2.reports = session.reports ++ fresh ∧
          List.Forall₂ StepReport.SaysPassed (passed.map (·.1)) (fresh.filter (·.passed))) ∧
      ∀ (step : Step) (reached : Session σ),
        step.Leaves reached (executeStep step reached) ∧
          ∀ name value, step.written? reached = some (name, value) ↔
            ∃ body, step.answer? reached = some body ∧
              ∃ capture, step.action.capture? = some capture ∧ step.details.storeAs = some name ∧
                name ≠ "" ∧ capture body name = some value ∧ value ≠ .null ∧
                value ≠ .text "" := by
  intro passed
  have same := execute_sameRun session
  obtain ⟨first, fresh, reports, said⟩ :=
    executeSteps_passes session.document.steps (started session)
  refine ⟨?_, ⟨first, fresh, same.reports.trans reports, said⟩, fun step reached =>
    ⟨executeStep_writes step reached, fun name value => ?_⟩⟩
  · rw [same.vars, executeSteps_writes]
    rfl
  · rw [Step.written?, Option.bind_eq_some_iff]
    simp only [Step.captured?_eq_some_iff]

/-- **A run writes every name once.** If every name is there once at the start of a run, it is so in
the end. -/
theorem execute_once {session : Session σ} (before : session.vars.Once) :
    (execute session).2.vars.Once := by
  rw [(execute_sameRun session).vars, executeSteps_writes]
  refine Variables.Once.setAll before fun entry among => ?_
  obtain ⟨pass, -, writes⟩ := List.mem_filterMap.mp among
  exact Step.written?_once writes

end Play

end Walkthrough
