import Mathlib.Data.List.Basic
import Walkthrough.Proofs.Steps.Parallel
import Walkthrough.Proofs.Steps.Writes

/-!
# The requests of a run

A step of the API makes one request if it gets so far as to know its address, and no other step
makes any (`Walkthrough.Play.executeStep_requested`). So the requests of a run are those of the
steps that it reaches, in the order of the prompt (`Walkthrough.Play.execute_requests`). What a step
states as its method does not matter to them.
-/

namespace Walkthrough

namespace Step

variable {step : Step} {client : Client} {vars : Variables}

theorem request?_eq_some_iff {call : Call} :
    step.request? client vars = some call ↔
      ∃ method endpoint expanded url, step.action.method? = some method ∧
        step.details.endpoint = some endpoint ∧ endpoint ≠ "" ∧
        vars.expand endpoint = .ok expanded ∧ client.urlOf expanded = .ok url ∧
        call = .request method url client.timeout none := by
  constructor
  · intro asks
    obtain ⟨method, asked, asks⟩ := Option.bind_eq_some_iff.mp asks
    obtain ⟨endpoint, present, asks⟩ := Option.bind_eq_some_iff.mp asks
    obtain ⟨expanded, filled, asks⟩ := Option.bind_eq_some_iff.mp asks
    obtain ⟨url, addressed, same⟩ := Option.bind_eq_some_iff.mp asks
    obtain ⟨stated, some⟩ := Option.filter_eq_some_iff.mp present
    exact ⟨method, endpoint, expanded, url, asked, stated, by simpa using some,
      eq_ok_of_toOption filled, eq_ok_of_toOption addressed, (Option.some.inj same).symm⟩
  · rintro ⟨method, endpoint, expanded, url, asked, stated, some, filled, addressed, rfl⟩
    simp [request?, asked, Details.present?, stated, some, filled, addressed, Except.toOption,
      Option.filter_some]

theorem request?_isRequest {call : Call} (asks : step.request? client vars = some call) :
    call.isRequest = true := by
  obtain ⟨_, _, _, _, -, -, -, -, -, rfl⟩ := request?_eq_some_iff.mp asks
  rfl

theorem request?_of_not_usesApi (apart : step.action.usesApi = false) :
    step.request? client vars = none := by
  have asks : step.action.method? = none := by
    cases action : step.action <;> simp_all [Action.usesApi, Action.method?]
  rw [request?, asks]
  rfl

/-- The step with another method stated. -/
def withMethod (step : Step) (method : Option String) : Step :=
  { step with details := { step.details with method } }

end Step

/-- The document with other methods stated, one for each place of a step. -/
def Document.withMethods (document : Document) (methods : Nat → Option String) : Document :=
  { document with steps := document.steps.mapIdx fun index step => step.withMethod (methods index) }

variable {σ : Type} [Outside σ]

namespace Play

variable {step : Step} {steps : List Step} {session : Session σ}

/-- The steps that a run through steps reaches, each with the session that it is reached in: the
first one, and the rest if that passes. -/
def reaches : List Step → Session σ → List (Step × Session σ)
  | [], _ => []
  | step :: rest, session =>
    (step, session) ::
      match executeStep step session with
      | (.ok _, after) => reaches rest after
      | (.error _, _) => []

section Reaching

theorem reaches_cons_of_ok {report : StepReport} {after : Session σ}
    (ended : executeStep step session = (.ok report, after)) (rest : List Step) :
    reaches (step :: rest) session = (step, session) :: reaches rest after := by
  rw [reaches, ended]

theorem reaches_cons_of_error {fault : Fault} {after : Session σ}
    (ended : executeStep step session = (.error fault, after)) (rest : List Step) :
    reaches (step :: rest) session = [(step, session)] := by
  rw [reaches, ended]

/-- The steps that are reached are the first ones. -/
theorem reaches_isPrefixOf (steps : List Step) (session : Session σ) :
    (reaches steps session).map (·.1) <+: steps := by
  induction steps generalizing session with
  | nil => exact List.prefix_rfl
  | cons step rest ih =>
      rcases ended : executeStep step session with ⟨fault | report, after⟩
      · rw [reaches_cons_of_error ended]
        exact (List.prefix_cons_inj step).mpr List.nil_prefix
      · rw [reaches_cons_of_ok ended]
        exact (List.prefix_cons_inj step).mpr (ih after)

/-- A step is reached if those before it pass, in the session that they leave. -/
theorem mem_reaches_iff {reached : Session σ} :
    (step, reached) ∈ reaches steps session ↔
      ∃ before rest, steps = before ++ step :: rest ∧
        executeSteps before session = (.ok (), reached) := by
  induction steps generalizing session with
  | nil => simp [reaches]
  | cons first later ih =>
      constructor
      · intro member
        rcases ended : executeStep first session with ⟨fault | report, after⟩
        · rw [reaches_cons_of_error ended, List.mem_singleton] at member
          cases member
          exact ⟨[], later, rfl, rfl⟩
        · rw [reaches_cons_of_ok ended] at member
          rcases List.mem_cons.mp member with same | member
          · cases same
            exact ⟨[], later, rfl, rfl⟩
          · obtain ⟨before, rest, rfl, passed⟩ := ih.mp member
            exact ⟨first :: before, rest, rfl, (executeSteps_cons_of_ok ended before).trans passed⟩
      · rintro ⟨before, rest, place, passed⟩
        cases before with
        | nil =>
            cases place
            cases passed
            exact List.mem_cons_self
        | cons first before =>
            cases place
            obtain ⟨report, after, ended, passed⟩ := passed_of_executeSteps_cons passed
            rw [reaches_cons_of_ok ended]
            exact List.mem_cons_of_mem _ (ih.mpr ⟨before, rest, rfl, passed⟩)

end Reaching

section Requests

/-- Of the calls that carrying out a step makes, its request is the only request. -/
theorem carryOut_requested (step : Step) (session : Session σ) :
    ∃ made, (carryOut step session).2.calls = session.calls ++ made ∧
      made.filter (·.isRequest) = (step.request? session.client session.vars).toList := by
  cases api : step.action.usesApi with
  | true =>
      refine ⟨_, (carryOut_asks api session).calls, List.filter_eq_self.mpr fun call member => ?_⟩
      exact Step.request?_isRequest (Option.mem_toList.mp member)
  | false =>
      obtain ⟨made, calls, allowed⟩ :=
        ((carryOut_within session.client step).allows session rfl).1.calls
      refine ⟨made, calls, ?_⟩
      rw [Step.request?_of_not_usesApi api]
      refine List.filter_eq_nil_iff.mpr fun call member request => ?_
      rcases allowed call member with ⟨uses, -⟩ | ⟨-, page⟩
      · rw [api] at uses
        cases uses
      · cases call <;> simp_all [Call.isRequest, Call.isOfPage]

/-- **What a step requests.** However a step ends, its request is the only request that it adds. -/
theorem executeStep_requested (step : Step) (session : Session σ) :
    (executeStep step session).2.calls.filter (·.isRequest) =
      session.calls.filter (·.isRequest) ++
        (step.request? session.client session.vars).toList := by
  obtain ⟨reports, log, after⟩ := executeStep_after step session
  obtain ⟨made, calls, requests⟩ := carryOut_requested step (announced step session)
  calc
    (executeStep step session).2.calls.filter (·.isRequest) =
        (session.calls ++ made).filter (·.isRequest) := by
      rw [after]
      exact congrArg (List.filter (·.isRequest)) calls
    _ = _ := by
      rw [List.filter_append]
      exact congrArg (session.calls.filter (·.isRequest) ++ ·) requests

theorem executeStep_client (step : Step) (session : Session σ) :
    (executeStep step session).2.client = session.client := by
  obtain ⟨reports, log, after⟩ := executeStep_after step session
  rw [after]
  exact (carryOut_frame step (announced step session)).client

/-- A run through steps adds the requests of those that it reaches, in order. -/
theorem executeSteps_requested (steps : List Step) (session : Session σ) :
    (executeSteps steps session).2.calls.filter (·.isRequest) =
      session.calls.filter (·.isRequest) ++ (reaches steps session).filterMap fun reach =>
        reach.1.request? session.client reach.2.vars := by
  induction steps generalizing session with
  | nil => exact (List.append_nil _).symm
  | cons step rest ih =>
      have requested := executeStep_requested step session
      have client := executeStep_client step session
      rw [List.filterMap_eq_flatMap_toList]
      rcases ended : executeStep step session with ⟨fault | report, after⟩
      · rw [ended] at requested
        rw [executeSteps, bind_apply_of_error ended, reaches_cons_of_error ended, requested]
        exact congrArg _ (List.append_nil _).symm
      · rw [ended] at requested client
        rw [executeSteps_cons_of_ok ended, ih, requested, client, reaches_cons_of_ok ended,
          List.flatMap_cons, List.append_assoc, List.filterMap_eq_flatMap_toList]

end Requests

section Methods

theorem carryOut_withMethod (step : Step) (method : Option String) :
    (carryOut (step.withMethod method) : Play σ String) = carryOut step := by
  unfold carryOut Step.withMethod
  cases step.action <;> rfl

/-- With another method stated, a step leaves the same session, and it passes alike. -/
theorem executeStep_withMethod (step : Step) (method : Option String) (session : Session σ) :
    (executeStep (step.withMethod method) session).2 = (executeStep step session).2 ∧
      (executeStep (step.withMethod method) session).1.toOption =
        (executeStep step session).1.toOption := by
  rcases ended : carryOut step (announced step session) with ⟨fault | notes, after⟩
  · have ended' : carryOut (step.withMethod method) (announced (step.withMethod method) session) =
        (.error fault, after) := by
      rw [carryOut_withMethod]
      exact ended
    cases interrupt : fault.isInterrupt with
    | true =>
        rw [executeStep_of_interrupt ended interrupt, executeStep_of_interrupt ended' interrupt]
        exact ⟨rfl, rfl⟩
    | false =>
        have message : (fault.inStep (step.withMethod method)).message =
            (fault.inStep step).message := by
          cases fault with
          | step cause place => cases place <;> rfl
          | _ => rfl
        rw [executeStep_of_failure ended interrupt, executeStep_of_failure ended' interrupt,
          message]
        exact ⟨rfl, rfl⟩
  · have ended' : carryOut (step.withMethod method) (announced (step.withMethod method) session) =
        (.ok notes, after) := by
      rw [carryOut_withMethod]
      exact ended
    rw [executeStep_of_ok ended, executeStep_of_ok ended']
    exact ⟨rfl, rfl⟩

theorem executeSteps_withMethods {steps others : List Step}
    (same : List.Forall₂ (fun step other => ∃ method, other = step.withMethod method) steps others)
    (session : Session σ) :
    (executeSteps others session).2 = (executeSteps steps session).2 := by
  induction same generalizing session with
  | nil => rfl
  | @cons step _ rest others stated _ ih =>
      obtain ⟨method, rfl⟩ := stated
      obtain ⟨left, passes⟩ := executeStep_withMethod step method session
      rcases ended : executeStep step session with ⟨fault | report, after⟩
      · rcases ended' : executeStep (step.withMethod method) session with ⟨other | report, after'⟩
        · rw [ended, ended'] at left
          rw [executeSteps, bind_apply_of_error ended', executeSteps, bind_apply_of_error ended]
          exact left
        · rw [ended, ended'] at passes
          cases passes
      · rcases ended' : executeStep (step.withMethod method) session with ⟨fault | other, after'⟩
        · rw [ended, ended'] at passes
          cases passes
        · rw [ended, ended'] at left
          obtain rfl : after' = after := left
          rw [executeSteps_cons_of_ok ended, executeSteps_cons_of_ok ended', ih]

omit [Outside σ] in
theorem mapIdx_withMethod (steps : List Step) (methods : Nat → Option String) :
    List.Forall₂ (fun step other => ∃ method, other = step.withMethod method) steps
      (steps.mapIdx fun index step => step.withMethod (methods index)) := by
  induction steps generalizing methods with
  | nil => exact .nil
  | cons step rest ih =>
      rw [List.mapIdx_cons]
      exact .cons ⟨_, rfl⟩ (ih fun index => methods (index + 1))

/-- What steps state as their methods does not matter to the calls of a run. -/
theorem execute_withMethods (session : Session σ) (methods : Nat → Option String) :
    (execute { session with document := session.document.withMethods methods }).2.calls =
      (execute session).2.calls := by
  have stated : List.Forall₂ (fun step other => ∃ method, other = step.withMethod method)
      session.document.steps (session.document.withMethods methods).steps :=
    mapIdx_withMethod session.document.steps methods
  have alike : Session.Matches Eq [] (started session)
      (started { session with document := session.document.withMethods methods }) :=
    ⟨rfl, rfl, rfl, rfl, rfl, rfl, rfl⟩
  rw [(execute_sameRun _).calls, (execute_sameRun session).calls]
  -- The sessions differ in their documents, which steps do not look at, and the steps in methods.
  rcases (executeSteps_parallel (Outside.simulates_eq.reporting [])
    (session.document.withMethods methods).steps).goes _ _ alike with never | ⟨-, alike⟩
  · exact never.elim
  · rw [← executeSteps_withMethods stated]
    exact alike.calls.symm

end Methods

/-- **One request for each step of the API.** However a run ends, its requests come in the order of
the prompt: one for each step that it reaches, has an endpoint that is not empty, finds values for
all placeholders of that among the variables at its turn, and has an address for it; any other step
makes none. A step is reached if all before it pass. The request has the method of the step's
action, no body, and the time that the client allows; what the step states as its method does not
matter. -/
theorem execute_requests (session : Session σ) :
    (execute session).2.calls.filter (·.isRequest) =
        session.calls.filter (·.isRequest) ++
          (reaches session.document.steps (started session)).filterMap (fun reach =>
            reach.1.request? session.client reach.2.vars) ∧
      ((reaches session.document.steps (started session)).map (·.1) <+: session.document.steps ∧
        ∀ step reached, (step, reached) ∈ reaches session.document.steps (started session) ↔
          ∃ before rest, session.document.steps = before ++ step :: rest ∧
            executeSteps before (started session) = (.ok (), reached)) ∧
      (∀ (step : Step) client vars call, step.request? client vars = some call ↔
        ∃ method endpoint expanded url, step.action.method? = some method ∧
          step.details.endpoint = some endpoint ∧ endpoint ≠ "" ∧
          vars.expand endpoint = .ok expanded ∧ client.urlOf expanded = .ok url ∧
          call = .request method url client.timeout none) ∧
      ∀ methods : Nat → Option String,
        (execute { session with document := session.document.withMethods methods }).2.calls =
          (execute session).2.calls := by
  refine ⟨?_, ⟨reaches_isPrefixOf _ _, fun _ _ => mem_reaches_iff⟩,
    fun _ _ _ _ => Step.request?_eq_some_iff, execute_withMethods session⟩
  rw [(execute_sameRun session).calls]
  exact executeSteps_requested session.document.steps (started session)

end Play

end Walkthrough
