import Walkthrough.Proofs.Api.Request
import Walkthrough.Proofs.Steps.Lack
import Walkthrough.Proofs.Variables.Placeholders

/-!
# How steps of the API end

A step of the API is refused before anything is asked if it states no endpoint or if a placeholder
in its endpoint has no value; else it makes its one request, which fails or is answered
(`Walkthrough.Play.carryOut_asks`). Only an answered step writes a variable, and then only the
value that the answer yields for the name that the step states (`Walkthrough.Step.captured?`).
-/

namespace Walkthrough

/-- The method of the request that an action makes, if it makes one. -/
def Action.method? : Action → Option HttpMethod
  | apiLogin | apiGet => some .get
  | apiCreate | apiPost => some .post
  | apiDelete => some .delete
  | uiNavigate | uiLogin | uiClick | uiVerify | unknown => none

/-- How an action captures a value from the body of an answer, if it stores one. -/
def Action.capture? : Action → Option (Json → String → Option Json)
  | apiLogin | apiGet => some Capture.ofRead
  | apiCreate | apiPost => some Capture.ofCreated
  | apiDelete | uiNavigate | uiLogin | uiClick | uiVerify | unknown => none

/-- The placeholder without a value that a fault blames, if it is such a fault. -/
def Fault.placeholder? : Fault → Option String
  | step (.undefinedVariable name none) _ => some name
  | _ => none

variable {σ : Type}

namespace Step

/-- What a step writes on an answer with a body: what its action captures for the name that it
states, if there is such a name and the body yields a value. -/
def captured? (step : Step) (body : Json) : Option (String × Json) :=
  step.action.capture?.bind fun capture =>
    (Details.present? step.details.storeAs).bind fun name =>
      ((capture body name).filter Capture.isValue).map fun value => (name, value)

/-- The request that a step makes by a client: that of its action, to the address of its endpoint
with values in place of placeholders, as far as all that is there. -/
def request? (step : Step) (client : Client) (vars : Variables) : Option Call := do
  let method ← step.action.method?
  let endpoint ← Details.present? step.details.endpoint
  let expanded ← (vars.expand endpoint).toOption
  let url ← (client.urlOf expanded).toOption
  return .request method url client.timeout none

/-- The body of the answer that the request of a step gets in a session, as far as there are a
request and an answer that can be read. -/
def answer? [Outside σ] (step : Step) (session : Session σ) : Option Json := do
  let method ← step.action.method?
  let endpoint ← Details.present? step.details.endpoint
  let expanded ← (session.vars.expand endpoint).toOption
  let url ← (session.client.urlOf expanded).toOption
  let reply : HttpReply ←
    (Outside.reply (.request method url session.client.timeout none) session.outside).1.toOption
  reply.content.toOption

/-- The ways in which carrying out a step of the API can end. -/
inductive Requests [Outside σ] (step : Step) (session : Session σ) :
    Except Fault String × Session σ → Prop
  /-- The step states no endpoint. -/
  | unstated {message : String} (bare : Details.IsBare step.details.endpoint) :
      Requests step session (.error (.step (.missingEndpoint message) none), session)
  /-- A placeholder in the endpoint has no value. -/
  | undefined {endpoint name : String}
      (stated : Details.present? step.details.endpoint = some endpoint)
      (failed : session.vars.expand endpoint = .error name) :
      Requests step session (.error (.step (.undefinedVariable name none) none), session)
  /-- The request cannot be made, or gets no answer that can be read. -/
  | failed {endpoint expanded : String} {fault : Fault} {after : Session σ}
      (stated : Details.present? step.details.endpoint = some endpoint)
      (filled : session.vars.expand endpoint = .ok expanded)
      (other : fault.placeholder? = none) (vars : after.vars = session.vars) :
      Requests step session (.error fault, after)
  /-- The request is answered. -/
  | answered {endpoint expanded notes : String} {body : Json} {after : Session σ}
      (stated : Details.present? step.details.endpoint = some endpoint)
      (filled : session.vars.expand endpoint = .ok expanded)
      (answer : step.answer? session = some body)
      (vars : after.vars = session.vars.setAll (step.captured? body).toList) :
      Requests step session (.ok notes, after)

/-- Carrying out a step of the API ends in one of these ways, and its request is the only call. -/
structure Asks [Outside σ] (step : Step) (session : Session σ)
    (ended : Except Fault String × Session σ) : Prop where
  requests : step.Requests session ended
  calls : ended.2.calls =
    session.calls ++ (step.request? session.client session.vars).toList

end Step

namespace Play

variable {step : Step} {session : Session σ}

theorem expand_of_error {text name : String} (failed : session.vars.expand text = .error name) :
    expand text session = (.error (.step (.undefinedVariable name none) none), session) := by
  rw [expand, bind_apply_of_ok (get_apply session), expandWith, failed]
  rfl

theorem expand_of_ok {text expanded : String} (filled : session.vars.expand text = .ok expanded) :
    ∃ after, session.Noted after ∧ expand text session = (.ok expanded, after) := by
  rw [expand, bind_apply_of_ok (get_apply session), expandWith, filled]
  by_cases changed : (expanded != text) = true
  · simp only [changed, if_true]
    exact ⟨_, .line session _, rfl⟩
  · simp only [changed]
    exact ⟨session, .refl session, rfl⟩

theorem storeFrom_apply (details : Details) (body : Json) (capture : Json → String → Option Json)
    (session : Session σ) :
    ∃ after, storeFrom details body capture session = (.ok (), after) ∧
      after.calls = session.calls ∧
      after.vars = session.vars.setAll ((Details.present? details.storeAs).bind fun name =>
        ((capture body name).filter Capture.isValue).map fun value => (name, value)).toList := by
  rw [storeFrom]
  cases Details.present? details.storeAs with
  | none => exact ⟨session, rfl, rfl, rfl⟩
  | some name =>
      simp only [storeCaptured, Option.bind_some]
      cases (capture body name).filter Capture.isValue with
      | none => exact ⟨_, rfl, rfl, rfl⟩
      | some value => exact ⟨_, rfl, rfl, rfl⟩

theorem statusNote_quiet (response : ApiResponse) : Quiet (statusNote response : Play σ String) :=
  .ite (.bind (.note _ _ _) fun _ => .pure _) (.pure _)

variable [Outside σ]

/-- A step that makes a request and goes on from its answer, writing what it captures and asking
nothing else. -/
theorem asks_of_finish {method : HttpMethod} (asks : step.action.method? = some method)
    (verb : String) {finish : ApiResponse → Play σ String}
    (finishes : ∀ response session, ∃ notes after, finish response session = (.ok notes, after) ∧
      after.calls = session.calls ∧
      after.vars = session.vars.setAll (step.captured? response.body).toList)
    (session : Session σ) :
    step.Asks session ((do
      let response ← request method (← endpointOf step.details verb) none
      finish response : Play σ String) session) := by
  rw [endpointOf]
  cases stated : Details.present? step.details.endpoint with
  | none =>
      refine ⟨.unstated (Details.present?_eq_none_iff.mp stated), ?_⟩
      simp [Step.request?, asks, stated, bind_apply]
  | some endpoint =>
      cases filled : session.vars.expand endpoint with
      | error name =>
          rw [bind_apply_of_error (expand_of_error filled)]
          refine ⟨.undefined stated filled, ?_⟩
          simp [Step.request?, asks, stated, filled, Except.toOption]
      | ok expanded =>
          obtain ⟨_, ⟨lines, rfl⟩, expanding⟩ := expand_of_ok filled
          rw [bind_apply_of_ok expanding]
          have made {url : String} (addressed : session.client.urlOf expanded = .ok url) :
              (step.request? session.client session.vars).toList =
                [.request method url session.client.timeout none] := by
            simp [Step.request?, asks, stated, filled, addressed, Except.toOption]
          have ends := request_ends method expanded none
            { session with log := session.log ++ lines }
          generalize ran : request method expanded none
            ({ session with log := session.log ++ lines } : Session σ) = ended at ends
          cases ends with
          | @unaddressed cause refused =>
              have address : session.client.urlOf expanded = .error cause := refused
              rw [bind_apply_of_error ran]
              obtain ⟨-, message, rfl⟩ := Client.urlOf_eq_error refused
              refine ⟨.failed stated filled rfl rfl, ?_⟩
              simp [Step.request?, asks, stated, filled, address, Except.toOption]
          | unanswered addressed _ asked =>
              rw [bind_apply_of_error ran]
              exact ⟨.failed stated filled rfl asked.vars, by rw [made addressed, asked.calls]⟩
          | unread addressed _ _ asked =>
              rw [bind_apply_of_error ran]
              exact ⟨.failed stated filled rfl asked.vars, by rw [made addressed, asked.calls]⟩
          | @answered url reply response after addressed replied read asked =>
              obtain ⟨notes, final, finished, calls, vars⟩ := finishes response after
              rw [bind_apply_of_ok ran, finished]
              refine ⟨.answered stated filled (?_ : step.answer? session = some response.body)
                (by rw [vars, asked.vars]), by rw [made addressed, calls, asked.calls]⟩
              have address : session.client.urlOf expanded = .ok url := addressed
              have reply? : (Outside.reply (.request method url session.client.timeout none)
                session.outside).1 = .ok reply := replied
              simp [Step.answer?, asks, stated, filled, address, reply?, read, Except.toOption]

/-- **What steps of the API do.** Carrying out a step of the API ends in one of these ways, after
its request and no other call. -/
theorem carryOut_asks (api : step.action.usesApi = true) (session : Session σ) :
    step.Asks session (carryOut step session) := by
  have finish {capture : Json → String → Option Json}
      (captures : step.action.capture? = some capture) (response : ApiResponse)
      (session : Session σ) :
      ∃ notes after, (do
          storeFrom step.details response.body capture
          statusNote response : Play σ String) session = (.ok notes, after) ∧
        after.calls = session.calls ∧
        after.vars = session.vars.setAll (step.captured? response.body).toList := by
    obtain ⟨middle, stored, calls, vars⟩ :=
      storeFrom_apply step.details response.body capture session
    obtain ⟨notes, after, noted, same⟩ := statusNote_quiet response middle
    refine ⟨notes, after, (bind_apply_of_ok stored _).trans noted, same.calls.trans calls,
      same.vars.trans ?_⟩
    rw [vars, Step.captured?, captures, Option.bind_some]
  cases action : step.action with
  | apiLogin | apiGet =>
      rw [carryOut, action]
      exact asks_of_finish (by rw [action]; rfl) "GET" (finish (by rw [action]; rfl)) session
  | apiCreate | apiPost =>
      rw [carryOut, action]
      exact asks_of_finish (by rw [action]; rfl) "POST" (finish (by rw [action]; rfl)) session
  | apiDelete =>
      rw [carryOut, action]
      refine asks_of_finish (by rw [action]; rfl) "DELETE" (fun response session => ?_) session
      obtain ⟨notes, after, noted, same⟩ := statusNote_quiet response session
      refine ⟨notes, after, noted, same.calls, same.vars.trans ?_⟩
      rw [Step.captured?, action]
      rfl
  | uiNavigate | uiLogin | uiClick | uiVerify | unknown =>
      rw [action] at api
      cases api

/-- **How steps of the API end.** Carrying out a step of the API ends in one of these ways. -/
theorem carryOut_requests (api : step.action.usesApi = true) (session : Session σ) :
    step.Requests session (carryOut step session) :=
  (carryOut_asks api session).requests

end Play

end Walkthrough
