import Walkthrough.Api.Client
import Walkthrough.Proofs.Session.Scope

/-!
# How requests end

A request to the API goes out at most once, to the address of its endpoint, and only if there is
one. It can then be left without an answer, get one whose body is nested too deep, or get one that
is read; these are all the ways in which it can end (`Walkthrough.Play.request_ends`). Whatever
comes of it, no variable changes.
-/

namespace Walkthrough

/-- What the body of an answer is read as: as JSON if the answer declares it and the body is some,
and else as text. JSON that is nested too deep is not read at all. -/
def HttpReply.content (reply : HttpReply) : Except Json.Collection Json :=
  if reply.declaresJson then
    match Json.read reply.body with
    | .ok value => .ok value
    | .error (.tooDeep collection) => .error collection
    | .error .malformed => .ok (.text reply.body)
  else .ok (.text reply.body)

variable {σ : Type}

/-- A session that goes on from another with further lines in the log, and nothing else. -/
def Session.Noted (session after : Session σ) : Prop :=
  ∃ lines, after = { session with log := session.log ++ lines }

namespace Session.Noted

variable {first second third : Session σ}

theorem refl (session : Session σ) : session.Noted session :=
  ⟨[], by rw [List.append_nil]⟩

theorem line (session : Session σ) (line : LogLine) :
    session.Noted { session with log := session.log ++ [line] } :=
  ⟨[line], rfl⟩

end Session.Noted

variable [Outside σ]

/-- A session that goes on from another after one call to the outside world that leaves a trace. -/
structure Session.Asked (session : Session σ) (call : Call) (after : Session σ) : Prop where
  outside : after.outside = (Outside.reply call session.outside).2
  calls : after.calls = session.calls ++ [call]
  vars : after.vars = session.vars

namespace Play

section Reading

omit [Outside σ]

/-- Reading the body of an answer writes into the log at most. -/
theorem decodeBody_apply (reply : HttpReply) (session : Session σ) :
    ∃ after, session.Noted after ∧
      decodeBody reply session = (reply.content.mapError .tooDeep, after) := by
  rw [decodeBody, HttpReply.content]
  split
  · cases Json.read reply.body with
    | ok value => exact ⟨session, .refl session, rfl⟩
    | error fault =>
        cases fault with
        | tooDeep collection => exact ⟨session, .refl session, rfl⟩
        | malformed => exact ⟨_, .line session _, rfl⟩
  · exact ⟨session, .refl session, rfl⟩

theorem urlOf_apply (endpoint : String) (session : Session σ) :
    urlOf endpoint session =
      ((session.client.urlOf endpoint).mapError fun cause => .step cause none, session) := by
  rw [urlOf, bind_apply_of_ok (get_apply session)]
  cases session.client.urlOf endpoint <;> rfl

end Reading

variable {session : Session σ} {call : Call} {after : Session σ}

theorem ask_asked (traced : call.isTraced = true) (session : Session σ) :
    ∃ after, session.Asked call after ∧ ask call session =
      ((Outside.reply call session.outside).1.mapError .outside, after) := by
  refine ⟨(ask call session).2, ?_, ?_⟩
  · rw [ask_apply]
    exact ⟨rfl, by simp [traced], rfl⟩
  · rw [ask_apply]

end Play

/-- The ways in which a request can end. -/
inductive Requested (method : HttpMethod) (endpoint : String) (data : Option Json)
    (session : Session σ) : Except Fault ApiResponse × Session σ → Prop
  /-- The endpoint has no address, so nothing is asked. -/
  | unaddressed {cause : StepFault} (refused : session.client.urlOf endpoint = .error cause) :
      Requested method endpoint data session (.error (.step cause none), session)
  /-- There is no answer. -/
  | unanswered {url : String} {mishap : Mishap} {after : Session σ}
      (addressed : session.client.urlOf endpoint = .ok url)
      (failed : (Outside.reply (.request method url session.client.timeout data)
        session.outside).1 = .error mishap)
      (asked : session.Asked (.request method url session.client.timeout data) after) :
      Requested method endpoint data session (.error (.outside mishap), after)
  /-- The answer cannot be read. -/
  | unread {url : String} {reply : HttpReply} {collection : Json.Collection} {after : Session σ}
      (addressed : session.client.urlOf endpoint = .ok url)
      (answered : (Outside.reply (.request method url session.client.timeout data)
        session.outside).1 = .ok reply)
      (deep : reply.content = .error collection)
      (asked : session.Asked (.request method url session.client.timeout data) after) :
      Requested method endpoint data session (.error (.tooDeep collection), after)
  /-- The answer is read. -/
  | answered {url : String} {reply : HttpReply} {response : ApiResponse} {after : Session σ}
      (addressed : session.client.urlOf endpoint = .ok url)
      (answered : (Outside.reply (.request method url session.client.timeout data)
        session.outside).1 = .ok reply)
      (read : reply.content = .ok response.body)
      (asked : session.Asked (.request method url session.client.timeout data) after) :
      Requested method endpoint data session (.ok response, after)

namespace Play

/-- A request ends in one of these ways. -/
theorem request_ends (method : HttpMethod) (endpoint : String) (data : Option Json)
    (session : Session σ) :
    Requested method endpoint data session (request method endpoint data session) := by
  have address := urlOf_apply endpoint session
  cases addressed : session.client.urlOf endpoint with
  | error cause =>
      rw [addressed] at address
      rw [request, bind_apply_of_error address]
      exact .unaddressed addressed
  | ok url =>
      rw [addressed] at address
      rw [request, bind_apply_of_ok address, bind_apply_of_ok (note_apply _ _ _ _),
        bind_apply_of_ok (clock_apply _), bind_apply_of_ok (get_apply _)]
      obtain ⟨middle, asked, replied⟩ := ask_asked
        (rfl : (Call.request method url session.client.timeout data).isTraced = true)
        { session with log := session.log ++ [⟨.info, .api, s!"API {method.name} {url}"⟩] }
      cases answer : (Outside.reply (.request method url session.client.timeout data)
          session.outside).1 with
      | error mishap =>
          rw [answer] at replied
          rw [bind_apply_of_error replied]
          exact .unanswered addressed answer ⟨asked.outside, asked.calls, asked.vars⟩
      | ok reply =>
          rw [answer] at replied
          rw [bind_apply_of_ok replied, bind_apply_of_ok (clock_apply _)]
          obtain ⟨_, ⟨lines, rfl⟩, decoded⟩ := decodeBody_apply reply middle
          cases content : reply.content with
          | error collection =>
              rw [content] at decoded
              rw [bind_apply_of_error decoded]
              exact .unread addressed answer content ⟨asked.outside, asked.calls, asked.vars⟩
          | ok body =>
              rw [content] at decoded
              rw [bind_apply_of_ok decoded, bind_apply_of_ok (note_apply _ _ _ _), pure_apply]
              exact .answered addressed answer content ⟨asked.outside, asked.calls, asked.vars⟩

end Play

end Walkthrough
