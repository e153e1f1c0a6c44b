import Walkthrough.Proofs.Page.Parallel
import Walkthrough.Proofs.Steps.Reports

/-!
# Steps in two runs

Under a pairing for the page that requests go together under, too, every step does so in two runs
(`Walkthrough.Play.carryOut_parallel`). If reports at moments of the two clocks count as alike, so
do runs through steps (`Walkthrough.Play.executeSteps_parallel`). Runs in worlds of which one
simulates the other are paired like that (`Walkthrough.Outside.Simulates.reporting`).
-/

namespace Walkthrough

variable {σ τ : Type} [Outside σ] [Outside τ]

open Play (Parallel)

/-- Two answers to a request that differ at most in how long they took. -/
structure ApiResponse.SameAnswer (response other : ApiResponse) : Prop where
  status : response.status = other.status
  body : response.body = other.body

/-- A pairing for the page under which requests are answered alike, too. -/
structure Pairing.Carrying (pairing : Pairing σ τ) : Prop extends Pairing.Paged pairing where
  requests : ∀ method endpoint, Parallel pairing ApiResponse.SameAnswer
    (Play.request method endpoint none) (Play.request method endpoint none)

/-- A fair pairing under which reports that were made in both runs are alike. -/
structure Pairing.Reporting (pairing : Pairing σ τ) : Prop extends Pairing.Fair pairing where
  reported : ∀ {session other start otherStart}, pairing.alike start otherStart →
    pairing.alike session other → ∀ step passed error notes,
      pairing.alike
        { session with reports := session.reports ++ [.between step (Outside.clock start.outside)
          (Outside.clock session.outside) passed error notes] }
        { other with reports := other.reports ++ [.between step (Outside.clock otherStart.outside)
          (Outside.clock other.outside) passed error notes] }

namespace Play

section Requests

omit [Outside σ] [Outside τ]

variable {pairing : Pairing σ τ}

/-- What was found out, or the refusal of a step. -/
def settle {ρ α : Type} : Except StepFault α → Play ρ α
  | .ok value => pure value
  | .error cause => refuse cause

theorem urlOf_eq (endpoint : String) :
    (urlOf endpoint : Play σ String) =
      get >>= fun session => settle (session.client.unowned.urlOf endpoint) := by
  refine congrArg (get >>= ·) (funext fun session => ?_)
  have same : session.client.unowned.urlOf endpoint = session.client.urlOf endpoint := rfl
  rw [same]
  cases session.client.urlOf endpoint with
  | ok url => rfl
  | error cause => rfl

theorem urlOf_parallel (even : pairing.Even) (endpoint : String) :
    Parallel pairing Eq (urlOf endpoint) (urlOf endpoint) := by
  have late (client : Client) : Parallel pairing Eq (settle (client.urlOf endpoint))
      (settle (client.urlOf endpoint)) := by
    cases client.urlOf endpoint with
    | ok url => exact .pure rfl
    | error cause => exact .fail _
  rw [urlOf_eq, urlOf_eq]
  exact .read (·.client.unowned) (·.client.unowned) even.client late

theorem decodeBody_parallel (even : pairing.Even) (reply : HttpReply) :
    Parallel pairing Eq (decodeBody reply) (decodeBody reply) := by
  refine .ite ?_ (.pure rfl)
  split
  · exact .pure rfl
  · exact .fail _
  · exact .andThen (.line even) fun _ => .pure rfl

theorem endpointOf_parallel (even : pairing.Even) (details : Details) (verb : String) :
    Parallel pairing Eq (endpointOf details verb) (endpointOf details verb) := by
  unfold endpointOf
  split
  · exact .fail _
  · exact expand_parallel even _

theorem storeFrom_parallel (even : pairing.Even) (details : Details) (body : Json)
    (capture : Json → String → Option Json) :
    Parallel pairing Eq (storeFrom details body capture) (storeFrom details body capture) := by
  unfold storeFrom storeCaptured
  split
  · split
    · exact .write even _ _
    · exact .line even
  · exact .pure rfl

theorem statusNote_parallel (even : pairing.Even) {response other : ApiResponse}
    (same : response.SameAnswer other) :
    Parallel pairing Eq (statusNote response) (statusNote other) := by
  unfold statusNote ApiResponse.ok
  rw [same.status]
  exact .ite (.andThen (.line even) fun _ => .pure rfl) (.pure rfl)

end Requests

variable {pairing : Pairing σ τ}

/-- The clocks of two runs may differ. -/
theorem clock_parallel : Parallel pairing (fun _ _ => True) clock clock where
  lasts _ excused := excused
  goes _ _ alike := .inr ⟨.ok trivial, alike⟩

/-- Requests are answered alike if the clocks go together and what is told of the time that an
answer took is told in both runs. -/
theorem request_parallel (answering : pairing.Answering) {same : Float → Float → Prop}
    (clocks : Parallel pairing same clock clock) (total : ∀ moment, ∃ other, same moment other)
    (told : ∀ {start otherStart finish otherFinish}, same start otherStart →
      same finish otherFinish → ∀ text,
        Parallel pairing Eq
          (note .info .api (text ++
            s!"duration={Decimal.fixedText 0 ((finish - start) * 1000.0)}ms"))
          (note .info .api (text ++
            s!"duration={Decimal.fixedText 0 ((otherFinish - otherStart) * 1000.0)}ms")))
    (method : HttpMethod) (endpoint : String) (data : Option Json) :
    Parallel pairing ApiResponse.SameAnswer (request method endpoint data)
      (request method endpoint data) := by
  refine .andThen (urlOf_parallel answering.toEven endpoint) fun url =>
    .andThen (.line answering.toEven) fun _ =>
      .bind clocks total fun start otherStart began => ?_
  have late (client : Client) : Parallel pairing ApiResponse.SameAnswer
      (do
        let reply : HttpReply ← ask (.request method url client.timeout data)
        let milliseconds := ((← clock) - start) * 1000.0
        let body ← decodeBody reply
        note .info .api (s!"API response: status={reply.status} " ++
          s!"duration={Decimal.fixedText 0 milliseconds}ms")
        return {
          status := reply.status
          body
          headers := reply.headers
          milliseconds := Decimal.roundTo 1 milliseconds } : Play σ ApiResponse)
      (do
        let reply : HttpReply ← ask (.request method url client.timeout data)
        let milliseconds := ((← clock) - otherStart) * 1000.0
        let body ← decodeBody reply
        note .info .api (s!"API response: status={reply.status} " ++
          s!"duration={Decimal.fixedText 0 milliseconds}ms")
        return {
          status := reply.status
          body
          headers := reply.headers
          milliseconds := Decimal.roundTo 1 milliseconds } : Play τ ApiResponse) := by
    refine .andThen (answering.asks (.request method url client.timeout data)) fun reply =>
      .bind clocks total fun _ _ ended => ?_
    exact .andThen (decodeBody_parallel answering.toEven reply) fun _ =>
      .andThen (told began ended _) fun _ => .pure ⟨rfl, rfl⟩
  exact .read (·.client.unowned) (·.client.unowned) answering.client late

theorem carryOutRead_parallel (carrying : pairing.Carrying) (details : Details) :
    Parallel pairing Eq (carryOutRead details) (carryOutRead details) := by
  refine .andThen (endpointOf_parallel carrying.toEven details "GET") fun endpoint =>
    .bind (carrying.requests .get endpoint) (fun response => ⟨response, rfl, rfl⟩) ?_
  intro response other same
  rw [same.body]
  exact .andThen (storeFrom_parallel carrying.toEven _ _ _) fun _ =>
    statusNote_parallel carrying.toEven same

theorem carryOutCreate_parallel (carrying : pairing.Carrying) (details : Details) :
    Parallel pairing Eq (carryOutCreate details) (carryOutCreate details) := by
  refine .andThen (endpointOf_parallel carrying.toEven details "POST") fun endpoint =>
    .bind (carrying.requests .post endpoint)
      (fun response => ⟨response, rfl, rfl⟩) ?_
  intro response other same
  rw [same.body]
  exact .andThen (storeFrom_parallel carrying.toEven _ _ _) fun _ =>
    statusNote_parallel carrying.toEven same

theorem carryOutDelete_parallel (carrying : pairing.Carrying) (details : Details) :
    Parallel pairing Eq (carryOutDelete details) (carryOutDelete details) :=
  .andThen (endpointOf_parallel carrying.toEven details "DELETE") fun endpoint =>
    .bind (carrying.requests .delete endpoint) (fun response => ⟨response, rfl, rfl⟩)
      fun _ _ same => statusNote_parallel carrying.toEven same

theorem carryOutNavigate_parallel (paged : pairing.Paged) (details : Details) :
    Parallel pairing Eq (carryOutNavigate details) (carryOutNavigate details) := by
  refine .andThen (requirePage_parallel paged.toEven) fun _ => ?_
  split
  · exact .fail _
  · exact .andThen (expand_parallel paged.toEven _) fun url =>
      .andThen (navigate_parallel paged.toAnswering url) fun _ => .pure rfl

theorem carryOutLogin_parallel (paged : pairing.Paged) (details : Details) :
    Parallel pairing Eq (carryOutLogin details) (carryOutLogin details) := by
  refine .andThen (requirePage_parallel paged.toEven) fun _ => ?_
  split
  · exact .fail _
  · exact .andThen (fill_parallel paged rfl _) fun _ =>
      .andThen (fill_parallel paged rfl _) fun _ =>
        .andThen (submitLogin_parallel paged) fun _ => .pure rfl

theorem carryOutClick_parallel (paged : pairing.Paged) (details : Details) :
    Parallel pairing Eq (carryOutClick details) (carryOutClick details) := by
  refine .andThen (requirePage_parallel paged.toEven) fun _ => ?_
  split
  · exact .fail _
  · exact .andThen (clickLabel_parallel paged _) fun _ => .pure rfl

theorem verifyVariable_parallel (paged : pairing.Paged) (name : String) :
    Parallel pairing Eq (verifyVariable name) (verifyVariable name) := by
  have shown : Parallel pairing Eq
      (do
        let value := (← getVariable name .null).display
        if ← isValueShown value then
          note .info .steps s!"[Verification] {name} = {value} found on page"
          return s!"{name} = {value} found"
        else refuse (.unmet s!"Value {value} from variable {name} not found on page") : Play σ _)
      (do
        let value := (← getVariable name .null).display
        if ← isValueShown value then
          note .info .steps s!"[Verification] {name} = {value} found on page"
          return s!"{name} = {value} found"
        else refuse (.unmet s!"Value {value} from variable {name} not found on page") : Play τ _) :=
    .andThen (getVariable_parallel paged.toEven _ _) fun _ =>
      .andThen (isValueShown_parallel paged _) fun _ =>
        .ite (.andThen (.line paged.toEven) fun _ => .pure rfl) (.fail _)
  have late (vars : Variables) : Parallel pairing Eq
      (do
        if !vars.has name then
          refuse
            (.undefinedVariable name (some s!"Variable {name} to verify not found in test context"))
        let value := (← getVariable name .null).display
        if ← isValueShown value then
          note .info .steps s!"[Verification] {name} = {value} found on page"
          return s!"{name} = {value} found"
        else refuse (.unmet s!"Value {value} from variable {name} not found on page") : Play σ _)
      (do
        if !vars.has name then
          refuse
            (.undefinedVariable name (some s!"Variable {name} to verify not found in test context"))
        let value := (← getVariable name .null).display
        if ← isValueShown value then
          note .info .steps s!"[Verification] {name} = {value} found on page"
          return s!"{name} = {value} found"
        else refuse (.unmet s!"Value {value} from variable {name} not found on page") : Play τ _) :=
    .ite (.andThen (.fail _) fun _ => shown) shown
  exact .read (·.vars) (·.vars) paged.vars late

theorem carryOutVerify_parallel (paged : pairing.Paged) (step : Step) :
    Parallel pairing Eq (carryOutVerify step) (carryOutVerify step) := by
  refine .andThen (requirePage_parallel paged.toEven) fun _ => ?_
  split
  · exact verifyVariable_parallel paged _
  · split
    · exact .andThen (verifyTextPresent_parallel paged _) fun _ => .pure rfl
    · exact .andThen (.line paged.toEven) fun _ => .pure rfl

/-- **Steps go together.** Carrying out a step ends alike in both runs. -/
theorem carryOut_parallel (carrying : pairing.Carrying) (step : Step) :
    Parallel pairing Eq (carryOut step) (carryOut step) := by
  unfold carryOut
  split
  · exact carryOutRead_parallel carrying _
  · exact carryOutRead_parallel carrying _
  · exact carryOutCreate_parallel carrying _
  · exact carryOutCreate_parallel carrying _
  · exact carryOutDelete_parallel carrying _
  · exact carryOutNavigate_parallel carrying.toPaged _
  · exact carryOutLogin_parallel carrying.toPaged _
  · exact carryOutClick_parallel carrying.toPaged _
  · exact carryOutVerify_parallel carrying.toPaged _
  · exact .andThen (.line carrying.toEven) fun _ => .pure rfl

end Play

/-- Under a fair pairing the clocks of the runs may differ, and so may what is told of the time that
requests take. -/
theorem Pairing.Fair.carrying {pairing : Pairing σ τ} (fair : pairing.Fair) : pairing.Carrying where
  toPaged := fair.paged
  requests method endpoint :=
    Play.request_parallel fair.answering Play.clock_parallel (fun moment => ⟨moment, trivial⟩)
      (fun _ _ _ => .note fair.toSound) method endpoint none

namespace Play

variable {pairing : Pairing σ τ}

section Execution

/-- The record of a healer in words, if there is one. -/
def summaryOf (healer : Option Healer) : List String :=
  (healer.map fun healer => Healer.summary healer.records).getD []

omit [Outside σ] [Outside τ] in
theorem healingSummary_eq :
    (healingSummary : Play σ (List String)) =
      get >>= fun session => pure (summaryOf session.healer) := by
  refine congrArg (get >>= ·) (funext fun session => ?_)
  cases session.healer with
  | none => rfl
  | some healer => rfl

/-- What is written at the end of a run is the same in both runs. -/
theorem closing_parallel (guided : pairing.Guided) :
    Parallel pairing Eq (do noteVariables; noteHealing (← healingSummary))
      (do noteVariables; noteHealing (← healingSummary)) := by
  have lines (records : List String) :
      Parallel pairing Eq (noteHealing records) (noteHealing records) := by
    induction records with
    | nil => exact .pure rfl
    | cons line rest ih => exact .andThen (.line guided.toEven) fun _ => ih
  have summary : Parallel pairing Eq healingSummary healingSummary := by
    have late (healer : Option Healer) : Parallel pairing Eq
        (pure (summaryOf healer) : Play σ (List String))
        (pure (summaryOf healer) : Play τ (List String)) :=
      .pure rfl
    rw [healingSummary_eq, healingSummary_eq]
    exact .read (·.healer) (·.healer) guided.healer late
  exact .andThen (noteVariables_parallel guided.toEven) fun _ => .andThen summary lines

/-- Steps end alike in both runs, and leave reports that are alike. -/
theorem executeStep_parallel (reporting : pairing.Reporting) (step : Step) :
    Parallel pairing (fun _ _ => True) (executeStep step) (executeStep step) := by
  have carried := carryOut_parallel reporting.toFair.carrying step
  have outside (session : Session σ) : (executeStep step session).2.outside =
      (carryOut step (announced step session)).2.outside := by
    obtain ⟨reports, log, after⟩ := executeStep_after step session
    rw [after]
  constructor
  · intro session excused
    rw [outside]
    exact carried.lasts (announced step session) excused
  · intro session session' alike
    have start : pairing.alike (announced step session) (announced step session') :=
      reporting.logged alike _ _
    rcases carried.cases start with
      excused | ⟨notes, _, after, after', rfl, alikeAfter, ended, ended'⟩ |
      ⟨fault, after, after', alikeAfter, ended, ended'⟩
    · rw [outside]
      exact .inl excused
    · rw [executeStep_of_ok ended, executeStep_of_ok ended']
      refine .inr ⟨.ok trivial, ?_⟩
      exact reporting.logged (reporting.reported alike alikeAfter step true none notes) _ _
    · cases interrupt : fault.isInterrupt with
      | true =>
          rw [executeStep_of_interrupt ended interrupt, executeStep_of_interrupt ended' interrupt]
          exact .inr ⟨.error fault, alikeAfter⟩
      | false =>
          rw [executeStep_of_failure ended interrupt, executeStep_of_failure ended' interrupt]
          refine .inr ⟨.error _, ?_⟩
          exact reporting.logged (reporting.reported alike alikeAfter step false _ "") _ _

/-- **Runs through steps go together.** -/
theorem executeSteps_parallel (reporting : pairing.Reporting) (steps : List Step) :
    Parallel pairing Eq (executeSteps steps) (executeSteps steps) := by
  induction steps with
  | nil => exact .pure rfl
  | cons step rest ih =>
      exact .bind (executeStep_parallel reporting step)
        (fun report => ⟨report, trivial⟩) fun _ _ _ => ih

/-- Runs of the same prompt end with their reports, or with the same fault. -/
theorem execute_parallel (reporting : pairing.Reporting) {session : Session σ} {other : Session τ}
    (alike : pairing.alike session other) (document : session.document = other.document) :
    pairing.excused (execute session).2.outside ∨
      EndsAlike (fun reports others =>
        reports = (execute session).2.reports ∧ others = (execute other).2.reports)
        (execute session).1 (execute other).1 ∧
      pairing.alike (execute session).2 (execute other).2 := by
  obtain ⟨log, executed⟩ := execute_ended session
  obtain ⟨otherLog, otherExecuted⟩ := execute_ended other
  have begun : pairing.alike (started session) (started other) := reporting.logged alike _ _
  rw [executed, otherExecuted, ← document]
  rcases (executeSteps_parallel reporting session.document.steps).cases begun with
    excused | ⟨_, _, after, after', -, alike, ended, ended'⟩ |
    ⟨fault, after, after', alike, ended, ended'⟩
  · refine .inl ?_
    rcases ended : executeSteps session.document.steps (started session) with ⟨fault | _, after⟩
    · rw [ended] at excused
      exact excused
    · rw [ended] at excused
      exact excused
  · rw [ended, ended']
    exact .inr ⟨.ok ⟨rfl, rfl⟩, reporting.logged alike _ _⟩
  · rw [ended, ended']
    exact .inr ⟨.error fault, reporting.logged alike _ _⟩

end Execution

end Play

/-- A relation of worlds that every call keeps, and that leaves no difference to be told. -/
structure Outside.Simulates (sim : σ → τ → Prop) : Prop where
  reply : ∀ {world other}, sim world other → ∀ call,
    (Outside.reply call world).1 = (Outside.reply call other).1 ∧
      sim (Outside.reply call world).2 (Outside.reply call other).2
  clock : ∀ {world other}, sim world other → Outside.clock world = Outside.clock other
  now : ∀ {world other}, sim world other → Outside.now world = Outside.now other

theorem Outside.simulates_eq : Outside.Simulates (Eq : σ → σ → Prop) where
  reply same call := by
    cases same
    exact ⟨rfl, rfl⟩
  clock same := congrArg Outside.clock same
  now same := congrArg Outside.now same

/-- Two sessions in related worlds, with the same calls, variables and healer, and the same reports
but for some earlier ones. -/
structure Session.Matches (sim : σ → τ → Prop) (earlier : List StepReport) (session : Session σ)
    (other : Session τ) : Prop where
  outside : sim session.outside other.outside
  calls : session.calls = other.calls
  vars : session.vars = other.vars
  client : session.client = other.client
  page : session.page = other.page
  healer : session.healer = other.healer
  reports : session.reports = earlier ++ other.reports

/-- The pairing of sessions that match. -/
def Pairing.simulation (sim : σ → τ → Prop) (earlier : List StepReport) : Pairing σ τ where
  alike := Session.Matches sim earlier
  excused _ := False

namespace Outside.Simulates

variable {sim : σ → τ → Prop}

theorem faithful (simulates : Outside.Simulates sim) (earlier : List StepReport) :
    (Pairing.simulation sim earlier).Faithful where
  vars alike := alike.vars
  client alike := congrArg Client.unowned alike.client
  page alike := alike.page
  healer alike := alike.healer
  logged alike _ _ := { alike with }
  written alike _ := { alike with vars := rfl }
  asks call := by
    refine ⟨fun _ excused => excused, fun session other alike => ?_⟩
    obtain ⟨answer, world⟩ := simulates.reply alike.outside call
    rw [Play.ask_apply, Play.ask_apply, answer, alike.calls]
    exact .inr ⟨.of_eq rfl, { alike with outside := world, calls := rfl }⟩
  now := by
    refine ⟨fun _ excused => excused, fun session other alike => ?_⟩
    exact .inr ⟨.ok (simulates.now alike.outside), alike⟩
  remembers change := by
    refine ⟨fun _ excused => excused, fun session other alike => ?_⟩
    exact .inr ⟨.ok rfl, { alike with healer := congrArg (Option.map change) alike.healer }⟩

theorem reporting (simulates : Outside.Simulates sim) (earlier : List StepReport) :
    (Pairing.simulation sim earlier).Reporting where
  toFair := (simulates.faithful earlier).fair
  reported start alike step passed error notes := by
    refine { alike with reports := ?_ }
    rw [simulates.clock start.outside, simulates.clock alike.outside, alike.reports,
      List.append_assoc]

end Outside.Simulates

end Walkthrough
