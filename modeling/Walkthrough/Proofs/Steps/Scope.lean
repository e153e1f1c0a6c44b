import Walkthrough.Proofs.Page.Scope
import Walkthrough.Prompt.Issue
import Walkthrough.Steps.Execution

/-!
# What steps may do

Each step has a scope that is read off its action and details (`Walkthrough.Scope.ofStep`), and
carrying it out stays within that scope (`Walkthrough.Play.carryOut_within`): steps of the API make
requests and may store a value under the name that they state, steps of the page make calls to the
page, and no fault names a step yet. A fault says that something is missing only if the step states
too little, or if a relative endpoint has no address to be joined to.
-/

namespace Walkthrough

/-- Whether an action talks to the API. -/
def Action.usesApi : Action → Bool
  | apiLogin | apiGet | apiCreate | apiPost | apiDelete => true
  | uiNavigate | uiLogin | uiClick | uiVerify | unknown => false

/-- Whether an action works on the page. -/
def Action.usesPage : Action → Bool
  | uiNavigate | uiLogin | uiClick | uiVerify => true
  | apiLogin | apiGet | apiCreate | apiPost | apiDelete | unknown => false

/-- Whether a call is a request to the API. -/
def Call.isRequest : Call → Bool
  | request _ _ _ _ => true
  | closeClient | goto _ | awaitIdle | screenshot _ | locate _ | element _ _ | browser _ => false

/-- Whether a step fails for want of an endpoint, a target or credentials. -/
def StepFault.isLack : StepFault → Bool
  | missingEndpoint _ | missingTarget _ | missingCredentials _ => true
  | failed _ | noPage _ | unmet _ | undefinedVariable _ _ | unresolved _ _ => false

namespace Fault

/-- Whether a fault is that of a step for want of an endpoint, a target or credentials. -/
def isLack : Fault → Bool
  | step cause _ => cause.isLack
  | _ => false

/-- Whether a fault names no step. -/
def isPlaceless : Fault → Bool
  | step _ (some _) => false
  | _ => true

end Fault

variable {σ : Type}

/-- What a step may do in a run that talks to the API through a client. -/
def Scope.ofStep (client : Client) (step : Step) : Scope σ where
  ready session := session.client = client
  calls call := step.action.usesApi = true ∧ call.isRequest = true ∨
    step.action.usesPage = true ∧ call.isOfPage = true
  writes name value := step.action.usesApi = true ∧ name ∈ step.storedNames ∧
    Capture.isValue value = true
  faults fault := fault.isPlaceless = true ∧
    (fault.isLack = true → step.lack?.isSome = true ∨ client.baseUrl = "")
  steady frame ready := frame.client.trans ready
  mishaps _ := ⟨rfl, fun lack => by cases lack⟩

namespace Scope

variable {client : Client} {step : Step}

/-- A fault of a step that lacks nothing is allowed as long as it names no step. -/
theorem ofStep_faults {fault : Fault} (placeless : fault.isPlaceless = true)
    (noLack : fault.isLack = false) : (ofStep client step : Scope σ).faults fault :=
  ⟨placeless, fun lack => by rw [noLack] at lack; cases lack⟩

theorem ofStep_pages (page : step.action.usesPage = true) :
    (ofStep client step : Scope σ).Pages where
  calls _ ofPage := .inr ⟨page, ofPage⟩
  unmet _ := ofStep_faults rfl rfl
  unresolved _ _ := ofStep_faults rfl rfl
  proposesNothing := ofStep_faults rfl rfl

end Scope

/-- An endpoint has no address only if it is relative and the client has none to join it to. -/
theorem Client.urlOf_eq_error {client : Client} {endpoint : String} {cause : StepFault}
    (refused : client.urlOf endpoint = .error cause) :
    client.baseUrl = "" ∧ ∃ message, cause = .missingEndpoint message := by
  unfold Client.urlOf at refused
  split at refused
  · cases refused
  · split at refused
    · next bare =>
        cases refused
        exact ⟨String.isEmpty_iff.mp bare, _, rfl⟩
    · cases refused

namespace Play

variable [Outside σ] {scope : Scope σ} {client : Client} {step : Step}

section Requests

theorem expand_within (undefined : ∀ name, scope.faults (.step (.undefinedVariable name none) none))
    (text : String) : Within scope (expand text) := by
  refine .look fun session _ => ?_
  unfold expandWith
  split
  · exact .fail (undefined _)
  · exact .ite (.bind (.note _ _ _) fun _ => .pure _) (.pure _)

theorem urlOf_within (endpoint : String) :
    Within (Scope.ofStep client step) (urlOf endpoint : Play σ String) := by
  refine .look fun session ready => ?_
  split
  · exact .pure _
  · next cause refused =>
      obtain ⟨bare, message, rfl⟩ := Client.urlOf_eq_error refused
      refine .fail ⟨rfl, fun _ => .inr ?_⟩
      rw [← bare, show session.client = client from ready]

theorem decodeBody_within (reply : HttpReply) :
    Within (Scope.ofStep client step) (decodeBody reply : Play σ Json) := by
  refine .ite ?_ (.pure _)
  split
  · exact .pure _
  · exact .fail (Scope.ofStep_faults rfl rfl)
  · exact .bind (.note _ _ _) fun _ => .pure _

theorem request_within (api : step.action.usesApi = true) (method : HttpMethod) (endpoint : String)
    (data : Option Json) :
    Within (Scope.ofStep client step) (request method endpoint data : Play σ ApiResponse) := by
  refine .bind (urlOf_within endpoint) fun url => .bind (.note _ _ _) fun _ => ?_
  refine .bind (.look fun _ _ => .pure _) fun start => .look fun session _ => ?_
  refine .bind (.ask (.inl ⟨api, rfl⟩)) fun reply => .bind (.look fun _ _ => .pure _) fun _ => ?_
  exact .bind (decodeBody_within reply) fun _ => .bind (.note _ _ _) fun _ => .pure _

/-- An endpoint can only be missing if the step lacks it. -/
theorem endpointOf_within (api : step.action.usesApi = true) (verb : String) :
    Within (Scope.ofStep client step) (endpointOf step.details verb : Play σ String) := by
  unfold endpointOf
  split
  · next absent =>
      refine .fail ⟨rfl, fun _ => .inl ?_⟩
      have bare : (Details.present? step.details.endpoint).isNone = true := by rw [absent]; rfl
      unfold Step.lack?
      cases action : step.action <;> simp_all [Action.usesApi]
  · exact expand_within (fun _ => Scope.ofStep_faults rfl rfl) _

theorem storeFrom_within (api : step.action.usesApi = true) (body : Json)
    (capture : Json → String → Option Json) :
    Within (Scope.ofStep client step) (storeFrom step.details body capture : Play σ Unit) := by
  unfold storeFrom
  split
  · next name stated =>
      unfold storeCaptured
      split
      · next value captured =>
          refine .write ⟨api, ?_, (Option.filter_eq_some_iff.mp captured).2⟩
          rw [Step.storedNames, stated]
          exact List.mem_singleton_self name
      · exact .note _ _ _
  · exact .pure _

theorem statusNote_within (response : ApiResponse) :
    Within scope (statusNote response : Play σ String) :=
  .ite (.bind (.note _ _ _) fun _ => .pure _) (.pure _)

theorem carryOutRead_within (api : step.action.usesApi = true) :
    Within (Scope.ofStep client step) (carryOutRead step.details : Play σ String) :=
  .bind (endpointOf_within api "GET") fun _ => .bind (request_within api _ _ _) fun _ =>
    .bind (storeFrom_within api _ _) fun _ => statusNote_within _

theorem carryOutCreate_within (api : step.action.usesApi = true) :
    Within (Scope.ofStep client step) (carryOutCreate step.details : Play σ String) :=
  .bind (endpointOf_within api "POST") fun _ => .bind (request_within api _ _ _) fun _ =>
    .bind (storeFrom_within api _ _) fun _ => statusNote_within _

theorem carryOutDelete_within (api : step.action.usesApi = true) :
    Within (Scope.ofStep client step) (carryOutDelete step.details : Play σ String) :=
  .bind (endpointOf_within api "DELETE") fun _ => .bind (request_within api _ _ _) fun _ =>
    statusNote_within _

end Requests

section Interaction

theorem requirePage_within (noPage : ∀ message, scope.faults (.step (.noPage message) none)) :
    Within scope (requirePage : Play σ Unit) :=
  .look fun _ _ => .ite (.fail (noPage _)) (.pure _)

theorem carryOutNavigate_within (action : step.action = .uiNavigate) :
    Within (Scope.ofStep client step) (carryOutNavigate step.details : Play σ String) := by
  have pages : (Scope.ofStep client step : Scope σ).Pages :=
    Scope.ofStep_pages (by rw [action]; rfl)
  refine .bind (requirePage_within fun _ => Scope.ofStep_faults rfl rfl) fun _ => ?_
  split
  · next absent =>
      refine .fail ⟨rfl, fun _ => .inl ?_⟩
      rw [Step.lack?, action, absent]
      rfl
  · next address _ =>
      refine .bind (expand_within (fun _ => Scope.ofStep_faults rfl rfl) address) fun url => ?_
      exact .bind (navigate_within pages url) fun _ => .pure _

theorem carryOutLogin_within (pages : scope.Pages)
    (noPage : ∀ message, scope.faults (.step (.noPage message) none)) {details : Details}
    (lack : details.credentials? = none →
      ∀ message, scope.faults (.step (.missingCredentials message) none)) :
    Within scope (carryOutLogin details : Play σ String) := by
  refine .bind (requirePage_within noPage) fun _ => ?_
  split
  · next absent => exact .fail (lack absent _)
  · exact .bind (fill_within pages _ _) fun _ => .bind (fill_within pages _ _) fun _ =>
      .bind (submitLogin_within pages) fun _ => .pure _

theorem carryOutClick_within (pages : scope.Pages)
    (noPage : ∀ message, scope.faults (.step (.noPage message) none)) {details : Details}
    (lack : details.label? = none →
      ∀ message, scope.faults (.step (.missingTarget message) none)) :
    Within scope (carryOutClick details : Play σ String) := by
  refine .bind (requirePage_within noPage) fun _ => ?_
  split
  · next absent => exact .fail (lack absent _)
  · exact .bind (clickLabel_within pages _) fun _ => .pure _

theorem getVariable_within (name : String) (default : Json) :
    Within scope (getVariable name default : Play σ Json) := by
  refine .look fun session _ => ?_
  split
  · exact .bind (.note _ _ _) fun _ => .pure _
  · exact .bind (.note _ _ _) fun _ => .pure _

theorem verifyVariable_within (pages : scope.Pages)
    (undefined : ∀ name message,
      scope.faults (.step (.undefinedVariable name (some message)) none))
    (name : String) : Within scope (verifyVariable name : Play σ String) := by
  refine .look fun session _ => .ite (.bind (.fail (undefined _ _)) fun _ => ?_) ?_
  all_goals
    refine .bind (getVariable_within _ _) fun value => ?_
    refine .bind (isValueShown_within pages _) fun _ => .ite ?_ (.fail (pages.unmet _))
    exact .bind (.note _ _ _) fun _ => .pure _

theorem carryOutVerify_within (pages : scope.Pages)
    (noPage : ∀ message, scope.faults (.step (.noPage message) none))
    (undefined : ∀ name message,
      scope.faults (.step (.undefinedVariable name (some message)) none)) (step : Step) :
    Within scope (carryOutVerify step : Play σ String) := by
  refine .bind (requirePage_within noPage) fun _ => ?_
  split
  · exact verifyVariable_within pages undefined _
  · split
    · exact .bind (verifyTextPresent_within pages _) fun _ => .pure _
    · exact .bind (.note _ _ _) fun _ => .pure _

end Interaction

/-- **Steps stay within their scopes.** Whatever its action, carrying out a step does nothing that
its scope does not allow. -/
theorem carryOut_within (client : Client) (step : Step) :
    Within (Scope.ofStep client step) (carryOut step : Play σ String) := by
  have noPage (message : String) :
      (Scope.ofStep client step : Scope σ).faults (.step (.noPage message) none) :=
    Scope.ofStep_faults rfl rfl
  unfold carryOut
  split
  · next action => exact carryOutRead_within (by rw [action]; rfl)
  · next action => exact carryOutRead_within (by rw [action]; rfl)
  · next action => exact carryOutCreate_within (by rw [action]; rfl)
  · next action => exact carryOutCreate_within (by rw [action]; rfl)
  · next action => exact carryOutDelete_within (by rw [action]; rfl)
  · next action => exact carryOutNavigate_within action
  · next action =>
      refine carryOutLogin_within (Scope.ofStep_pages (by rw [action]; rfl)) noPage ?_
      exact fun absent _ => ⟨rfl, fun _ => .inl (by rw [Step.lack?, action, absent]; rfl)⟩
  · next action =>
      refine carryOutClick_within (Scope.ofStep_pages (by rw [action]; rfl)) noPage ?_
      exact fun absent _ => ⟨rfl, fun _ => .inl (by rw [Step.lack?, action, absent]; rfl)⟩
  · next action =>
      exact carryOutVerify_within (Scope.ofStep_pages (by rw [action]; rfl)) noPage
        (fun _ _ => Scope.ofStep_faults rfl rfl) step
  · exact .bind (.note _ _ _) fun _ => .pure _

end Play

end Walkthrough
