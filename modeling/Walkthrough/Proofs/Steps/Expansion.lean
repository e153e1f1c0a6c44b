import Walkthrough.Proofs.Steps.Writes

/-!
# Steps that take names from variables

A step of the API and a navigation replace the placeholders of one text before anything is asked of
the world outside (`Walkthrough.Step.expanded?`). They are the only steps that fail for want of a
placeholder's value: a placeholder in that text without a value makes them fail at once
(`Walkthrough.Play.executeStep_of_undefined`), and what they blame is one
(`Walkthrough.Play.undefined_of_executeStep`).
-/

namespace Walkthrough

namespace Step

/-- The text of a step whose placeholders are replaced, if there is one. -/
def expanded? (step : Step) : Option String :=
  match step.action with
  | .apiLogin | .apiGet | .apiCreate | .apiPost | .apiDelete =>
    Details.present? step.details.endpoint
  | .uiNavigate => step.details.address?
  | .uiLogin | .uiClick | .uiVerify | .unknown => none

theorem expanded?_of_usesApi {step : Step} (api : step.action.usesApi = true) :
    step.expanded? = Details.present? step.details.endpoint := by
  unfold expanded?
  cases action : step.action <;> simp_all [Action.usesApi]

end Step

variable {σ : Type} [Outside σ]

namespace Play

variable {step : Step} {session : Session σ}

section Failing

/-- The scope of work on a page that blames no placeholder. -/
def blameless : Scope σ where
  calls _ := True
  faults fault := fault.placeholder? = none
  mishaps _ := rfl

omit [Outside σ] in
theorem blameless_pages : (blameless : Scope σ).Pages where
  calls _ _ := trivial
  unmet _ := rfl
  unresolved _ _ := rfl
  proposesNothing := rfl

theorem placeholder?_of_within {α : Type} {play : Play σ α} (within : Within blameless play)
    {fault : Fault} (failed : (play session).1 = .error fault) : fault.placeholder? = none :=
  (within.allows session trivial).2 fault failed

theorem carryOutNavigate_of_stated {details : Details} {address : String}
    (stated : details.address? = some address) (page : session.page.isSome = true) :
    carryOutNavigate details session = ((do
      let url ← expand address
      navigate url
      return url : Play σ String) session) := by
  rw [carryOutNavigate, bind_apply_of_ok (requirePage_of_page page), stated]

/-- A step whose placeholders cannot be replaced is refused at once. -/
theorem carryOut_of_undefined {text name : String} (expands : step.expanded? = some text)
    (failed : session.vars.expand text = .error name) (page : session.page.isSome = true) :
    carryOut step session = (.error (.step (.undefinedVariable name none) none), session) := by
  cases action : step.action with
  | apiLogin | apiGet | apiCreate | apiPost | apiDelete =>
      have api : step.action.usesApi = true := by rw [action]; rfl
      rw [Step.expanded?_of_usesApi api] at expands
      have refused (verb : String) : (endpointOf step.details verb : Play σ String) session =
          (.error (.step (.undefinedVariable name none) none), session) := by
        rw [endpointOf, expands]
        exact expand_of_error failed
      obtain ⟨-, ended⟩ := carryOut_of_endpointOf api refused
      exact ended
  | uiNavigate =>
      rw [Step.expanded?, action] at expands
      rw [carryOut, action]
      exact (carryOutNavigate_of_stated expands page).trans
        (bind_apply_of_error (expand_of_error failed) _)
  | uiLogin | uiClick | uiVerify | unknown =>
      rw [Step.expanded?, action] at expands
      cases expands

/-- Going to the address that a step states blames a placeholder only of that address. -/
theorem undefined_of_carryOutNavigate {details : Details} {fault : Fault} {name : String}
    (failed : (carryOutNavigate details session).1 = .error fault)
    (blames : fault.placeholder? = some name) :
    ∃ address, details.address? = some address ∧ session.vars.expand address = .error name := by
  cases page : session.page with
  | none =>
      have refused : (requirePage : Play σ Unit) session = (.error (.step (.noPage
          "UI driver not initialized -- no browser page for this run") none), session) := by
        rw [requirePage, bind_apply_of_ok (get_apply session), page]
        rfl
      rw [carryOutNavigate, bind_apply_of_error refused] at failed
      cases failed
      cases blames
  | some settings =>
      have present : session.page.isSome = true := by rw [page]; rfl
      cases stated : details.address? with
      | none =>
          rw [carryOutNavigate, bind_apply_of_ok (requirePage_of_page present), stated] at failed
          cases failed
          cases blames
      | some address =>
          rw [carryOutNavigate_of_stated stated present] at failed
          refine ⟨address, rfl, ?_⟩
          cases filled : session.vars.expand address with
          | error undefined =>
              rw [bind_apply_of_error (expand_of_error filled)] at failed
              cases failed
              cases blames
              rfl
          | ok expanded =>
              obtain ⟨after, -, expanding⟩ := expand_of_ok filled
              rw [bind_apply_of_ok expanding] at failed
              have quiet := placeholder?_of_within
                (.bind (navigate_within blameless_pages expanded) fun _ => .pure _) failed
              rw [quiet] at blames
              cases blames

/-- A step blames a placeholder only if it has no value and stands in the text that the step
expands. -/
theorem undefined_of_carryOut {fault : Fault} {name : String}
    (failed : (carryOut step session).1 = .error fault) (blames : fault.placeholder? = some name) :
    ∃ text, step.expanded? = some text ∧ session.vars.expand text = .error name := by
  have spared {play : Play σ String} (within : Within blameless play)
      (ended : (play session).1 = .error fault) : False := by
    rw [placeholder?_of_within within ended] at blames
    cases blames
  cases action : step.action with
  | apiLogin | apiGet | apiCreate | apiPost | apiDelete =>
      have api : step.action.usesApi = true := by rw [action]; rfl
      have ends := carryOut_requests api session
      generalize carryOut step session = ended at ends failed
      rw [Step.expanded?_of_usesApi api]
      cases ends with
      | unstated =>
          cases failed
          cases blames
      | undefined stated undefined =>
          cases failed
          cases blames
          exact ⟨_, stated, undefined⟩
      | failed _ _ other =>
          cases failed
          rw [other] at blames
          cases blames
      | answered => cases failed
  | uiNavigate =>
      rw [carryOut, action] at failed
      rw [Step.expanded?, action]
      exact undefined_of_carryOutNavigate failed blames
  | uiLogin =>
      rw [carryOut, action] at failed
      exact (spared (carryOutLogin_within blameless_pages (fun _ => rfl) fun _ _ => rfl)
        failed).elim
  | uiClick =>
      rw [carryOut, action] at failed
      exact (spared (carryOutClick_within blameless_pages (fun _ => rfl) fun _ _ => rfl)
        failed).elim
  | uiVerify =>
      rw [carryOut, action] at failed
      exact (spared (carryOutVerify_within blameless_pages (fun _ => rfl) (fun _ _ => rfl) step)
        failed).elim
  | unknown =>
      rw [carryOut, action] at failed
      cases failed

/-- A step whose placeholders cannot be replaced fails without effect on the world outside and on
variables: its fault names the step and the first placeholder without a value. -/
theorem executeStep_of_undefined {text name : String} (expands : step.expanded? = some text)
    (failed : session.vars.expand text = .error name) (page : session.page.isSome = true) :
    (executeStep step session).1 = .error (.step (.undefinedVariable name none) (some step)) ∧
      (executeStep step session).2.outside = session.outside ∧
      (executeStep step session).2.calls = session.calls ∧
      (executeStep step session).2.vars = session.vars := by
  have refused : carryOut step (announced step session) =
      (.error (.step (.undefinedVariable name none) none), announced step session) :=
    carryOut_of_undefined expands failed page
  rw [executeStep_of_failure refused rfl]
  exact ⟨rfl, rfl, rfl, rfl⟩

/-- A step that is executed blames a placeholder only if it has no value and stands in the text that
the step expands. -/
theorem undefined_of_executeStep {fault : Fault} {name : String} {after : Session σ}
    (failed : executeStep step session = (.error fault, after))
    (blames : fault.placeholder? = some name) :
    fault = .step (.undefinedVariable name none) (some step) ∧
      ∃ text, step.expanded? = some text ∧ session.vars.expand text = .error name := by
  obtain ⟨raised, stopped, carried, rfl, -⟩ := executeStep_of_error failed
  have placeless := carryOut_raises (congrArg Prod.fst carried)
  obtain rfl : raised = .step (.undefinedVariable name none) none := by
    cases raised with
    | step cause place =>
        cases place with
        | some other => cases placeless
        | none =>
            cases cause with
            | undefinedVariable other message =>
                cases message with
                | some message => cases blames
                | none =>
                    cases blames
                    rfl
            | _ => cases blames
    | _ => cases blames
  have undefined := undefined_of_carryOut (congrArg Prod.fst carried) rfl
  exact ⟨rfl, undefined⟩

end Failing

end Play

end Walkthrough
