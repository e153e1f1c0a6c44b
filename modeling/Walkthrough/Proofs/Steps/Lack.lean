import Walkthrough.Outside.Scripted
import Walkthrough.Proofs.Steps.Execution

/-!
# Steps that state too little

A step can be refused before anything is done, because it states no endpoint, no address, no
credentials or no label. The issues of a prompt tell beforehand which steps these are, and executing
a step comes to the same verdict (`Walkthrough.Play.error_issue_iff_lack_fault`): the two agree on
every step, and a step that is refused has touched neither the world outside nor a variable.
-/

namespace Walkthrough

/-- A field that is left out or empty. -/
def Details.IsBare (field : Option String) : Prop :=
  field = none ∨ field = some ""

/-- What it means that a step states too little to be carried out. -/
inductive Step.Lacks (step : Step) : Prop
  | endpoint : step.action.usesApi = true → Details.IsBare step.details.endpoint → Lacks step
  | address : step.action = .uiNavigate → Details.IsBare step.details.endpoint →
      Target.addressPattern.keep? step.details.rawText = none → Lacks step
  | username : step.action = .uiLogin → Details.IsBare step.details.username → Lacks step
  | password : step.action = .uiLogin → Details.IsBare step.details.password → Lacks step
  | label : step.action = .uiClick →
      Target.labelPattern.keep? step.details.rawText = none → Lacks step

namespace Details

theorem present?_eq_none_iff {field : Option String} : present? field = none ↔ IsBare field := by
  cases field with
  | none => simp [present?, IsBare]
  | some value => simp [present?, IsBare, Option.filter_some]

theorem address?_eq_none_iff {details : Details} :
    details.address? = none ↔ IsBare details.endpoint ∧
      Target.addressPattern.keep? details.rawText = none := by
  rw [← present?_eq_none_iff, address?]
  cases present? details.endpoint with
  | none => simp
  | some endpoint => simp

theorem credentials?_eq_none_iff {details : Details} :
    details.credentials? = none ↔ IsBare details.username ∨ IsBare details.password := by
  rw [← present?_eq_none_iff, ← present?_eq_none_iff, credentials?]
  cases present? details.username with
  | none => simp
  | some username =>
      cases present? details.password with
      | none => simp
      | some password => simp

end Details

namespace Step

/-- The check before a run finds exactly the steps that state too little. -/
theorem lack?_isSome_iff {step : Step} : step.lack?.isSome = true ↔ step.Lacks := by
  constructor
  · intro lack
    cases action : step.action with
    | apiLogin | apiGet | apiCreate | apiPost | apiDelete =>
        refine .endpoint (by rw [action]; rfl) (Details.present?_eq_none_iff.mp ?_)
        simpa [lack?, action] using lack
    | uiNavigate =>
        have absent : step.details.address? = none := by simpa [lack?, action] using lack
        obtain ⟨bare, noAddress⟩ := Details.address?_eq_none_iff.mp absent
        exact .address action bare noAddress
    | uiLogin =>
        have absent : step.details.credentials? = none := by simpa [lack?, action] using lack
        rcases Details.credentials?_eq_none_iff.mp absent with username | password
        · exact .username action username
        · exact .password action password
    | uiClick => exact .label action (by simpa [lack?, action, Details.label?] using lack)
    | uiVerify | unknown => simp [lack?, action] at lack
  · rintro (⟨api, bare⟩ | ⟨action, bare, noAddress⟩ | ⟨action, bare⟩ | ⟨action, bare⟩ |
      ⟨action, noLabel⟩)
    · have absent := Details.present?_eq_none_iff.mpr bare
      cases action : step.action with
      | apiLogin | apiGet | apiCreate | apiPost | apiDelete => simp [lack?, action, absent]
      | uiNavigate | uiLogin | uiClick | uiVerify | unknown =>
          rw [action] at api
          cases api
    · simp [lack?, action, Details.address?_eq_none_iff.mpr ⟨bare, noAddress⟩]
    · simp [lack?, action, Details.credentials?_eq_none_iff.mpr (.inl bare)]
    · simp [lack?, action, Details.credentials?_eq_none_iff.mpr (.inr bare)]
    · simp [lack?, action, show step.details.label? = none from noLabel]

theorem severity_of_mem_skipIssues {step : Step} {issue : Issue}
    (member : issue ∈ step.skipIssues) : issue.severity = .warning := by
  unfold skipIssues at member
  split at member
  · rw [List.mem_singleton.mp member]
  · cases member

theorem severity_of_mem_nameIssues {step : Step} {stored : List String} {issue : Issue}
    (member : issue ∈ step.nameIssues stored) : issue.severity = .warning := by
  obtain ⟨name, -, rfl⟩ := List.mem_map.mp member
  rfl

/-- The errors among the issues of a step are what it lacks. -/
theorem filter_error_issues (step : Step) (stored : List String) :
    (step.issues stored).filter (·.severity = .error) = step.lackIssues := by
  have skip : step.skipIssues.filter (·.severity = .error) = [] := by
    refine List.filter_eq_nil_iff.mpr fun issue member => ?_
    simp [severity_of_mem_skipIssues member]
  have names : (step.nameIssues stored).filter (·.severity = .error) = [] := by
    refine List.filter_eq_nil_iff.mpr fun issue member => ?_
    simp [severity_of_mem_nameIssues member]
  have lack : step.lackIssues.filter (·.severity = .error) = step.lackIssues := by
    refine List.filter_eq_self.mpr fun issue member => ?_
    obtain ⟨message, -, rfl⟩ := List.mem_map.mp member
    rfl
  rw [issues, List.filter_append, List.filter_append, skip, names, lack, List.nil_append,
    List.append_nil]

/-- A step has an error among its issues if it states too little, whatever is stored before it. -/
theorem error_mem_issues_iff {step : Step} {stored : List String} :
    (∃ issue ∈ step.issues stored, issue.severity = .error) ↔ step.Lacks := by
  have found : (∃ issue ∈ step.issues stored, issue.severity = .error) ↔
      step.lackIssues ≠ [] := by
    rw [← filter_error_issues step stored, ne_eq, List.filter_eq_nil_iff]
    simp
  rw [found, ← lack?_isSome_iff, lackIssues]
  cases step.lack? with
  | none => simp
  | some message => simp

theorem countOf_error_issues_le (step : Step) (stored : List String) :
    countOf .error (step.issues stored) ≤ 1 := by
  rw [countOf, filter_error_issues, lackIssues]
  cases step.lack? with
  | none => simp
  | some message => simp

theorem place_of_mem_issues {step : Step} {stored : List String} {issue : Issue}
    (member : issue ∈ step.issues stored) : issue.place = step.place := by
  simp only [issues, skipIssues, lackIssues, nameIssues, List.mem_append] at member
  rcases member with (skip | lack) | name
  · split at skip
    · rw [List.mem_singleton.mp skip]
    · cases skip
  · obtain ⟨message, -, rfl⟩ := List.mem_map.mp lack
    rfl
  · obtain ⟨name, -, rfl⟩ := List.mem_map.mp name
    rfl

theorem issuesOfAll_append (stored : List String) (first second : List Step) :
    issuesOfAll stored (first ++ second) =
      issuesOfAll stored first ++ issuesOfAll (stored ++ first.flatMap storedNames) second := by
  induction first generalizing stored with
  | nil => simp [issuesOfAll]
  | cons step rest ih => simp [issuesOfAll, ih]

/-- The issues of a document at one of its steps: those of the steps before it, its own, and the
rest. -/
theorem document_issues_at {document : Document} {before after : List Step} {step : Step}
    (placed : document.steps = before ++ step :: after) :
    document.issues = issuesOfAll [] before ++ step.issues (before.flatMap storedNames) ++
      (issuesOfAll ((before ++ [step]).flatMap storedNames) after ++
        document.misses.map Miss.issue) := by
  have some : document.steps.isEmpty = false := by rw [placed]; simp
  rw [Document.issues, some, if_neg Bool.false_ne_true, placed, issuesOfAll_append]
  simp [issuesOfAll]

end Step

namespace Play

variable {σ : Type} [Outside σ] {step : Step}

omit [Outside σ] in
theorem requirePage_of_page {session : Session σ} (page : session.page.isSome = true) :
    (requirePage : Play σ Unit) session = (.ok (), session) := by
  rw [requirePage, bind_apply_of_ok (get_apply session)]
  cases present : session.page with
  | none => rw [present] at page; cases page
  | some settings => rfl

/-- A step of the API ends at once if its endpoint is refused. -/
theorem carryOut_of_endpointOf {session : Session σ} {fault : String → Fault}
    (api : step.action.usesApi = true)
    (refused : ∀ verb, (endpointOf step.details verb : Play σ String) session =
      (.error (fault verb), session)) :
    ∃ verb, carryOut step session = (.error (fault verb), session) := by
  cases action : step.action with
  | apiLogin | apiGet =>
      exact ⟨"GET", by rw [carryOut, action]; exact bind_apply_of_error (refused "GET") _⟩
  | apiCreate | apiPost =>
      exact ⟨"POST", by rw [carryOut, action]; exact bind_apply_of_error (refused "POST") _⟩
  | apiDelete =>
      exact ⟨"DELETE", by rw [carryOut, action]; exact bind_apply_of_error (refused "DELETE") _⟩
  | uiNavigate | uiLogin | uiClick | uiVerify | unknown =>
      rw [action] at api
      cases api

/-- Carrying out a step that states too little is refused at once. -/
theorem carryOut_of_lacks (lacks : step.Lacks) (session : Session σ)
    (page : session.page.isSome = true) :
    ∃ cause : StepFault, cause.isLack = true ∧
      carryOut step session = (.error (.step cause none), session) := by
  have paged := requirePage_of_page page
  rcases lacks with ⟨api, bare⟩ | ⟨action, bare, noAddress⟩ | ⟨action, bare⟩ | ⟨action, bare⟩ |
    ⟨action, noLabel⟩
  · have absent := Details.present?_eq_none_iff.mpr bare
    have refused (verb : String) : (endpointOf step.details verb : Play σ String) session =
        (.error (.step (.missingEndpoint s!"No endpoint specified for API {verb}") none),
          session) := by
      rw [endpointOf, absent]
      rfl
    obtain ⟨verb, ended⟩ := carryOut_of_endpointOf api refused
    exact ⟨_, rfl, ended⟩
  · have absent := Details.address?_eq_none_iff.mpr ⟨bare, noAddress⟩
    refine ⟨.missingTarget "No URL specified for navigation", rfl, ?_⟩
    rw [carryOut, action]
    simp only [carryOutNavigate, bind_apply_of_ok paged, absent, refuse_apply]
  · have absent := Details.credentials?_eq_none_iff.mpr (.inl bare)
    refine ⟨.missingCredentials "Username or password not specified", rfl, ?_⟩
    rw [carryOut, action]
    simp only [carryOutLogin, bind_apply_of_ok paged, absent, refuse_apply]
  · have absent := Details.credentials?_eq_none_iff.mpr (.inr bare)
    refine ⟨.missingCredentials "Username or password not specified", rfl, ?_⟩
    rw [carryOut, action]
    simp only [carryOutLogin, bind_apply_of_ok paged, absent, refuse_apply]
  · have absent : step.details.label? = none := noLabel
    refine ⟨.missingTarget "No quoted label found to click (expected Click '<label>')", rfl, ?_⟩
    rw [carryOut, action]
    simp only [carryOutClick, bind_apply_of_ok paged, absent, refuse_apply]

/-- A step fails for want of something only if it states too little, as long as relative endpoints
have an address to be joined to. -/
theorem lacks_of_carryOut (session : Session σ) (address : session.client.baseUrl ≠ "")
    {fault : Fault} (ended : (carryOut step session).1 = .error fault)
    (lack : fault.isLack = true) : step.Lacks := by
  have allowed := ((carryOut_within session.client step).allows session rfl).2 fault ended
  rcases allowed.2 lack with stated | bare
  · exact Step.lack?_isSome_iff.mp stated
  · exact absurd bare address

theorem isLack_inStep (fault : Fault) (step : Step) :
    (fault.inStep step).isLack = fault.isLack := by
  cases fault with
  | step cause place =>
      cases place with
      | none => rfl
      | some other => rfl
  | _ => rfl

/-- A step that states too little is executed without effect on the world outside and on variables:
it fails with a fault that says so and names the step. -/
theorem executeStep_of_lacks (lacks : step.Lacks) {session : Session σ}
    (page : session.page.isSome = true) :
    ∃ cause : StepFault, cause.isLack = true ∧
      (executeStep step session).1 = .error (.step cause (some step)) ∧
      (executeStep step session).2.outside = session.outside ∧
      (executeStep step session).2.calls = session.calls ∧
      (executeStep step session).2.vars = session.vars := by
  obtain ⟨cause, lack, refused⟩ :=
    carryOut_of_lacks lacks (announced step session) page
  rw [executeStep_of_failure refused rfl]
  exact ⟨cause, lack, rfl, rfl, rfl, rfl⟩

theorem lacks_of_executeStep {session : Session σ} (address : session.client.baseUrl ≠ "")
    {fault : Fault} (ended : (executeStep step session).1 = .error fault)
    (lack : fault.isLack = true) : step.Lacks := by
  rcases carried : carryOut step (announced step session) with ⟨raised | notes, after⟩
  · refine lacks_of_carryOut (announced step session) address (congrArg Prod.fst carried) ?_
    cases interrupt : raised.isInterrupt with
    | true =>
        rw [executeStep_of_interrupt carried interrupt] at ended
        cases ended
        exact lack
    | false =>
        rw [executeStep_of_failure carried interrupt] at ended
        cases ended
        rwa [isLack_inStep] at lack
  · rw [executeStep_of_ok carried] at ended
    cases ended

/-- **The check before a run agrees with the run.** At each step of a document, the issues of that
step have an error exactly if executing it, in whatever session with a page and an address of the
API, fails for want of an endpoint, a target or credentials. There is one error at most, and where
there is one nothing is asked of the world outside and no variable changes. -/
theorem error_issue_iff_lack_fault (document : Document) (before after : List Step) (step : Step)
    (placed : document.steps = before ++ step :: after) (session : Session σ)
    (page : session.page.isSome = true) (address : session.client.baseUrl ≠ "") :
    let own := step.issues (before.flatMap Step.storedNames)
    document.issues = Step.issuesOfAll [] before ++ own ++
        (Step.issuesOfAll ((before ++ [step]).flatMap Step.storedNames) after ++
          document.misses.map Miss.issue) ∧
      (∀ issue ∈ own, issue.place = step.place) ∧
      ((∃ issue ∈ own, issue.severity = .error) ↔ step.Lacks) ∧
      ((∃ issue ∈ own, issue.severity = .error) ↔
        ∃ cause place, (executeStep step session).1 = .error (.step cause place) ∧
          cause.isLack = true) ∧
      countOf .error own ≤ 1 ∧
      ((∃ issue ∈ own, issue.severity = .error) →
        (executeStep step session).2.outside = session.outside ∧
          (executeStep step session).2.calls = session.calls ∧
          (executeStep step session).2.vars = session.vars) := by
  intro own
  refine ⟨Step.document_issues_at placed, fun _ => Step.place_of_mem_issues,
    Step.error_mem_issues_iff, ?_, Step.countOf_error_issues_le step _, ?_⟩
  · rw [Step.error_mem_issues_iff]
    constructor
    · intro lacks
      obtain ⟨cause, lack, ended, -⟩ := executeStep_of_lacks lacks page
      exact ⟨cause, some step, ended, lack⟩
    · rintro ⟨cause, place, ended, lack⟩
      exact lacks_of_executeStep address ended lack
  · rw [Step.error_mem_issues_iff]
    intro lacks
    obtain ⟨-, -, -, effects⟩ := executeStep_of_lacks lacks page
    exact effects

/-- A login without a password, after a step that stores a variable: the check finds an error at it,
and a run with a page and an API fails for want of credentials. -/
theorem error_issue_iff_lack_fault_login :
    let store : Step := ⟨1, "Login via API", .apiLogin,
      { endpoint := some "/login", storeAs := some "id",
        rawText := "Endpoint: /login\nStore the id into variable id" }⟩
    let login : Step := ⟨2, "Login via UI", .uiLogin,
      { username := some "ada", rawText := "Username: ada" }⟩
    let document : Document := { steps := [store, login] }
    let session : Session Scripted :=
      { outside := {}, page := some {}, client := { baseUrl := "http://api" } }
    document.steps = [store] ++ login :: [] ∧ session.page.isSome = true ∧
      session.client.baseUrl ≠ "" ∧ [store].flatMap Step.storedNames = ["id"] ∧
      countOf .error (login.issues ["id"]) = 1 ∧
      ∃ cause place, (executeStep login session).1 = .error (.step cause place) ∧
        cause.isLack = true := by
  intro store login document session
  have address : session.client.baseUrl ≠ "" := by decide
  have found : ∃ issue ∈ login.issues ([store].flatMap Step.storedNames),
      issue.severity = .error := by
    rw [Step.error_mem_issues_iff]
    exact .password rfl (.inl rfl)
  obtain ⟨-, -, -, agree, -⟩ :=
    error_issue_iff_lack_fault document [store] [] login rfl session rfl address
  exact ⟨rfl, rfl, address, rfl, by decide, agree.mp found⟩

end Play

end Walkthrough
