import Walkthrough.Proofs.Steps.Expansion
import Walkthrough.Proofs.Steps.Stored

/-!
# Names that no earlier step stores

The issues of a prompt say of each step which of the names that its endpoint takes no step before it
states to store. Such a name has no value when a run reaches the step, so the step fails before it
asks for anything (`Walkthrough.Play.unstored_issue_fails`). What these issues overlook are
addresses that stand in running text, and steps that state a name but whose action stores nothing.
Those are all the ways in which a prompt without errors and warnings can come to a placeholder
without a value (`Walkthrough.Play.execute_blames_overlooked`).
-/

namespace Walkthrough

namespace Step

variable {step : Step} {stored : List String} {name text : String}

/-- Whether a step replaces the placeholders of a text. -/
def Expands (step : Step) : Prop :=
  step.action.usesApi = true ∨ step.action = .uiNavigate

/-- The issue of a name that a step uses and no step before it stores. -/
def unstored (step : Step) (name : String) : Issue where
  severity := .warning
  place := step.place
  message := "\x7b\x7b" ++ name ++ "\x7d\x7d is not stored by any earlier step"

theorem unstored_injective (step : Step) : Function.Injective step.unstored := by
  intro first second same
  have messages := congrArg (fun issue : Issue => issue.message.toList) same
  simpa [unstored, String.toList_inj] using messages

/-- The issues of a step tell exactly of the names that it uses and that are not among those
stored. -/
theorem unstored_mem_issues_iff :
    step.unstored name ∈ step.issues stored ↔ name ∈ step.usedNames ∧ name ∉ stored := by
  have skip : step.unstored name ∉ step.skipIssues := by
    intro member
    rw [skipIssues] at member
    split at member
    · have same := congrArg (fun issue : Issue => issue.message.toList.head?)
        (List.mem_singleton.mp member)
      simp [unstored] at same
    · cases member
  have lack : step.unstored name ∉ step.lackIssues := by
    intro member
    obtain ⟨message, -, same⟩ := List.mem_map.mp member
    cases congrArg Issue.severity same
  have names : step.nameIssues stored =
      (step.usedNames.filter fun name => !stored.contains name).map step.unstored := rfl
  rw [issues, List.mem_append, List.mem_append, names,
    List.mem_map_of_injective step.unstored_injective]
  simp [skip, lack]

/-- A name that the endpoint of a step takes is one of the text that the step expands. -/
theorem expanded?_of_used (expands : step.Expands) (used : name ∈ step.usedNames) :
    ∃ text, step.expanded? = some text ∧ Variables.placeholderNames text = step.usedNames := by
  cases stated : Details.present? step.details.endpoint with
  | none =>
      -- An endpoint that is left out or empty has no placeholders.
      have bare := Details.present?_eq_none_iff.mp stated
      rw [usedNames] at used
      rcases bare with absent | empty
      · rw [absent] at used
        cases used
      · rw [empty] at used
        cases used
  | some endpoint =>
      obtain ⟨same, -⟩ := Option.filter_eq_some_iff.mp stated
      refine ⟨endpoint, ?_, by rw [usedNames, same, Option.getD_some]⟩
      rcases expands with api | navigates
      · rw [expanded?_of_usesApi api, stated]
      · rw [expanded?, navigates]
        simp [Details.address?, stated]

/-- The text that a step expands is its endpoint, or an address in the running text of a navigation
without one. -/
theorem names_of_expanded? (expands : step.expanded? = some text) :
    step.Expands ∧ (Variables.placeholderNames text = step.usedNames ∨
      step.action = .uiNavigate ∧ Details.IsBare step.details.endpoint ∧
        Target.addressPattern.keep? step.details.rawText = some text) := by
  have names (stated : Details.present? step.details.endpoint = some text) :
      Variables.placeholderNames text = step.usedNames := by
    obtain ⟨same, -⟩ := Option.filter_eq_some_iff.mp stated
    rw [usedNames, same, Option.getD_some]
  unfold expanded? at expands
  cases action : step.action with
  | apiLogin | apiGet | apiCreate | apiPost | apiDelete =>
      rw [action] at expands
      exact ⟨.inl (by rw [action]; rfl), .inl (names expands)⟩
  | uiNavigate =>
      rw [action] at expands
      refine ⟨.inr action, ?_⟩
      cases stated : Details.present? step.details.endpoint with
      | some endpoint =>
          obtain rfl : endpoint = text := by simpa [Details.address?, stated] using expands
          exact .inl (names stated)
      | none =>
          refine .inr ⟨rfl, Details.present?_eq_none_iff.mp stated, ?_⟩
          simpa [Details.address?, stated] using expands
  | uiLogin | uiClick | uiVerify | unknown =>
      rw [action] at expands
      cases expands

/-- What the check before a run overlooks at a step behind others: a name that the step takes and
that none of these keeps. It stands in an address in running text, or one of these states to store
it but has an action that stores nothing. -/
inductive Overlooked (before : List Step) (step : Step) (name : String) : Prop
  | address {address : String} (navigates : step.action = .uiNavigate)
      (bare : Details.IsBare step.details.endpoint)
      (found : Target.addressPattern.keep? step.details.rawText = some address)
      (used : name ∈ Variables.placeholderNames address)
      (unkept : name ∉ before.flatMap keptNames) : Overlooked before step name
  | idle {earlier : Step} (expands : step.Expands) (used : name ∈ step.usedNames)
      (member : earlier ∈ before) (idle : earlier.action.capture? = none)
      (stated : name ∈ earlier.storedNames)
      (unkept : name ∉ before.flatMap keptNames) : Overlooked before step name

/-- A step at which a name is overlooked expands a text with that name. -/
theorem Overlooked.expanded? {before : List Step} (overlooked : Overlooked before step name) :
    ∃ text, step.expanded? = some text ∧ name ∈ Variables.placeholderNames text ∧
      name ∉ before.flatMap keptNames := by
  cases overlooked with
  | @address address navigates bare found used unkept =>
      refine ⟨address, ?_, used, unkept⟩
      rw [Step.expanded?, navigates]
      simp [Details.address?, Details.present?_eq_none_iff.mpr bare, found]
  | idle expands used _ _ _ unkept =>
      obtain ⟨text, expanded, names⟩ := expanded?_of_used expands used
      exact ⟨text, expanded, by rwa [names], unkept⟩

/-- At a step without issues, a name that the step takes and that no step before it keeps is one
that the check overlooks. -/
theorem overlooked_of_expanded? {before : List Step}
    (clean : ∀ name ∈ step.usedNames, name ∈ before.flatMap storedNames)
    (expands : step.expanded? = some text) (used : name ∈ Variables.placeholderNames text)
    (unkept : name ∉ before.flatMap keptNames) : Overlooked before step name := by
  obtain ⟨acts, names | ⟨navigates, bare, found⟩⟩ := names_of_expanded? expands
  · rw [names] at used
    obtain ⟨earlier, member, stated⟩ := List.mem_flatMap.mp (clean name used)
    refine .idle acts used member ?_ stated unkept
    refine Option.not_isSome_iff_eq_none.mp fun captures => unkept ?_
    exact List.mem_flatMap.mpr ⟨earlier, member, mem_keptNames_iff.mpr ⟨captures, stated⟩⟩
  · exact .address navigates bare found used unkept

/-- In a document without errors and warnings, every name that an endpoint takes is one that a step
before it states to store. -/
theorem stored_of_clean {document : Document} {before after : List Step}
    (placed : document.steps = before ++ step :: after)
    (clean : ∀ issue ∈ document.issues, issue.severity ≠ .error ∧ issue.severity ≠ .warning) :
    ∀ name ∈ step.usedNames, name ∈ before.flatMap storedNames := by
  intro name used
  by_contra unstored
  refine (clean (step.unstored name) ?_).2 rfl
  rw [document_issues_at placed, List.mem_append, List.mem_append]
  exact .inl (.inr (unstored_mem_issues_iff.mpr ⟨used, unstored⟩))

end Step

variable {σ : Type} [Outside σ]

namespace Play

variable {before rest : List Step} {step : Step} {session reached : Session σ} {name : String}

omit [Outside σ] in
theorem not_has_of_empty {vars : Variables} (empty : vars.entries = []) (name : String) :
    vars.has name = false := by
  rw [Variables.has, Variables.get?, empty]
  rfl

/-- A run that reaches a step ends with what that step fails with, and nothing more is asked of the
world outside. -/
theorem execute_of_reached {fault : Fault}
    (placed : session.document.steps = before ++ step :: rest)
    (reaches : executeSteps before (started session) = (.ok (), reached))
    (failed : (executeStep step reached).1 = .error fault) :
    (execute session).1 = .error fault ∧
      (execute session).2.outside = (executeStep step reached).2.outside ∧
      (execute session).2.calls = (executeStep step reached).2.calls := by
  rcases ended : executeStep step reached with ⟨raised | report, after⟩
  · rw [ended] at failed
    cases failed
    have stopped : executeSteps session.document.steps (started session) =
        (.error fault, after) := by
      rw [placed, executeSteps_append_of_ok reaches, executeSteps, bind_apply_of_error ended]
    obtain ⟨final, closed, same⟩ := execute_of_error stopped
    rw [closed]
    exact ⟨rfl, same.outside, same.calls⟩
  · rw [ended] at failed
    cases failed

/-- A run that reaches a step with a name that has no value fails there, before it asks for
anything. -/
theorem execute_of_undefined {text : String}
    (placed : session.document.steps = before ++ step :: rest)
    (page : session.page.isSome = true)
    (reaches : executeSteps before (started session) = (.ok (), reached))
    (expands : step.expanded? = some text) (used : name ∈ Variables.placeholderNames text)
    (undefined : reached.vars.has name = false) :
    ∃ blamed ∈ Variables.placeholderNames text, reached.vars.has blamed = false ∧
      (execute session).1 = .error (.step (.undefinedVariable blamed none) (some step)) ∧
      (execute session).2.outside = reached.outside ∧
      (execute session).2.calls = reached.calls := by
  have paged : reached.page.isSome = true := by
    have same := executeSteps_page before (started session)
    rw [reaches] at same
    exact (congrArg Option.isSome same).trans page
  obtain ⟨blamed, failed⟩ := Variables.expand_fails_iff.mpr ⟨name, used, undefined⟩
  obtain ⟨member, none⟩ := Variables.undefined_of_expand failed
  obtain ⟨refused, outside, calls, -⟩ := executeStep_of_undefined expands failed paged
  obtain ⟨ended, sameOutside, sameCalls⟩ := execute_of_reached placed reaches refused
  exact ⟨blamed, member, none, ended, sameOutside.trans outside, sameCalls.trans calls⟩

/-- **A warning of a name that no earlier step stores is never false.** The issues of a document
are, at each of its steps, those of that step. If one of these says that a name is not stored by any
earlier step, then a run from empty variables with a page that reaches the step fails there, for
want of the value of a placeholder and without asking anything of the world outside. For when the
step is reached, only names have a value that the steps before state to store. -/
theorem unstored_issue_fails (document : Document) (before rest : List Step) (step : Step)
    (placed : document.steps = before ++ step :: rest) (session : Session σ)
    (loaded : session.document = document) (page : session.page.isSome = true)
    (empty : session.vars.entries = []) (reached : Session σ)
    (reaches : executeSteps before (started session) = (.ok (), reached)) :
    document.issues = Step.issuesOfAll [] before ++
        step.issues (before.flatMap Step.storedNames) ++
        (Step.issuesOfAll ((before ++ [step]).flatMap Step.storedNames) rest ++
          document.misses.map Miss.issue) ∧
      (∀ name, reached.vars.has name = true → name ∈ before.flatMap Step.storedNames) ∧
      (step.Expands → ∀ name, step.unstored name ∈ step.issues (before.flatMap Step.storedNames) →
        ∃ blamed ∈ step.usedNames, reached.vars.has blamed = false ∧
          (execute session).1 = .error (.step (.undefinedVariable blamed none) (some step)) ∧
          (execute session).2.outside = reached.outside ∧
          (execute session).2.calls = reached.calls) := by
  subst loaded
  have known (name : String) (has : reached.vars.has name = true) :
      name ∈ before.flatMap Step.storedNames := by
    rcases kept_of_executeSteps reaches has with early | kept
    · cases early.symm.trans (not_has_of_empty empty name)
    · obtain ⟨earlier, member, kept⟩ := List.mem_flatMap.mp kept
      exact List.mem_flatMap.mpr ⟨earlier, member, (Step.mem_keptNames_iff.mp kept).2⟩
  refine ⟨Step.document_issues_at placed, known, fun expands name warned => ?_⟩
  obtain ⟨used, unstored⟩ := Step.unstored_mem_issues_iff.mp warned
  have undefined : reached.vars.has name = false :=
    Bool.eq_false_iff.mpr fun has => unstored (known name has)
  obtain ⟨text, expanded, names⟩ := Step.expanded?_of_used expands used
  rw [← names] at used ⊢
  exact execute_of_undefined placed page reaches expanded used undefined

/-- The step before stores another name, and the run stops at the second step. -/
theorem unstored_issue_fails_account :
    let keep : Step := ⟨1, "Retrieve the customer via API", .apiGet,
      { endpoint := some "/customers/1", storeAs := some "customerId",
        rawText := "Endpoint: /customers/1\nStore the id into variable customerId" }⟩
    let use : Step := ⟨2, "Retrieve the account via API", .apiGet,
      { endpoint := some "/accounts/\x7b\x7baccountId\x7d\x7d",
        rawText := "Endpoint: /accounts/\x7b\x7baccountId\x7d\x7d" }⟩
    let reply : HttpReply :=
      ⟨200, [("Content-Type", "application/json")], "\x7b\"id\": 7\x7d"⟩
    let session : Session Scripted :=
      { outside := { replies := [⟨0.0, .ok reply⟩] }, page := some {}
        client := { baseUrl := "http://api" }, document := { steps := [keep, use] } }
    session.page.isSome = true ∧ session.vars.entries = [] ∧
      use.unstored "accountId" ∈ use.issues ([keep].flatMap Step.storedNames) ∧
      ∃ reached, executeSteps [keep] (started session) = (.ok (), reached) ∧
        (execute session).1 =
          .error (.step (.undefinedVariable "accountId" none) (some use)) ∧
        (execute session).2.calls = reached.calls := by
  intro keep use reply session
  have warned : use.unstored "accountId" ∈ use.issues ([keep].flatMap Step.storedNames) := by
    decide +kernel
  have passes : (executeSteps [keep] (started session)).1.toOption.isSome = true := by
    decide +kernel
  rcases run : executeSteps [keep] (started session) with ⟨fault | _, reached⟩
  · rw [run] at passes
    cases passes
  · obtain ⟨-, -, fails⟩ := unstored_issue_fails session.document [keep] [] use rfl session rfl rfl
      rfl reached run
    obtain ⟨blamed, member, -, ended, -, calls⟩ := fails (.inl rfl) "accountId" warned
    obtain rfl : blamed = "accountId" := by
      have names : use.usedNames = ["accountId"] := by decide +kernel
      simpa [names] using member
    exact ⟨rfl, rfl, warned, reached, rfl, ended, calls⟩

/-- **What the check before a run overlooks.** Take a document without errors and warnings, empty
variables, a page, and an API whose answers are all records. If a run fails for want of the value of
a placeholder, it has reached a step at which that name is overlooked; and whenever a run reaches a
step at which some name is overlooked, it fails there for want of such a name. -/
theorem execute_blames_overlooked (document : Document)
    (clean : ∀ issue ∈ document.issues, issue.severity ≠ .error ∧ issue.severity ≠ .warning)
    (session : Session σ) (loaded : session.document = document)
    (page : session.page.isSome = true) (empty : session.vars.entries = [])
    (records : Outside.Answers HttpReply.IsRecord session.outside) :
    (∀ fault name, (execute session).1 = .error fault → fault.placeholder? = some name →
      ∃ before step rest reached, document.steps = before ++ step :: rest ∧
        executeSteps before (started session) = (.ok (), reached) ∧
        fault = .step (.undefinedVariable name none) (some step) ∧
        step.Overlooked before name) ∧
    ∀ before step rest reached, document.steps = before ++ step :: rest →
      executeSteps before (started session) = (.ok (), reached) →
      (∃ name, step.Overlooked before name) →
      ∃ blamed, step.Overlooked before blamed ∧
        (execute session).1 = .error (.step (.undefinedVariable blamed none) (some step)) := by
  subst loaded
  have valued {before : List Step} {reached : Session σ} (name : String)
      (reaches : executeSteps before (started session) = (.ok (), reached)) :
      reached.vars.has name = false ↔ name ∉ before.flatMap Step.keptNames := by
    rw [Bool.eq_false_iff, ne_eq, has_iff_of_records reaches records]
    simp [started, not_has_of_empty empty]
  constructor
  · intro fault name ended blames
    rcases run : executeSteps session.document.steps (started session) with ⟨raised | _, after⟩
    · obtain ⟨final, closed, -⟩ := execute_of_error run
      rw [closed] at ended
      cases ended
      obtain ⟨before, rest, step, reached, placed, reaches, failed⟩ := executeSteps_of_error run
      obtain ⟨named, text, expands, refused⟩ := undefined_of_executeStep failed blames
      obtain ⟨used, undefined⟩ := Variables.undefined_of_expand refused
      refine ⟨before, step, rest, reached, placed, reaches, named, ?_⟩
      exact Step.overlooked_of_expanded? (Step.stored_of_clean placed clean) expands used
        ((valued name reaches).mp undefined)
    · obtain ⟨final, closed, -⟩ := execute_of_ok run
      rw [closed] at ended
      cases ended
  · rintro before step rest reached placed reaches ⟨name, overlooked⟩
    obtain ⟨text, expands, used, unkept⟩ := overlooked.expanded?
    obtain ⟨blamed, member, undefined, ended, -⟩ := execute_of_undefined placed page reaches
      expands used ((valued name reaches).mpr unkept)
    refine ⟨blamed, ?_, ended⟩
    exact Step.overlooked_of_expanded? (Step.stored_of_clean placed clean) expands member
      ((valued blamed reaches).mp undefined)

/-- A step that deletes states to store an identity and does not: nothing is said against the
document, and a run of it fails at the step behind. -/
theorem execute_blames_overlooked_delete :
    let delete : Step := ⟨1, "Delete the account via API", .apiDelete,
      { endpoint := some "/accounts/1", storeAs := some "accountId",
        rawText := "Endpoint: /accounts/1\nStore the id into variable accountId" }⟩
    let use : Step := ⟨2, "Retrieve the account via API", .apiGet,
      { endpoint := some "/accounts/\x7b\x7baccountId\x7d\x7d",
        rawText := "Endpoint: /accounts/\x7b\x7baccountId\x7d\x7d" }⟩
    let reply : HttpReply :=
      ⟨200, [("Content-Type", "application/json")], "\x7b\"id\": 7\x7d"⟩
    let session : Session Scripted :=
      { outside := { replies := [⟨0.0, .ok reply⟩] }, page := some {}
        client := { baseUrl := "http://api" }, document := { steps := [delete, use] } }
    session.document.issues = [] ∧ session.page.isSome = true ∧ session.vars.entries = [] ∧
      Outside.Answers HttpReply.IsRecord session.outside ∧
      (execute session).1 =
        .error (.step (.undefinedVariable "accountId" none) (some use)) := by
  intro delete use reply session
  have clean : session.document.issues = [] := by decide +kernel
  have records : Outside.Answers HttpReply.IsRecord session.outside := by
    refine Scripted.answers_of_replies fun next member answer answered => ?_
    cases List.mem_singleton.mp member
    cases answered
    decide +kernel
  have passes : (executeSteps [delete] (started session)).1.toOption.isSome = true := by
    decide +kernel
  rcases run : executeSteps [delete] (started session) with ⟨fault | _, reached⟩
  · rw [run] at passes
    cases passes
  · obtain ⟨-, fails⟩ := execute_blames_overlooked session.document (by simp [clean]) session rfl
      rfl rfl records
    obtain ⟨blamed, overlooked, ended⟩ := fails [delete] use [] reached rfl run
      ⟨"accountId", .idle (.inl rfl) (by decide +kernel) List.mem_cons_self rfl
        (by decide +kernel) (by decide +kernel)⟩
    -- The endpoint takes one name, and it is not an address in running text.
    have used : blamed ∈ use.usedNames := by
      cases overlooked with
      | address navigates => cases navigates
      | idle _ used => exact used
    obtain rfl : blamed = "accountId" := by
      have names : use.usedNames = ["accountId"] := by decide +kernel
      simpa [names] using used
    exact ⟨clean, rfl, rfl, records, ended⟩

/-- An address in running text names a variable that nothing stores: nothing is said against the
document, and a run of it fails. -/
theorem execute_blames_address :
    let text := "1. Open the account\n" ++
      "Go to https://bank.example/accounts/\x7b\x7baccountId\x7d\x7d"
    ∃ document : Document, (Document.ofText text).toOption = some document ∧
      document.issues = [] ∧
      let session : Session Scripted := { outside := {}, page := some {}, document }
      session.vars.entries = [] ∧ Outside.Answers HttpReply.IsRecord session.outside ∧
        ∃ fault, (execute session).1 = .error fault ∧
          fault.placeholder? = some "accountId" := by
  intro text
  let navigate : Step := ⟨1, "Open the account", .uiNavigate,
    { rawText := "Go to https://bank.example/accounts/\x7b\x7baccountId\x7d\x7d" }⟩
  let session : Session Scripted :=
    { outside := {}, page := some {}, document := { steps := [navigate] } }
  have expands : navigate.expanded? =
      some "https://bank.example/accounts/\x7b\x7baccountId\x7d\x7d" := by decide +kernel
  have failed : (started session).vars.expand
      "https://bank.example/accounts/\x7b\x7baccountId\x7d\x7d" = .error "accountId" := by
    rw [Variables.expand_eq_error_iff]
    decide +kernel
  obtain ⟨refused, -⟩ := executeStep_of_undefined expands failed rfl
  have reaches : executeSteps [] (started session) = (.ok (), started session) := rfl
  obtain ⟨ended, -⟩ := execute_of_reached rfl reaches refused
  exact ⟨session.document, by decide +kernel, by decide +kernel, rfl,
    Scripted.answers_of_replies (by simp), _, ended, rfl⟩

end Play

end Walkthrough
