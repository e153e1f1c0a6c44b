import Walkthrough.Command.Run
import Walkthrough.Outside.Scripted
import Walkthrough.Proofs.Healing.Resolve
import Walkthrough.Proofs.Prompt.Secret
import Walkthrough.Proofs.Session.Returns
import Walkthrough.Proofs.Steps.Parallel

/-!
# Passwords stay secret

Prompts that are openly the same run alike where what is filled in cannot be told from the answers
(`Walkthrough.Outside.Blind`): they leave the same session, but for passwords in the calls that fill
in the field for them (`Walkthrough.Play.execute_openlySame`).
-/

namespace Walkthrough

/-- The elements that a reference can lead to: those it describes, or with strategies of healing the
first of those it selects or of those that a candidate selects. -/
def Locator.places (reference : String) : Option (List Strategy) → List Locator
  | none => [.ofReference reference]
  | some strategies =>
    (trialsOf strategies reference reference).map fun trial => .first trial.locator

/-- Two calls that are the same, or that fill in a field with secrets of their own. -/
inductive Call.OpenlySame (fields : List Locator) (secrets : String → String → Prop) :
    Call → Call → Prop
  | same (call : Call) : OpenlySame fields secrets call call
  | fill {field : Locator} {secret other : String} (place : field ∈ fields)
      (paired : secrets secret other) :
      OpenlySame fields secrets (.element field (.fill secret)) (.element field (.fill other))

/-- Two faults that are the same, or the same fault of steps that are openly the same. -/
inductive Fault.OpenlySame : Fault → Fault → Prop
  | same (fault : Fault) : OpenlySame fault fault
  | step (cause : StepFault) {step other : Step} (steps : step.OpenlySame other) :
      OpenlySame (.step cause (some step)) (.step cause (some other))

/-- Two ends of a run: the same value, or faults that are openly the same. -/
inductive EndsOpenly {α : Type} : Except Fault α → Except Fault α → Prop
  | ok (value : α) : EndsOpenly (.ok value) (.ok value)
  | error {fault other : Fault} (faults : fault.OpenlySame other) :
      EndsOpenly (.error fault) (.error other)

variable {σ : Type}

/-- Two sessions that are the same but for their documents, the world outside, and passwords of
these documents in the calls that filled in the field for them. -/
inductive Session.OpenlySame (sim : σ → σ → Prop) (document other : Document) :
    Session σ → Session σ → Prop
  | intro {session : Session σ} {world : σ} {calls : List Call}
      (outside : sim session.outside world) (loaded : session.document = document)
      (filled : List.Forall₂ (Call.OpenlySame
        (Locator.places Play.passwordField (session.healer.map (·.strategies)))
        (document.Secrets other)) session.calls calls) :
      OpenlySame sim document other session
        { session with outside := world, calls, document := other }

theorem Session.OpenlySame.outside {sim : σ → σ → Prop} {document other : Document}
    {session after : Session σ} (alike : session.OpenlySame sim document other after) :
    sim session.outside after.outside := by
  obtain ⟨outside, -, -⟩ := alike
  exact outside

/-- Worlds that answer alike whatever is filled in. -/
structure Outside.Blind [Outside σ] (sim : σ → σ → Prop) : Prop extends
    Outside.Simulates sim where
  fills : ∀ {world other}, sim world other → ∀ locator value otherValue,
    (Outside.reply (.element locator (.fill value)) world).1 =
        (Outside.reply (.element locator (.fill otherValue)) other).1 ∧
      sim (Outside.reply (.element locator (.fill value)) world).2
        (Outside.reply (.element locator (.fill otherValue)) other).2

/-- The pairing of runs of two documents that are openly the same. -/
def Pairing.openly (sim : σ → σ → Prop) (document other : Document) : Pairing σ σ where
  alike := Session.OpenlySame sim document other
  excused _ := False

variable [Outside σ]

namespace Play

section LookingUp

theorem resolve_leads (strategies : List Strategy) (reference description : String)
    (session : Session σ) :
    Returns (resolve strategies reference description) session fun found _ =>
      found ∈ (trialsOf strategies reference description).map fun trial =>
        Locator.first trial.locator := by
  intro found after ended
  have resolves := resolve_resolves strategies reference description session
  rw [ended] at resolves
  rcases searched : search (trialsOf strategies reference description) session.outside with
    ⟨ending, calls, world⟩
  rw [searched] at resolves
  cases ending with
  | found missed taken =>
      obtain ⟨later, trials⟩ := search_found (congrArg Searched.ending searched)
      have member : taken ∈ trialsOf strategies reference description := by
        rw [trials]
        exact List.mem_append_right _ List.mem_cons_self
      refine List.mem_map.mpr ⟨taken, member, ?_⟩
      -- Nothing was missed if the reference itself was found; else it is a candidate that was.
      cases missed with
      | nil =>
          obtain ⟨rfl, -⟩ := List.cons_eq_cons.mp trials
          exact (Except.ok.inj resolves.1).symm
      | cons first missed =>
          have value := resolves.value
          split at value
          · cases value
          · exact (Except.ok.inj value).symm
  | exhausted => cases resolves.1
  | interrupted message => cases resolves.1

/-- A look-up leads to one of the places of its reference. -/
theorem element_leads (reference : String) (session : Session σ) :
    Returns (element reference) session fun found _ =>
      found ∈ Locator.places reference (session.healer.map (·.strategies)) := by
  rw [element_eq]
  refine .step (get_apply session) ?_
  cases session.healer with
  | some healer => exact resolve_leads _ _ _ session
  | none =>
      refine .bind (.any _) fun _ _ _ => .pure ?_
      exact List.mem_singleton_self _

/-- A look-up leaves the strategies as they are. -/
theorem element_strategies (reference : String) (session : Session σ) :
    (element reference session).2.healer.map (·.strategies) =
      session.healer.map (·.strategies) := by
  obtain ⟨allowed, -⟩ := (find_within anything_pages reference none).allows session trivial
  exact allowed.frame.healer.strategies

end LookingUp

variable {sim : σ → σ → Prop} {document other : Document}

/-- The same call, or two that are openly the same and answered alike, leave sessions that are
openly the same. -/
theorem asked_openlySame {session session' : Session σ} {call made : Call}
    (alike : session.OpenlySame sim document other session')
    (world : sim (Outside.reply call session.outside).2 (Outside.reply made session'.outside).2)
    (calls : Call.OpenlySame (Locator.places passwordField (session.healer.map (·.strategies)))
      (document.Secrets other) call made) :
    (ask call session).2.OpenlySame sim document other (ask made session').2 := by
  have traced : List.Forall₂ (Call.OpenlySame
      (Locator.places passwordField (session.healer.map (·.strategies))) (document.Secrets other))
      ([call].filter (·.isTraced)) ([made].filter (·.isTraced)) := by
    cases calls with
    | same => exact List.forall₂_same.mpr fun call _ => .same call
    | fill place paired => exact .cons (.fill place paired) .nil
  obtain ⟨outside, loaded, filled⟩ := alike
  rw [ask_apply, ask_apply]
  exact .intro world loaded (List.rel_append filled traced)

end Play

namespace Outside.Blind

variable {sim : σ → σ → Prop} (blind : Outside.Blind sim) (document other : Document)

include blind

theorem guided : (Pairing.openly sim document other).Guided where
  vars := by
    rintro _ _ ⟨⟩
    rfl
  client := by
    rintro _ _ ⟨⟩
    rfl
  page := by
    rintro _ _ ⟨⟩
    rfl
  healer := by
    rintro _ _ ⟨⟩
    rfl
  noted := by
    rintro _ _ ⟨outside, loaded, filled⟩ line
    exact .intro outside loaded filled
  written := by
    rintro _ _ ⟨outside, loaded, filled⟩ vars
    exact .intro outside loaded filled
  asks call := by
    refine ⟨fun _ excused => excused, fun session session' alike => ?_⟩
    obtain ⟨answer, world⟩ := blind.reply alike.outside call
    refine .inr ⟨.of_eq ?_, Play.asked_openlySame alike world (.same call)⟩
    rw [Play.ask_apply, Play.ask_apply, answer]
  now := by
    refine ⟨fun _ excused => excused, fun session session' alike => ?_⟩
    exact .inr ⟨.ok (blind.now alike.outside), alike⟩
  remembers change keeps := by
    refine ⟨fun _ excused => excused, fun session session' alike => ?_⟩
    obtain ⟨outside, loaded, filled⟩ := alike
    -- The places of the field are those of the strategies, which remembering leaves as they are.
    have same : (session.healer.map change).map (·.strategies) =
        session.healer.map (·.strategies) := by
      rw [Option.map_map]
      exact Option.map_congr fun healer _ => keeps healer
    rw [← same] at filled
    exact .inr ⟨.ok rfl, .intro outside loaded filled⟩

theorem clocks : Play.Parallel (Pairing.openly sim document other) Eq Play.clock Play.clock where
  lasts _ excused := excused
  goes _ _ alike := .inr ⟨.ok (blind.clock alike.outside), alike⟩

theorem carrying : (Pairing.openly sim document other).Carrying where
  toPaged := (blind.guided document other).paged
  requests method endpoint := by
    refine Play.request_parallel (blind.guided document other).toAnswering
      (blind.clocks document other) (fun moment => ⟨moment, rfl⟩) ?_ method endpoint none
    rintro _ _ _ _ rfl rfl text
    exact .line (blind.guided document other).toEven

end Outside.Blind

theorem Fault.OpenlySame.message {fault other : Fault} (same : fault.OpenlySame other) :
    fault.message = other.message := by
  cases same with
  | same => rfl
  | step cause steps =>
      simp only [Fault.message, StepFault.located, steps.ordinal, steps.description, steps.action]

theorem Fault.OpenlySame.inStep {step other : Step} (steps : step.OpenlySame other)
    (fault : Fault) : (fault.inStep step).OpenlySame (fault.inStep other) := by
  cases fault with
  | step cause place =>
      cases place with
      | none => exact .step cause steps
      | some place => exact .same _
  | _ => exact .same _

namespace Play

/-- Plays that end openly the same, from sessions that are so. -/
def Openly {α : Type} (sim : σ → σ → Prop) (document other : Document)
    (play alternative : Play σ α) : Prop :=
  ∀ session session', session.OpenlySame sim document other session' →
    EndsOpenly (play session).1 (alternative session').1 ∧
      (play session).2.OpenlySame sim document other (alternative session').2

namespace Openly

variable {α β : Type} {sim : σ → σ → Prop} {document other : Document}

omit [Outside σ] in
theorem cases {play alternative : Play σ α} (openly : Openly sim document other play alternative)
    {session session' : Session σ} (alike : session.OpenlySame sim document other session') :
    (∃ value after after', after.OpenlySame sim document other after' ∧
        play session = (.ok value, after) ∧ alternative session' = (.ok value, after')) ∨
      ∃ fault fault' after after', after.OpenlySame sim document other after' ∧
        fault.OpenlySame fault' ∧ play session = (.error fault, after) ∧
        alternative session' = (.error fault', after') := by
  obtain ⟨ends, later⟩ := openly session session' alike
  rcases ended : play session with ⟨_, after⟩
  rcases ended' : alternative session' with ⟨_, after'⟩
  rw [ended, ended'] at ends later
  cases ends with
  | ok value => exact .inl ⟨value, after, after', later, rfl, rfl⟩
  | error faults => exact .inr ⟨_, _, after, after', later, faults, rfl, rfl⟩

omit [Outside σ] in
theorem of_parallel {play alternative : Play σ α}
    (parallel : Parallel (Pairing.openly sim document other) Eq play alternative) :
    Openly sim document other play alternative := by
  intro session session' alike
  rcases parallel.cases alike with
    never | ⟨_, _, after, after', rfl, alike, ended, ended'⟩ |
    ⟨fault, after, after', alike, ended, ended'⟩
  · exact never.elim
  · rw [ended, ended']
    exact ⟨.ok _, alike⟩
  · rw [ended, ended']
    exact ⟨.error (.same fault), alike⟩

omit [Outside σ] in
theorem bind {first alternative : Play σ β} {next alternativeNext : β → Play σ α}
    (early : Openly sim document other first alternative)
    (late : ∀ value, Openly sim document other (next value) (alternativeNext value)) :
    Openly sim document other (first >>= next) (alternative >>= alternativeNext) := by
  intro session session' alike
  rcases early.cases alike with
    ⟨value, after, after', alike, ended, ended'⟩ |
    ⟨fault, fault', after, after', alike, faults, ended, ended'⟩
  · rw [bind_apply_of_ok ended, bind_apply_of_ok ended']
    exact late value after after' alike
  · rw [bind_apply_of_error ended, bind_apply_of_error ended']
    exact ⟨.error faults, alike⟩

omit [Outside σ] in
/-- What is done at last is done after either end. -/
theorem thenAlways {play alternative : Play σ α} {last : Play σ Unit}
    (early : Openly sim document other play alternative)
    (late : Parallel (Pairing.openly sim document other) Eq last last) :
    Openly sim document other (Play.thenAlways play last) (Play.thenAlways alternative last) := by
  intro session session' alike
  rcases early.cases alike with
    ⟨value, after, after', alike, ended, ended'⟩ |
    ⟨fault, fault', after, after', alike, faults, ended, ended'⟩
  · rw [Play.thenAlways, ended, Play.thenAlways, ended']
    exact (of_parallel (.andThen late fun _ => .pure rfl)) after after' alike
  · rw [Play.thenAlways, ended, Play.thenAlways, ended']
    exact (of_parallel late).bind (fun _ _ _ alike => ⟨.error faults, alike⟩) after after' alike

end Openly

section Execution

variable {sim : σ → σ → Prop} {document other : Document} (blind : Outside.Blind sim)

include blind

/-- Passwords of both documents are filled in alike. -/
theorem fill_openlySame {secret otherSecret : String}
    (paired : document.Secrets other secret otherSecret) :
    Parallel (Pairing.openly sim document other) Eq (fill passwordField secret)
      (fill passwordField otherSecret) := by
  have guided := blind.guided document other
  refine .andThen (.line guided.toEven) fun _ =>
    ⟨fun _ excused => excused, fun session session' alike => .inr ?_⟩
  have leads := element_leads passwordField session
  rcases (element_parallel guided passwordField).cases alike with
    never | ⟨field, _, after, after', rfl, later, ended, ended'⟩ |
    ⟨fault, after, after', later, ended, ended'⟩
  · exact never.elim
  · rw [bind_apply_of_ok ended, bind_apply_of_ok ended']
    have place := leads field after ended
    rw [← element_strategies passwordField session, ended] at place
    obtain ⟨answer, world⟩ := blind.fills later.outside field secret otherSecret
    refine ⟨.of_eq ?_, asked_openlySame later world (.fill place paired)⟩
    rw [act, act, ask_apply, ask_apply]
    exact congrArg (Except.mapError Fault.outside) answer
  · rw [bind_apply_of_error ended, bind_apply_of_error ended']
    exact ⟨.error fault, later⟩

theorem carryOutLogin_openlySame {details otherDetails : Details}
    (same : details.OpenlySame otherDetails)
    (paired : ∀ password otherPassword, Details.present? details.password = some password →
      Details.present? otherDetails.password = some otherPassword →
      document.Secrets other password otherPassword) :
    Parallel (Pairing.openly sim document other) Eq (carryOutLogin details)
      (carryOutLogin otherDetails) := by
  have paged := (blind.guided document other).paged
  refine .andThen (requirePage_parallel paged.toEven) fun _ => ?_
  rcases same.credentials with
    ⟨none, otherNone⟩ | ⟨username, password, otherPassword, some, otherSome, stated, otherStated⟩
  · rw [none, otherNone]
    exact .fail _
  · rw [some, otherSome]
    exact .andThen (fill_parallel paged rfl _) fun _ =>
      .andThen (fill_openlySame blind (paired password otherPassword stated otherStated)) fun _ =>
        .andThen (submitLogin_parallel paged) fun _ => .pure rfl

/-- Steps that are openly the same are carried out alike. -/
theorem carryOut_openlySame {step otherStep : Step} (same : step.OpenlySame otherStep)
    (member : (step, otherStep) ∈ document.steps.zip other.steps) :
    Parallel (Pairing.openly sim document other) Eq (carryOut step) (carryOut otherStep) := by
  rcases same.details with equal | ⟨action, details⟩
  · have equal : step = otherStep := by
      obtain ⟨ordinal, description, action, -⟩ := same
      cases step
      cases otherStep
      simp_all
    rw [← equal]
    exact carryOut_parallel (blind.carrying document other) step
  · unfold carryOut
    rw [← same.action, action]
    exact carryOutLogin_openlySame blind details fun password otherPassword stated otherStated =>
      ⟨(step, otherStep), member, action, stated, otherStated⟩

omit blind [Outside σ] in
theorem announced_eq {step otherStep : Step} (same : step.OpenlySame otherStep)
    (session : Session σ) : announced otherStep session = announced step session := by
  rw [announced, announced, same.ordinal, same.description, same.action]

omit blind [Outside σ] in
/-- Reports of steps that are openly the same are the same. -/
theorem between_openlySame {step otherStep : Step} (same : step.OpenlySame otherStep)
    (start finish : Float) (passed : Bool) (error : Option String) (notes : String) :
    StepReport.between step start finish passed error notes =
      StepReport.between otherStep start finish passed error notes := by
  rw [StepReport.between, StepReport.between, same.ordinal, same.description, same.action]

theorem reported_openlySame {step otherStep : Step} (same : step.OpenlySame otherStep)
    {start start' session session' : Session σ}
    (begun : start.OpenlySame sim document other start')
    (alike : session.OpenlySame sim document other session') (passed : Bool)
    (error : Option String) (notes : String) (level : LogLevel) (line : String) :
    (reported step (Outside.clock start.outside) passed error notes level line session).OpenlySame
      sim document other
      (reported otherStep (Outside.clock start'.outside) passed error notes level line
        session') := by
  obtain ⟨outside, loaded, filled⟩ := alike
  rw [reported, reported, between_openlySame same, blind.clock begun.outside,
    blind.clock outside]
  exact .intro outside loaded filled

/-- Steps that are openly the same end openly the same. -/
theorem executeStep_openlySame {step otherStep : Step} (same : step.OpenlySame otherStep)
    (member : (step, otherStep) ∈ document.steps.zip other.steps) :
    Openly sim document other (executeStep step) (executeStep otherStep) := by
  intro session session' alike
  have begun : (announced step session).OpenlySame sim document other
      (announced otherStep session') := by
    rw [announced_eq same]
    obtain ⟨outside, loaded, filled⟩ := alike
    exact .intro outside loaded filled
  rcases (carryOut_openlySame blind same member).cases begun with
    never | ⟨notes, _, after, after', rfl, later, ended, ended'⟩ |
    ⟨fault, after, after', later, ended, ended'⟩
  · exact never.elim
  · rw [executeStep_of_ok ended, executeStep_of_ok ended', ← same.ordinal]
    refine ⟨?_, reported_openlySame blind same alike later _ _ _ _ _⟩
    rw [between_openlySame same, blind.clock alike.outside, blind.clock later.outside]
    exact .ok _
  · have faults := Fault.OpenlySame.inStep same fault
    cases interrupt : fault.isInterrupt with
    | true =>
        rw [executeStep_of_interrupt ended interrupt, executeStep_of_interrupt ended' interrupt]
        exact ⟨.error (.same fault), later⟩
    | false =>
        rw [executeStep_of_failure ended interrupt, executeStep_of_failure ended' interrupt,
          ← same.ordinal, ← faults.message]
        exact ⟨.error faults, reported_openlySame blind same alike later _ _ _ _ _⟩

/-- Runs through steps that are openly the same end openly the same. -/
theorem executeSteps_openlySame {steps others : List Step}
    (same : List.Forall₂ Step.OpenlySame steps others)
    (members : ∀ pair ∈ steps.zip others, pair ∈ document.steps.zip other.steps) :
    Openly sim document other (executeSteps steps) (executeSteps others) := by
  induction same with
  | nil => exact .of_parallel (.pure rfl)
  | cons first _ ih =>
      rw [List.zip_cons_cons, List.forall_mem_cons] at members
      exact .bind (executeStep_openlySame blind first members.1) fun _ => ih members.2

/-- Runs of documents that are openly the same end openly the same. -/
theorem execute_openly (openly : document.OpenlySame other) :
    Openly sim document other execute execute := by
  have guided := blind.guided document other
  have body : Openly sim document other
      (do
        executeSteps (← get).document.steps
        note .info .steps "=== Prompt Execution Complete ===")
      (do
        executeSteps (← get).document.steps
        note .info .steps "=== Prompt Execution Complete ===") := by
    intro session session' alike
    obtain ⟨loaded, loaded'⟩ : session.document = document ∧ session'.document = other := by
      obtain ⟨-, loaded, -⟩ := alike
      exact ⟨loaded, rfl⟩
    rw [bind_apply_of_ok (get_apply session), bind_apply_of_ok (get_apply session'), loaded,
      loaded']
    exact Openly.bind (executeSteps_openlySame blind openly.steps fun _ member => member)
      (fun _ => .of_parallel (.line guided.toEven)) session session' alike
  have reports : Parallel (Pairing.openly sim document other) Eq
      (do return (← get).reports : Play σ (List StepReport)) (do return (← get).reports) := by
    refine ⟨fun _ excused => excused, fun session session' alike => .inr ?_⟩
    obtain ⟨outside, loaded, filled⟩ := alike
    exact ⟨.ok rfl, .intro outside loaded filled⟩
  exact .bind (.of_parallel (.line guided.toEven)) fun _ =>
    .bind (.thenAlways body (closing_parallel guided)) fun _ => .of_parallel reports

end Execution

/-- **Passwords stay secret.** Two documents may differ in nothing but the passwords and the wording
of their logins. Then validating them shows the same issues and the same table. If the world outside
answers alike whatever is filled in, executing them from the same session ends with the same reports
or the same fault, and leaves the same session: the same log, variables, healings and reports, and
also the same calls, but for the password of each login in the call that fills it into the field for
passwords. So whatever is reported of both runs is the same. -/
theorem execute_openlySame {sim : σ → σ → Prop} (blind : Outside.Blind sim) (session : Session σ)
    (same : sim session.outside session.outside) {document other : Document}
    (openly : document.OpenlySame other) :
    (document.issues = other.issues ∧ document.table = other.table) ∧
      EndsOpenly (execute { session with document }).1
        (execute { session with document := other }).1 ∧
      (execute { session with document }).2.OpenlySame sim document other
        (execute { session with document := other }).2 ∧
      ∀ (plan : RunPlan) (passed : Bool) (started ended : Instant) (seconds : Float),
        plan.result (execute { session with document }).2 passed started ended seconds =
          plan.result (execute { session with document := other }).2 passed started ended seconds ∧
        (plan.result (execute { session with document }).2 passed started ended seconds).markdown =
          (plan.result (execute { session with document := other }).2 passed started ended
            seconds).markdown := by
  have begun : ({ session with document } : Session σ).OpenlySame sim document other
      { session with document := other } :=
    .intro same rfl (List.forall₂_same.mpr fun call _ => .same call)
  obtain ⟨ends, alike⟩ := execute_openly blind openly _ _ begun
  refine ⟨⟨openly.issues, openly.table⟩, ends, alike, fun plan passed started ended seconds => ?_⟩
  have results : plan.result (execute { session with document }).2 passed started ended seconds =
      plan.result (execute { session with document := other }).2 passed started ended seconds := by
    generalize (execute { session with document }).2 = after,
      (execute { session with document := other }).2 = after' at alike
    obtain ⟨outside, loaded, filled⟩ := alike
    rw [RunPlan.result, RunPlan.result, loaded, openly.steps.length_eq]
  exact ⟨results, congrArg RunResult.markdown results⟩

end Play

theorem Scripted.blind : Outside.Blind (Eq : Scripted → Scripted → Prop) where
  toSimulates := Outside.simulates_eq
  fills := by
    rintro world _ rfl locator value otherValue
    cases locator with
    | row table index => exact ⟨rfl, rfl⟩
    | _ => exact ⟨rfl, rfl⟩

/-- A login with one password and with another, on a page that is looked up with healing. -/
theorem Play.execute_openlySame_login :
    let login (password : String) : Document :=
      { steps := [⟨1, "Login via UI", .uiLogin,
          { username := some "john", password := some password
            rawText := "Username: john\nPassword: " ++ password }⟩] }
    let session : Session Scripted :=
      { outside := { elements := [(usernameField, {}), (passwordField, {}), (submitButton, {})] }
        page := some {}, healer := some { strategies := Strategy.standard } }
    login "demo" ≠ login "secret" ∧ (login "demo").OpenlySame (login "secret") ∧
      (execute { session with document := login "demo" }).1.toOption.isSome = true ∧
      EndsOpenly (execute { session with document := login "demo" }).1
        (execute { session with document := login "secret" }).1 ∧
      (execute { session with document := login "demo" }).2.OpenlySame Eq (login "demo")
        (login "secret") (execute { session with document := login "secret" }).2 := by
  intro login session
  have openly : (login "demo").OpenlySame (login "secret") :=
    ⟨.cons ⟨rfl, rfl, rfl, .inr ⟨rfl, rfl, .inr ⟨by decide, by decide⟩⟩⟩ .nil, rfl, rfl⟩
  obtain ⟨-, ends, alike, -⟩ := execute_openlySame Scripted.blind session rfl openly
  exact ⟨by decide +kernel, openly, by decide +kernel, ends, alike⟩

end Walkthrough
