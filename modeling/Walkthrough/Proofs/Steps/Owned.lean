import Walkthrough.Proofs.Steps.Parallel

/-!
# The client's own variables

A client may have variables of its own beside those of the run. Nothing that a prompt does reads or
writes them: two runs that differ in them alone go together line by line, and differ in them alone
in the end (`Walkthrough.Play.runDocument_withOwn`).
-/

namespace Walkthrough

variable {σ : Type}

open Play (Parallel)

/-- A session whose client has the given variables of its own, or none. -/
def Session.withOwn (session : Session σ) (own : Option Variables) : Session σ :=
  { session with client := { session.client with own } }

/-- The pairing of sessions that differ in what the clients have of their own, and in nothing
else. -/
def Pairing.owned (own other : Option Variables) : Pairing σ σ where
  alike session session' := session.client.own = own ∧ session' = session.withOwn other
  excused _ := False

variable {own other : Option Variables}

namespace Pairing

/-- A change of other parts than the client is the same in both runs. -/
theorem owned_changed {change : Session σ → Session σ}
    (keeps : ∀ session, (change session).client = session.client)
    (same : ∀ session : Session σ,
      change (session.withOwn other) = (change session).withOwn other) :
    Parallel (owned own other) Eq (modify change : Play σ Unit) (modify change : Play σ Unit) where
  lasts _ excused := excused
  goes session _ alike := by
    obtain ⟨kept, rfl⟩ := alike
    refine .inr ⟨.ok rfl, ?_, same session⟩
    rw [Play.modify_apply, keeps, kept]

variable [Outside σ]

theorem owned_guided : (owned own other : Pairing σ σ).Guided where
  vars alike := by rw [alike.2]; rfl
  client alike := by rw [alike.2]; rfl
  page alike := by rw [alike.2]; rfl
  healer alike := by rw [alike.2]; rfl
  noted alike line := by
    obtain ⟨kept, rfl⟩ := alike
    exact ⟨kept, rfl⟩
  written alike vars := by
    obtain ⟨kept, rfl⟩ := alike
    exact ⟨kept, rfl⟩
  asks call := by
    refine ⟨fun _ excused => excused, fun session _ alike => ?_⟩
    obtain ⟨kept, rfl⟩ := alike
    rw [Play.ask_apply, Play.ask_apply]
    exact .inr ⟨.of_eq rfl, kept, rfl⟩
  now := by
    refine ⟨fun _ excused => excused, fun session _ alike => ?_⟩
    obtain ⟨kept, rfl⟩ := alike
    exact .inr ⟨.ok rfl, kept, rfl⟩
  remembers change _ := owned_changed (fun _ => rfl) fun _ => rfl

theorem owned_clocks :
    Parallel (owned own other) Eq (Play.clock : Play σ Float) (Play.clock : Play σ Float) := by
  refine ⟨fun _ excused => excused, fun session _ alike => ?_⟩
  obtain ⟨kept, rfl⟩ := alike
  exact .inr ⟨.ok rfl, kept, rfl⟩

theorem owned_carrying : (owned own other : Pairing σ σ).Carrying where
  toPaged := owned_guided.paged
  requests method endpoint := by
    refine Play.request_parallel owned_guided.toAnswering owned_clocks
      (fun moment => ⟨moment, rfl⟩) ?_ method endpoint none
    intro start otherStart finish otherFinish began ended text
    subst began ended
    exact .line owned_guided.toEven

end Pairing

namespace Play

open Pairing (owned owned_changed owned_guided owned_clocks owned_carrying)

theorem addReport_owned (report : StepReport) :
    Parallel (owned own other) Eq (addReport report : Play σ Unit) (addReport report) :=
  owned_changed (fun _ => rfl) fun _ => rfl

theorem attachHealer_owned :
    Parallel (owned own other) Eq (attachHealer : Play σ Unit) attachHealer := by
  refine ⟨fun _ excused => excused, fun session _ alike => ?_⟩
  obtain ⟨kept, rfl⟩ := alike
  rw [attachHealer, bind_apply_of_ok (get_apply _), bind_apply_of_ok (get_apply _)]
  by_cases attaches : (session.page.isSome && session.healer.isNone) = true
  · have same : ((session.withOwn other).page.isSome &&
        (session.withOwn other).healer.isNone) = true := attaches
    rw [if_pos attaches, if_pos same]
    exact .inr ⟨.ok rfl, kept, rfl⟩
  · have same : ¬((session.withOwn other).page.isSome &&
        (session.withOwn other).healer.isNone) = true := attaches
    rw [if_neg attaches, if_neg same]
    exact .inr ⟨.ok rfl, kept, rfl⟩

variable [Outside σ]

theorem reportSince_owned (start : Float) (step : Step) (passed : Bool) (error : Option String)
    (notes : String) :
    Parallel (owned own other) Eq (reportSince start step passed error notes : Play σ StepReport)
      (reportSince start step passed error notes) :=
  .andThen owned_clocks fun _ => .pure rfl

theorem executeStep_owned (step : Step) :
    Parallel (owned own other) Eq (executeStep step : Play σ StepReport) (executeStep step) := by
  have even : (owned own other : Pairing σ σ).Even := owned_guided.toEven
  refine .andThen (.line even) fun _ => .andThen (.line even) fun _ =>
    .andThen owned_clocks fun start =>
      .andThen (.outcome (carryOut_parallel owned_carrying step)) fun ended => ?_
  cases ended with
  | error fault =>
      exact .andThen (reportSince_owned _ _ _ _ _) fun report => .andThen (.line even) fun _ =>
        .andThen (addReport_owned report) fun _ => .fail _
  | ok notes =>
      exact .andThen (reportSince_owned _ _ _ _ _) fun report =>
        .andThen (addReport_owned report) fun _ => .andThen (.line even) fun _ => .pure rfl

theorem executeSteps_owned (steps : List Step) :
    Parallel (owned own other) Eq (executeSteps steps : Play σ Unit) (executeSteps steps) := by
  induction steps with
  | nil => exact .pure rfl
  | cons step rest ih => exact .andThen (executeStep_owned step) fun _ => ih

theorem execute_owned :
    Parallel (owned own other) Eq (execute : Play σ (List StepReport)) execute := by
  have even : (owned own other : Pairing σ σ).Even := owned_guided.toEven
  have steps (document : Document) : Parallel (owned own other) Eq
      (do executeSteps document.steps
          note .info .steps "=== Prompt Execution Complete ===" : Play σ Unit)
      (do executeSteps document.steps
          note .info .steps "=== Prompt Execution Complete ===") :=
    .andThen (executeSteps_owned document.steps) fun _ => .line even
  have reports (reports : List StepReport) : Parallel (owned own other) Eq
      (pure reports : Play σ (List StepReport)) (pure reports) :=
    .pure rfl
  refine .andThen (.line even) fun _ =>
    .andThen (.thenAlways (.read (·.document) (·.document) ?_ steps)
      (closing_parallel owned_guided)) fun _ => .read (·.reports) (·.reports) ?_ reports
  · intro session session' alike
    rw [alike.2]
    rfl
  · intro session session' alike
    rw [alike.2]
    rfl

theorem enableHealing_owned :
    Parallel (owned own other) Eq (enableHealing : Play σ Unit) enableHealing :=
  .andThen (owned_changed (fun _ => rfl) fun _ => rfl) fun _ =>
    .andThen attachHealer_owned fun _ => .line owned_guided.toEven

theorem noteMisses_owned (misses : List Miss) :
    Parallel (owned own other) Eq (noteMisses misses : Play σ Unit) (noteMisses misses) := by
  induction misses with
  | nil => exact .pure rfl
  | cons miss rest ih => exact .andThen (.line owned_guided.toEven) fun _ => ih

theorem load_owned (document : Document) :
    Parallel (owned own other) Eq (load document : Play σ Document) (load document) := by
  have even : (owned own other : Pairing σ σ).Even := owned_guided.toEven
  let rest : Play σ Document := do
    noteMisses document.misses
    note .info .steps s!"Parsed {document.steps.length} steps"
    return document
  have ends : Parallel (owned own other) Eq rest rest :=
    .andThen (noteMisses_owned _) fun _ => .andThen (.line even) fun _ => .pure rfl
  have switching (healing : Bool) : Parallel (owned own other) Eq
      (if document.selfHealing = some true && !healing then do
          note .info .steps "Self-Healing detected in prompt: ENABLED"
          enableHealing
          rest
        else rest)
      (if document.selfHealing = some true && !healing then do
          note .info .steps "Self-Healing detected in prompt: ENABLED"
          enableHealing
          rest
        else rest) :=
    .ite (.andThen (.line even) fun _ => .andThen enableHealing_owned fun _ => ends) ends
  have agree {session session' : Session σ}
      (alike : (owned own other : Pairing σ σ).alike session session') :
      session.selfHealing = session'.selfHealing := by
    rw [alike.2]
    rfl
  exact .andThen (owned_changed (fun _ => rfl) fun _ => rfl) fun _ =>
    .read (·.selfHealing) (·.selfHealing) agree switching

/-- Makes a document the prompt of the session and executes it. -/
def runDocument (document : Document) : Play σ (List StepReport) := do
  let _ ← load document
  execute

/-- **The client's own variables have no part in a run.** Whatever two clients have of their own,
loading a document and executing it ends in the same way in both runs, and in sessions that are the
same but for that, with the same calls, reports, variables, records of healing and lines of the log;
and each client has of its own what it had before. -/
theorem runDocument_withOwn (document : Document) (session : Session σ)
    (own other : Option Variables) :
    runDocument document (session.withOwn other) =
        ((runDocument document (session.withOwn own)).1,
          (runDocument document (session.withOwn own)).2.withOwn other) ∧
      (runDocument document (session.withOwn own)).2.client.own = own := by
  have runs : Parallel (owned own other) Eq (runDocument document : Play σ _)
      (runDocument document) :=
    .andThen (load_owned document) fun _ => execute_owned
  have alike : (owned own other : Pairing σ σ).alike (session.withOwn own)
      (session.withOwn other) :=
    ⟨rfl, rfl⟩
  rcases runs.goes _ _ alike with excused | ⟨ended, kept, after⟩
  · exact excused.elim
  · exact ⟨Prod.ext ended.eq.symm after, kept⟩

end Play

end Walkthrough
