import Walkthrough.Command.Perform
import Walkthrough.Outside.Scripted
import Walkthrough.Proofs.Command.Course
import Walkthrough.Proofs.Command.Start
import Walkthrough.Proofs.Command.Work
import Walkthrough.Proofs.Steps.Lack
import Walkthrough.Proofs.Steps.Reports

/-!
# Prompts that are invalid fail

A validation that is not strict fails exactly on documents without steps and on those with a step
that states too little (`Walkthrough.Play.validate_fails_iff`). A run does not ask whether a prompt
is valid, but it gets to such a step or fails before, so it never ends well on an invalid prompt
with steps (`Walkthrough.Play.run_of_invalid`). A prompt without steps is the exception: validating
it fails, and a run of it has nothing to do (`Walkthrough.Play.run_without_steps`).
-/

namespace Walkthrough

/-- The exit code of a command that has ended: the one that it gives, or that of the fault that
nothing answered. -/
def Command.exitCode : Except Fault Nat → Nat
  | .ok code => code
  | .error fault => fault.exitCode

theorem Fault.exitCode_ne_zero (fault : Fault) : fault.exitCode ≠ 0 := by
  rw [exitCode]
  split <;> decide

namespace Step

/-- An error among the issues of steps is that of a step that states too little. -/
theorem lacks_of_error {stored : List String} {steps : List Step} {issue : Issue}
    (member : issue ∈ issuesOfAll stored steps) (error : issue.severity = .error) :
    ∃ step ∈ steps, step.Lacks := by
  induction steps generalizing stored with
  | nil => cases member
  | cons step rest ih =>
      rcases List.mem_append.mp member with own | later
      · exact ⟨step, List.mem_cons_self, error_mem_issues_iff.mp ⟨issue, own, error⟩⟩
      · obtain ⟨lacking, among, lacks⟩ := ih later
        exact ⟨lacking, List.mem_cons_of_mem _ among, lacks⟩

end Step

/-- A document has an error if it has no steps or one of them states too little. -/
theorem Document.error_iff_lacks {document : Document} :
    (∃ issue ∈ document.issues, issue.severity = .error) ↔
      document.steps = [] ∨ ∃ step ∈ document.steps, step.Lacks := by
  constructor
  · rintro ⟨issue, member, error⟩
    refine or_iff_not_imp_left.mpr fun stepped => ?_
    rw [issues, if_neg (by simpa using stepped)] at member
    rcases List.mem_append.mp member with ofStep | ofMiss
    · exact Step.lacks_of_error ofStep error
    · obtain ⟨miss, -, rfl⟩ := List.mem_map.mp ofMiss
      cases error
  · rintro (none | ⟨step, member, lacks⟩)
    · rw [issues, if_pos (by rw [none]; rfl)]
      exact ⟨_, List.mem_singleton_self _, rfl⟩
    · obtain ⟨before, after, placed⟩ := List.append_of_mem member
      obtain ⟨issue, own, error⟩ := Step.error_mem_issues_iff.mpr lacks
      refine ⟨issue, ?_, error⟩
      rw [Step.document_issues_at placed, List.mem_append, List.mem_append]
      exact .inl (.inr own)

/-- A validation that is not strict fails on errors alone. -/
theorem Document.verdict_code {document : Document} {errors warnings : Nat} :
    (document.verdict false errors warnings).code = 1 ↔ 0 < errors := by
  unfold verdict
  split
  · next some => exact iff_of_true rfl some
  · next none =>
      refine iff_of_false ?_ none
      split <;> simp

namespace Disk

variable {disk : Disk} {path : Path} {document : Document}

theorem isFile_of_document (read : disk.document path = .ok document) :
    disk.isFile path = .ok true := by
  unfold Disk.document at read
  split at read
  · next octets found =>
      rw [isFile, found]
      rfl
  all_goals cases read

end Disk

variable {σ : Type}

namespace Play

theorem attachHealer_keeps : Keeps (attachHealer : Play σ Unit) := by
  intro session
  rw [attachHealer, bind_apply_of_ok (get_apply session)]
  split
  · exact ⟨rfl, rfl⟩
  · exact ⟨rfl, rfl⟩

theorem enableHealing_keeps : Keeps (enableHealing : Play σ Unit) :=
  .bind (.change fun _ => ⟨rfl, rfl⟩) fun _ => .bind attachHealer_keeps fun _ => .note _ _ _

theorem noteMisses_keeps (misses : List Miss) : Keeps (noteMisses misses : Play σ Unit) := by
  induction misses with
  | nil => exact .pure ()
  | cons miss rest ih => exact .bind (.note _ _ _) fun _ => ih

theorem load_keeps (document : Document) : Keeps (load document : Play σ Document) := by
  have rest : Keeps (do
      noteMisses document.misses
      note .info .steps s!"Parsed {document.steps.length} steps"
      return document : Play σ Document) :=
    .bind (noteMisses_keeps _) fun _ => .bind (.note _ _ _) fun _ => .pure _
  refine .bind (.change fun _ => ⟨rfl, rfl⟩) fun _ => .look fun session => ?_
  split
  · exact .bind (.note _ _ _) fun _ => .bind enableHealing_keeps fun _ => rest
  · exact rest

variable [Outside σ]

theorem openBrowser_keeps (settings : BrowserSettings) :
    Keeps (openBrowser settings : Play σ Unit) := by
  have opens (change : Browser → Browser) : Keeps (updateBrowser change : Play σ Unit) :=
    .change fun _ => ⟨rfl, rfl⟩
  refine .bind (.ask _) fun _ => .bind (opens _) fun _ => .bind (.ask _) fun _ =>
    .bind (opens _) fun _ => .bind (.ask _) fun _ => .bind (opens _) fun _ =>
    .bind (.ask _) fun _ => .bind (.ask _) fun _ => .bind (opens _) fun _ => ?_
  split
  · exact .note _ _ _
  · exact .pure _

/-- Steps that all pass state enough. -/
theorem not_lacks_of_executeSteps {steps : List Step} {session after : Session σ}
    (passed : executeSteps steps session = (.ok (), after)) (page : session.page.isSome = true) :
    ∀ step ∈ steps, ¬ step.Lacks := by
  induction steps generalizing session with
  | nil => simp
  | cons step rest ih =>
      obtain ⟨report, middle, first, later⟩ := passed_of_executeSteps_cons passed
      refine List.forall_mem_cons.mpr ⟨fun lacks => ?_, ?_⟩
      · obtain ⟨cause, -, failed, -⟩ := executeStep_of_lacks lacks page
        rw [first] at failed
        cases failed
      · have kept := executeStep_page step session
        rw [first] at kept
        exact ih later ((congrArg Option.isSome kept).trans page)

/-- A prompt with a step that states too little is never executed to its end. -/
theorem execute_of_lacks {session : Session σ} (page : session.page.isSome = true)
    (lacks : ∃ step ∈ session.document.steps, step.Lacks) :
    Returns execute session fun _ _ => False := by
  intro value after ended
  rcases run : executeSteps session.document.steps (started session) with ⟨fault | _, reached⟩
  · obtain ⟨final, closed, -⟩ := execute_of_error run
    rw [closed] at ended
    cases ended
  · obtain ⟨step, member, lacks⟩ := lacks
    exact not_lacks_of_executeSteps run page step member lacks

omit [Outside σ] in
theorem loadFile_returns {path : Path} {document : Document} {session : Session σ}
    (read : session.disk.document path = .ok document) (name : String) :
    Returns (loadFile name path) session fun _ after =>
      after.document = document ∧ after.page = session.page := by
  intro value after ended
  have loaded := (loadFile_loaded read name).document
  rw [ended] at loaded
  refine ⟨loaded, ?_⟩
  rw [loadFile, bind_apply_of_ok (note_apply _ _ _ _), bind_apply_of_ok (get_apply _)] at ended
  simp only [read] at ended
  exact ((load_keeps document).returns _ value after ended).2

/-- What a run does with its prompt does not end well if a step of it states too little. -/
theorem performPrompt_of_lacks {plan : RunPlan} {document : Document} {session : Session σ}
    (read : session.disk.document plan.prompt = .ok document)
    (lacks : ∃ step ∈ document.steps, step.Lacks) :
    Returns (performPrompt plan) session fun _ _ => False := by
  -- Once there is a page, the prompt is loaded from the same disk and gets to the step.
  have executed (paged : Session σ) (disk : paged.disk = session.disk)
      (page : paged.page.isSome = true) : Returns (do
        let document ← loadFile plan.prompt.text plan.prompt
        printText plan [.plain s!"[bold]Running {document.steps.length} step(s)...[/bold]\n"]
        let _ ← execute : Play σ Unit) paged fun _ _ => False := by
    rw [← disk] at read
    refine .bind (loadFile_returns read _) fun shown loaded ⟨placed, samePage⟩ => ?_
    obtain ⟨console, printed⟩ := printText_apply plan
      [.plain s!"[bold]Running {shown.steps.length} step(s)...[/bold]\n"] loaded
    refine .step printed (.bind (execute_of_lacks ?_ ?_) fun _ _ never => never.elim)
    · exact (congrArg Option.isSome samePage).trans page
    · rw [placed]
      exact lacks
  refine .bind ((openBrowser_keeps plan.browser).returns session) fun _ opened kept => ?_
  refine .bind (.change _ opened) fun _ paged same => ?_
  subst same
  split
  · refine .bind (enableHealing_keeps.returns _) fun _ healed same => ?_
    exact executed healed (same.1.trans kept.1) (congrArg Option.isSome same.2)
  · exact executed _ kept.1 rfl

/-- A run of a prompt with a step that states too little ends with an exit code that says so. -/
theorem run_of_lacks {order : RunOrder} {document : Document} {session : Session σ}
    (read : session.disk.document order.prompt = .ok document)
    (lacks : ∃ step ∈ document.steps, step.Lacks) (usual : String) :
    Returns (run order usual) session fun code _ => code ≠ 0 := by
  intro code after ended
  by_cases never : ∀ plan ready, ¬ order.Starts usual session plan ready
  · rw [(run_of_not_starts never).code code (congrArg Prod.fst ended)]
    decide
  · push Not at never
    obtain ⟨plan, ready, starts⟩ := never
    have prompt : plan.prompt = order.prompt := by
      have meant := starts.prompt
      rw [Settings.promptPath_of_isFile _ (Disk.isFile_of_document read)] at meant
      exact (Except.ok.inj meant).symm
    obtain ⟨client, console, log, vars, fresh⟩ :=
      (prepareRun_leaves plan session).2 ready starts.prepared
    rw [← prompt, show session.disk = ready.disk by rw [fresh]] at read
    rw [run_of_starts starts] at ended
    rw [carryOutRun_returns plan ready code after ended]
    have fails := performPrompt_of_lacks read lacks
    rcases performed : performPrompt plan ready with ⟨fault | _, worked⟩
    · rw [RunPlan.codeFor]
      split <;> decide
    · exact (fails () worked performed).elim

omit [Outside σ] in
/-- A validation that is not strict fails on a document exactly if it has no steps or one of them
states too little. -/
theorem validate_fails_iff {prompt : Path} {document : Document} {session : Session σ}
    (read : session.disk.document prompt = .ok document) :
    Command.exitCode (validate prompt false session).1 = 1 ↔
      document.steps = [] ∨ ∃ step ∈ document.steps, step.Lacks := by
  have code : (validate prompt false session).1 = .ok (document.verdict false
      (countOf .error document.issues) (countOf .warning document.issues)).code := by
    rw [validate, bind_apply_of_ok (get_apply session)]
    simp only [read]
    rfl
  rw [code, Command.exitCode, Document.verdict_code, ← Document.error_iff_lacks, countOf,
    List.length_pos_iff_exists_mem]
  simp

/-- **Invalid prompts fail.** If a prompt file has steps and validating it fails without being
strict, then no run of it, with whatever options and in whatever world, ends with the exit code of
success. -/
theorem run_of_invalid (order : RunOrder) (usual : String) (session : Session σ)
    (document : Document) (read : session.disk.document order.prompt = .ok document)
    (stepped : document.steps ≠ [])
    (invalid : Command.exitCode (perform (.validate order.prompt false) usual session).1 = 1) :
    Command.exitCode (perform (.run order) usual session).1 ≠ 0 := by
  have lacks := ((validate_fails_iff read).mp invalid).resolve_left stepped
  have returns := run_of_lacks read lacks usual
  show Command.exitCode (run order usual session).1 ≠ 0
  rcases ended : run order usual session with ⟨fault | code, after⟩
  · exact fault.exitCode_ne_zero
  · exact returns code after ended

/-- A login without a name and a password, in a world where the browser can be opened. -/
theorem run_of_invalid_login :
    let order : RunOrder := { prompt := .ofText "flow.prompt" }
    let session : Session Scripted :=
      { outside := {}
        disk := { nodes := [(["flow.prompt"], .file "1. Login via UI\n".toUTF8.toList)] } }
    Command.exitCode (perform (.validate order.prompt false) Environment.usual session).1 = 1 ∧
      Command.exitCode (perform (.run order) Environment.usual session).1 ≠ 0 := by
  intro order session
  have invalid : Command.exitCode
      (perform (.validate order.prompt false) Environment.usual session).1 = 1 := by
    decide +kernel
  have steps : (session.disk.document order.prompt).toOption.map (·.steps) =
      some [⟨1, "Login via UI", .uiLogin, {}⟩] := by
    decide +kernel
  rcases read : session.disk.document order.prompt with fault | document
  · rw [read] at steps
    cases steps
  · rw [read] at steps
    have stepped : document.steps ≠ [] := by
      have one : document.steps = [_] := Option.some.inj steps
      rw [one]
      exact List.cons_ne_nil _ _
    exact ⟨invalid, run_of_invalid order _ session document read stepped invalid⟩

/-- A prompt without steps, in a project with an address of the API: the one thing that is said
against it is an error, and a run of it passes. -/
theorem run_without_steps :
    let order : RunOrder := { prompt := .ofText "flow.prompt" }
    let session : Session Scripted :=
      { outside := {}
        disk := { nodes := [(["flow.prompt"], .file "just prose\n".toUTF8.toList),
          ([".promptqa"], .file [])] } }
    (session.disk.document order.prompt).toOption.map (·.steps) = some [] ∧
      (Settings.build session.disk session.disk.projectDir Environment.usual
        order.wishes).toOption.map (·.apiBaseUrl.isTruthy) = some true ∧
      Command.exitCode
        (perform (.validate order.prompt false) Environment.usual session).1 = 1 ∧
      Command.exitCode (perform (.run order) Environment.usual session).1 = 0 := by
  decide +kernel

end Play

end Walkthrough
