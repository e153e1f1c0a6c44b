import Walkthrough.Command.Run
import Walkthrough.Proofs.Session.Run

/-!
# How a run starts

A run starts if its form is known, its settings can be built, its prompt is found and it can get
ready (`Walkthrough.RunOrder.Starts`). It then carries out its plan from a session that knows
nothing of a run before (`Walkthrough.Play.run_of_starts`). A run that does not start never gets to
the browser (`Walkthrough.Play.run_of_not_starts`).
-/

namespace Walkthrough

/-- A path that leads to a file is not looked for elsewhere. -/
theorem Settings.promptPath_of_isFile {disk : Disk} {path : Path} (settings : Settings)
    (found : disk.isFile path = .ok true) : settings.promptPath disk path = .ok path := by
  rw [promptPath, found]
  rfl

variable {σ : Type}

theorem Play.showHeader_leaves (plan : RunPlan) (session : Session σ) :
    ∃ console, (Play.showHeader plan session).2 = { session with console } := by
  rw [Play.showHeader]
  split
  · cases plan.header with
    | ok lines => exact ⟨_, rfl⟩
    | error fault => exact ⟨session.console, rfl⟩
  · exact ⟨session.console, rfl⟩

variable [Outside σ]

/-- The plan of a run with given settings and a given prompt. -/
def RunOrder.plan (order : RunOrder) (form : OutputForm) (settings : Settings) (prompt : Path)
    (session : Session σ) : RunPlan where
  settings := settings
  prompt := prompt
  runId := s!"PQA-RUN-{(Outside.now session.outside).stamp}-{Outside.mark session.outside}"
  form := form
  junit := order.junit

namespace Play

/-- Gets a run with a plan ready to open the browser. -/
def prepareRun (plan : RunPlan) : Play σ Unit := do
  showHeader plan
  startAfresh
  match plan.client with
  | .ok client => openClient client
  | .error fault => throw fault

theorem startRun_eq (order : RunOrder) (form : OutputForm) (settings : Settings) :
    (startRun order form settings : Play σ Nat) = (do
      let plan ← planRun order form settings
      prepareRun plan
      carryOutRun plan) := by
  unfold startRun prepareRun
  refine bind_congr fun plan => ?_
  rw [bind_assoc]
  refine bind_congr fun _ => ?_
  rw [bind_assoc]
  refine bind_congr fun _ => ?_
  cases plan.client <;> rfl

/-- A run that is ready knows nothing of a run before, and nothing of it is open. -/
theorem prepareRun_leaves (plan : RunPlan) (session : Session σ) :
    (prepareRun plan session).2.calls = session.calls ∧
      ∀ ready, prepareRun plan session = (.ok (), ready) →
        ∃ client console log started, ready = { session with
          client, console, log
          vars := { started }
          page := none
          healer := none
          browser := {}
          document := {}
          reports := []
          selfHealing := false } := by
  obtain ⟨console, shown⟩ := showHeader_leaves plan session
  rw [prepareRun]
  rcases ended : showHeader plan session with ⟨fault | _, after⟩
  · rw [ended] at shown
    cases shown
    rw [bind_apply_of_error ended]
    exact ⟨rfl, by rintro _ ⟨⟩⟩
  · rw [ended] at shown
    cases shown
    rw [bind_apply_of_ok ended]
    cases plan.client with
    | error fault => exact ⟨rfl, by rintro _ ⟨⟩⟩
    | ok client =>
        refine ⟨rfl, ?_⟩
        rintro _ ⟨⟩
        exact ⟨client, _, _, _, rfl⟩

end Play

/-- A run that is asked for in a session starts: its form is known, the settings can be built, they
and the disk say which prompt is meant, and it gets ready to open the browser. -/
structure RunOrder.Starts (order : RunOrder) (usual : String) (session : Session σ) (plan : RunPlan)
    (ready : Session σ) : Prop where
  form : OutputForm.ofName? order.form = some plan.form
  settings : Settings.build session.disk session.disk.projectDir usual order.wishes =
    .ok plan.settings
  prompt : plan.settings.promptPath session.disk order.prompt = .ok plan.prompt
  planned : order.plan plan.form plan.settings plan.prompt session = plan
  prepared : Play.prepareRun plan session = (.ok (), ready)

/-- How a run ends that does not get to the browser: it asked nothing of the world outside, and its
exit code, if it has one, is that for a run that cannot start. -/
structure Session.Barred (session : Session σ) (ended : Except Fault Nat × Session σ) : Prop where
  calls : ended.2.calls = session.calls
  code : ∀ code, ended.1 = .ok code → code = 2

namespace Play

variable {order : RunOrder} {usual : String} {session ready : Session σ} {plan : RunPlan}

/-- A run whose prompt is found has a plan. -/
theorem planRun_apply {settings : Settings} {prompt : Path}
    (meant : settings.promptPath session.disk order.prompt = .ok prompt) (form : OutputForm) :
    planRun order form settings session =
      (.ok (order.plan form settings prompt session), session) := by
  rw [planRun, bind_apply_of_ok (get_apply session)]
  simp only [meant]
  rw [bind_apply_of_ok (pure_apply _ session), bind_apply_of_ok (now_apply session),
    bind_apply_of_ok (mark_apply session), pure_apply, RunOrder.plan]

/-- A run that is put out as JSON starts if the settings can be built and give it a client, and its
prompt is a file. -/
theorem exists_starts (named : OutputForm.ofName? order.form = some .json)
    (found : (session.disk.isFile order.prompt).toOption = some true)
    (built : (Settings.build session.disk session.disk.projectDir usual order.wishes).toOption.any
      (fun settings => (order.plan .json settings order.prompt session).client.isOk) = true) :
    ∃ plan ready, order.Starts usual session plan ready := by
  rcases file : session.disk.isFile order.prompt with fault | isFile
  · rw [file] at found
    cases found
  rw [file] at found
  cases found
  rcases settled : Settings.build session.disk session.disk.projectDir usual order.wishes with
    fault | settings
  · rw [settled] at built
    cases built
  rw [settled] at built
  rcases opened : (order.plan .json settings order.prompt session).client with fault | client
  · simp [Except.toOption, opened, Except.isOk, Except.toBool] at built
  -- As JSON no header is shown, so that it does not matter whether it could be.
  have shown : showHeader (order.plan .json settings order.prompt session) session =
      (.ok (), session) := rfl
  obtain ⟨ready, prepared⟩ : ∃ ready,
      prepareRun (order.plan .json settings order.prompt session) session = (.ok (), ready) := by
    rw [prepareRun, bind_apply_of_ok shown, opened]
    exact ⟨_, rfl⟩
  exact ⟨order.plan .json settings order.prompt session, ready, named, settled,
    Settings.promptPath_of_isFile settings file, rfl, prepared⟩

/-- A run that starts carries out its plan. -/
theorem run_of_starts (starts : order.Starts usual session plan ready) :
    run order usual session = carryOutRun plan ready := by
  have planned : planRun order plan.form plan.settings session = (.ok plan, session) := by
    rw [planRun_apply starts.prompt, starts.planned]
  rw [run]
  simp only [starts.form]
  rw [bind_apply_of_ok (get_apply session)]
  simp only [starts.settings]
  rw [startRun_eq, bind_apply_of_ok planned, bind_apply_of_ok starts.prepared]

/-- A run that does not start leaves nothing but lines on the console, or what getting ready
leaves; if it has an exit code, that is the one for a run that cannot start. -/
theorem run_stops (never : ∀ plan ready, ¬ order.Starts usual session plan ready) :
    (∀ code, (run order usual session).1 = .ok code → code = 2) ∧
      ((∃ console, (run order usual session).2 = { session with console }) ∨
        ∃ plan, (run order usual session).2 = (prepareRun plan session).2) := by
  rw [run]
  rcases named : OutputForm.ofName? order.form with _ | form
  · exact ⟨fun _ ended => (Except.ok.inj ended).symm, Or.inl ⟨_, rfl⟩⟩
  simp only
  rw [bind_apply_of_ok (get_apply session)]
  rcases built : Settings.build session.disk session.disk.projectDir usual order.wishes with
    fault | settings
  · simp only
    split
    · exact ⟨fun _ ended => (Except.ok.inj ended).symm, Or.inl ⟨_, rfl⟩⟩
    · exact ⟨fun _ ended => (nomatch ended), Or.inl ⟨session.console, rfl⟩⟩
  simp only
  rw [startRun_eq]
  rcases meant : settings.promptPath session.disk order.prompt with fault | prompt
  · rw [planRun, bind_assoc, bind_apply_of_ok (get_apply session)]
    simp only [meant]
    exact ⟨fun _ ended => (nomatch ended), Or.inl ⟨session.console, rfl⟩⟩
  · rw [bind_apply_of_ok (planRun_apply meant form)]
    rcases prepared : prepareRun (order.plan form settings prompt session) session with
      ⟨fault | _, ready⟩
    · rw [bind_apply_of_error prepared]
      exact ⟨fun _ ended => (nomatch ended), Or.inr ⟨_, by rw [prepared]⟩⟩
    · exact (never (order.plan form settings prompt session) ready
        ⟨named, built, meant, rfl, prepared⟩).elim

/-- A run that does not start does not get to the browser. -/
theorem run_of_not_starts (never : ∀ plan ready, ¬ order.Starts usual session plan ready) :
    session.Barred (run order usual session) := by
  obtain ⟨code, ⟨console, left⟩ | ⟨plan, left⟩⟩ := run_stops never
  · exact ⟨by rw [left], code⟩
  · exact ⟨by rw [left, (prepareRun_leaves plan session).1], code⟩

end Play

end Walkthrough
