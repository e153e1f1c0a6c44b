import Walkthrough.Command.Run
import Walkthrough.Proofs.Session.Browser
import Walkthrough.Proofs.Session.Returns
import Walkthrough.Proofs.Steps.Reports

/-!
# What a run does between opening and closing

A run opens the browser, loads its prompt and executes it. All that it does to the world outside
once it opened the browser is to make requests and calls to the page
(`Walkthrough.Play.performPrompt_works`). It gets through its prompt exactly if it loads it and
leaves reports that each of its steps passed (`Walkthrough.Play.executes_iff`).
-/

namespace Walkthrough

variable {σ : Type}

theorem Play.printText_apply (plan : RunPlan) (lines : List Printed) (session : Session σ) :
    ∃ console, Play.printText plan lines session = (.ok (), { session with console }) := by
  rw [Play.printText]
  split
  · exact ⟨_, rfl⟩
  · exact ⟨session.console, rfl⟩

variable [Outside σ]

namespace Play

/-- Opens the browser and loads the prompt. -/
def loadPrompt (plan : RunPlan) : Play σ Document := do
  openBrowser plan.browser
  modify fun session => { session with page := some plan.page }
  if plan.settings.selfHealing then enableHealing
  let document ← loadFile plan.prompt.text plan.prompt
  printText plan [.plain s!"[bold]Running {document.steps.length} step(s)...[/bold]\n"]
  return document

theorem performPrompt_eq (plan : RunPlan) :
    (performPrompt plan : Play σ Unit) = (do
      let _ ← loadPrompt plan
      let _ ← execute) := by
  unfold performPrompt loadPrompt
  split
  all_goals simp only [bind_assoc, pure_bind]

/-- Loading the prompt leads where its parts do. -/
theorem loadPrompt_confined {onward : Session σ → Session σ → Prop} {faults : Fault → Prop}
    {plan : RunPlan} (order : Session.Onward onward)
    (opens : Confined onward faults (openBrowser plan.browser : Play σ Unit))
    (pages : ∀ (session : Session σ) page, onward session { session with page })
    (enables : Confined onward faults (enableHealing : Play σ Unit))
    (loads : Confined onward faults (loadFile plan.prompt.text plan.prompt : Play σ Document))
    (prints : ∀ (session : Session σ) console, onward session { session with console }) :
    Confined onward faults (loadPrompt plan : Play σ Document) := by
  have rest : Confined onward faults (do
      let document ← loadFile plan.prompt.text plan.prompt
      printText plan [.plain s!"[bold]Running {document.steps.length} step(s)...[/bold]\n"]
      return document : Play σ Document) :=
    .bind order loads fun _ => .bind order (.ite (.change fun session => prints session _)
      (.pure order ())) fun _ => .pure order _
  refine .bind order opens fun _ => .bind order (.change fun session => pages session _) fun _ => ?_
  split
  · exact .bind order enables fun _ => rest
  · exact rest

section Working

/-- What the work of a run leads to: requests and calls to the page, and the browser is as open as
before. -/
def Works (session after : Session σ) : Prop :=
  session.Did (fun call => call.isOfPage = true ∨ call.isRequest = true) after ∧
    after.browser = session.browser

theorem works_order : Session.Onward (Works : Session σ → Session σ → Prop) :=
  Session.Did.order.and (.view (·.browser))

theorem Silent.works {α : Type} {play : Play σ α} (silent : Silent play) :
    Confined Works (fun _ => True) play :=
  silent.confined fun _ _ => ⟨.of_eq rfl rfl, rfl⟩

theorem attachHealer_works : Confined Works (fun _ => True) (attachHealer : Play σ Unit) := by
  refine ⟨fun session => ?_, fun _ _ _ => trivial⟩
  rw [attachHealer, bind_apply_of_ok (get_apply session)]
  split
  · exact ⟨.of_eq rfl rfl, rfl⟩
  · exact ⟨.of_eq rfl rfl, rfl⟩

theorem enableHealing_works : Confined Works (fun _ => True) (enableHealing : Play σ Unit) :=
  .bind works_order (.change fun _ => ⟨.of_eq rfl rfl, rfl⟩) fun _ =>
    .bind works_order attachHealer_works fun _ => (Silent.note _ _ _).works

theorem load_works (document : Document) :
    Confined Works (fun _ => True) (load document : Play σ Document) := by
  have order := works_order (σ := σ)
  have rest : Confined Works (fun _ => True) (do
      noteMisses document.misses
      note .info .steps s!"Parsed {document.steps.length} steps"
      return document : Play σ Document) :=
    Silent.works (.bind (noteMisses_silent _) fun _ => .bind (.note _ _ _) fun _ => .pure _)
  refine .bind order (.change fun _ => ⟨.of_eq rfl rfl, rfl⟩) fun _ => .look fun session => ?_
  split
  · exact .bind order (Silent.note _ _ _).works fun _ =>
      .bind order enableHealing_works fun _ => rest
  · exact rest

theorem loadFile_works (name : String) (path : Path) :
    Confined Works (fun _ => True) (loadFile name path : Play σ Document) := by
  refine .bind works_order (Silent.note _ _ _).works fun _ => .look fun session => ?_
  split
  · exact load_works _
  · exact .fail works_order trivial

/-- A step makes requests or calls to the page. -/
theorem executeStep_works (step : Step) :
    Confined Works (fun _ => True) (executeStep step : Play σ StepReport) := by
  refine ⟨fun session => ?_, fun _ _ _ => trivial⟩
  obtain ⟨reports, log, after⟩ := executeStep_after step session
  obtain ⟨allowed, -⟩ :=
    (carryOut_within session.client step).allows (announced step session) rfl
  obtain ⟨made, calls, kinds⟩ := allowed.calls
  rw [after]
  refine ⟨⟨allowed.outside, made, calls, fun call member => ?_⟩, allowed.frame.browser⟩
  exact (kinds call member).elim (fun request => .inr request.2) fun page => .inl page.2

theorem execute_works :
    Confined Works (fun _ => True) (execute : Play σ (List StepReport)) :=
  execute_confined works_order (fun _ _ => ⟨.of_eq rfl rfl, rfl⟩) executeStep_works

/-- **A run works between opening and closing.** All that a run does to the world outside once it
opened the browser, or failed to, is to make requests and calls to the page. -/
theorem performPrompt_works (plan : RunPlan) (ready : Session σ) :
    Works (openBrowser plan.browser ready).2 (performPrompt plan ready).2 := by
  have order := works_order (σ := σ)
  rcases opened : openBrowser plan.browser ready with ⟨fault | _, after⟩
  · rw [performPrompt, bind_apply_of_error opened]
    exact order.refl after
  · rw [performPrompt, bind_apply_of_ok opened]
    have paged : Confined Works (fun _ => True) (modify fun session =>
        { session with page := some plan.page } : Play σ Unit) :=
      .change fun _ => ⟨.of_eq rfl rfl, rfl⟩
    refine Confined.leads (.bind order paged fun _ => ?_) after
    have rest : Confined Works (fun _ => True) (do
        let document ← loadFile plan.prompt.text plan.prompt
        printText plan [.plain s!"[bold]Running {document.steps.length} step(s)...[/bold]\n"]
        let _ ← execute : Play σ Unit) := by
      refine .bind order (loadFile_works _ _) fun _ => .bind order (.ite ?_ (.pure order ()))
        fun _ => .bind order execute_works fun _ => .pure order ()
      exact .change fun _ => ⟨.of_eq rfl rfl, rfl⟩
    split
    · exact .bind order enableHealing_works fun _ => rest
    · exact rest

theorem performPrompt_later (plan : RunPlan) (ready : Session σ) :
    Outside.Later ready.outside (performPrompt plan ready).2.outside :=
  ((openBrowser_opens plan.browser).leads ready).1.outside.trans
    (performPrompt_works plan ready).1.outside

end Working

end Play

/-- A run gets through its prompt: it is loaded, and executed to its end. -/
def RunPlan.Executes (plan : RunPlan) (ready : Session σ) : Prop :=
  ∃ document loaded reports, Play.loadPrompt plan ready = (.ok document, loaded) ∧
    (Play.execute loaded).1 = .ok reports

namespace Play

section Executing

variable {plan : RunPlan} {ready session : Session σ}

/-- Executing a prompt that was just loaded comes to its end exactly if the reports say of each of
its steps that it passed. -/
theorem execute_ok_iff (fresh : session.reports = []) :
    (∃ reports, (execute session).1 = .ok reports) ↔
      List.Forall₂ StepReport.SaysPassed session.document.steps (execute session).2.reports := by
  rcases ended : executeSteps session.document.steps (started session) with ⟨fault | _, after⟩
  · obtain ⟨final, closed, same⟩ := execute_of_error ended
    obtain ⟨stop, reports, -, leaves, added, -⟩ := executeSteps_stop ended
    have left : final.reports = reports := by
      rw [same.reports, added, show (started session).reports = [] from fresh, List.nil_append]
    rw [closed]
    refine iff_of_false (by rintro ⟨_, ⟨⟩⟩) fun passed => ?_
    simp only at passed
    rw [left] at passed
    -- The step where it stops has no report, or one that does not say that it passed.
    unfold Stop.Leaves at leaves
    split at leaves
    · have count := passed.length_eq.trans leaves.length_eq.symm
      have longer := congrArg List.length stop.place
      rw [List.length_append, List.length_cons] at longer
      omega
    · obtain ⟨before, last, rfl, -, failed⟩ := leaves
      have verdict := StepReport.SaysPassed.all passed last (by simp)
      rw [failed.passed] at verdict
      cases verdict
  · obtain ⟨final, closed, same⟩ := execute_of_ok ended
    obtain ⟨reports, passed, added, -⟩ := executeSteps_reports_of_ok ended
    rw [closed]
    refine iff_of_true ⟨_, rfl⟩ ?_
    simp only
    rw [same.reports, added, show (started session).reports = [] from fresh, List.nil_append]
    exact passed

/-- A prompt that is loaded is the prompt of the session, and has no reports yet. -/
theorem loadPrompt_returns (plan : RunPlan) (ready : Session σ) :
    Returns (loadPrompt plan) ready fun document loaded =>
      loaded.document = document ∧ loaded.reports = [] := by
  have rest (session : Session σ) : Returns (do
      let document ← loadFile plan.prompt.text plan.prompt
      printText plan [.plain s!"[bold]Running {document.steps.length} step(s)...[/bold]\n"]
      return document : Play σ Document) session fun document loaded =>
        loaded.document = document ∧ loaded.reports = [] := by
    rcases read : session.disk.document plan.prompt with fault | document
    · have failed := (loadFile_of_error read plan.prompt.text).1
      intro value after ended
      rw [bind_apply_of_error (Prod.ext failed rfl)] at ended
      cases ended
    · have loaded := loadFile_loaded read plan.prompt.text
      obtain ⟨console, printed⟩ := printText_apply plan
        [.plain s!"[bold]Running {document.steps.length} step(s)...[/bold]\n"]
        (loadFile plan.prompt.text plan.prompt session).2
      exact .step (Prod.ext loaded.value rfl) (.step printed
        (.pure ⟨loaded.document, loaded.reports⟩))
  refine .bind (.any _) fun _ _ _ => .bind (.any _) fun _ _ _ => ?_
  split
  · exact .bind (.any _) fun _ _ _ => rest _
  · exact rest _

theorem performPrompt_of_loaded {document : Document}
    (loaded : loadPrompt plan ready = (.ok document, session)) :
    (performPrompt plan ready).2 = (execute session).2 ∧
      ((performPrompt plan ready).1 = .ok () ↔ ∃ reports, (execute session).1 = .ok reports) := by
  rw [performPrompt_eq, bind_apply_of_ok loaded]
  rcases executed : execute session with ⟨fault | reports, after⟩
  · rw [bind_apply_of_error executed]
    exact ⟨rfl, iff_of_false (by rintro ⟨⟩) (by rintro ⟨_, ⟨⟩⟩)⟩
  · rw [bind_apply_of_ok executed]
    exact ⟨rfl, iff_of_true rfl ⟨reports, rfl⟩⟩

/-- Performing its prompt ends well exactly if a run gets through it. -/
theorem performPrompt_ok_iff : (performPrompt plan ready).1 = .ok () ↔ plan.Executes ready := by
  constructor
  · intro performed
    rcases loaded : loadPrompt plan ready with ⟨fault | document, after⟩
    · rw [performPrompt_eq, bind_apply_of_error loaded] at performed
      cases performed
    · obtain ⟨reports, executed⟩ := (performPrompt_of_loaded loaded).2.mp performed
      exact ⟨document, after, reports, loaded, executed⟩
  · rintro ⟨document, after, reports, loaded, executed⟩
    exact (performPrompt_of_loaded loaded).2.mpr ⟨reports, executed⟩

/-- A run gets through its prompt exactly if it loads it and leaves reports that each of its steps
passed. -/
theorem executes_iff : plan.Executes ready ↔
    ∃ document loaded, loadPrompt plan ready = (.ok document, loaded) ∧
      List.Forall₂ StepReport.SaysPassed document.steps (performPrompt plan ready).2.reports := by
  have passed {document : Document} {after : Session σ}
      (loaded : loadPrompt plan ready = (.ok document, after)) :
      (∃ reports, (execute after).1 = .ok reports) ↔
        List.Forall₂ StepReport.SaysPassed document.steps (performPrompt plan ready).2.reports := by
    obtain ⟨rfl, fresh⟩ := loadPrompt_returns plan ready document after loaded
    rw [(performPrompt_of_loaded loaded).1]
    exact execute_ok_iff fresh
  constructor
  · rintro ⟨document, after, reports, loaded, executed⟩
    exact ⟨document, after, loaded, (passed loaded).mp ⟨reports, executed⟩⟩
  · rintro ⟨document, after, loaded, verdicts⟩
    obtain ⟨reports, executed⟩ := (passed loaded).mpr verdicts
    exact ⟨document, after, reports, loaded, executed⟩

end Executing

end Play

end Walkthrough
