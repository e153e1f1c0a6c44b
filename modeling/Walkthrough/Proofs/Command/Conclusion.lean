import Walkthrough.Command.Run
import Walkthrough.Proofs.Page.Scope
import Walkthrough.Proofs.Session.Browser
import Walkthrough.Proofs.Session.Returns

/-!
# How a run is concluded

A run that passed or failed is summed up, closed and delivered. In an orderly world summing it up
takes a screenshot at most, and closing it releases what is open and closes the client, each once
(`Walkthrough.Play.conclude_closes`). Delivering asks nothing any more, and can only be ended by a
text or a path that cannot be written at all (`Walkthrough.Play.deliver_rests`).
-/

namespace Walkthrough

/-- Whether a fault is one of those that writing a file can end with. -/
def Fault.isOfWriting : Fault → Bool
  | disk _ | unwritable _ => true
  | _ => false

variable {σ : Type}

theorem Play.makeDirectory_confined {onward : Session σ → Session σ → Prop} {faults : Fault → Prop}
    (order : Session.Onward onward)
    (leads : ∀ (session : Session σ) disk, onward session { session with disk })
    (refused : ∀ fault, faults (.disk fault)) (path : Path) :
    Play.Confined onward faults (Play.makeDirectory path : Play σ Unit) :=
  .onDisk order (·.makeDirectory path) leads refused

variable [Outside σ]

/-- How a session is left by a run that ends from it: after a screenshot at most, whatever is open
of the browser is released and the client is closed, each once, and nothing is asked any more. -/
structure Session.Closed (session closed : Session σ) : Prop where
  calls : ∃ shots, closed.calls =
      session.calls ++ shots ++ session.browser.releases ++ [.closeClient] ∧
    ∀ call ∈ shots, call.isOfPage = true
  browser : closed.browser = {}
  reports : closed.reports = session.reports

namespace Play

section Concluding

/-- What taking a screenshot leads to: calls to the page, and neither the browser nor the reports
change. -/
def Snaps (session after : Session σ) : Prop :=
  session.Did (·.isOfPage = true) after ∧
    (after.browser = session.browser ∧ after.reports = session.reports)

theorem snaps_order : Session.Onward (Snaps : Session σ → Session σ → Prop) :=
  Session.Did.order.and ((Session.Onward.view (·.browser)).and (.view (·.reports)))

/-- Taking a screenshot leads where the call for it does, the disk, and the log. -/
theorem takeScreenshot_confined {onward : Session σ → Session σ → Prop}
    (order : Session.Onward onward)
    (asks : ∀ path, Confined onward (fun _ => True)
      (ask (.screenshot path) : Play σ (Call.screenshot path).Answer))
    (leads : ∀ (session : Session σ) disk log, onward session { session with disk, log })
    (name : String) :
    Confined onward (fun _ => True) (takeScreenshot name : Play σ (Option Path)) := by
  have notes (level : LogLevel) (source : LogSource) (message : String) :
      Confined onward (fun _ => True) (note level source message : Play σ Unit) :=
    .note (fun session log => leads session session.disk log) level source message
  have makes (path : Path) : Confined onward (fun _ => True) (makeDirectory path : Play σ Unit) :=
    makeDirectory_confined order (fun session disk => leads session disk session.log)
      (fun _ => trivial) path
  refine .bind order (.look fun _ => .pure order _) fun settings => ?_
  split
  · exact .bind order (notes _ _ _) fun _ => .pure order _
  · exact .bind order (makes _) fun _ => .bind order (asks _) fun _ =>
      .bind order (notes _ _ _) fun _ => .pure order _

theorem takeScreenshot_snaps (name : String) :
    Confined Snaps (fun _ => True) (takeScreenshot name : Play σ (Option Path)) := by
  refine takeScreenshot_confined snaps_order (fun path => ?_)
    (fun _ _ _ => ⟨.of_eq rfl rfl, rfl, rfl⟩) name
  have ofPage : (Call.screenshot path).isOfPage = true := rfl
  refine ⟨fun session => ⟨.ask _ ofPage session, ?_⟩, fun _ _ _ => trivial⟩
  rw [ask_apply]
  exact ⟨rfl, rfl⟩

/-- In an orderly world no screenshot is interrupted. -/
theorem takeScreenshot_fails {session : Session σ} (orderly : Outside.Orderly session.outside)
    {name : String} {fault : Fault} (failed : (takeScreenshot name session).1 = .error fault) :
    fault.isInterrupt = false := by
  have settings : pageSettings session = (.ok (session.page.getD {}), session) := rfl
  rw [takeScreenshot, bind_apply_of_ok settings] at failed
  rcases placed : (session.page.getD {}).screenshotDir with _ | directory
  · simp only [placed] at failed
    cases failed
  · simp only [placed] at failed
    -- The disk may refuse the directory, which is no interrupt. So only the call itself matters.
    have made : Confined Snaps (fun fault => fault.isInterrupt = false)
        (makeDirectory directory : Play σ Unit) :=
      makeDirectory_confined snaps_order (fun _ _ => ⟨.of_eq rfl rfl, rfl, rfl⟩) (fun _ => rfl) _
    have leads := made.leads session
    have fails := made.fails session
    rcases ended : makeDirectory directory session with ⟨refusal | _, ready⟩
    · rw [ended] at fails
      rw [bind_apply_of_error ended] at failed
      cases failed
      exact fails _ rfl
    · rw [ended] at leads
      rw [bind_apply_of_ok ended] at failed
      have kept := orderly.screenshot leads.1.outside (Screenshot.place directory name)
      have asked := ask_apply (.screenshot (Screenshot.place directory name)) ready
      rcases answer : (Outside.reply (.screenshot (Screenshot.place directory name))
        ready.outside).1 with mishap | _
      · rw [answer] at asked kept
        rw [bind_apply_of_error asked] at failed
        cases failed
        cases mishap with
        | interrupt message => exact (kept message rfl).elim
        | failure => rfl
      · rw [answer] at asked
        rw [bind_apply_of_ok asked] at failed
        cases failed

/-- In an orderly world a failure is captured as far as that can be done. -/
theorem captureFailure_ok {session : Session σ} (orderly : Outside.Orderly session.outside)
    (plan : RunPlan) : (captureFailure plan session).1 = .ok () := by
  rw [captureFailure, bind_apply_of_ok (get_apply session)]
  split
  · rcases taken : takeScreenshot "failure" session with ⟨fault | path, after⟩
    · have caught := takeScreenshot_fails orderly (congrArg Prod.fst taken)
      rw [recover_apply_of_failure (bind_apply_of_error taken _) caught, note_apply]
    · rw [recover_apply_of_ok (bind_apply_of_ok taken _)]
  · rfl

/-- The screenshot that a run is summed up with, if it failed. -/
def capture (plan : RunPlan) (failure : Option Fault) : Play σ Unit :=
  if failure.isSome then captureFailure plan else pure ()

/-- Capturing a failure leads where taking a screenshot does, and the log. -/
theorem capture_confined {onward : Session σ → Session σ → Prop} (order : Session.Onward onward)
    (takes : Confined onward (fun _ => True) (takeScreenshot "failure" : Play σ (Option Path)))
    (notes : ∀ (session : Session σ) log, onward session { session with log }) (plan : RunPlan)
    (failure : Option Fault) :
    Confined onward (fun _ => True) (capture plan failure : Play σ Unit) := by
  refine .ite (.look fun session => .ite ?_ (.pure order ())) (.pure order ())
  exact .recover order (.bind order takes fun _ => .pure order ()) (fun _ _ _ => trivial)
    fun _ _ => .note notes _ _ _

theorem capture_snaps (plan : RunPlan) (failure : Option Fault) :
    Confined Snaps (fun _ => True) (capture plan failure : Play σ Unit) :=
  capture_confined snaps_order (takeScreenshot_snaps _) (fun _ _ => ⟨.of_eq rfl rfl, rfl, rfl⟩)
    plan failure

theorem capture_ok {session : Session σ} (orderly : Outside.Orderly session.outside)
    (plan : RunPlan) (failure : Option Fault) : (capture plan failure session).1 = .ok () := by
  rw [capture]
  split
  · exact captureFailure_ok orderly plan
  · rfl

section Summary

variable {plan : RunPlan} {started : Instant} {start : Float} {failure : Option Fault}
  {session after : Session σ}

theorem summarize_eq : (summarize plan started start failure : Play σ RunResult) = (do
    capture plan failure
    let seconds := (← clock) - start
    return plan.result (← get) failure.isNone started (← now) seconds) := by
  unfold summarize capture
  split
  all_goals simp only [pure_bind]

/-- A run that is summed up passed if there is no failure, with the reports that there are. -/
theorem summarize_returns (session : Session σ) :
    Returns (summarize plan started start failure) session fun result _ =>
      result.passed = failure.isNone ∧ result.stepReports = session.reports := by
  rw [summarize_eq]
  refine .bind (fun _ after captured => ?_ : Returns (capture plan failure) session
    fun _ after => after.reports = session.reports) fun _ after same => ?_
  · have leads := (capture_snaps plan failure).leads session
    rw [captured] at leads
    exact leads.2.2
  · exact .step (clock_apply after) (.step (get_apply after) (.step (now_apply after)
      (.pure ⟨rfl, same⟩)))

/-- In an orderly world a run is always summed up. -/
theorem summarize_sums (orderly : Outside.Orderly session.outside) :
    ∃ result after, summarize plan started start failure session = (.ok result, after) ∧
      Snaps session after := by
  have leads := (capture_snaps plan failure).leads session
  have ended := capture_ok orderly plan failure
  rcases captured : capture plan failure session with ⟨_, after⟩
  rw [captured] at leads ended
  cases ended
  rw [summarize_eq, bind_apply_of_ok captured, bind_apply_of_ok (clock_apply after),
    bind_apply_of_ok (get_apply after), bind_apply_of_ok (now_apply after), pure_apply]
  exact ⟨_, after, rfl, leads⟩

end Summary

/-- Closing down releases what is open of the browser and then closes the client, each once; nothing
else of the session changes but the log. -/
theorem closeDown_closes {session : Session σ} (orderly : Outside.Orderly session.outside) :
    ∃ world log, closeDown session = (.ok (), { session with
      outside := world
      calls := session.calls ++ session.browser.releases ++ [.closeClient]
      browser := {}
      log }) := by
  obtain ⟨world, later, released⟩ := closeBrowser_closes orderly.releasing
  obtain ⟨final, log, closed⟩ := closeClient_closes (orderly.later later : Outside.Orderly
    { session with
      outside := world
      calls := session.calls ++ session.browser.releases
      browser := {} }.outside)
  exact ⟨final, log, (bind_apply_of_ok released _).trans closed⟩

/-- **Concluding closes everything.** A run that is concluded in an orderly world is summed up and
closed before anything is delivered. -/
theorem conclude_closes {session : Session σ} (orderly : Outside.Orderly session.outside)
    (plan : RunPlan) (started : Instant) (start : Float) (failure : Option Fault) :
    ∃ result closed, thenAlways (summarize plan started start failure) closeDown session =
      (.ok result, closed) ∧ session.Closed closed := by
  obtain ⟨result, after, summed, ⟨outside, shots, calls, pages⟩, browser, reports⟩ :=
    summarize_sums orderly
  obtain ⟨world, log, closed⟩ := closeDown_closes (orderly.later outside)
  refine ⟨result, _, thenAlways_apply_of_ok summed closed, ⟨shots, ?_, pages⟩, rfl, reports⟩
  simp only [calls, browser]

end Concluding

section Delivering

section Saving

variable {onward : Session σ → Session σ → Prop}

omit [Outside σ]

theorem writeFile_confined (order : Session.Onward onward)
    (disks : ∀ (session : Session σ) disk, onward session { session with disk }) (path : Path)
    (text : String) :
    Confined onward (fun fault => fault.isOfWriting = true) (writeFile path text : Play σ Unit) := by
  have writes (octets : List UInt8) : Confined onward (fun fault => fault.isOfWriting = true)
      (writeOctets path octets : Play σ Unit) :=
    .onDisk order (·.write path octets) disks fun _ => rfl
  refine .bind order (writes []) fun _ => ?_
  split
  · exact .fail order rfl
  · exact writes _

/-- What cannot be written goes on as it is if it is the disk that refuses. -/
theorem unlessRefused_confined {α : Type} {play : Play σ α} {handler : Fault → Play σ α}
    (order : Session.Onward onward)
    (first : Confined onward (fun fault => fault.isOfWriting = true) play)
    (second : ∀ fault, Confined onward
      (fun fault => fault.isOfWriting = true ∧ fault.isRefusal = false) (handler fault)) :
    Confined onward (fun fault => fault.isOfWriting = true ∧ fault.isRefusal = false)
      (unlessRefused play handler) := by
  refine .recover order first (fun fault writing interrupt => ?_) fun fault writing => ?_
  · cases fault with
    | outside => cases writing
    | _ => cases interrupt
  · split
    · exact second fault
    · next kept => exact .fail order ⟨writing, Bool.eq_false_iff.mpr kept⟩

/-- Saving the report leads where the disk and the console do. -/
theorem saveReport_confined (order : Session.Onward onward)
    (leads : ∀ (session : Session σ) disk console, onward session { session with disk, console })
    (plan : RunPlan) (result : RunResult) :
    Confined onward (fun fault => fault.isOfWriting = true ∧ fault.isRefusal = false)
      (saveReport plan result : Play σ (Option Path)) := by
  have disks (session : Session σ) (disk : Disk) : onward session { session with disk } :=
    leads session disk session.console
  have makes (path : Path) : Confined onward (fun fault => fault.isOfWriting = true)
      (makeDirectory path : Play σ Unit) :=
    makeDirectory_confined order disks (fun _ => rfl) path
  refine unlessRefused_confined order (.bind order (makes _) fun _ => ?_) fun _ => ?_
  · exact .bind order (writeFile_confined order disks _ _) fun _ => .pure order _
  · exact .bind order (.change fun session => leads session session.disk _) fun _ => .pure order _

/-- Saving the test suite leads where the disk and the console do. -/
theorem saveSuite_confined (order : Session.Onward onward)
    (leads : ∀ (session : Session σ) disk console, onward session { session with disk, console })
    (plan : RunPlan) (result : RunResult) (path : Path) :
    Confined onward (fun fault => fault.isOfWriting = true ∧ fault.isRefusal = false)
      (saveSuite plan result path : Play σ Unit) := by
  have disks (session : Session σ) (disk : Disk) : onward session { session with disk } :=
    leads session disk session.console
  refine unlessRefused_confined order
    (.bind order (writeFile_confined order disks _ _) fun _ => .ite ?_ (.pure order ())) fun _ => ?_
  · exact .change fun session => leads session session.disk _
  · exact .change fun session => leads session session.disk _

end Saving

/-- What delivering leads to: nothing is asked of the world outside, and neither the browser nor the
reports change. -/
def Rests (session after : Session σ) : Prop :=
  after.calls = session.calls ∧ (after.browser = session.browser ∧ after.reports = session.reports)

omit [Outside σ]

theorem rests_order : Session.Onward (Rests : Session σ → Session σ → Prop) :=
  (Session.Onward.view (·.calls)).and ((Session.Onward.view (·.browser)).and (.view (·.reports)))

/-- A run that rests after it was closed stays closed. -/
theorem closed_of_rests {worked closed after : Session σ} (before : worked.Closed closed)
    (rests : Rests closed after) : worked.Closed after := by
  obtain ⟨calls, browser, reports⟩ := rests
  exact ⟨by rw [calls]; exact before.calls, browser.trans before.browser,
    reports.trans before.reports⟩

theorem showResult_rests {faults : Fault → Prop} (plan : RunPlan) (result : RunResult)
    (failure : Option Fault) (reportPath : Option Path) :
    Confined Rests faults (showResult plan result failure reportPath : Play σ Unit) := by
  unfold showResult
  split
  · exact .change fun _ => ⟨rfl, rfl, rfl⟩
  · exact .change fun _ => ⟨rfl, rfl, rfl⟩

/-- **Delivering asks nothing any more.** A fault can only end it if something cannot be written at
all, and not if the disk refuses it. -/
theorem deliver_rests (plan : RunPlan) (result : RunResult) (failure : Option Fault) :
    Confined Rests (fun fault => fault.isOfWriting = true ∧ fault.isRefusal = false)
      (deliver plan result failure : Play σ Nat) := by
  have order := rests_order (σ := σ)
  have leads (session : Session σ) (disk : Disk) (console : List Printed) :
      Rests session { session with disk, console } := ⟨rfl, rfl, rfl⟩
  refine .bind order (saveReport_confined order leads plan result) fun reportPath =>
    .bind order (showResult_rests plan result failure reportPath) fun _ => ?_
  cases plan.junit with
  | none => exact .pure order _
  | some path =>
      exact .bind order (saveSuite_confined order leads plan result path) fun _ => .pure order _

/-- A run that delivers ends with the exit code for its result. -/
theorem deliver_returns (plan : RunPlan) (result : RunResult) (failure : Option Fault)
    (session : Session σ) :
    Returns (deliver plan result failure) session fun code _ =>
      code = if result.passed then 0 else 1 := by
  refine .bind (.any _) fun _ _ _ => .bind (.any _) fun _ _ _ => ?_
  cases plan.junit with
  | some path => exact .bind (.any _) fun _ _ _ => .pure rfl
  | none => exact .pure rfl

end Delivering

/-- A run that is concluded ends with the exit code for its failure or for none. -/
theorem conclude_returns (plan : RunPlan) (started : Instant) (start : Float)
    (failure : Option Fault) (session : Session σ) :
    Returns (conclude plan started start failure) session fun code _ =>
      code = if failure.isNone then 0 else 1 := by
  refine .bind (.thenAlways (summarize_returns session) _) fun result after sums code final => ?_
  rw [← sums.1]
  exact deliver_returns plan result failure after code final

end Play

end Walkthrough
