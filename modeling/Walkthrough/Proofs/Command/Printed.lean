import Walkthrough.Proofs.Command.Outcome
import Walkthrough.Proofs.Report.Record
import Walkthrough.Proofs.Steps.Switch
import Walkthrough.Proofs.Steps.Writes

/-!
# What a run puts out

A run that is asked for JSON puts out nothing, or the text of its result. That text is a document of
the standard just if all durations in it and all doubles in its variables are finite: numbers of
answers that are none go into it as they are. From such a document it can be read back whether the
run got through its prompt, and the reports and the variables that it left
(`Walkthrough.Play.run_printed`).
-/

namespace Walkthrough

variable {σ : Type}

/-- How a run performed its prompt: whether it got through, with the reports and the variables that
it left. -/
def RunPlan.record [Outside σ] (plan : RunPlan) (ready : Session σ) : RunRecord where
  passed := (Play.performPrompt plan ready).1.isOk
  stepReports := (Play.performPrompt plan ready).2.reports
  vars := (Play.performPrompt plan ready).2.vars.entries

namespace Play

section Idling

/-- What leaves the variables as they are and puts nothing out. -/
def Idle (session after : Session σ) : Prop :=
  after.vars = session.vars ∧ after.output = session.output

theorem idle_order : Session.Onward (Idle : Session σ → Session σ → Prop) :=
  (Session.Onward.view (·.vars)).and (.view (·.output))

theorem enableHealing_idle : Confined Idle (fun _ => True) (enableHealing : Play σ Unit) := by
  refine ⟨fun session => ?_, fun _ _ _ => trivial⟩
  obtain ⟨log, ended⟩ := enableHealing_apply session
  rw [ended]
  exact ⟨rfl, rfl⟩

theorem loadFile_idle (name : String) (path : Path) :
    Confined Idle (fun _ => True) (loadFile name path : Play σ Document) := by
  refine ⟨fun session => ?_, fun _ _ _ => trivial⟩
  rcases read : session.disk.document path with fault | document
  · obtain ⟨log, ended⟩ := loadFile_refused read name
    rw [ended]
    exact ⟨rfl, rfl⟩
  · obtain ⟨log, ended⟩ := loadFile_of_ok read name
    rw [ended]
    exact ⟨rfl, rfl⟩

variable [Outside σ]

theorem ask_idle (call : Call) : Confined Idle (fun _ => True) (ask call : Play σ call.Answer) :=
  .ask (fun _ _ _ => ⟨rfl, rfl⟩) (fun _ => trivial) call

theorem loadPrompt_idle (plan : RunPlan) :
    Confined Idle (fun _ => True) (loadPrompt plan : Play σ Document) :=
  loadPrompt_confined idle_order
    (openBrowser_confined idle_order (fun call _ => ask_idle call) (fun _ _ _ => ⟨rfl, rfl⟩) _)
    (fun _ _ => ⟨rfl, rfl⟩) enableHealing_idle (loadFile_idle _ _) fun _ _ => ⟨rfl, rfl⟩

theorem capture_idle (plan : RunPlan) (failure : Option Fault) :
    Confined Idle (fun _ => True) (capture plan failure : Play σ Unit) :=
  capture_confined idle_order
    (takeScreenshot_confined idle_order (fun _ => ask_idle _) (fun _ _ _ => ⟨rfl, rfl⟩) _)
    (fun _ _ => ⟨rfl, rfl⟩) plan failure

theorem closeDown_idle : Confined Idle (fun _ => True) (closeDown : Play σ Unit) := by
  have order := idle_order (σ := σ)
  have releases (isOpen : Bool) (call : BrowserCall) :
      Confined Idle (fun _ => True) (release isOpen call : Play σ Unit) :=
    .ite (.recover order (ask_idle _) (fun _ _ _ => trivial) fun _ _ => .pure order ())
      (.pure order ())
  have browser : Confined Idle (fun _ => True) (closeBrowser : Play σ Unit) :=
    .look fun _ => .bind order (releases _ _) fun _ => .bind order (releases _ _) fun _ =>
      .bind order (releases _ _) fun _ => .change fun _ => ⟨rfl, rfl⟩
  exact .bind order browser fun _ => .bind order (ask_idle _) fun _ =>
    .note (fun _ _ => ⟨rfl, rfl⟩) _ _ _

end Idling

section Performing

variable [Outside σ]

theorem executeStep_output (step : Step) :
    Confined (fun session after => after.output = session.output) (fun _ => True)
      (executeStep step : Play σ StepReport) := by
  refine ⟨fun session => ?_, fun _ _ _ => trivial⟩
  obtain ⟨reports, log, after⟩ := executeStep_after step session
  rw [after]
  exact (carryOut_frame step (announced step session)).output

/-- Performing a prompt puts nothing out, and if every name is there once before, it is so after. -/
theorem performPrompt_unprinted (plan : RunPlan) (ready : Session σ) :
    (performPrompt plan ready).2.output = ready.output ∧
      (ready.vars.Once → (performPrompt plan ready).2.vars.Once) := by
  obtain ⟨vars, output⟩ := (loadPrompt_idle plan).leads ready
  rcases loaded : loadPrompt plan ready with ⟨fault | document, session⟩
  · rw [loaded] at vars output
    rw [performPrompt_eq, bind_apply_of_error loaded]
    exact ⟨output, fun once => vars ▸ once⟩
  · rw [loaded] at vars output
    have executed : Confined (fun session after => after.output = session.output) (fun _ => True)
        (execute : Play σ (List StepReport)) :=
      execute_confined (.view (·.output)) (fun _ _ => rfl) executeStep_output
    rw [(performPrompt_of_loaded loaded).1]
    exact ⟨(executed.leads session).trans output, fun once => execute_once (vars ▸ once)⟩

end Performing

section Delivering

/-- How a run that is put out as JSON ends: it leaves the variables as they are, and puts nothing
out and does not end well, or it puts out the text of a result. -/
def PutsOut (results : RunResult → Prop) (session : Session σ)
    (ended : Except Fault Nat × Session σ) : Prop :=
  ended.2.vars = session.vars ∧
    ((ended.1 ≠ .ok 0 ∧ ended.2.output = session.output) ∨
      ∃ result reportPath, results result ∧
        ended.2.output = session.output ++ result.printed reportPath)

theorem PutsOut.of_idle {results : RunResult → Prop} {session : Session σ}
    {ended : Except Fault Nat × Session σ} (idle : Idle session ended.2) (stops : ended.1 ≠ .ok 0) :
    PutsOut results session ended :=
  ⟨idle.1, Or.inl ⟨stops, idle.2⟩⟩

theorem PutsOut.after {results : RunResult → Prop} {session middle : Session σ}
    {ended : Except Fault Nat × Session σ} (idle : Idle session middle)
    (putsOut : PutsOut results middle ended) : PutsOut results session ended := by
  obtain ⟨vars, output⟩ := idle
  rw [PutsOut, ← vars, ← output]
  exact putsOut

/-- What is delivered as JSON is the text of the result, unless there is an end to it when the
report is saved. -/
theorem deliver_putsOut {plan : RunPlan} (json : plan.form = .json) (result : RunResult)
    (failure : Option Fault) (session : Session σ) :
    PutsOut (· = result) session (deliver plan result failure session) := by
  have leads (session : Session σ) (disk : Disk) (console : List Printed) :
      Idle session { session with disk, console } := ⟨rfl, rfl⟩
  have saving := (saveReport_confined idle_order leads plan result).leads session
  rw [deliver]
  rcases saved : saveReport plan result session with ⟨fault | reportPath, middle⟩
  · rw [saved] at saving
    rw [bind_apply_of_error saved]
    exact .of_idle saving (by rintro ⟨⟩)
  · rw [saved] at saving
    have shown : showResult plan result failure reportPath middle = (.ok (), { middle with
        output := middle.output ++ result.printed reportPath }) := by
      rw [showResult, json]
      rfl
    have putsOut {rest : Play σ Nat} (idles : Confined Idle (fun _ => True) rest) :
        PutsOut (· = result) session
          (rest { middle with output := middle.output ++ result.printed reportPath }) := by
      obtain ⟨vars, output⟩ := idles.leads
        { middle with output := middle.output ++ result.printed reportPath }
      exact .after saving ⟨vars, Or.inr ⟨result, reportPath, rfl, output⟩⟩
    have order := idle_order (σ := σ)
    rw [bind_apply_of_ok saved, bind_apply_of_ok shown]
    cases plan.junit with
    | none => exact putsOut (.bind order (.pure order ()) fun _ => .pure order _)
    | some path =>
        exact putsOut (.bind order ((saveSuite_confined order leads plan result path).weaken
          (fun _ _ => id) fun _ _ => trivial) fun _ => .pure order _)

end Delivering

section Running

variable [Outside σ] {plan : RunPlan} {ready worked closed : Session σ} {failure : Option Fault}
  {result : RunResult}

/-- A run is summed up by its verdict, its reports and its variables. -/
theorem summarize_record (plan : RunPlan) (started : Instant) (start : Float)
    (failure : Option Fault) (session : Session σ) :
    Returns (summarize plan started start failure) session fun result _ =>
      result.record = ⟨failure.isNone, session.reports, session.vars.entries⟩ := by
  rw [summarize_eq]
  refine .bind (fun _ after captured => ?_ : Returns (capture plan failure) session
    fun _ after => after.reports = session.reports ∧ after.vars = session.vars) fun _ after same => ?_
  · have snaps := (capture_snaps plan failure).leads session
    have idle := (capture_idle plan failure).leads session
    rw [captured] at snaps idle
    exact ⟨snaps.2.2, idle.1⟩
  · refine .step (clock_apply after) (.step (get_apply after) (.step (now_apply after) (.pure ?_)))
    rw [← same.1, ← same.2]
    rfl

theorem concluding_idle (plan : RunPlan) (started : Instant) (start : Float)
    (failure : Option Fault) :
    Confined Idle (fun _ => True)
      (thenAlways (summarize plan started start failure) closeDown : Play σ RunResult) := by
  have order := idle_order (σ := σ)
  rw [summarize_eq]
  exact .thenAlways order (.bind order (capture_idle plan failure) fun _ =>
    .bind order (.look fun _ => .pure order _) fun _ => .look fun _ =>
      .bind order (.look fun _ => .pure order _) fun _ => .pure order _) closeDown_idle

/-- A run is concluded with what its prompt left. -/
theorem concludes_record (concludes : plan.Concludes ready failure worked) :
    plan.record ready = ⟨failure.isNone, worked.reports, worked.vars.entries⟩ := by
  cases concludes with
  | passed performed =>
      rw [RunPlan.record, performed]
      rfl
  | @failed fault session performed =>
      obtain ⟨log, same⟩ := session.unexpected_eq fault
      rw [RunPlan.record, performed, same]
      rfl

/-- A run that reaches its artifacts delivers a result that records how it performed its prompt. -/
theorem record_of_reaches (reaches : plan.Reaches ready failure result closed) :
    result.record = plan.record ready := by
  obtain ⟨worked, concludes, summed⟩ := reaches
  rw [concludes_record concludes]
  exact Returns.thenAlways (summarize_record plan _ _ failure worked) closeDown result closed summed

/-- A run that is concluded puts out what it is summed up as. -/
theorem conclude_putsOut (json : plan.form = .json) (started : Instant) (start : Float)
    (failure : Option Fault) (session : Session σ) :
    PutsOut (fun result => ∃ closed,
        thenAlways (summarize plan started start failure) closeDown session = (.ok result, closed))
      session (conclude plan started start failure session) := by
  have idle := (concluding_idle plan started start failure).leads session
  rw [conclude]
  rcases summed : thenAlways (summarize plan started start failure) closeDown session with
    ⟨fault | result, closed⟩
  · rw [summed] at idle
    rw [bind_apply_of_error summed]
    exact .of_idle idle (by rintro ⟨⟩)
  · rw [summed] at idle
    rw [bind_apply_of_ok summed]
    obtain ⟨vars, stops | ⟨_, reportPath, rfl, output⟩⟩ :=
      deliver_putsOut json result failure closed
    · exact .after idle ⟨vars, Or.inl stops⟩
    · exact .after idle ⟨vars, Or.inr ⟨_, reportPath, ⟨closed, rfl⟩, output⟩⟩

/-- **What is put out of a run.** A run that is put out as JSON puts out the text of the result that
it reaches, or nothing; it only ends well if it puts something out. -/
theorem carryOutRun_putsOut (json : plan.form = .json) (ready : Session σ) :
    PutsOut (fun result => ∃ failure closed, plan.Reaches ready failure result closed)
      (performPrompt plan ready).2 (carryOutRun plan ready) := by
  have course := carryOutRun_course plan ready
  have performed_of_zero (ended : (carryOutRun plan ready).1 = .ok 0) :
      (performPrompt plan ready).1 = .ok () :=
    RunPlan.codeFor_eq_zero.mp (carryOutRun_returns plan ready 0 _ (Prod.ext ended rfl)).symm
  have order := idle_order (σ := σ)
  generalize carryOutRun plan ready = outcome at course performed_of_zero
  cases course with
  | @interrupted message worked performed =>
      rw [performed] at performed_of_zero ⊢
      have told : Confined Idle (fun _ => True) (concludeInterrupted : Play σ Nat) :=
        .bind order (.change fun _ => ⟨rfl, rfl⟩) fun _ =>
          .bind order closeDown_idle fun _ => .pure order _
      exact .of_idle (told.leads worked) fun ended => by cases performed_of_zero ended
  | @withoutPrompt cause worked performed ofFile =>
      rw [performed] at performed_of_zero ⊢
      have complained : Confined Idle (fun _ => True) (concludeWithoutPrompt cause : Play σ Nat) :=
        .bind order closeDown_idle fun _ =>
          .bind order (.change fun _ => ⟨rfl, rfl⟩) fun _ => .pure order _
      exact .of_idle (complained.leads worked) fun ended => by cases performed_of_zero ended
  | @concluded failure worked concludes =>
      have noted : Idle (performPrompt plan ready).2 worked := by
        obtain ⟨log, same⟩ := concludes.worked_eq
        rw [same]
        exact ⟨rfl, rfl⟩
      obtain ⟨vars, stops | ⟨result, reportPath, ⟨closed, summed⟩, output⟩⟩ :=
        conclude_putsOut json (Outside.now ready.outside) (Outside.clock ready.outside) failure
          worked
      · exact .after noted ⟨vars, Or.inl stops⟩
      · exact .after noted ⟨vars, Or.inr ⟨result, reportPath,
          ⟨failure, closed, worked, concludes, summed⟩, output⟩⟩

/-- Getting ready puts nothing out. -/
theorem prepareRun_output (plan : RunPlan) (session : Session σ) :
    (prepareRun plan session).2.output = session.output := by
  have order : Session.Onward fun session after : Session σ => after.output = session.output :=
    .view (·.output)
  have header : Confined (fun session after => after.output = session.output) (fun _ => True)
      (showHeader plan : Play σ Unit) := by
    refine ⟨fun session => ?_, fun _ _ _ => trivial⟩
    obtain ⟨console, left⟩ := showHeader_leaves plan session
    rw [left]
  have afresh : Confined (fun session after => after.output = session.output) (fun _ => True)
      (startAfresh : Play σ Unit) :=
    .bind order (.look fun _ => .pure order _) fun _ => .change fun _ => rfl
  have prepared : Confined (fun session after => after.output = session.output) (fun _ => True)
      (prepareRun plan : Play σ Unit) := by
    refine .bind order header fun _ => .bind order afresh fun _ => ?_
    cases plan.client with
    | error fault => exact .fail order trivial
    | ok client => exact .bind order (.change fun _ => rfl) fun _ => .note (fun _ _ => rfl) _ _ _
  exact prepared.leads session

/-- A run that starts performs its prompt with nothing put out and every name there once, and puts
out a result that it reaches. -/
theorem run_putsOut {order : RunOrder} {usual : String} {session : Session σ}
    (asked : order.form = "json") (starts : order.Starts usual session plan ready) :
    (performPrompt plan ready).2.output = session.output ∧
      (performPrompt plan ready).2.vars.Once ∧
      PutsOut (fun result => ∃ failure closed, plan.Reaches ready failure result closed)
        (performPrompt plan ready).2 (run order usual session) := by
  have json : plan.form = .json := by
    have form := starts.form
    rw [asked] at form
    exact (Option.some.inj form).symm
  obtain ⟨client, console, log, started, same⟩ :=
    (prepareRun_leaves plan session).2 ready starts.prepared
  have before : ready.output = session.output := by rw [same]
  have fresh : ready.vars.Once := by
    rw [same]
    exact ⟨List.nodup_nil, trivial⟩
  obtain ⟨output, once⟩ := performPrompt_unprinted plan ready
  rw [run_of_starts starts]
  exact ⟨output.trans before, once fresh, carryOutRun_putsOut json ready⟩

/-- **What a run puts out can be read back.** A run that is asked for JSON puts out nothing and does
not end well, or it puts out the text of its result. That text is a document of the standard just if
the duration of the run, those of its reports and all doubles in its variables are finite. From the
document it can be read back whether the run got through its prompt, and which reports and which
variables it left: exactly, if their texts have no halves of characters to join, and else with the
halves joined. -/
theorem run_printed {order : RunOrder} {usual : String} {session : Session σ}
    (asked : order.form = "json") :
    ((run order usual session).1 ≠ .ok 0 ∧
      (run order usual session).2.output = session.output) ∨
    ∃ (plan : RunPlan) (ready : Session σ) (failure : Option Fault) (result : RunResult)
      (closed : Session σ) (reportPath : Option Path),
      order.Starts usual session plan ready ∧ plan.Reaches ready failure result closed ∧
      (run order usual session).2.output = session.output ++ result.printed reportPath ∧
      (Json.Standard.decode? (result.printed reportPath)).isSome =
        (result.seconds.isFinite && (plan.record ready).isFinite) ∧
      ((plan.record ready).passed = true ↔ plan.Executes ready) ∧
      ∀ value, Json.Standard.decode? (result.printed reportPath) = some value →
        RunRecord.ofJson? value = some (plan.record ready).joined ∧
        ((plan.record ready).Tidy → RunRecord.ofJson? value = some (plan.record ready)) := by
  by_cases starting : ∃ plan ready, order.Starts usual session plan ready
  · obtain ⟨plan, ready, starts⟩ := starting
    obtain ⟨unprinted, once, -, ⟨stops, output⟩ |
      ⟨result, reportPath, ⟨failure, closed, reaches⟩, output⟩⟩ := run_putsOut asked starts
    · exact Or.inl ⟨stops, output.trans unprinted⟩
    · obtain ⟨valid, reads⟩ := result.decode?_printed reportPath
      rw [record_of_reaches reaches] at valid reads
      rw [unprinted] at output
      refine Or.inr ⟨plan, ready, failure, result, closed, reportPath, starts, reaches, output,
        valid, ?_, ?_⟩
      · rw [← performPrompt_ok_iff, RunPlan.record]
        cases (performPrompt plan ready).1 with
        | ok => exact iff_of_true rfl rfl
        | error fault => exact iff_of_false Bool.false_ne_true (by rintro ⟨⟩)
      · intro value decoded
        refine ⟨reads value decoded, fun tidy => ?_⟩
        rw [reads value decoded, tidy.joined_eq once]
  · have never (plan : RunPlan) (ready : Session σ) : ¬ order.Starts usual session plan ready :=
      fun starts => starting ⟨plan, ready, starts⟩
    obtain ⟨code, left⟩ := run_stops never
    refine Or.inl ⟨?_, ?_⟩
    · intro ended
      cases code 0 ended
    · rcases left with ⟨console, left⟩ | ⟨plan, left⟩
      · rw [left]
      · rw [left, prepareRun_output]

/-- A run of a prompt without steps, in a project where no report can be written. -/
theorem run_printed_without_steps :
    let order : RunOrder := { prompt := .ofText "flow.prompt", form := "json" }
    let session : Session Scripted :=
      { outside := {}
        disk := { nodes := [(["flow.prompt"], .file "just prose\n".toUTF8.toList),
          ([".promptqa"], .file [])] } }
    ∃ (plan : RunPlan) (ready : Session Scripted) (result : RunResult) (reportPath : Option Path),
      plan.Executes ready ∧
      (run order Environment.usual session).2.output = result.printed reportPath ∧
      (Json.Standard.decode? (result.printed reportPath)).isSome =
        (result.seconds.isFinite && (plan.record ready).isFinite) ∧
      ∀ value, Json.Standard.decode? (result.printed reportPath) = some value →
        RunRecord.ofJson? value = some (plan.record ready).joined := by
  intro order session
  have ended : (run order Environment.usual session).1 = .ok 0 :=
    eq_ok_of_toOption (by decide +kernel)
  obtain ⟨stops, -⟩ | ⟨plan, ready, _, result, _, reportPath, starts, -, output, valid, -, reads⟩ :=
    @run_printed Scripted _ order Environment.usual session rfl
  · exact (stops ended).elim
  · refine ⟨plan, ready, result, reportPath, ?_, ?_, valid, fun value decoded => ?_⟩
    · rw [run_of_starts starts] at ended
      exact performPrompt_ok_iff.mp (RunPlan.codeFor_eq_zero.mp
        (carryOutRun_returns plan ready 0 _ (Prod.ext ended rfl)).symm)
    · rw [output]
      exact String.empty_append
    · exact (reads value decoded).1

/-- **A result that is no document.** The answer of the API holds a number that is none, which the
run stores and puts out as it is. The run ends well, and no reader of the standard gets anything
out of what it puts out. -/
theorem run_prints_notANumber :
    let order : RunOrder := { prompt := .ofText "flow.prompt", form := "json" }
    let session : Session Scripted :=
      { outside := { replies := [
          { result := .ok ⟨200, [("Content-Type", "application/json")], "\x7b\"id\": NaN\x7d"⟩ }] }
        disk := { nodes := [(["flow.prompt"], .file
            "1. Login via API\nEndpoint: /login\nStore the id into variable id\n".toUTF8.toList),
          ([".promptqa"], .file [])] } }
    (run order Environment.usual session).1 = .ok 0 ∧
      ∃ (result : RunResult) (reportPath : Option Path),
        (run order Environment.usual session).2.output = result.printed reportPath ∧
        Json.Standard.decode? (result.printed reportPath) = none := by
  intro order session
  have evaluated : ((run order Environment.usual session).1.toOption,
      Json.haveFinite (run order Environment.usual session).2.vars.entries) = (some 0, false) := by
    decide +kernel
  obtain ⟨code, unfinite⟩ := Prod.mk.inj evaluated
  have ended := eq_ok_of_toOption code
  obtain ⟨plan, ready, starts⟩ : ∃ plan ready,
      order.Starts Environment.usual session plan ready :=
    exists_starts (by decide) (by decide +kernel) (by decide +kernel)
  obtain ⟨unprinted, -, vars, ⟨stops, -⟩ | ⟨result, reportPath, ⟨failure, closed, reaches⟩, output⟩⟩ :=
    run_putsOut rfl starts
  · exact (stops ended).elim
  · have record : (plan.record ready).isFinite = false := by
      rw [vars] at unfinite
      rw [RunRecord.isFinite, Bool.and_eq_false_iff]
      exact Or.inr unfinite
    refine ⟨ended, result, reportPath, ?_, ?_⟩
    · rw [output, unprinted]
      exact String.empty_append
    · have valid := (result.decode?_printed reportPath).1
      rw [record_of_reaches reaches, record, Bool.and_false] at valid
      exact Option.not_isSome_iff_eq_none.mp (Bool.eq_false_iff.mp valid)

end Running

end Play

end Walkthrough
