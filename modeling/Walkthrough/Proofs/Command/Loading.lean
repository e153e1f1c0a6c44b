import Walkthrough.Proofs.Command.Outcome
import Walkthrough.Proofs.Prompt.File

/-!
# Commands without a prompt

What validating a prompt and running it come to if no document can be read from its file
(`Walkthrough.Play.perform_fileEnds`). Only if there is no file, or none that can be read, is this
told by the exit code 2. Octets that are not UTF-8, a number of too many digits and a path that is
too long are faults that nothing answers: the exit code is 1
(`Walkthrough.Play.perform_undecodable`).
-/

namespace Walkthrough

variable {σ : Type}

theorem Document.verdict_code_ne (document : Document) (strict : Bool) (errors warnings : Nat) :
    (document.verdict strict errors warnings).code ≠ 2 := by
  unfold verdict
  split
  · simp
  split
  · simp
  split
  · simp
  · simp

namespace Play

/-- A validation ends with the exit code 2 exactly if there is no prompt file. -/
theorem validate_exitCode_iff (path : Path) (strict : Bool) (session : Session σ) :
    Command.exitCode (validate path strict session).1 = 2 ↔ session.disk.Withholds path := by
  rw [← Disk.document_ofFile_iff, validate, bind_apply_of_ok (get_apply session)]
  cases read : session.disk.document path with
  | ok document =>
      refine iff_of_false ?_ (by rintro ⟨_, ⟨⟩, -⟩)
      exact document.verdict_code_ne strict _ _
  | error cause =>
      by_cases ofFile : cause.isOfFile = true
      · simp only [ofFile, if_true]
        exact iff_of_true rfl ⟨cause, rfl, ofFile⟩
      · simp only [ofFile, Bool.false_eq_true, if_false]
        have code : Command.exitCode ((throw (.load cause) : Play σ Nat) session).1 = 1 := rfl
        rw [code]
        refine iff_of_false (by decide) ?_
        rintro ⟨_, ⟨⟩, isOfFile⟩
        exact ofFile isOfFile

variable [Outside σ] {plan : RunPlan} {ready : Session σ}

/-- Once the browser is open, a run whose prompt cannot be loaded fails for that reason. -/
theorem performPrompt_of_unloaded {cause : LoadFault}
    (opened : (openBrowser plan.browser ready).1 = .ok ())
    (unloaded : ready.disk.document plan.prompt = .error cause) :
    (performPrompt plan ready).1 = .error (.load cause) := by
  rcases opens : openBrowser plan.browser ready with ⟨fault | _, after⟩
  · rw [opens] at opened
    cases opened
  have disk : after.disk = ready.disk := by
    have kept := (openBrowser_keeps plan.browser ready).1
    rwa [opens] at kept
  have fails (paged : Session σ) (same : paged.disk = ready.disk) : ((do
      let document ← loadFile plan.prompt.text plan.prompt
      printText plan [.plain s!"[bold]Running {document.steps.length} step(s)...[/bold]\n"]
      let _ ← execute : Play σ Unit) paged).1 = .error (.load cause) := by
    rw [← same] at unloaded
    rw [bind_apply_of_error (Prod.ext (loadFile_of_error unloaded plan.prompt.text).1 rfl)]
  rw [performPrompt, bind_apply_of_ok opens, bind_apply_of_ok (modify_apply _ after)]
  split
  · obtain ⟨_, healed, enabled, -⟩ := enableHealing_quiet { after with page := some plan.page }
    have kept := (enableHealing_keeps { after with page := some plan.page }).1
    rw [enabled] at kept
    rw [bind_apply_of_ok enabled]
    exact fails healed (kept.trans disk)
  · exact fails _ disk

/-- A run whose prompt cannot be loaded ends with the exit code 2 exactly if there is no prompt
file, and else with that for a failure. -/
theorem carryOutRun_of_unloaded {cause : LoadFault}
    (opened : (openBrowser plan.browser ready).1 = .ok ())
    (orderly : Outside.Orderly ready.outside)
    (unloaded : ready.disk.document plan.prompt = .error cause) :
    Command.exitCode (carryOutRun plan ready).1 = if cause.isOfFile then 2 else 1 := by
  have failed := performPrompt_of_unloaded opened unloaded
  rcases performed : performPrompt plan ready with ⟨outcome, worked⟩
  rw [performed] at failed
  cases failed
  cases ofFile : cause.isOfFile with
  | true =>
      have later := performPrompt_later plan ready
      rw [performed] at later
      obtain ⟨closed, concluded, -⟩ := concludeWithoutPrompt_closes (orderly.later later) cause
      rw [carryOutRun_apply performed]
      simp only [ofFile, if_true, concluded]
      rfl
  | false =>
      have stops : ¬ plan.Executes ready := by
        rw [← performPrompt_ok_iff, performed]
        rintro ⟨⟩
      obtain ⟨result, closed, reaches⟩ := exists_reaches orderly (.failed performed rfl ofFile)
      obtain ⟨delivers, fails, -⟩ := carryOutRun_of_reaches reaches
      rw [delivers]
      exact deliver_exitCode (fails.mpr stops) plan _ closed

/-- **What a prompt file comes to.** A document is read from what a path leads to exactly if that is
a file of characters in UTF-8 whose headers have numbers that can be read. What says that there is
no prompt file is said exactly of nothing, of a directory and of a file that cannot be read, and
there validating exits with 2. A run of a path without a document, whose browser can be opened and
everything closed, exits with 2 in these cases as well, and in all others with 1. -/
theorem perform_fileEnds (session : Session σ) (path : Path) (usual : String) :
    ((∃ document, session.disk.document path = .ok document) ↔ session.disk.Holds path) ∧
    ((∃ cause, session.disk.document path = .error cause ∧ cause.isOfFile = true) ↔
      session.disk.Withholds path) ∧
    (∀ strict, Command.exitCode (perform (.validate path strict) usual session).1 = 2 ↔
      session.disk.Withholds path) ∧
    ∀ (order : RunOrder) (plan : RunPlan) (ready : Session σ),
      order.Starts usual session plan ready → plan.prompt = path →
      (openBrowser plan.browser ready).1 = .ok () → Outside.Orderly session.outside →
      ¬ session.disk.Holds path →
        (session.disk.Withholds path →
          Command.exitCode (perform (.run order) usual session).1 = 2) ∧
        (¬ session.disk.Withholds path →
          Command.exitCode (perform (.run order) usual session).1 = 1) := by
  refine ⟨Disk.document_ok_iff, Disk.document_ofFile_iff,
    fun strict => validate_exitCode_iff path strict session, ?_⟩
  rintro order plan ready starts rfl opened orderly notHeld
  obtain ⟨client, console, log, vars, fresh⟩ :=
    (prepareRun_leaves plan session).2 ready starts.prepared
  have disk : ready.disk = session.disk := by rw [fresh]
  have outside : ready.outside = session.outside := by rw [fresh]
  rcases unloaded : session.disk.document plan.prompt with cause | document
  · have code : Command.exitCode (perform (.run order) usual session).1 =
        if cause.isOfFile then 2 else 1 := by
      rw [← disk] at unloaded
      rw [← outside] at orderly
      rw [← carryOutRun_of_unloaded opened orderly unloaded, ← run_of_starts starts]
      rfl
    rw [code, ← Disk.document_ofFile_iff]
    constructor
    · rintro ⟨other, same, ofFile⟩
      rw [unloaded] at same
      cases same
      rw [if_pos ofFile]
    · intro other
      rw [if_neg fun ofFile => other ⟨cause, unloaded, ofFile⟩]
  · exact (notHeld (Disk.document_ok_iff.mp ⟨document, unloaded⟩)).elim

/-- A file that cannot be read. -/
theorem perform_fileEnds_sealed :
    let order : RunOrder := { prompt := .ofText "flow.prompt", form := "json" }
    let session : Session Scripted :=
      { outside := {}
        disk := { nodes := [(["flow.prompt"], .sealed "[Errno 13] Permission denied")] } }
    Command.exitCode
        (perform (.validate order.prompt false) Environment.usual session).1 = 2 ∧
      Command.exitCode (perform (.run order) Environment.usual session).1 = 2 := by
  intro order session
  have found : session.disk.look order.prompt =
      .ok (some (.sealed "[Errno 13] Permission denied")) := by
    decide +kernel
  have isFile : session.disk.isFile order.prompt = .ok true := by
    rw [Disk.isFile, found]
    rfl
  have withheld : session.disk.Withholds order.prompt := .sealed found
  obtain ⟨-, -, validates, runs⟩ := perform_fileEnds session order.prompt Environment.usual
  obtain ⟨plan, ready, starts⟩ : ∃ plan ready,
      order.Starts Environment.usual session plan ready :=
    exists_starts (by decide) (by decide +kernel) (by decide +kernel)
  obtain ⟨client, console, log, vars, fresh⟩ :=
    (prepareRun_leaves plan session).2 ready starts.prepared
  have prompt : plan.prompt = order.prompt :=
    Except.ok.inj (starts.prompt.symm.trans (Settings.promptPath_of_isFile _ isFile))
  have opened : (openBrowser plan.browser ready).1 = .ok () := by
    rw [fresh, openBrowser]
    cases plan.browser.openedLine? <;> rfl
  have orderly : Outside.Orderly session.outside :=
    Scripted.orderly (fun _ _ => by rintro ⟨⟩) fun _ _ => by rintro ⟨⟩
  exact ⟨(validates false).mpr withheld,
    (runs order plan ready starts prompt opened orderly withheld.not_holds).1 withheld⟩

/-- **Octets that are not UTF-8.** A prompt file of one such octet is no document, and nothing says
that it cannot be read: validating it and running it end with the exit code for a failure. -/
theorem perform_undecodable :
    let order : RunOrder := { prompt := .ofText "flow.prompt" }
    let session : Session Scripted :=
      { outside := {}
        disk := { nodes := [(["flow.prompt"], .file [0xFF]), ([".promptqa"], .file [])] } }
    ¬ ((∃ document, session.disk.document order.prompt = .ok document) ∨
        ∃ cause, session.disk.document order.prompt = .error cause ∧ cause.isOfFile = true) ∧
      Command.exitCode
        (perform (.validate order.prompt false) Environment.usual session).1 = 1 ∧
      Command.exitCode (perform (.run order) Environment.usual session).1 = 1 := by
  intro order session
  have codes : Command.exitCode
        (perform (.validate order.prompt false) Environment.usual session).1 = 1 ∧
      Command.exitCode (perform (.run order) Environment.usual session).1 = 1 := by
    decide +kernel
  have found : session.disk.look order.prompt = .ok (some (.file [0xFF])) := by
    decide +kernel
  have failed : session.disk.document order.prompt =
      .error (.undecodable ⟨0, 1, 0xFF, .badStart⟩) := by
    rw [Disk.document, found]
    exact Document.ofOctets_of_error rfl
  refine ⟨?_, codes⟩
  rw [failed]
  rintro (⟨_, ⟨⟩⟩ | ⟨_, ⟨⟩, ⟨⟩⟩)

end Play

end Walkthrough
