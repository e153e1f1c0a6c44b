import Walkthrough.Proofs.Command.Course
import Walkthrough.Proofs.Command.Start
import Walkthrough.Proofs.Command.Work

/-!
# Every run closes what it opened

In an orderly world a run closes browser and client exactly once, on each of the ways that it can
take (`Walkthrough.Play.carryOutRun_closes`), and asks nothing any more. Its exit code says whether
the prompt was executed to its end (`Walkthrough.Play.run_closes`).
-/

namespace Walkthrough

variable {σ : Type} [Outside σ]

namespace Play

section Closing

variable {plan : RunPlan} {ready worked : Session σ}

/-- A run that was interrupted closes. -/
theorem concludeInterrupted_closes (orderly : Outside.Orderly worked.outside) :
    ∃ closed, concludeInterrupted worked = (.ok 1, closed) ∧ worked.Closed closed := by
  obtain ⟨printed, told, same⟩ : ∃ printed,
      print (.plain "\n[yellow]Run interrupted by user.[/yellow]") worked = (.ok (), printed) ∧
        printed = { worked with console := printed.console } := ⟨_, rfl, rfl⟩
  rw [same] at told
  obtain ⟨world, log, closed⟩ := closeDown_closes (orderly : Outside.Orderly
    { worked with console := printed.console }.outside)
  refine ⟨_, (bind_apply_of_ok told _).trans (bind_apply_of_ok closed _), ⟨[], ?_, by simp⟩,
    rfl, rfl⟩
  simp only [List.append_nil]

/-- A run without a prompt file closes. -/
theorem concludeWithoutPrompt_closes (orderly : Outside.Orderly worked.outside)
    (cause : LoadFault) :
    ∃ closed, concludeWithoutPrompt cause worked = (.ok 2, closed) ∧ worked.Closed closed := by
  obtain ⟨world, log, closed⟩ := closeDown_closes orderly
  refine ⟨_, bind_apply_of_ok closed _, ⟨[], ?_, by simp⟩, rfl, rfl⟩
  simp only [List.append_nil]

/-- **Every way closes.** On whichever way a run goes on in an orderly world once it performed its
prompt, it closes browser and client. It then ends with an exit code, unless what it leaves behind
cannot be written at all. -/
theorem carryOutRun_closes (orderly : Outside.Orderly (performPrompt plan ready).2.outside) :
    (performPrompt plan ready).2.Closed (carryOutRun plan ready).2 ∧
      ((∃ code, (carryOutRun plan ready).1 = .ok code) ∨
        ∃ fault, (carryOutRun plan ready).1 = .error fault ∧ fault.isOfWriting = true ∧
          fault.isRefusal = false) := by
  have course := carryOutRun_course plan ready
  rcases performed : performPrompt plan ready with ⟨ended, worked⟩
  rw [performed] at orderly
  generalize carryOutRun plan ready = outcome at course
  cases course with
  | interrupted performedSo =>
      obtain ⟨-, rfl⟩ := Prod.mk.inj (performedSo.symm.trans performed)
      obtain ⟨closed, concluded, closes⟩ := concludeInterrupted_closes orderly
      rw [concluded]
      exact ⟨closes, .inl ⟨1, rfl⟩⟩
  | @withoutPrompt cause _ performedSo =>
      obtain ⟨-, rfl⟩ := Prod.mk.inj (performedSo.symm.trans performed)
      obtain ⟨closed, concluded, closes⟩ := concludeWithoutPrompt_closes orderly cause
      rw [concluded]
      exact ⟨closes, .inl ⟨2, rfl⟩⟩
  | @concluded failure summed concludes =>
      obtain ⟨log, rfl⟩ := concludes.worked_eq
      rw [performed]
      obtain ⟨result, closed, thenClosed, calls, browser, reports⟩ := conclude_closes
        (orderly : Outside.Orderly { worked with log }.outside) plan (Outside.now ready.outside)
        (Outside.clock ready.outside) failure
      rw [conclude, bind_apply_of_ok thenClosed]
      have rests := (deliver_rests plan result failure).leads closed
      have fails := (deliver_rests plan result failure).fails closed
      refine ⟨closed_of_rests ⟨calls, browser, reports⟩ rests, ?_⟩
      rcases delivered : (deliver plan result failure closed).1 with fault | code
      · exact .inr ⟨fault, rfl, fails fault delivered⟩
      · exact .inl ⟨code, rfl⟩

/-- **Every run closes what it opened.** Let a run start in an orderly world, where what it writes
is refused by the disk at most. Whatever else goes wrong, it makes opening calls, then requests and
calls to the page, and at last it releases what it opened and closes the client, each once. It ends
with an exit code: 0 exactly if it executed its prompt to the end, which means that the prompt was
loaded and each of its steps has a report that it passed; 2 exactly if there was no prompt file; and
else 1. -/
theorem run_closes {order : RunOrder} {usual : String} {session : Session σ}
    (starts : order.Starts usual session plan ready)
    (orderly : Outside.Orderly session.outside)
    (writes : ∀ fault, (run order usual session).1 = .error fault → fault.isOfWriting = true →
      fault.isRefusal = true) :
    (∃ opening work,
      (openBrowser plan.browser ready).2.calls = session.calls ++ opening ∧
        (∀ call ∈ opening, call.isOpening = true) ∧
        (∀ call ∈ work, call.isOfPage = true ∨ call.isRequest = true) ∧
        (run order usual session).2.calls = session.calls ++ opening ++ work ++
          (openBrowser plan.browser ready).2.browser.releases ++ [.closeClient]) ∧
    (run order usual session).2.browser = {} ∧
    (plan.Executes ready ↔ ∃ document loaded, loadPrompt plan ready = (.ok document, loaded) ∧
      List.Forall₂ StepReport.SaysPassed document.steps (run order usual session).2.reports) ∧
    ∃ code, (run order usual session).1 = .ok code ∧ (code = 0 ∨ code = 1 ∨ code = 2) ∧
      (code = 0 ↔ plan.Executes ready) ∧
      (code = 2 ↔ ∃ cause, (performPrompt plan ready).1 = .error (.load cause) ∧
        cause.isOfFile = true) := by
  obtain ⟨client, console, log, vars, same⟩ :=
    (prepareRun_leaves plan session).2 ready starts.prepared
  have outside : ready.outside = session.outside := by rw [same]
  have calls : ready.calls = session.calls := by rw [same]
  rw [run_of_starts starts] at writes ⊢
  obtain ⟨⟨-, opening, opened, openingCalls⟩, -⟩ := (openBrowser_opens plan.browser).leads ready
  obtain ⟨⟨-, work, worked, workCalls⟩, browser⟩ := performPrompt_works plan ready
  rw [← outside] at orderly
  obtain ⟨⟨⟨shots, closed, pages⟩, released, reports⟩, ends⟩ :=
    carryOutRun_closes (orderly.later (performPrompt_later plan ready))
  refine ⟨⟨opening, work ++ shots, by rw [opened, calls], openingCalls, ?_, ?_⟩, released, ?_, ?_⟩
  · exact List.forall_mem_append.mpr ⟨workCalls, fun call member => .inl (pages call member)⟩
  · rw [closed, worked, opened, calls, browser]
    simp only [List.append_assoc]
  · rw [reports]
    exact executes_iff
  · obtain ⟨code, ended⟩ : ∃ code, (carryOutRun plan ready).1 = .ok code := by
      refine ends.resolve_right ?_
      rintro ⟨fault, ended, writing, kept⟩
      rw [writes fault ended writing] at kept
      cases kept
    have value := carryOutRun_returns plan ready code _ (Prod.ext ended rfl)
    refine ⟨code, ended, ?_, ?_, ?_⟩
    · rw [value]
      exact RunPlan.codeFor_cases _
    · rw [value, RunPlan.codeFor_eq_zero, performPrompt_ok_iff]
    · rw [value, RunPlan.codeFor_eq_two]

/-- A run whose browser cannot be launched, in a project where no report can be written: what was
opened by then is released, and the exit code is that for a failure. -/
theorem run_closes_without_browser :
    let order : RunOrder := { prompt := .ofText "flow.prompt", form := "json" }
    let session : Session Scripted :=
      { outside := { browserFails := [("launch", .failure .other "no browser")] }
        disk := { nodes := [(["flow.prompt"], .file "1. Login via UI\n".toUTF8.toList),
          ([".promptqa"], .file [])] } }
    (run order Environment.usual session).1 = .ok 1 ∧
      ∃ (opening work : List Call) (opened : Browser), (∀ call ∈ opening, call.isOpening = true) ∧
        (∀ call ∈ work, call.isOfPage = true ∨ call.isRequest = true) ∧
        (run order Environment.usual session).2.calls =
          opening ++ work ++ opened.releases ++ [.closeClient] := by
  intro order session
  have ended : (run order Environment.usual session).1.toOption = some 1 := by decide +kernel
  have calm (name message : String) :
      Fields.get? name session.outside.browserFails ≠ some (.interrupt message) := by
    show (if "launch" = name then _ else none) ≠ _
    split <;> simp
  obtain ⟨plan, ready, starts⟩ : ∃ plan ready,
      order.Starts Environment.usual session plan ready :=
    exists_starts (by decide) (by decide +kernel) (by decide +kernel)
  rcases run : (run order Environment.usual session).1 with fault | code
  · rw [run] at ended
    cases ended
  rw [run] at ended
  cases ended
  obtain ⟨⟨opening, work, -, opens, works, calls⟩, -⟩ := run_closes starts
    (Scripted.orderly (fun _ _ => by rintro ⟨⟩) calm) fun fault failed => by
      rw [run] at failed
      cases failed
  exact ⟨rfl, opening, work, _, opens, works, calls⟩

end Closing

end Play

end Walkthrough
