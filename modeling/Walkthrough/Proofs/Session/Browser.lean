import Walkthrough.Api.Client
import Walkthrough.Proofs.Outside.Orderly
import Walkthrough.Proofs.Session.Confined
import Walkthrough.Session.Browser

/-!
# Opening and closing

Opening the browser makes opening calls alone, however far it gets
(`Walkthrough.Play.openBrowser_opens`). Closing it releases whatever is open, each once, as long as
the world does not interrupt it (`Walkthrough.Play.closeBrowser_closes`).
-/

namespace Walkthrough

/-- Whether a call is one of those that open the browser. -/
def Call.isOpening : Call → Bool
  | browser call =>
    match call with
    | .startDriver | .launch _ _ | .newContext _ _ | .setTimeout _ | .newPage => true
    | .closeContext | .closeBrowser | .stopDriver => false
  | _ => false

/-- The calls that release what is open, the last opened first. -/
def Browser.releases (opened : Browser) : List Call :=
  (if opened.context then [.browser .closeContext] else []) ++
    (if opened.browser then [.browser .closeBrowser] else []) ++
    (if opened.driver then [.browser .stopDriver] else [])

variable {σ : Type} [Outside σ]

namespace Play

variable {session : Session σ}

/-- What opening the browser leads to: opening calls, and no report. -/
def Opens (session after : Session σ) : Prop :=
  session.Did (·.isOpening = true) after ∧ after.reports = session.reports

theorem opens_order : Session.Onward (Opens : Session σ → Session σ → Prop) :=
  Session.Did.order.and (.view (·.reports))

/-- Opening the browser leads where opening calls do, what is open, and the log. -/
theorem openBrowser_confined {onward : Session σ → Session σ → Prop} {faults : Fault → Prop}
    (order : Session.Onward onward)
    (asks : ∀ call : Call, call.isOpening = true →
      Confined onward faults (ask call : Play σ call.Answer))
    (leads : ∀ (session : Session σ) browser log, onward session { session with browser, log })
    (settings : BrowserSettings) :
    Confined onward faults (openBrowser settings : Play σ Unit) := by
  have opens (change : Browser → Browser) :
      Confined onward faults (updateBrowser change : Play σ Unit) :=
    .change fun session => leads session _ session.log
  refine .bind order (asks _ rfl) fun _ => .bind order (opens _) fun _ =>
    .bind order (asks _ rfl) fun _ => .bind order (opens _) fun _ =>
    .bind order (asks _ rfl) fun _ => .bind order (opens _) fun _ =>
    .bind order (asks _ rfl) fun _ => .bind order (asks _ rfl) fun _ =>
    .bind order (opens _) fun _ => ?_
  split
  · exact .note (fun session log => leads session session.browser log) _ _ _
  · exact .pure order _

/-- **Opening makes opening calls.** However opening the browser ends, it made opening calls
alone. -/
theorem openBrowser_opens (settings : BrowserSettings) :
    Confined Opens (fun _ => True) (openBrowser settings : Play σ Unit) := by
  refine openBrowser_confined opens_order (fun call opening => ?_)
    (fun _ _ _ => ⟨.of_eq rfl rfl, rfl⟩) settings
  refine ⟨fun session => ⟨.ask call opening session, ?_⟩, fun _ _ _ => trivial⟩
  rw [ask_apply]

/-- A release that is not interrupted is made if there is something to release, whatever it is
answered. -/
theorem release_releases {call : BrowserCall} (releases : call.isRelease = true)
    (releasing : Outside.Releasing session.outside) (isOpen : Bool) :
    ∃ world, Outside.Later session.outside world ∧
      release isOpen call session =
        (.ok (), { session with
          outside := world
          calls := session.calls ++ if isOpen then [.browser call] else [] }) := by
  cases isOpen with
  | false => exact ⟨session.outside, .refl, by rw [release]; simp⟩
  | true =>
      refine ⟨(Outside.reply (.browser call) session.outside).2, .single ⟨_, rfl⟩, ?_⟩
      have asked := ask_apply (.browser call) session
      have kept := releasing _ .refl call releases
      rcases answer : (Outside.reply (.browser call) session.outside).1 with mishap | value
      · rw [answer] at asked
        cases mishap with
        | interrupt message => exact absurd answer (kept message)
        | failure kind message => exact recover_apply_of_failure asked rfl _
      · rw [answer] at asked
        exact recover_apply_of_ok asked _

/-- **Closing releases everything once.** Whatever of the browser is open is released, the last
opened first, and nothing of it is open any more; nothing else of the session changes. -/
theorem closeBrowser_closes (releasing : Outside.Releasing session.outside) :
    ∃ world, Outside.Later session.outside world ∧
      closeBrowser session = (.ok (), { session with
        outside := world
        calls := session.calls ++ session.browser.releases
        browser := {} }) := by
  obtain ⟨first, toFirst, context⟩ :=
    release_releases (rfl : BrowserCall.closeContext.isRelease = true) releasing
      session.browser.context
  obtain ⟨second, toSecond, browser⟩ :=
    release_releases (rfl : BrowserCall.closeBrowser.isRelease = true)
      (releasing.later toFirst : Outside.Releasing { session with
        outside := first
        calls := _ }.outside) session.browser.browser
  have toLast : Outside.Later session.outside second := toFirst.trans toSecond
  obtain ⟨third, toThird, driver⟩ :=
    release_releases (rfl : BrowserCall.stopDriver.isRelease = true)
      (releasing.later toLast : Outside.Releasing { session with
        outside := second
        calls := _ }.outside) session.browser.driver
  refine ⟨third, toLast.trans toThird, ?_⟩
  rw [closeBrowser, bind_apply_of_ok (get_apply session), bind_apply_of_ok context,
    bind_apply_of_ok browser, bind_apply_of_ok driver]
  simp only [updateBrowser, modify_apply, Browser.releases, List.append_assoc]

/-- The client is closed with one call. -/
theorem closeClient_closes (orderly : Outside.Orderly session.outside) :
    ∃ world log, closeClient session = (.ok (), { session with
      outside := world
      calls := session.calls ++ [.closeClient]
      log }) := by
  have asked := ask_apply .closeClient session
  rw [orderly.closes .refl] at asked
  exact ⟨_, _, (bind_apply_of_ok asked _).trans (note_apply _ _ _ _)⟩

end Play

end Walkthrough
