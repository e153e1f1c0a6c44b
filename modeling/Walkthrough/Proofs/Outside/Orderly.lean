import Walkthrough.Outside.Scripted
import Walkthrough.Proofs.Session.Scope

/-!
# Worlds in which everything can be closed

A world is orderly if screenshots and releases are not interrupted and the connections of the client
can always be closed (`Walkthrough.Outside.Orderly`); whatever else may fail or be interrupted. A
scripted world is orderly unless an interrupt of these is laid down
(`Walkthrough.Scripted.orderly`).
-/

namespace Walkthrough

/-- Whether a browser call releases something. -/
def BrowserCall.isRelease : BrowserCall → Bool
  | closeContext | closeBrowser | stopDriver => true
  | startDriver | launch _ _ | newContext _ _ | setTimeout _ | newPage => false

variable {σ : Type} [Outside σ]

/-- A world that, now and later, does not interrupt screenshots and releases, and can always close
the connections of the client. -/
structure Outside.Orderly (world : σ) : Prop where
  screenshot : ∀ {later : σ}, Outside.Later world later → ∀ path message,
    (Outside.reply (.screenshot path) later).1 ≠ .error (.interrupt message)
  release : ∀ {later : σ}, Outside.Later world later → ∀ call : BrowserCall,
    call.isRelease = true → ∀ message,
      (Outside.reply (.browser call) later).1 ≠ .error (.interrupt message)
  closes : ∀ {later : σ}, Outside.Later world later →
    (Outside.reply .closeClient later).1 = .ok ()

/-- A world that, now and later, does not interrupt releases. -/
def Outside.Releasing (world : σ) : Prop :=
  ∀ later : σ, Outside.Later world later → ∀ call : BrowserCall, call.isRelease = true →
    ∀ message, (Outside.reply (.browser call) later).1 ≠ .error (.interrupt message)

theorem Outside.Releasing.later {world after : σ} (releasing : Outside.Releasing world)
    (later : Outside.Later world after) : Outside.Releasing after :=
  fun final afterwards => releasing final (later.trans afterwards)

theorem Outside.Orderly.later {world after : σ} (orderly : Outside.Orderly world)
    (later : Outside.Later world after) : Outside.Orderly after where
  screenshot final := orderly.screenshot (later.trans final)
  release final := orderly.release (later.trans final)
  closes final := orderly.closes (later.trans final)

theorem Outside.Orderly.releasing {world : σ} (orderly : Outside.Orderly world) :
    Outside.Releasing world :=
  fun _ => orderly.release

namespace Scripted

/-- What is laid down to fail goes on failing. -/
theorem reply_fails (call : Call) (world : Scripted) :
    (reply call world).2.pageFails = world.pageFails ∧
      (reply call world).2.browserFails = world.browserFails := by
  have spent (name : String) : (world.spend name).pageFails = world.pageFails ∧
      (world.spend name).browserFails = world.browserFails := by
    rw [spend]
    split <;> exact ⟨rfl, rfl⟩
  have turned (name : String) (shown : List (String × ScriptedElement)) :
      (world.turn name shown).2.pageFails = world.pageFails ∧
        (world.turn name shown).2.browserFails = world.browserFails := by
    simp only [turn]
    split <;> exact spent name
  cases call with
  | request method url timeout body =>
      simp only [reply, nextReply]
      split <;> exact ⟨rfl, rfl⟩
  | goto url => exact turned _ _
  | awaitIdle => exact turned _ _
  | screenshot path => exact turned _ _
  | element locator act => cases locator <;> exact spent act.name
  | closeClient | locate | browser => exact ⟨rfl, rfl⟩

theorem fails_of_later {world later : Scripted} (path : Outside.Later world later) :
    later.pageFails = world.pageFails ∧ later.browserFails = world.browserFails := by
  induction path with
  | refl => exact ⟨rfl, rfl⟩
  | tail _ next ih =>
      obtain ⟨call, rfl⟩ := next
      obtain ⟨page, browser⟩ := reply_fails call _
      exact ⟨page.trans ih.1, browser.trans ih.2⟩

theorem interrupts_of_unlessFails {fails : List (String × Mishap)} {name message : String}
    (failed : unlessFails fails name (.ok () : Except Mishap Unit) = .error (.interrupt message)) :
    Fields.get? name fails = some (.interrupt message) := by
  unfold unlessFails at failed
  split at failed
  · next mishap found =>
      cases failed
      exact found
  · cases failed

/-- A scripted world is orderly if no interrupt of the page as a whole or of the browser is laid
down. -/
theorem orderly {world : Scripted}
    (page : ∀ name message, Fields.get? name world.pageFails ≠ some (.interrupt message))
    (browser : ∀ name message, Fields.get? name world.browserFails ≠ some (.interrupt message)) :
    Outside.Orderly world where
  screenshot := by
    intro later path file message failed
    have fails : (later.spend "screenshot").pageFails = world.pageFails := by
      rw [← (fails_of_later path).1, spend]
      split <;> rfl
    have answer : (reply (.screenshot file) later).1 =
        unlessFails world.pageFails "screenshot" (.ok ()) := by
      simp only [reply, turn, unlessFails, fails]
      split <;> rfl
    exact page _ message (interrupts_of_unlessFails (answer.symm.trans failed))
  release := by
    intro later path call _ message failed
    have answer : (reply (.browser call) later).1 =
        unlessFails world.browserFails call.name (.ok ()) := by
      rw [← (fails_of_later path).2]
      rfl
    exact browser _ message (interrupts_of_unlessFails (answer.symm.trans failed))
  closes _ := rfl

end Scripted

end Walkthrough
