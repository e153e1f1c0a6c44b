import Walkthrough.Proofs.Outside.Orderly

/-!
# Browsers of which some calls fail

A set of failing browser calls says of each call whether it fails, and how. In a world that answers
by such a set (`Walkthrough.Outside.FailsBy`) a call does not fail once and succeed at another time,
and no browser call is interrupted. A scripted world answers by what is laid down in it
(`Walkthrough.Scripted.failsBy`).
-/

namespace Walkthrough

/-- The browser calls that fail, each with the kind of its failure and with what it says. -/
abbrev BrowserFailures := BrowserCall → Option (MishapKind × String)

namespace BrowserFailures

variable (failures : BrowserFailures)

/-- Whether a call succeeds. -/
def spares (call : BrowserCall) : Bool :=
  (failures call).isNone

/-- What a call is answered. -/
def answer (call : BrowserCall) : Except Mishap Unit :=
  match failures call with
  | none => .ok ()
  | some (kind, message) => .error (.failure kind message)

/-- Of calls in a row, those that are made: all up to the first that fails. -/
def made : List BrowserCall → List BrowserCall
  | [] => []
  | call :: rest => call :: if failures.spares call then made rest else []

/-- How calls in a row end: with the failure of the first that fails. -/
def ending : List BrowserCall → Except Mishap Unit
  | [] => .ok ()
  | call :: rest => if failures.spares call then ending rest else failures.answer call

variable {failures} {call : BrowserCall}

theorem answer_of_spares (spared : failures.spares call = true) :
    failures.answer call = .ok () := by
  rw [answer, Option.isNone_iff_eq_none.mp spared]

theorem answer_of_not_spares (fails : failures.spares call = false) :
    ∃ kind message, failures.answer call = .error (.failure kind message) := by
  rw [answer]
  cases failed : failures call with
  | none =>
      rw [spares, failed] at fails
      cases fails
  | some failure => exact ⟨failure.1, failure.2, rfl⟩

theorem answer_ne_interrupt (call : BrowserCall) (message : String) :
    failures.answer call ≠ .error (.interrupt message) := by
  rw [answer]
  cases failures call with
  | none => rintro ⟨⟩
  | some failure => rintro ⟨⟩

end BrowserFailures

variable {σ : Type} [Outside σ]

/-- A world whose browser answers, now and later, by a set of failing calls. -/
def Outside.FailsBy (failures : BrowserFailures) (world : σ) : Prop :=
  ∀ later : σ, Outside.Later world later → ∀ call,
    (Outside.reply (.browser call) later).1 = failures.answer call

namespace Outside.FailsBy

variable {failures : BrowserFailures} {world after : σ}

theorem later (fails : FailsBy failures world) (later : Outside.Later world after) :
    FailsBy failures after :=
  fun final afterwards => fails final (later.trans afterwards)

theorem releasing (fails : FailsBy failures world) : Outside.Releasing world := by
  intro later path call _ message
  rw [fails later path call]
  exact BrowserFailures.answer_ne_interrupt call message

end Outside.FailsBy

namespace Scripted

/-- The browser calls that are laid down to fail. -/
def failures (world : Scripted) : BrowserFailures := fun call =>
  match Fields.get? call.name world.browserFails with
  | some (.failure kind message) => some (kind, message)
  | _ => none

/-- A scripted world answers by what is laid down if that is no interrupt. -/
theorem failsBy {world : Scripted}
    (browser : ∀ name message, Fields.get? name world.browserFails ≠ some (.interrupt message)) :
    Outside.FailsBy world.failures world := by
  intro later path call
  have answer : (reply (.browser call) later).1 =
      unlessFails world.browserFails call.name (.ok ()) := by
    rw [← (fails_of_later path).2]
    rfl
  refine answer.trans ?_
  rw [unlessFails, BrowserFailures.answer, failures]
  rcases found : Fields.get? call.name world.browserFails with _ | ⟨kind, message⟩ | message
  · rfl
  · rfl
  · exact absurd found (browser _ message)

end Scripted

end Walkthrough
