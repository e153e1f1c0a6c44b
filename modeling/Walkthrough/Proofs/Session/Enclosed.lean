import Walkthrough.Proofs.Session.Acquired

/-!
# Work while the browser is open

Whatever is done while the browser is open, and however it ends, the browser is closed behind it,
and what is on record by then is released (`Walkthrough.Play.withBrowser_of_ok`). A browser that
could not be opened is not closed, though, and what it acquired by then is lost. So everything that
was acquired is released exactly if either nothing was, or the browser opened and the work keeps the
record straight (`Walkthrough.Play.withBrowser_released_iff`).
-/

namespace Walkthrough

variable {σ α : Type} {failures : BrowserFailures}

/-- Work that keeps the record straight: what was on record before it, or was acquired by it, is
released by it or on record behind it. -/
def Session.Balanced (failures : BrowserFailures) (session after : Session σ) : Prop :=
  ∃ work, after.calls = session.calls ++ work ∧
    (releasedBy work ++ after.browser.held).Perm (failures.acquired work ++ session.browser.held)

/-- Work that leaves the browser alone keeps the record straight. -/
theorem Session.Balanced.of_apart {session after : Session σ} {work : List Call}
    (worked : after.calls = session.calls ++ work)
    (apart : ∀ call ∈ work, failures.acquires? call = none ∧ call.releases? = none)
    (kept : after.browser = session.browser) : session.Balanced failures after := by
  refine ⟨work, worked, ?_⟩
  have nothingReleased : releasedBy work = [] :=
    List.filterMap_eq_nil_iff.mpr fun call member => (apart call member).2
  have nothingAcquired : failures.acquired work = [] :=
    List.filterMap_eq_nil_iff.mpr fun call member => (apart call member).1
  rw [nothingReleased, nothingAcquired, kept]

namespace BrowserFailures

variable {row : List BrowserCall}

theorem mem_of_mem_made {call : BrowserCall} (member : call ∈ failures.made row) : call ∈ row := by
  induction row with
  | nil => cases member
  | cons first rest ih =>
      rw [made] at member
      rcases List.mem_cons.mp member with rfl | later
      · exact List.mem_cons_self
      · split at later
        · exact List.mem_cons_of_mem first (ih later)
        · cases later

/-- Calls that release nothing release nothing in a row. -/
theorem releasedBy_calls (keeps : ∀ call ∈ row, call.releases? = none) :
    releasedBy (failures.calls row) = [] := by
  refine List.filterMap_eq_nil_iff.mpr fun made member => ?_
  obtain ⟨call, inRow, rfl⟩ := List.mem_map.mp member
  exact keeps call (mem_of_mem_made inRow)

theorem releasedBy_opening (settings : BrowserSettings) :
    releasedBy (failures.calls settings.opening) = [] := by
  refine releasedBy_calls fun call member => ?_
  simp only [BrowserSettings.opening, List.mem_cons, List.not_mem_nil, or_false] at member
  rcases member with rfl | rfl | rfl | rfl | rfl <;> rfl

theorem acquired_append (first second : List Call) :
    failures.acquired (first ++ second) = failures.acquired first ++ failures.acquired second :=
  List.filterMap_append

/-- Opening acquires something unless its very first call fails. -/
theorem acquired_opening_eq_nil_iff (settings : BrowserSettings) :
    failures.acquired (failures.calls settings.opening) = [] ↔
      failures.spares .startDriver = false := by
  rw [BrowserSettings.opening]
  cases spared : failures.spares .startDriver with
  | false =>
      rw [calls_cons_of_not_spares spared, acquired_of_not_spares spared]
      exact ⟨fun _ => rfl, fun _ => rfl⟩
  | true =>
      rw [calls_cons_of_spares spared, acquired_cons_of_spares spared]
      constructor
      · rintro ⟨⟩
      · rintro ⟨⟩

end BrowserFailures

theorem releasedBy_append (first second : List Call) :
    releasedBy (first ++ second) = releasedBy first ++ releasedBy second :=
  List.filterMap_append

theorem releasedBy_releaseAll (held : List Resource) : releasedBy (releaseAll held) = held := by
  induction held with
  | nil => rfl
  | cons resource rest ih =>
      have first : (Call.browser resource.release).releases? = some resource := by
        cases resource <;> rfl
      rw [releaseAll, List.map_cons, ← releaseAll, releasedBy, List.filterMap_cons_some first,
        ← releasedBy, ih]

/-- Nothing is acquired by releasing. -/
theorem acquired_releaseAll (held : List Resource) :
    failures.acquired (releaseAll held) = [] := by
  refine List.filterMap_eq_nil_iff.mpr fun made member => ?_
  obtain ⟨resource, -, rfl⟩ := List.mem_map.mp member
  rw [BrowserFailures.acquires?]
  cases resource <;> exact ite_self none

namespace Play

variable [Outside σ] {settings : BrowserSettings} {session opened : Session σ} {body : Play σ α}

/-- A browser that cannot be opened is not closed, either. -/
theorem withBrowser_of_error {fault : Fault}
    (failed : openBrowser settings session = (.error fault, opened)) :
    withBrowser settings body session = (.error fault, opened) :=
  bind_apply_of_error failed _

/-- Behind whatever is done while the browser is open it is closed, and everything ends the way that
was done. -/
theorem withBrowser_of_ok (started : openBrowser settings session = (.ok (), opened))
    (releasing : Outside.Releasing (body opened).2.outside) :
    ∃ world, withBrowser settings body session = ((body opened).1, { (body opened).2 with
      outside := world
      calls := (body opened).2.calls ++ releaseAll (body opened).2.browser.held
      browser := {} }) := by
  obtain ⟨world, -, closed⟩ := closeBrowser_closes releasing
  rw [Browser.releases_eq] at closed
  refine ⟨world, (bind_apply_of_ok started _).trans ?_⟩
  rcases worked : body opened with ⟨fault | value, after⟩
  · rw [worked] at closed
    exact thenAlways_apply_of_error worked closed
  · rw [worked] at closed
    exact thenAlways_apply_of_ok worked closed

omit [Outside σ] in
/-- Releasing what is on record releases everything exactly if the record is straight. -/
theorem released_iff_balanced {after : Session σ} {work : List Call}
    (held : opened.browser.held =
      (failures.acquired (failures.calls settings.opening)).reverse)
    (worked : after.calls = opened.calls ++ work) :
    (releasedBy (failures.calls settings.opening ++ work ++ releaseAll after.browser.held)).Perm
        (failures.acquired
          (failures.calls settings.opening ++ work ++ releaseAll after.browser.held)) ↔
      opened.Balanced failures after := by
  have same : (failures.acquired (failures.calls settings.opening ++ work)).Perm
      (failures.acquired work ++ opened.browser.held) := by
    rw [BrowserFailures.acquired_append, held]
    exact List.perm_append_comm.trans ((List.reverse_perm _).symm.append_left _)
  rw [BrowserFailures.acquired_append (_ ++ work), acquired_releaseAll, List.append_nil,
    releasedBy_append, releasedBy_append, BrowserFailures.releasedBy_opening, List.nil_append,
    releasedBy_releaseAll, same.congr_right]
  constructor
  · intro balance
    exact ⟨work, worked, balance⟩
  · intro balanced
    obtain ⟨other, workedSo, balance⟩ := balanced
    obtain rfl : work = other := List.append_cancel_left (worked.symm.trans workedSo)
    exact balance

/-- **Only a browser that opened is closed.** Whichever calls of the browser fail, work while a
fresh browser is open ends with the failure of opening it, or else the way the work ends, be it a
fault or an interrupt. In the first case nothing is released. In the second one everything on record
is, and nothing is on record any more. So everything that was acquired is released as often as it
was acquired exactly if the very first call of opening fails, or the browser opens and the work
keeps the record straight, as work does that leaves the browser alone. -/
theorem withBrowser_released_iff (settings : BrowserSettings)
    (fails : Outside.FailsBy failures session.outside) (fresh : session.browser = {})
    (asks : ∀ opened : Session σ, opened.Did (fun _ => True) (body opened).2) :
    (∀ fault opened, openBrowser settings session = (.error fault, opened) →
      withBrowser settings body session = (.error fault, opened)) ∧
    (∀ opened, openBrowser settings session = (.ok (), opened) →
      (withBrowser settings body session).1 = (body opened).1 ∧
      (withBrowser settings body session).2.calls =
        (body opened).2.calls ++ releaseAll (body opened).2.browser.held ∧
      (withBrowser settings body session).2.browser = {}) ∧
    ∃ made, (withBrowser settings body session).2.calls = session.calls ++ made ∧
      ((releasedBy made).Perm (failures.acquired made) ↔
        failures.spares .startDriver = false ∨
          ∃ opened, openBrowser settings session = (.ok (), opened) ∧
            opened.Balanced failures (body opened).2) := by
  obtain ⟨opened, apply, later, calls, held⟩ := openBrowser_records settings fails fresh
  obtain ⟨outside, work, worked, -⟩ := asks opened
  have releasing := ((fails.later later).later outside).releasing
  refine ⟨fun fault other failed => withBrowser_of_error failed, fun other started => ?_, ?_⟩
  · obtain ⟨-, rfl⟩ := Prod.mk.inj (started.symm.trans apply)
    obtain ⟨world, closed⟩ := withBrowser_of_ok started releasing
    rw [closed]
    exact ⟨rfl, rfl, rfl⟩
  · cases ended : failures.ending settings.opening with
    | error mishap =>
        rw [ended] at apply
        have failed : openBrowser settings session = (.error (.outside mishap), opened) := apply
        refine ⟨failures.calls settings.opening, ?_, ?_⟩
        · rw [withBrowser_of_error failed, calls]
        · rw [BrowserFailures.releasedBy_opening, List.nil_perm,
            BrowserFailures.acquired_opening_eq_nil_iff]
          constructor
          · exact .inl
          · rintro (first | ⟨other, started, -⟩)
            · exact first
            · rw [failed] at started
              cases started
    | ok value =>
        rw [ended] at apply
        have started : openBrowser settings session = (.ok (), opened) := apply
        obtain ⟨world, closed⟩ := withBrowser_of_ok started releasing
        refine ⟨failures.calls settings.opening ++ work ++
          releaseAll (body opened).2.browser.held, ?_, ?_⟩
        · rw [closed, worked, calls, List.append_assoc, List.append_assoc, List.append_assoc]
        · rw [released_iff_balanced held worked]
          constructor
          · exact fun balanced => .inr ⟨opened, started, balanced⟩
          · rintro (first | ⟨other, startedSo, balanced⟩)
            · obtain ⟨kind, message, failed⟩ := BrowserFailures.answer_of_not_spares first
              rw [BrowserSettings.opening, BrowserFailures.ending_cons_of_not_spares first,
                failed] at ended
              cases ended
            · obtain ⟨-, rfl⟩ := Prod.mk.inj (startedSo.symm.trans started)
              exact balanced

/-- Work that fails while the browser is open, and a browser whose context cannot even be closed. -/
theorem withBrowser_released_iff_unmet :
    let settings : BrowserSettings := {}
    let session : Session Scripted :=
      { outside := { browserFails := [("context.close", .failure .page "already closed")] } }
    let failures := session.outside.failures
    let body : Play Scripted Unit := refuse (.unmet "not logged in")
    Outside.FailsBy failures session.outside ∧ session.browser = {} ∧
      (∀ opened : Session Scripted, opened.Did (fun _ => True) (body opened).2) ∧
      (withBrowser settings body session).1 = .error (.step (.unmet "not logged in") none) ∧
      ∃ made, (withBrowser settings body session).2.calls = session.calls ++ made ∧
        (releasedBy made).Perm (failures.acquired made) := by
  intro settings session failures body
  have calm (name message : String) :
      Fields.get? name session.outside.browserFails ≠ some (.interrupt message) := by
    show (if "context.close" = name then _ else none) ≠ _
    split <;> simp
  have fails : Outside.FailsBy failures session.outside := Scripted.failsBy calm
  have asks (opened : Session Scripted) : opened.Did (fun _ => True) (body opened).2 :=
    .of_eq rfl rfl
  obtain ⟨opened, started, -⟩ := openBrowser_records settings fails rfl
  obtain ⟨-, works, made, calls, balances⟩ := withBrowser_released_iff settings fails rfl asks
  have balanced : opened.Balanced failures (body opened).2 :=
    .of_apart (List.append_nil _).symm (by simp) rfl
  exact ⟨fails, rfl, asks, (works opened started).1, made, calls,
    balances.mpr (.inr ⟨opened, started, balanced⟩)⟩

/-- If the browser cannot be launched, its driver was started and nobody stops it. -/
theorem withBrowser_leaves_driver :
    let settings : BrowserSettings := {}
    let session : Session Scripted :=
      { outside := { browserFails := [("launch", .failure .page "no browser")] } }
    let made := (withBrowser settings (pure ()) session).2.calls
    (withBrowser settings (pure ()) session).1 =
        .error (.outside (.failure .page "no browser")) ∧
      session.outside.failures.acquired made = [.driver] ∧ releasedBy made = [] := by
  refine ⟨rfl, ?_, ?_⟩
  · decide +kernel
  · decide +kernel

end Play

end Walkthrough
