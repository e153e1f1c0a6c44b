import Mathlib.Data.List.Nodup
import Walkthrough.Proofs.Outside.Failing
import Walkthrough.Proofs.Session.Browser

/-!
# What opening acquires and closing releases

Opening makes its calls in a row, up to the first that fails, and keeps a record of what they
acquired (`Walkthrough.Play.openBrowser_apply`). So whichever calls of the browser fail, closing
after opening releases exactly what opening acquired, and the browser is as fresh as before
(`Walkthrough.Play.closeBrowser_undoes`).
-/

namespace Walkthrough

/-- What of a browser can be acquired. -/
inductive Resource where
  | driver
  | browser
  | context
  deriving DecidableEq

/-- The call that releases what was acquired. -/
def Resource.release : Resource → BrowserCall
  | driver => .stopDriver
  | browser => .closeBrowser
  | context => .closeContext

/-- What a browser call acquires if it succeeds. -/
def BrowserCall.acquires? : BrowserCall → Option Resource
  | startDriver => some .driver
  | launch _ _ => some .browser
  | newContext _ _ => some .context
  | setTimeout _ | newPage | closeContext | closeBrowser | stopDriver => none

/-- What a browser call releases, whatever it is answered. -/
def BrowserCall.releases? : BrowserCall → Option Resource
  | stopDriver => some .driver
  | closeBrowser => some .browser
  | closeContext => some .context
  | startDriver | launch _ _ | newContext _ _ | setTimeout _ | newPage => none

/-- What a call releases, whatever it is answered. -/
def Call.releases? : Call → Option Resource
  | browser call => call.releases?
  | _ => none

/-- What calls released, the first released first. -/
def releasedBy (calls : List Call) : List Resource :=
  calls.filterMap Call.releases?

/-- The calls that release resources, one after the other. -/
def releaseAll (held : List Resource) : List Call :=
  held.map fun resource => .browser resource.release

namespace BrowserFailures

/-- What a call acquires if some calls fail. -/
def acquires? (failures : BrowserFailures) : Call → Option Resource
  | .browser call => if failures.spares call then call.acquires? else none
  | _ => none

/-- What calls acquired, the first acquired first. -/
def acquired (failures : BrowserFailures) (calls : List Call) : List Resource :=
  calls.filterMap failures.acquires?

/-- The calls that are made of browser calls in a row. -/
def calls (failures : BrowserFailures) (row : List BrowserCall) : List Call :=
  (failures.made row).map .browser

variable {failures : BrowserFailures} {call : BrowserCall}

theorem calls_nil : failures.calls [] = [] := rfl

theorem calls_cons_of_spares (spared : failures.spares call = true) (rest : List BrowserCall) :
    failures.calls (call :: rest) = .browser call :: failures.calls rest := by
  rw [calls, made, if_pos spared, List.map_cons, ← calls]

theorem calls_cons_of_not_spares (fails : failures.spares call = false)
    (rest : List BrowserCall) : failures.calls (call :: rest) = [.browser call] := by
  rw [calls, made, if_neg (by rw [fails]; exact Bool.false_ne_true)]
  rfl

theorem ending_cons_of_spares (spared : failures.spares call = true) (rest : List BrowserCall) :
    failures.ending (call :: rest) = failures.ending rest := by
  rw [ending, if_pos spared]

theorem ending_cons_of_not_spares (fails : failures.spares call = false)
    (rest : List BrowserCall) : failures.ending (call :: rest) = failures.answer call := by
  rw [ending, if_neg (by rw [fails]; exact Bool.false_ne_true)]

theorem acquired_cons_of_spares (spared : failures.spares call = true) (calls : List Call) :
    failures.acquired (.browser call :: calls) =
      call.acquires?.toList ++ failures.acquired calls := by
  have first : failures.acquires? (.browser call) = call.acquires? := if_pos spared
  rw [acquired, List.filterMap_cons, first]
  cases call.acquires? <;> rfl

theorem acquired_of_not_spares (fails : failures.spares call = false) :
    failures.acquired [.browser call] = [] := by
  have first : failures.acquires? (.browser call) = none :=
    if_neg (by rw [fails]; exact Bool.false_ne_true)
  rw [acquired, List.filterMap_cons_none first, List.filterMap_nil]

end BrowserFailures

namespace Browser

/-- What a browser has on record as acquired, the last acquired first. -/
def held (opened : Browser) : List Resource :=
  (if opened.context then [.context] else []) ++ (if opened.browser then [.browser] else []) ++
    if opened.driver then [.driver] else []

theorem releases_eq (opened : Browser) : opened.releases = releaseAll opened.held := by
  obtain ⟨driver, browser, context, page⟩ := opened
  cases driver <;> cases browser <;> cases context <;> rfl

theorem held_nodup (opened : Browser) : opened.held.Nodup := by
  obtain ⟨driver, browser, context, page⟩ := opened
  cases driver <;> cases browser <;> cases context <;> simp [held]

/-- The record after a call that succeeded. -/
def after (opened : Browser) : BrowserCall → Browser
  | .startDriver => { opened with driver := true }
  | .launch _ _ => { opened with browser := true }
  | .newContext _ _ => { opened with context := true }
  | .newPage => { opened with page := true }
  | .setTimeout _ | .closeContext | .closeBrowser | .stopDriver => opened

/-- The record after calls in a row, of which those behind the first that fails are not made. -/
def afterAll (failures : BrowserFailures) (opened : Browser) (row : List BrowserCall) : Browser :=
  (row.takeWhile failures.spares).foldl after opened

theorem afterAll_cons_of_spares {failures : BrowserFailures} {call : BrowserCall}
    (spared : failures.spares call = true) (opened : Browser) (rest : List BrowserCall) :
    opened.afterAll failures (call :: rest) = (opened.after call).afterAll failures rest := by
  rw [afterAll, List.takeWhile_cons_of_pos spared, List.foldl_cons, ← afterAll]

theorem afterAll_cons_of_not_spares {failures : BrowserFailures} {call : BrowserCall}
    (fails : failures.spares call = false) (opened : Browser) (rest : List BrowserCall) :
    opened.afterAll failures (call :: rest) = opened := by
  rw [afterAll, List.takeWhile_cons_of_neg (by rw [fails]; exact Bool.false_ne_true)]
  rfl

/-- Each call of a row puts what it acquires on record, before all that is there already. -/
def Stacks : Browser → List BrowserCall → Prop
  | _, [] => True
  | opened, call :: rest =>
    (opened.after call).held = call.acquires?.toList ++ opened.held ∧
      Stacks (opened.after call) rest

/-- What a row acquired goes on record in the reverse order. -/
theorem held_afterAll (failures : BrowserFailures) {opened : Browser} {row : List BrowserCall}
    (stacked : opened.Stacks row) :
    (opened.afterAll failures row).held =
      (failures.acquired (failures.calls row)).reverse ++ opened.held := by
  induction row generalizing opened with
  | nil => rfl
  | cons call rest ih =>
      obtain ⟨first, others⟩ := stacked
      cases spared : failures.spares call with
      | false =>
          rw [afterAll_cons_of_not_spares spared, BrowserFailures.calls_cons_of_not_spares spared,
            BrowserFailures.acquired_of_not_spares spared]
          rfl
      | true =>
          rw [afterAll_cons_of_spares spared, ih others, first,
            BrowserFailures.calls_cons_of_spares spared,
            BrowserFailures.acquired_cons_of_spares spared]
          have single : call.acquires?.toList.reverse = call.acquires?.toList := by
            cases call.acquires? <;> rfl
          rw [List.reverse_append, single, List.append_assoc]

end Browser

/-- The calls that open the browser. -/
def BrowserSettings.opening (settings : BrowserSettings) : List BrowserCall :=
  [.startDriver, .launch settings.headless settings.slowMo,
    .newContext settings.width settings.height, .setTimeout settings.timeout, .newPage]

theorem BrowserSettings.opening_stacks (settings : BrowserSettings) :
    ({} : Browser).Stacks settings.opening :=
  ⟨rfl, rfl, rfl, rfl, rfl, trivial⟩

variable {σ : Type} [Outside σ] {failures : BrowserFailures}

namespace Play

/-- Makes browser calls in a row, and keeps the record. -/
def openInTurn : List BrowserCall → Play σ Unit
  | [] => pure ()
  | call :: rest => do
    ask (.browser call)
    updateBrowser (·.after call)
    openInTurn rest

/-- Writes into the log that the browser is open. -/
def noteOpened (settings : BrowserSettings) : Play σ Unit :=
  match settings.openedLine? with
  | some line => note .info .page line
  | none => pure ()

theorem openBrowser_eq (settings : BrowserSettings) :
    (openBrowser settings : Play σ Unit) = (do
      openInTurn settings.opening
      noteOpened settings) := by
  have unchanged : (updateBrowser (·.after (.setTimeout settings.timeout)) : Play σ Unit) =
      pure () := rfl
  simp only [BrowserSettings.opening, openInTurn, bind_assoc, pure_bind, unchanged]
  rfl

section Opening

variable {session : Session σ}

omit [Outside σ] in
theorem noteOpened_silent (settings : BrowserSettings) :
    Silent (noteOpened settings : Play σ Unit) := by
  unfold noteOpened
  split
  · exact .note _ _ _
  · exact .pure ()

/-- Calls in a row are made up to the first that fails, and those that succeed go on record. -/
theorem openInTurn_apply (row : List BrowserCall)
    (fails : Outside.FailsBy failures session.outside) :
    ∃ world, Outside.Later session.outside world ∧
      openInTurn row session = ((failures.ending row).mapError .outside, { session with
        outside := world
        calls := session.calls ++ failures.calls row
        browser := session.browser.afterAll failures row }) := by
  induction row generalizing session with
  | nil => exact ⟨session.outside, .refl, by rw [BrowserFailures.calls_nil, List.append_nil]; rfl⟩
  | cons call rest ih =>
      have next : Outside.Later session.outside
          (Outside.reply (.browser call) session.outside).2 := .single ⟨_, rfl⟩
      have asked := ask_apply (.browser call) session
      rw [fails _ .refl call] at asked
      cases spared : failures.spares call with
      | false =>
          obtain ⟨kind, message, failed⟩ := BrowserFailures.answer_of_not_spares spared
          rw [failed] at asked
          refine ⟨_, next, ?_⟩
          rw [openInTurn, bind_apply_of_error asked,
            BrowserFailures.ending_cons_of_not_spares spared, failed,
            BrowserFailures.calls_cons_of_not_spares spared,
            Browser.afterAll_cons_of_not_spares spared]
          rfl
      | true =>
          rw [BrowserFailures.answer_of_spares spared] at asked
          obtain ⟨world, later, rested⟩ := @ih { session with
            outside := (Outside.reply (.browser call) session.outside).2
            calls := session.calls ++ [.browser call]
            browser := session.browser.after call } (fails.later next)
          refine ⟨world, next.trans later, ?_⟩
          refine (bind_apply_of_ok asked _).trans
            ((bind_apply_of_ok (modify_apply _ _) _).trans (rested.trans ?_))
          simp only [BrowserFailures.ending_cons_of_spares spared,
            BrowserFailures.calls_cons_of_spares spared,
            Browser.afterAll_cons_of_spares spared, List.append_assoc, List.singleton_append]

/-- However opening ends, it made its calls up to the first that fails, and the record is what those
before it acquired. -/
theorem openBrowser_apply (settings : BrowserSettings)
    (fails : Outside.FailsBy failures session.outside) :
    ∃ world log, Outside.Later session.outside world ∧
      openBrowser settings session =
        ((failures.ending settings.opening).mapError .outside, { session with
          outside := world
          calls := session.calls ++ failures.calls settings.opening
          browser := session.browser.afterAll failures settings.opening
          log }) := by
  obtain ⟨world, later, opened⟩ := openInTurn_apply settings.opening fails
  rw [openBrowser_eq]
  rcases ended : failures.ending settings.opening with mishap | value
  · rw [ended] at opened
    exact ⟨world, session.log, later, bind_apply_of_error opened _⟩
  · rw [ended] at opened
    obtain ⟨_, log, noted⟩ := noteOpened_silent settings { session with
      outside := world
      calls := session.calls ++ failures.calls settings.opening
      browser := session.browser.afterAll failures settings.opening }
    exact ⟨world, log, later, (bind_apply_of_ok opened _).trans noted⟩

/-- Opening a fresh browser leaves on record what it acquired. -/
theorem openBrowser_records (settings : BrowserSettings)
    (fails : Outside.FailsBy failures session.outside) (fresh : session.browser = {}) :
    ∃ opened, openBrowser settings session =
        ((failures.ending settings.opening).mapError .outside, opened) ∧
      Outside.Later session.outside opened.outside ∧
      opened.calls = session.calls ++ failures.calls settings.opening ∧
      opened.browser.held = (failures.acquired (failures.calls settings.opening)).reverse := by
  obtain ⟨world, log, later, opened⟩ := openBrowser_apply settings fails
  refine ⟨_, opened, later, rfl, ?_⟩
  rw [fresh]
  exact (Browser.held_afterAll failures settings.opening_stacks).trans (List.append_nil _)

/-- Closing a browser that has nothing on record makes no call and changes nothing. -/
theorem closeBrowser_fresh (fresh : session.browser = {}) :
    closeBrowser session = (.ok (), session) := by
  obtain ⟨outside, calls, log, vars, client, page, healer, browser⟩ := session
  cases fresh
  rfl

omit [Outside σ] in
theorem requireOpenPage_fresh (fresh : session.browser = {}) :
    requireOpenPage session = (.error .notStarted, session) := by
  obtain ⟨outside, calls, log, vars, client, page, healer, browser⟩ := session
  cases fresh
  rfl

/-- **Closing undoes opening.** Whichever calls of the browser fail, opening a fresh one and then
closing it releases exactly what opening acquired before it ended, each once and the last acquired
first, even where a release fails. Closing itself never fails, and the browser is as fresh as
before: it has no page, closing it again makes no call, and opening it again makes the same calls
and ends the same. -/
theorem closeBrowser_undoes (settings : BrowserSettings)
    (fails : Outside.FailsBy failures session.outside) (fresh : session.browser = {}) :
    ∃ made closed,
      made = failures.calls settings.opening ∧
      (openBrowser settings session).1 =
        (failures.ending settings.opening).mapError .outside ∧
      (openBrowser settings session).2.calls = session.calls ++ made ∧
      closeBrowser (openBrowser settings session).2 = (.ok (), closed) ∧
      closed.calls = session.calls ++ made ++ releaseAll (failures.acquired made).reverse ∧
      (failures.acquired made).Nodup ∧
      closed.browser = {} ∧
      requireOpenPage closed = (.error .notStarted, closed) ∧
      closeBrowser closed = (.ok (), closed) ∧
      (openBrowser settings closed).1 = (openBrowser settings session).1 ∧
      (openBrowser settings closed).2.calls = closed.calls ++ made := by
  obtain ⟨opened, started, later, calls, held⟩ := openBrowser_records settings fails fresh
  have failsOpened := fails.later later
  obtain ⟨world, closing, closed⟩ := closeBrowser_closes failsOpened.releasing
  obtain ⟨again, restarted, -, callsAgain, -⟩ := openBrowser_records settings
    (failsOpened.later closing : Outside.FailsBy failures { opened with
      outside := world, calls := _, browser := {} }.outside) rfl
  rw [started]
  refine ⟨_, _, rfl, rfl, calls, closed, ?_, ?_, rfl, requireOpenPage_fresh rfl,
    closeBrowser_fresh rfl, ?_, ?_⟩
  · rw [calls, Browser.releases_eq, held]
  · rw [← List.nodup_reverse, ← held]
    exact Browser.held_nodup _
  · rw [restarted]
  · rw [restarted]
    exact callsAgain

/-- A browser that opens no page, and whose context cannot even be closed: all three parts are
released all the same. -/
theorem closeBrowser_undoes_pageless :
    let settings : BrowserSettings := {}
    let session : Session Scripted :=
      { outside := { browserFails := [("new_page", .failure .page "out of memory"),
          ("context.close", .failure .page "already closed")] } }
    let failures := session.outside.failures
    Outside.FailsBy failures session.outside ∧ session.browser = {} ∧
      ∃ closed,
        (openBrowser settings session).1 =
          .error (.outside (.failure .page "out of memory")) ∧
        closeBrowser (openBrowser settings session).2 = (.ok (), closed) ∧
        closed.calls = settings.opening.map .browser ++
          releaseAll [.context, .browser, .driver] ∧
        closeBrowser closed = (.ok (), closed) := by
  intro settings session failures
  have calm (name message : String) :
      Fields.get? name session.outside.browserFails ≠ some (.interrupt message) := by
    show (if "new_page" = name then _ else if "context.close" = name then _ else none) ≠ _
    split <;> simp
  have fails : Outside.FailsBy failures session.outside := Scripted.failsBy calm
  obtain ⟨made, closed, calls, ended, -, closes, released, -, -, -, again, -, -⟩ :=
    closeBrowser_undoes settings fails rfl
  have acquired : failures.acquired made = [.driver, .browser, .context] := by
    rw [calls]
    decide +kernel
  refine ⟨fails, rfl, closed, ended, closes, ?_, again⟩
  rw [released, acquired, calls]
  rfl

end Opening

end Play

end Walkthrough
