import Walkthrough.Proofs.Prompt.Quoted
import Walkthrough.Proofs.Steps.Lack

/-!
# Clicking what a step quotes

A step that clicks asks the page for the link of its label, and for the button if the link cannot be
clicked, and asks for nothing else (`Walkthrough.Play.carryOut_clicks`). A quoted text is that label
exactly if it holds no quote of another kind (`Walkthrough.Play.quoted_whole_iff`).
-/

namespace Walkthrough

variable {σ α β : Type}

/-- The call that clicks the element of a role that has a name. -/
def Call.click (role name : String) (timeout : Int) : Call :=
  .element (.role role (some name)) (.click (some timeout))

namespace Play

/-- A play makes calls in their order: all of them if it ends with a value, and no more than the
first ones if a fault stops it. The page is driven as before. -/
structure Makes (play : Play σ α) (session : Session σ) (calls : List Call) : Prop where
  page : (play session).2.page = session.page
  made : ∃ made, (play session).2.calls = session.calls ++ made ∧ made <+: calls ∧
    ((play session).1.toOption.isSome = true → made = calls)

namespace Makes

variable {session : Session σ} {early late : List Call}

theorem bind {play : Play σ α} {next : α → Play σ β} (first : Makes play session early)
    (second : ∀ value after, play session = (.ok value, after) → Makes (next value) after late) :
    Makes (play >>= next) session (early ++ late) := by
  obtain ⟨page, made, calls, front, whole⟩ := first
  rcases ended : play session with ⟨fault | value, after⟩
  · rw [ended] at page calls
    have stopped := bind_apply_of_error ended next
    refine ⟨by rw [stopped]; exact page, made, by rw [stopped]; exact calls, ?_, ?_⟩
    · exact front.trans (List.prefix_append _ _)
    · rw [stopped]
      rintro ⟨⟩
  · rw [ended] at page calls whole
    obtain rfl := whole rfl
    have goesOn := bind_apply_of_ok ended next
    obtain ⟨laterPage, more, laterCalls, laterFront, laterWhole⟩ := second value after ended
    refine ⟨by rw [goesOn]; exact laterPage.trans page, made ++ more, ?_, ?_, ?_⟩
    · rw [goesOn, laterCalls, calls, List.append_assoc]
    · exact (List.prefix_append_right_inj _).mpr laterFront
    · rw [goesOn]
      exact fun passed => congrArg _ (laterWhole passed)

/-- A play that asks nothing of the world outside. -/
theorem of_eq {play : Play σ α} (page : (play session).2.page = session.page)
    (calls : (play session).2.calls = session.calls) : Makes play session [] :=
  ⟨page, [], by rw [calls, List.append_nil], List.prefix_rfl, fun _ => rfl⟩

/-- A fallback comes after the calls of the play that failed. -/
theorem recover {first : Play σ α} {handler : Fault → Play σ α} (tries : Makes first session early)
    (fallsBack : ∀ fault after, first session = (.error fault, after) →
      Makes (handler fault) after late) :
    ∃ made, (Play.recover first handler session).2.calls = session.calls ++ made ∧
      made.Sublist (early ++ late) ∧
      ((Play.recover first handler session).1.toOption.isSome = true →
        made = early ∨ late <:+ made) := by
  obtain ⟨-, made, calls, front, whole⟩ := tries
  rcases ended : first session with ⟨fault | value, after⟩
  · rw [ended] at calls
    cases interrupt : fault.isInterrupt with
    | true =>
        rw [recover_apply_of_interrupt ended interrupt]
        exact ⟨made, calls, front.sublist.trans (List.sublist_append_left _ _), by rintro ⟨⟩⟩
    | false =>
        rw [recover_apply_of_failure ended interrupt]
        obtain ⟨-, more, laterCalls, laterFront, laterWhole⟩ := fallsBack fault after ended
        refine ⟨made ++ more, ?_, front.sublist.append laterFront.sublist, ?_⟩
        · rw [laterCalls, calls, List.append_assoc]
        · intro passed
          rw [laterWhole passed]
          exact .inr (List.suffix_append _ _)
  · rw [ended] at calls whole
    rw [recover_apply_of_ok ended]
    exact ⟨made, calls, front.sublist.trans (List.sublist_append_left _ _),
      fun passed => .inl (whole passed)⟩

variable [Outside σ]

theorem ask (call : Call) (session : Session σ) :
    Makes (ask call) session ([call].filter (·.isTraced)) := by
  refine ⟨?_, _, ?_, List.prefix_rfl, fun _ => rfl⟩ <;> rw [ask_apply]

theorem locate (locator : Locator) (session : Session σ) : Makes (locate locator) session [] :=
  .bind (.ask (.locate locator) session) fun _ _ _ => .of_eq rfl rfl

theorem eq_of_locate {locator found : Locator} {after : Session σ}
    (located : Play.locate locator session = (.ok found, after)) : found = locator := by
  rcases asked : Play.ask (.locate locator) session with ⟨fault | answer, middle⟩
  · rw [Play.locate, bind_apply_of_error asked] at located
    cases located
  · rw [Play.locate, bind_apply_of_ok asked] at located
    cases located
    rfl

/-- A click on an element by its name is one call, if the page makes the locator at all. -/
theorem clickNamed (role name : String) (session : Session σ) :
    Makes (clickNamed role name) session [.click role name (session.page.getD {}).timeout] := by
  refine .bind (.of_eq rfl rfl) fun _ after noted => ?_
  obtain rfl : after = _ := (congrArg Prod.snd noted).symm
  refine .bind (.of_eq rfl rfl) fun settings after looked => ?_
  cases looked
  refine .bind (.locate _ _) fun found after located => ?_
  rw [eq_of_locate located]
  exact .ask _ _

end Makes

variable [Outside σ]

/-- A play only clicks elements of a name: the link, and the button if the link cannot be clicked.
If it ends with a value, it has clicked one of them. -/
def Clicks (play : Play σ α) (session : Session σ) (name : String) : Prop :=
  ∃ made, (play session).2.calls = session.calls ++ made ∧
    made.Sublist [.click "link" name (session.page.getD {}).timeout,
      .click "button" name (session.page.getD {}).timeout] ∧
    ((play session).1.toOption.isSome = true → made ≠ [])

theorem clickLabel_clicks (label : String) (session : Session σ) :
    Clicks (clickLabel label) session label := by
  have link := Makes.clickNamed "link" label session
  have button (fault : Fault) (after : Session σ)
      (failed : clickLink label session = (.error fault, after)) :
      Makes (do
        note .debug .steps s!"No link named {quoted label}; trying a button"
        clickButton label : Play σ Unit) after
        [.click "button" label (session.page.getD {}).timeout] := by
    have page : after.page = session.page := by
      rw [← link.page, show clickNamed "link" label session = _ from failed]
    refine .bind (.of_eq rfl rfl) fun _ middle noted => ?_
    obtain rfl : middle = _ := (congrArg Prod.snd noted).symm
    rw [← page]
    exact .clickNamed "button" label _
  obtain ⟨made, calls, inOrder, passes⟩ := link.recover button
  refine ⟨made, calls, inOrder, fun passed => ?_⟩
  rcases passes passed with rfl | ⟨front, rfl⟩
  · simp
  · simp

/-- A step that clicks clicks its label. -/
theorem carryOut_clicks {step : Step} {label : String} (action : step.action = .uiClick)
    (stated : step.details.label? = some label) {session : Session σ}
    (page : session.page.isSome = true) : Clicks (carryOut step) session label := by
  have carried : carryOut step session =
      (clickLabel label >>= fun _ => pure s!"clicked {label}") session := by
    rw [carryOut, action]
    simp only [carryOutClick, bind_apply_of_ok (requirePage_of_page page), stated]
  obtain ⟨made, calls, inOrder, passes⟩ := clickLabel_clicks label session
  rw [Clicks, carried]
  rcases ended : clickLabel label session with ⟨fault | value, after⟩
  · rw [ended] at calls
    rw [bind_apply_of_error ended]
    exact ⟨made, calls, inOrder, by rintro ⟨⟩⟩
  · rw [ended] at calls passes
    rw [bind_apply_of_ok ended]
    exact ⟨made, calls, inOrder, fun _ => passes rfl⟩

omit [Outside σ] in
/-- **A quoted text is taken whole exactly if it holds no quote of any kind.** Then it is looked for
without its margins, or clicked as it is. If there is a quote in it, what stands before the first
one is taken for the whole. -/
theorem quoted_whole_iff {quote : Char} (opens : Details.isQuote quote = true) {text : String}
    (nonblank : trimmed text ≠ "") :
    let verify := Details.ofBlock ("Verify " ++ inQuotes quote text)
    let click := Details.ofBlock ("Click " ++ inQuotes quote text)
    (verify.validateText = some (trimmed text) ↔ ∀ c ∈ text.toList, Details.isQuote c = false) ∧
    (click.label? = some text ↔ ∀ c ∈ text.toList, Details.isQuote c = false) ∧
    (∀ part other rest, text.toList = part.toList ++ other :: rest → part ≠ "" →
      Details.isQuote other = true → (∀ c ∈ part.toList, Details.isQuote c = false) →
        verify.validateText = some (trimmed part) ∧ click.label? = some part) ∧
    ∀ {σ : Type} [Outside σ] (session : Session σ) (step : Step) (label : String),
      session.page.isSome = true → step.action = .uiClick → step.details = click →
        click.label? = some label → Clicks (carryOut step) session label := by
  intro verify click
  have nonempty : text.toList ≠ [] := by
    intro empty
    exact nonblank (by rw [trimmed, empty]; rfl)
  refine ⟨Details.validateText_inQuotes_iff opens nonempty,
    Details.label?_inQuotes_iff opens nonempty, ?_, ?_⟩
  · intro part other rest split some closes unquoted
    have cut : text.toList ++ [quote] = part.toList ++ other :: (rest ++ [quote]) := by
      rw [split, List.append_assoc, List.cons_append]
    have partSome : part.toList ≠ [] := by simpa using some
    refine ⟨?_, ?_⟩
    · rw [Details.validateText_inQuotes opens closes cut partSome unquoted, String.ofList_toList]
    · rw [Details.label?_inQuotes opens closes cut partSome unquoted, String.ofList_toList]
  · intro σ _ session step label page action same stated
    exact carryOut_clicks action (by rw [same]; exact stated) page

/-- A text with margins in backticks. -/
theorem quoted_whole_iff_margins :
    Details.isQuote '\x60' = true ∧ trimmed " Log In " ≠ "" ∧
      (Details.ofBlock "Verify \x60 Log In \x60").validateText = some "Log In" ∧
      (Details.ofBlock "Click \x60 Log In \x60").label? = some " Log In " := by
  have opens : Details.isQuote '\x60' = true := by decide
  have nonblank : trimmed " Log In " ≠ "" := by decide +kernel
  have unquoted : ∀ c ∈ " Log In ".toList, Details.isQuote c = false := by
    have noQuote : " Log In ".toList.any Details.isQuote = false := by decide +kernel
    simpa only [Bool.not_eq_true] using List.any_eq_false.mp noQuote
  obtain ⟨verify, click, -, -⟩ := quoted_whole_iff opens nonblank
  exact ⟨opens, nonblank, verify.mpr unquoted, click.mpr unquoted⟩

/-- An apostrophe ends a text in double quotes. -/
theorem quoted_cut_short :
    trimmed "Don't save" ≠ "" ∧ '"' ∉ "Don't save".toList ∧
      (Details.ofBlock ("Verify " ++ inQuotes '"' "Don't save")).validateText = some "Don" ∧
      (Details.ofBlock ("Click " ++ inQuotes '"' "Don't save")).label? = some "Don" := by
  decide +kernel

end Play

end Walkthrough
