import Walkthrough.Proofs.Steps.Attempts
import Walkthrough.Proofs.Steps.Execution

/-!
# What a login types

A login that passes has typed twice: the name into the element that the reference of the one field
leads to, and the password into that of the other (`Walkthrough.Play.executeStep_logsIn`). Of all
that the reference and the standard strategies try, the two fields have one locator in common, which
asks for any text box. So both texts go into the same element exactly if neither field was found
before that one was tried.
-/

namespace Walkthrough

/-- What a call types, and where. -/
def Call.typed? : Call → Option (Locator × String)
  | element locator (.fill value) => some (locator, value)
  | _ => none

variable {σ α β : Type}

namespace Deed

/-- What a deed types, in its order. -/
def typed (deed : Deed σ α) : List (Locator × String) := deed.calls.filterMap Call.typed?

/-- A deed that passes is made of parts that pass. -/
theorem exists_of_andThen_ok {deed : Deed σ α} {work : α → σ → Deed σ β} {value : β}
    (passed : (deed.andThen work).ended = .ok value) :
    ∃ early, deed.ended = .ok early ∧ (work early deed.world).ended = .ok value ∧
      (deed.andThen work).typed = deed.typed ++ (work early deed.world).typed := by
  cases ended : deed.ended with
  | ok early =>
      rw [andThen_of_ok ended] at passed
      exact ⟨early, rfl, passed, by rw [typed, andThen_of_ok ended, List.filterMap_append]; rfl⟩
  | error fault =>
      rw [andThen_of_error ended] at passed
      cases passed

theorem typed_andThen {deed : Deed σ α} {work : α → σ → Deed σ β} (first : deed.typed = [])
    (second : ∀ value world, (work value world).typed = []) : (deed.andThen work).typed = [] := by
  cases ended : deed.ended with
  | ok value =>
      rw [typed, andThen_of_ok ended, List.filterMap_append]
      exact List.append_eq_nil_iff.mpr ⟨first, second value deed.world⟩
  | error fault =>
      rw [typed, andThen_of_error ended]
      exact first

theorem typed_orElse {deed : Deed σ α} {fallback : Fault → σ → Deed σ α} (first : deed.typed = [])
    (second : ∀ fault world, (fallback fault world).typed = []) :
    (deed.orElse fallback).typed = [] := by
  cases ended : deed.ended with
  | ok value => rwa [orElse_of_ok ended]
  | error fault =>
      cases interrupt : fault.isInterrupt with
      | true => rwa [orElse_of_interrupt ended interrupt]
      | false =>
          rw [typed, orElse_of_failure ended interrupt, List.filterMap_append]
          exact List.append_eq_nil_iff.mpr ⟨first, second fault deed.world⟩

end Deed

section Searching

variable [Outside σ]

/-- Looking for an element types nothing. -/
theorem search_typed (trials : List Trial) (world : σ) :
    (search trials world).calls.filterMap Call.typed? = [] := by
  have probed (locator : Locator) (world : σ) :
      (Outside.probe locator world).calls.filterMap Call.typed? = [] := by
    unfold Outside.probe
    split <;> rfl
  induction trials generalizing world with
  | nil => rfl
  | cons trial rest ih =>
      cases verdict : trial.verdict (Outside.probe trial.locator world).answer with
      | taken => rw [search_cons_of_taken verdict, probed]
      | interrupted message => rw [search_cons_of_interrupted verdict, probed]
      | missed =>
          rw [search_cons_of_missed verdict, List.filterMap_append, probed, ih, List.append_nil]

namespace Outside

theorem locate_typed (locator : Locator) (world : σ) : (locate locator world).typed = [] :=
  Deed.typed_andThen rfl fun _ _ => rfl

theorem lookUp_typed (strategies : Option (List Strategy)) (reference : String) (plain : Locator)
    (world : σ) : (lookUp strategies reference plain world).typed = [] := by
  cases strategies with
  | none => exact locate_typed plain world
  | some strategies =>
      have silent := search_typed (trialsOf strategies reference reference) world
      rw [lookUp, resolve, Deed.typed]
      rcases searched : search (trialsOf strategies reference reference) world with
        ⟨⟨missed, taken⟩ | _ | message, calls, after⟩
      · rw [searched] at silent
        cases missed with
        | nil => exact silent
        | cons first missed =>
            rw [List.filterMap_append]
            exact List.append_eq_nil_iff.mpr ⟨silent, rfl⟩
      · rwa [searched] at silent
      · rwa [searched] at silent

/-- What a look-up with strategies comes to is the first element of one of its trials. -/
theorem exists_of_lookUp {strategies : List Strategy} {reference : String} {plain element : Locator}
    {world : σ} (found : (lookUp (some strategies) reference plain world).ended = .ok element) :
    ∃ trial ∈ trialsOf strategies reference reference, element = .first trial.locator := by
  rw [lookUp, resolve] at found
  rcases searched : search (trialsOf strategies reference reference) world with
    ⟨⟨missed, taken⟩ | _ | message, calls, after⟩
  · rw [searched] at found
    obtain ⟨later, split⟩ := search_found (congrArg Searched.ending searched)
    cases missed with
    | nil =>
        cases found
        exact ⟨_, List.mem_cons_self, rfl⟩
    | cons first missed =>
        refine ⟨taken, by rw [split]; simp, ?_⟩
        rcases answered : (reply (.element (.first taken.locator) .label) after).1 with
          ⟨⟨kind, message⟩ | message⟩ | label
        · simp only [answered] at found
          exact (Except.ok.inj found).symm
        · simp only [answered] at found
          cases found
        · simp only [answered] at found
          exact (Except.ok.inj found).symm
  · rw [searched] at found
    cases found
  · rw [searched] at found
    cases found

theorem eq_of_lookUp {reference : String} {plain element : Locator} {world : σ}
    (found : (lookUp none reference plain world).ended = .ok element) : element = plain := by
  have located : ((ask (.locate plain) world).andThen fun _ => Deed.pure plain).ended =
      .ok element := found
  obtain ⟨_, -, same, -⟩ := Deed.exists_of_andThen_ok located
  cases same
  rfl

/-- What typing a value into the element of a reference comes to. -/
def fill (manner : Manner) (reference value : String) (world : σ) : Deed σ Unit :=
  (lookUp manner.strategies reference (.ofReference reference) world).andThen fun locator =>
    act locator (.fill value)

/-- A value is typed once, into what the reference leads to. -/
theorem exists_of_fill {manner : Manner} {reference value : String} {world : σ}
    (passed : (fill manner reference value world).ended = .ok ()) :
    ∃ element,
      (lookUp manner.strategies reference (.ofReference reference) world).ended = .ok element ∧
      (fill manner reference value world).typed = [(element, value)] := by
  obtain ⟨element, found, -, typed⟩ := Deed.exists_of_andThen_ok passed
  refine ⟨element, found, ?_⟩
  rw [fill, typed, lookUp_typed]
  rfl

end Outside

/-- Trying to send a form types nothing. -/
theorem Way.tryFrom_typed (manner : Manner) (way : Way) (rest : List Way) (world : σ) :
    (way.tryFrom manner rest world).typed = [] := by
  have attempted (way : Way) (world : σ) : (way.attempt manner world).typed = [] := by
    cases way with
    | named role name => exact Deed.typed_andThen (Outside.locate_typed _ _) fun _ _ => rfl
    | found reference => exact Deed.typed_andThen (Outside.lookUp_typed _ _ _ _) fun _ _ => rfl
  induction rest generalizing way world with
  | nil => exact attempted way world
  | cons next rest ih => exact Deed.typed_orElse (attempted way world) fun _ world => ih next world

end Searching

namespace Strategy

/-- What the reference itself and the standard strategies try without a description. -/
def standardLocators (reference : String) : List Locator :=
  .selector reference ::
    (standard.flatMap fun strategy => strategy.trials reference reference).map (·.locator)

/-- Strategies among the standard ones try nothing else. -/
theorem locator_mem_of_trialsOf {strategies : List Strategy}
    (among : ∀ strategy ∈ strategies, strategy ∈ standard) {reference : String} {trial : Trial}
    (member : trial ∈ trialsOf strategies reference reference) :
    trial.locator ∈ standardLocators reference := by
  rcases List.mem_cons.mp member with rfl | fallback
  · exact List.mem_cons_self
  · obtain ⟨strategy, used, proposed⟩ := List.mem_flatMap.mp fallback
    have standard := among strategy ((List.takeWhile_sublist _).subset used)
    exact List.mem_cons_of_mem _
      (List.mem_map_of_mem (List.mem_flatMap.mpr ⟨strategy, standard, proposed⟩))

/-- The fields of a login have one locator in common, which asks for any text box. -/
theorem eq_textbox_of_mem : ∀ locator ∈ standardLocators Play.usernameField,
    locator ∈ standardLocators Play.passwordField → locator = .role "textbox" none := by
  decide +kernel

end Strategy

/-- Whether elements are looked up without a healer, or with strategies among the standard ones. -/
def Manner.IsStandard (manner : Manner) : Prop :=
  ∀ strategies, manner.strategies = some strategies →
    ∀ strategy ∈ strategies, strategy ∈ Strategy.standard

variable [Outside σ]

section Fields

variable {manner : Manner} {world later : σ} {nameElement wordElement : Locator}
  (nameFound : (Outside.lookUp manner.strategies Play.usernameField
    (.ofReference Play.usernameField) world).ended = .ok nameElement)
  (wordFound : (Outside.lookUp manner.strategies Play.passwordField
    (.ofReference Play.passwordField) later).ended = .ok wordElement)

include nameFound wordFound

/-- Without a healer the fields are told apart by their references. -/
theorem Outside.ne_of_lookUp (bare : manner.strategies = none) : nameElement ≠ wordElement := by
  rw [bare] at nameFound wordFound
  rw [eq_of_lookUp nameFound, eq_of_lookUp wordFound]
  decide

/-- The fields are looked up as one element exactly if each is looked up as the first text box. -/
theorem Outside.eq_iff_of_lookUp (standard : manner.IsStandard) :
    nameElement = wordElement ↔
      nameElement = .first (.role "textbox" none) ∧
        wordElement = .first (.role "textbox" none) := by
  constructor
  · intro same
    cases healing : manner.strategies with
    | none => exact absurd same (Outside.ne_of_lookUp nameFound wordFound healing)
    | some strategies =>
        have among := standard strategies healing
        rw [healing] at nameFound wordFound
        obtain ⟨nameTrial, nameTried, rfl⟩ := exists_of_lookUp nameFound
        obtain ⟨wordTrial, wordTried, rfl⟩ := exists_of_lookUp wordFound
        have shared : nameTrial.locator = wordTrial.locator := Locator.first.inj same
        have textbox : nameTrial.locator = .role "textbox" none :=
          -- each look-up took one of its own trials, and the two lists share one locator
          Strategy.eq_textbox_of_mem _ (Strategy.locator_mem_of_trialsOf among nameTried)
            (shared ▸ Strategy.locator_mem_of_trialsOf among wordTried)
        rw [← shared, textbox]
        exact ⟨rfl, rfl⟩
  · intro both
    rw [both.1, both.2]

end Fields

namespace Play

variable {session after : Session σ} {step : Step}

theorem Does.fill (reference value : String) (session : Session σ) :
    Does (Play.fill reference value) session
      (Outside.fill session.manner reference value session.outside) := by
  refine .note _ _ _ ?_
  exact .bind (.element reference _) fun locator after _ => .act locator _ after

/-- What a login with a name and a password comes to. -/
def logInDeed (manner : Manner) (username password : String) (world : σ) : Deed σ Unit :=
  (Outside.fill manner usernameField username world).andThen fun _ middle =>
    (Outside.fill manner passwordField password middle).andThen fun _ ready =>
      (Way.named "button" "Submit").tryFrom manner
        [.named "button" "Log In", .found submitButton] ready

theorem Does.logIn (username password : String) (session : Session σ) :
    Does (do
      Play.fill usernameField username
      Play.fill passwordField password
      Play.submitLogin) session (logInDeed session.manner username password session.outside) := by
  refine .bind (.fill usernameField username session) fun _ middle same => ?_
  rw [← same]
  refine .bind (.fill passwordField password middle) fun _ ready same => ?_
  rw [← same]
  exact .submitLogin ready

/-- A login that is carried out has a name and a password, and does what it does with them. -/
theorem exists_of_carryOut {notes : String} (action : step.action = .uiLogin)
    (passed : carryOut step session = (.ok notes, after)) :
    ∃ username password, step.details.credentials? = some (username, password) ∧
      (logInDeed session.manner username password session.outside).ended = .ok () ∧
      session.Led after (logInDeed session.manner username password session.outside).calls
        (logInDeed session.manner username password session.outside).world := by
  have carried : carryOut step session = carryOutLogin step.details session := by
    rw [carryOut, action]
  rw [carried, carryOutLogin] at passed
  rcases paged : (requirePage : Play σ Unit) session with ⟨fault | _, middle⟩
  · rw [bind_apply_of_error paged] at passed
    cases passed
  · obtain rfl : middle = session := by
      rw [requirePage, bind_apply_of_ok (get_apply session)] at paged
      split at paged <;> cases paged
      rfl
    rw [bind_apply_of_ok paged] at passed
    cases stated : step.details.credentials? with
    | none =>
        rw [stated] at passed
        cases passed
    | some credentials =>
        obtain ⟨username, password⟩ := credentials
        rw [stated] at passed
        dsimp only at passed
        have does := (Does.logIn username password middle).returning s!"logged in as {username}"
        simp only [bind_assoc] at does
        obtain ⟨ended, led, -⟩ := does
        rw [passed] at ended led
        refine ⟨username, password, rfl, ?_, led⟩
        cases final : (logInDeed middle.manner username password middle.outside).ended with
        | ok value => rfl
        | error fault =>
            rw [final] at ended
            cases ended

/-- A login that passes types the name and the password, each into what its field leads to. -/
theorem exists_of_logInDeed {manner : Manner} {username password : String} {world : σ}
    (passed : (logInDeed manner username password world).ended = .ok ()) :
    ∃ nameElement wordElement,
      (Outside.lookUp manner.strategies usernameField (.ofReference usernameField)
        world).ended = .ok nameElement ∧
      (Outside.lookUp manner.strategies passwordField (.ofReference passwordField)
        (Outside.fill manner usernameField username world).world).ended = .ok wordElement ∧
      (logInDeed manner username password world).typed =
        [(nameElement, username), (wordElement, password)] := by
  obtain ⟨_, named, later, typed⟩ := Deed.exists_of_andThen_ok passed
  obtain ⟨_, worded, _, typedLater⟩ := Deed.exists_of_andThen_ok later
  obtain ⟨nameElement, nameFound, nameTyped⟩ := Outside.exists_of_fill named
  obtain ⟨wordElement, wordFound, wordTyped⟩ := Outside.exists_of_fill worded
  refine ⟨nameElement, wordElement, nameFound, wordFound, ?_⟩
  rw [logInDeed, typed, typedLater, nameTyped, wordTyped, Way.tryFrom_typed]
  rfl

/-- **What a login types, and where.** A step that logs in and passes has typed twice, whatever the
page: its name into the element that the reference of the field for names leads to, and then its
password into the one that the reference of the field for passwords leads to in the world that is
left. Nothing else is typed. With the standard strategies or without a healer both are the same
element exactly if each was found as the first text box of the page; without a healer they never
are. -/
theorem executeStep_logsIn {report : StepReport} (action : step.action = .uiLogin)
    (passed : executeStep step session = (.ok report, after)) :
    ∃ username password nameElement wordElement made,
      step.details.credentials? = some (username, password) ∧
      (Outside.lookUp session.manner.strategies usernameField (.ofReference usernameField)
        session.outside).ended = .ok nameElement ∧
      (Outside.lookUp session.manner.strategies passwordField (.ofReference passwordField)
        (Outside.fill session.manner usernameField username session.outside).world).ended =
          .ok wordElement ∧
      after.calls = session.calls ++ made ∧
      made.filterMap Call.typed? = [(nameElement, username), (wordElement, password)] ∧
      (session.manner.IsStandard → (nameElement = wordElement ↔
        nameElement = .first (.role "textbox" none) ∧
          wordElement = .first (.role "textbox" none))) ∧
      (session.healer = none → nameElement ≠ wordElement) := by
  obtain ⟨notes, stopped, carried⟩ := carryOut_of_executeStep passed
  obtain ⟨reports, log, same⟩ := executeStep_after step session
  rw [passed, carried] at same
  obtain ⟨username, password, stated, ended, led⟩ := exists_of_carryOut action carried
  obtain ⟨nameElement, wordElement, nameFound, wordFound, typed⟩ := exists_of_logInDeed ended
  refine ⟨username, password, nameElement, wordElement, _, stated, nameFound, wordFound,
    (congrArg Session.calls same).trans led.calls, typed,
    Outside.eq_iff_of_lookUp nameFound wordFound, fun unhealed => ?_⟩
  refine Outside.ne_of_lookUp nameFound wordFound ?_
  rw [announced, Session.manner, unhealed]
  rfl

/-- A login on a page that has both fields, with a healer. -/
theorem executeStep_logsIn_fields :
    let step : Step := ⟨1, "Login via UI", .uiLogin,
      { username := some "ada", password := some "secret" }⟩
    let session : Session Scripted :=
      { outside := { elements := [(usernameField, {}), (passwordField, {}),
          ("role=button[name=Submit]", {})] }
        page := some {}
        healer := some { strategies := Strategy.standard } }
    step.action = .uiLogin ∧ ∃ report after, executeStep step session = (.ok report, after) ∧
      ∃ nameElement wordElement, nameElement ≠ wordElement ∧
        after.calls.filterMap Call.typed? = [(nameElement, "ada"), (wordElement, "secret")] := by
  intro step session
  have passes : (executeStep step session).1.toOption.isSome = true := by decide +kernel
  have found : (Outside.lookUp session.manner.strategies usernameField
      (.ofReference usernameField) session.outside).ended.toOption =
        some (.first (.selector usernameField)) := by
    decide +kernel
  have standard : session.manner.IsStandard := by
    rintro _ ⟨⟩ strategy member
    exact member
  rcases ended : executeStep step session with ⟨fault | report, after⟩
  · rw [ended] at passes
    cases passes
  · obtain ⟨username, password, nameElement, wordElement, made, stated, nameFound, -, calls, typed,
      same, -⟩ := executeStep_logsIn rfl ended
    cases stated
    rw [nameFound] at found
    refine ⟨rfl, report, after, rfl, nameElement, wordElement, ?_, ?_⟩
    · rw [ne_eq, same standard, Option.some.inj found]
      rintro ⟨⟨⟩, -⟩
    · rw [calls]
      exact typed

/-- On a page without the fields, whose candidates come after its twelve text boxes, a login that
passes types both texts into the first of these. -/
theorem executeStep_logsIn_textboxes :
    let step : Step := ⟨1, "Login via UI", .uiLogin,
      { username := some "ada", password := some "secret" }⟩
    let session : Session Scripted :=
      { outside := { elements := [("role=textbox", { count := 12 }),
          ("[name*=\"username\"]", {}), ("[name*=\"password\"]", {}),
          ("role=button[name=Submit]", {})] }
        page := some {}
        healer := some { strategies := Strategy.standard } }
    (executeStep step session).1.toOption.isSome = true ∧
      (executeStep step session).2.calls.filterMap Call.typed? =
        [(.first (.role "textbox" none), "ada"), (.first (.role "textbox" none), "secret")] := by
  decide +kernel

end Play

end Walkthrough
