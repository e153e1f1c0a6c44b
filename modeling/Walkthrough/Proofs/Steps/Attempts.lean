import Walkthrough.Outside.Scripted
import Walkthrough.Proofs.Page.Deed
import Walkthrough.Proofs.Steps.Lack

/-!
# Ways to click

A login is sent, and a label is clicked, in the first of several ways that works. The attempts that
are made are the first of these ways in their order: all but the last one fail, and how the last one
ends decides the step (`Walkthrough.Play.carryOut_tries`). There is a last one for every page, since
attempts end at the first that passes or is interrupted, and with the ways
(`Walkthrough.Way.exists_tried`).
-/

namespace Walkthrough

variable {σ : Type}

/-- A way to click an element: by its role and its name, or by a reference that is looked up. -/
inductive Way where
  | named (role name : String)
  | found (reference : String)
  deriving DecidableEq

namespace Way

/-- The ways to send a login. -/
def ofLogin : List Way :=
  [named "button" "Submit", named "button" "Log In", found Play.submitButton]

/-- The ways to click a label. -/
def ofLabel (label : String) : List Way :=
  [named "link" label, named "button" label]

variable [Outside σ]

/-- The play that tries a way. -/
def play : Way → Play σ Unit
  | named role name => Play.clickNamed role name
  | found reference => Play.click reference

/-- What trying a way comes to. An element of a name is clicked within the time of the page. -/
def attempt (manner : Manner) : Way → σ → Deed σ Unit
  | named role name, world =>
    (Outside.locate (.role role (some name)) world).andThen fun locator =>
      Outside.act locator (.click (some manner.settings.timeout))
  | found reference, world =>
    (Outside.lookUp manner.strategies reference (.ofReference reference) world).andThen
      fun locator => Outside.act locator (.click none)

/-- What trying ways comes to one after the other, each in the world that the one before left. -/
def attempts (manner : Manner) : List Way → σ → List (Deed σ Unit)
  | [], _ => []
  | way :: rest, world =>
    way.attempt manner world :: attempts manner rest (way.attempt manner world).world

/-- What a way comes to with others to fall back on. -/
def tryFrom (manner : Manner) : Way → List Way → σ → Deed σ Unit
  | way, [], world => way.attempt manner world
  | way, next :: rest, world =>
    (way.attempt manner world).orElse fun _ => tryFrom manner next rest

/-- Attempts at ways in their order: some that failed, and the last one. It only fails where no way
is left. -/
structure Tried (manner : Manner) (ways : List Way) (world : σ) (tried : List Way)
    (failed : List (Deed σ Unit)) (last : Deed σ Unit) : Prop where
  inOrder : tried <+: ways
  made : attempts manner tried world = failed ++ [last]
  failed : ∀ deed ∈ failed, deed.Fails
  stops : last.Fails → tried = ways

section Tried

variable {manner : Manner} {way : Way} {rest ways tried : List Way} {world : σ}
  {failed : List (Deed σ Unit)} {last : Deed σ Unit}

/-- An attempt that does not fail is the last one. -/
theorem Tried.single (settled : ¬(way.attempt manner world).Fails) :
    Tried manner (way :: rest) world [way] [] (way.attempt manner world) where
  inOrder := ⟨rest, rfl⟩
  made := rfl
  failed := by simp
  stops fails := absurd fails settled

/-- After an attempt that fails the others are tried. -/
theorem Tried.cons (fails : (way.attempt manner world).Fails)
    (later : Tried manner ways (way.attempt manner world).world tried failed last) :
    Tried manner (way :: ways) world (way :: tried) (way.attempt manner world :: failed) last where
  inOrder := (List.prefix_cons_inj way).mpr later.inOrder
  made := by rw [attempts, later.made, List.cons_append]
  failed := List.forall_mem_cons.mpr ⟨fails, later.failed⟩
  stops fails := by rw [later.stops fails]

/-- Attempts are made up to a last one, and what they come to is how the last one ends. -/
theorem exists_tried (manner : Manner) (way : Way) (rest : List Way) (world : σ) :
    ∃ tried failed last, Tried manner (way :: rest) world tried failed last ∧
      tryFrom manner way rest world =
        ⟨last.ended, (failed ++ [last]).flatMap (·.calls), last.world⟩ := by
  induction rest generalizing way world with
  | nil =>
      refine ⟨[way], [], way.attempt manner world,
        ⟨List.prefix_rfl, rfl, by simp, fun _ => rfl⟩, ?_⟩
      rw [tryFrom, List.nil_append, List.flatMap_singleton]
  | cons next rest ih =>
      rw [tryFrom]
      cases ended : (way.attempt manner world).ended with
      | ok value =>
          refine ⟨_, _, _, Tried.single (Deed.not_fails_of_ok ended), ?_⟩
          rw [Deed.orElse_of_ok ended, List.nil_append, List.flatMap_singleton]
      | error fault =>
          cases interrupt : fault.isInterrupt with
          | true =>
              refine ⟨_, _, _, Tried.single (Deed.not_fails_of_interrupt ended interrupt), ?_⟩
              rw [Deed.orElse_of_interrupt ended interrupt, List.nil_append,
                List.flatMap_singleton]
          | false =>
              obtain ⟨tried, failed, last, later, whole⟩ :=
                ih next (way.attempt manner world).world
              refine ⟨_, _, _, Tried.cons ⟨fault, ended, interrupt⟩ later, ?_⟩
              rw [Deed.orElse_of_failure ended interrupt, whole, List.cons_append,
                List.flatMap_cons]

variable (attempted : Tried manner ways world tried failed last)

include attempted

/-- Only the last attempt can pass. -/
theorem Tried.last_ok_iff :
    last.ended = .ok () ↔ ∃ deed ∈ failed ++ [last], deed.ended = .ok () := by
  constructor
  · intro passed
    exact ⟨last, by simp, passed⟩
  · intro some
    obtain ⟨deed, member, passed⟩ := some
    rcases List.mem_append.mp member with early | final
    · exact absurd (attempted.failed deed early) (Deed.not_fails_of_ok passed)
    · rwa [List.mem_singleton.mp final] at passed

theorem Tried.count_ok_le : (failed ++ [last]).countP (·.ended.isOk) ≤ 1 := by
  have none : failed.countP (·.ended.isOk) = 0 := by
    rw [List.countP_eq_zero]
    intro deed member passed
    obtain ⟨fault, ended, -⟩ := attempted.failed deed member
    rw [ended] at passed
    cases passed
  rw [List.countP_append, none, Nat.zero_add]
  exact List.countP_le_length

/-- Only the last attempt can be interrupted. -/
theorem Tried.last_of_interrupt {deed : Deed σ Unit} {fault : Fault}
    (member : deed ∈ failed ++ [last]) (ended : deed.ended = .error fault)
    (interrupt : fault.isInterrupt = true) : last.ended = .error fault := by
  rcases List.mem_append.mp member with early | final
  · exact absurd (attempted.failed deed early) (Deed.not_fails_of_interrupt ended interrupt)
  · rwa [List.mem_singleton.mp final] at ended

end Tried

end Way

variable [Outside σ]

/-- What a step that clicks tries, from the session in which it begins to, and what it notes if one
of the ways works. A login has filled in its name and its password by then. -/
inductive Step.Begins (step : Step) (session : Session σ) :
    List Way → Session σ → String → Prop
  | login {username password : String} {ready : Session σ} : step.action = .uiLogin →
      step.details.credentials? = some (username, password) →
      (do
        Play.fill Play.usernameField username
        Play.fill Play.passwordField password : Play σ Unit) session = (.ok (), ready) →
      Begins step session Way.ofLogin ready s!"logged in as {username}"
  | click {label : String} : step.action = .uiClick → step.details.label? = some label →
      Begins step session (Way.ofLabel label) session s!"clicked {label}"

namespace Play

namespace Does

variable {session : Session σ}

theorem way (way : Way) (session : Session σ) :
    Does way.play session (way.attempt session.manner session.outside) := by
  cases way with
  | named role name =>
      refine .note _ _ _ (.look ?_)
      exact .bind (.locate _ _) fun locator after _ => .act locator _ after
  | found reference =>
      refine .note _ _ _ ?_
      exact .bind (.element reference _) fun locator after _ => .act locator _ after

/-- A way that fails leaves a line in the log before the next one is tried. -/
theorem fallsBack (way : Way) {next : Way} {rest : List Way} {later : Play σ Unit}
    (message : String)
    (others : ∀ after : Session σ, after.manner = session.manner →
      Does later after (next.tryFrom session.manner rest after.outside)) :
    Does (Play.recover way.play fun _ => do
      Play.note .debug .steps message
      later) session (way.tryFrom session.manner (next :: rest) session.outside) := by
  refine .recover (.way way session) fun _ after same => ?_
  exact .note _ _ _ (others _ same)

theorem submitLogin (session : Session σ) :
    Does Play.submitLogin session
      ((Way.named "button" "Submit").tryFrom session.manner
        [.named "button" "Log In", .found submitButton] session.outside) := by
  refine .fallsBack (.named "button" "Submit") _ fun middle same => ?_
  rw [← same]
  refine .fallsBack (.named "button" "Log In") _ fun after same => ?_
  rw [← same]
  exact .way (.found submitButton) after

theorem clickLabel (label : String) (session : Session σ) :
    Does (Play.clickLabel label) session
      ((Way.named "link" label).tryFrom session.manner [.named "button" label]
        session.outside) := by
  refine .fallsBack (.named "link" label) _ fun after same => ?_
  rw [← same]
  exact .way (.named "button" label) after

end Does

/-- What a step that clicks comes to is what the first of its ways comes to with the others to fall
back on. -/
theorem carryOut_begins {step : Step} {session ready : Session σ} {ways : List Way} {note : String}
    (page : session.page.isSome = true) (begins : step.Begins session ways ready note) :
    ∃ way rest, ways = way :: rest ∧
      ready.Led (carryOut step session).2
        (way.tryFrom session.manner rest ready.outside).calls
        (way.tryFrom session.manner rest ready.outside).world ∧
      (carryOut step session).1 =
        (way.tryFrom session.manner rest ready.outside).ended.map fun _ => note := by
  cases begins with
  | @login username password ready action stated filled =>
      have within : Within anything (do
          fill usernameField username
          fill passwordField password : Play σ Unit) :=
        .bind (fill_within anything_pages _ _) fun _ => fill_within anything_pages _ _
      have same := within.manner session
      rw [filled] at same
      have carried : carryOut step session =
          (submitLogin >>= fun _ => pure s!"logged in as {username}") ready := by
        rw [carryOut, action]
        simp only [carryOutLogin, bind_apply_of_ok (requirePage_of_page page), stated]
        rcases first : fill usernameField username session with ⟨fault | _, middle⟩
        · rw [bind_apply_of_error first] at filled
          cases filled
        · rw [bind_apply_of_ok first] at filled
          rw [bind_apply_of_ok first, bind_apply_of_ok filled]
      have does := (Does.submitLogin ready).returning s!"logged in as {username}"
      rw [carried, ← same]
      exact ⟨_, _, rfl, does.led, does.ended⟩
  | @click label action stated =>
      have carried : carryOut step session =
          (clickLabel label >>= fun _ => pure s!"clicked {label}") session := by
        rw [carryOut, action]
        simp only [carryOutClick, bind_apply_of_ok (requirePage_of_page page), stated]
      have does := (Does.clickLabel label session).returning s!"clicked {label}"
      rw [carried]
      exact ⟨_, _, rfl, does.led, does.ended⟩

/-- **The first way that works ends a click.** Once a login has filled in its name and its password,
and for a label at once, the ways are tried in their order, each in the world that the one before
left, and nothing else is asked of the page. All attempts but the last one fail, so one passes at
most. The step passes if an attempt does; if all of them fail, every way was tried, and the fault of
the last one is the fault of the step; an interrupt is the fault of the step at once. -/
theorem carryOut_tries {step : Step} {session ready : Session σ} {ways : List Way} {note : String}
    (page : session.page.isSome = true) (begins : step.Begins session ways ready note) :
    ∃ tried failed last, Way.Tried session.manner ways ready.outside tried failed last ∧
      ready.Led (carryOut step session).2 ((failed ++ [last]).flatMap (·.calls)) last.world ∧
      (carryOut step session).1 = last.ended.map (fun _ => note) ∧
      ((carryOut step session).1 = .ok note ↔ ∃ deed ∈ failed ++ [last], deed.ended = .ok ()) ∧
      (failed ++ [last]).countP (·.ended.isOk) ≤ 1 ∧
      ((∀ deed ∈ failed ++ [last], deed.Fails) →
        tried = ways ∧ ∃ fault, last.ended = .error fault ∧
          (carryOut step session).1 = .error fault) ∧
      ∀ deed ∈ failed ++ [last], ∀ fault, deed.ended = .error fault →
        fault.isInterrupt = true → (carryOut step session).1 = .error fault := by
  obtain ⟨way, rest, rfl, led, ended⟩ := carryOut_begins page begins
  obtain ⟨tried, failed, last, attempted, whole⟩ :=
    Way.exists_tried session.manner way rest ready.outside
  rw [whole] at led ended
  refine ⟨tried, failed, last, attempted, led, ended, ?_, attempted.count_ok_le, ?_, ?_⟩
  · rw [← attempted.last_ok_iff, ended]
    cases last.ended with
    | ok value => simp [Except.map]
    | error fault => simp [Except.map]
  · intro all
    have fails := all last (by simp)
    obtain ⟨fault, failed, -⟩ := id fails
    refine ⟨attempted.stops fails, fault, failed, ?_⟩
    rw [ended, failed]
    rfl
  · intro deed member fault stopped interrupt
    rw [ended, attempted.last_of_interrupt member stopped interrupt]
    rfl

/-- A login on a page without a button of a known name, where a healer looks up the fields and the
button that sends the form. -/
theorem carryOut_tries_login :
    let username := "ada"
    let step : Step := ⟨1, "Login via UI", .uiLogin,
      { username := some username, password := some "secret" }⟩
    let world : Scripted :=
      { elements := [(usernameField, {}), (passwordField, {}), (submitButton, {})] }
    let session : Session Scripted :=
      { outside := world, page := some {}, healer := some { strategies := Strategy.standard } }
    ∃ ready, session.page.isSome = true ∧
      step.Begins session Way.ofLogin ready s!"logged in as {username}" ∧
      ∃ tried failed last,
        Way.Tried session.manner Way.ofLogin ready.outside tried failed last ∧
        (carryOut step session).1 = last.ended.map (fun _ => s!"logged in as {username}") ∧
        last.ended = .ok () := by
  intro username step world session
  have filled : ((do
      fill usernameField username
      fill passwordField "secret" : Play Scripted Unit) session).1.toOption = some () := by
    decide +kernel
  have begins : step.Begins session Way.ofLogin
      ((do
        fill usernameField username
        fill passwordField "secret" : Play Scripted Unit) session).2
      s!"logged in as {username}" :=
    .login rfl rfl (Prod.ext (eq_ok_of_toOption filled) rfl)
  have passed : (carryOut step session).1.toOption = some s!"logged in as {username}" := by
    decide +kernel
  obtain ⟨tried, failed, last, attempted, -, ended, passes, -⟩ := carryOut_tries rfl begins
  refine ⟨_, rfl, begins, tried, failed, last, attempted, ended, ?_⟩
  rw [attempted.last_ok_iff, ← passes]
  exact eq_ok_of_toOption passed

end Play

end Walkthrough
