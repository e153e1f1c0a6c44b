import Walkthrough.Proofs.Healing.Resolve
import Walkthrough.Proofs.Page.Parallel
import Walkthrough.Proofs.Page.Scope

/-!
# Work on a page, seen from outside

A deed is what work on a page comes to for the page: how it ends, the calls that leave a trace, and
the world afterwards. It does not depend on the log or on what the healer remembers, only on the
world before and on the manner of the run: how its page is driven, and the strategies of its healer.
A play that does a deed is put together like the deed (`Walkthrough.Play.Does`).
-/

namespace Walkthrough

variable {σ α β : Type}

/-- What work on a page comes to: how it ends, the calls that leave a trace, and the world
afterwards. -/
structure Deed (σ α : Type) where
  ended : Except Fault α
  calls : List Call
  world : σ

namespace Deed

/-- A deed that ends at once. -/
def pure (value : α) (world : σ) : Deed σ α :=
  ⟨.ok value, [], world⟩

@[simp] theorem pure_ended (value : α) (world : σ) : (pure value world).ended = .ok value := rfl

@[simp] theorem pure_calls (value : α) (world : σ) : (pure value world).calls = [] := rfl

@[simp] theorem pure_world (value : α) (world : σ) : (pure value world).world = world := rfl

/-- A deed with what is done after it. A fault ends it. -/
def andThen (deed : Deed σ α) (next : α → σ → Deed σ β) : Deed σ β :=
  match deed.ended with
  | .ok value =>
    ⟨(next value deed.world).ended, deed.calls ++ (next value deed.world).calls,
      (next value deed.world).world⟩
  | .error fault => ⟨.error fault, deed.calls, deed.world⟩

/-- A deed with what is done if it ends with a fault. No fallback answers an interrupt. -/
def orElse (deed : Deed σ α) (fallback : Fault → σ → Deed σ α) : Deed σ α :=
  match deed.ended with
  | .ok _ => deed
  | .error fault =>
    if fault.isInterrupt then deed
    else
      ⟨(fallback fault deed.world).ended, deed.calls ++ (fallback fault deed.world).calls,
        (fallback fault deed.world).world⟩

/-- A deed that ends with a fault that a fallback may answer. -/
def Fails (deed : Deed σ α) : Prop :=
  ∃ fault, deed.ended = .error fault ∧ fault.isInterrupt = false

section Ends

variable {deed : Deed σ α} {fault : Fault} {value : α}

theorem andThen_of_ok (ended : deed.ended = .ok value) (next : α → σ → Deed σ β) :
    deed.andThen next =
      ⟨(next value deed.world).ended, deed.calls ++ (next value deed.world).calls,
        (next value deed.world).world⟩ := by
  rw [andThen, ended]

theorem andThen_of_error (ended : deed.ended = .error fault) (next : α → σ → Deed σ β) :
    deed.andThen next = ⟨.error fault, deed.calls, deed.world⟩ := by
  rw [andThen, ended]

theorem andThen_pure (deed : Deed σ α) : deed.andThen pure = deed := by
  obtain ⟨fault | value, calls, world⟩ := deed
  · exact andThen_of_error rfl _
  · rw [andThen_of_ok rfl, pure, List.append_nil]

theorem orElse_of_ok (ended : deed.ended = .ok value) (fallback : Fault → σ → Deed σ α) :
    deed.orElse fallback = deed := by
  rw [orElse, ended]

/-- A deed that passes does not fail. -/
theorem not_fails_of_ok (ended : deed.ended = .ok value) : ¬deed.Fails := by
  intro fails
  obtain ⟨fault, failed, -⟩ := fails
  rw [ended] at failed
  cases failed

/-- A deed that is interrupted does not fail. -/
theorem not_fails_of_interrupt (ended : deed.ended = .error fault)
    (interrupt : fault.isInterrupt = true) : ¬deed.Fails := by
  intro fails
  obtain ⟨other, failed, caught⟩ := fails
  rw [ended] at failed
  cases failed
  rw [interrupt] at caught
  cases caught

theorem orElse_of_interrupt (ended : deed.ended = .error fault)
    (interrupt : fault.isInterrupt = true) (fallback : Fault → σ → Deed σ α) :
    deed.orElse fallback = deed := by
  rw [orElse, ended]
  exact if_pos interrupt

theorem orElse_of_failure (ended : deed.ended = .error fault)
    (caught : fault.isInterrupt = false) (fallback : Fault → σ → Deed σ α) :
    deed.orElse fallback =
      ⟨(fallback fault deed.world).ended, deed.calls ++ (fallback fault deed.world).calls,
        (fallback fault deed.world).world⟩ := by
  rw [orElse, ended]
  exact if_neg (by rw [caught]; exact Bool.false_ne_true)

end Ends

end Deed

/-- What work on a page goes by: how the page is driven, and the strategies of the healer, if there
is one. -/
structure Manner where
  settings : PageSettings
  strategies : Option (List Strategy)

/-- The manner in which a session works on its page. -/
def Session.manner (session : Session σ) : Manner where
  settings := session.page.getD {}
  strategies := session.healer.map (·.strategies)

section World

variable [Outside σ]

namespace Outside

/-- What a call comes to. -/
def ask (call : Call) (world : σ) : Deed σ call.Answer :=
  ⟨(reply call world).1.mapError .outside, [call].filter (·.isTraced), (reply call world).2⟩

/-- What making a locator comes to. -/
def locate (locator : Locator) (world : σ) : Deed σ Locator :=
  (ask (.locate locator) world).andThen fun _ => .pure locator

/-- What acting on the elements of a locator comes to. -/
def act (locator : Locator) (done : ElementAct) (world : σ) : Deed σ done.Answer :=
  ask (.element locator done) world

/-- What a look-up with the help of strategies comes to, by a search through its trials. The label
of an element that stands in for the reference is asked for at last. -/
def resolve (strategies : List Strategy) (reference description : String) (world : σ) :
    Deed σ Locator :=
  match search (trialsOf strategies reference description) world with
  | ⟨.found [] _, calls, after⟩ => ⟨.ok (.first (.selector reference)), calls, after⟩
  | ⟨.found (_ :: _) taken, calls, after⟩ =>
    ⟨match (reply (.element (.first taken.locator) .label) after).1 with
      | .error (.interrupt message) => .error (.outside (.interrupt message))
      | _ => .ok (.first taken.locator),
      calls ++ [.element (.first taken.locator) .label],
      (reply (.element (.first taken.locator) .label) after).2⟩
  | ⟨.exhausted, calls, after⟩ =>
    ⟨.error (Play.failureOf strategies reference description), calls, after⟩
  | ⟨.interrupted message, calls, after⟩ => ⟨.error (.outside (.interrupt message)), calls, after⟩

/-- What looking up a reference comes to: with strategies if there is a healer, and else the plain
locator. -/
def lookUp (strategies : Option (List Strategy)) (reference : String) (plain : Locator)
    (world : σ) : Deed σ Locator :=
  match strategies with
  | some strategies => resolve strategies reference reference world
  | none => locate plain world

end Outside

namespace Play

/-- Work within any scope of the page leaves the manner as it was. -/
theorem Within.manner {play : Play σ α} (within : Within anything play) (session : Session σ) :
    (play session).2.manner = session.manner := by
  have frame := (within.allows session trivial).1.frame
  rw [Session.manner, Session.manner, frame.page, frame.healer.strategies]

/-- A play does a deed: it ends like it, after the same calls and in the same world. The manner stays
as it was. -/
structure Does (play : Play σ α) (session : Session σ) (deed : Deed σ α) : Prop where
  ended : (play session).1 = deed.ended
  led : session.Led (play session).2 deed.calls deed.world
  manner : (play session).2.manner = session.manner

namespace Does

variable {session after : Session σ}

section Rules

omit [Outside σ]

variable {deed : Deed σ α} {later : Deed σ β} {calls : List Call} {world : σ}

theorem of_eq {play : Play σ α} {ended : Except Fault α} (played : play session = (ended, after))
    (led : session.Led after calls world) (manner : after.manner = session.manner) :
    Does play session ⟨ended, calls, world⟩ where
  ended := by rw [played]
  led := by rw [played]; exact led
  manner := by rw [played]; exact manner

/-- A play that does something and then goes on with another one. -/
theorem goesOn {play next : Play σ β} (played : play session = next after)
    (led : session.Led after calls world) (manner : after.manner = session.manner)
    (rest : Does next after later) :
    Does play session ⟨later.ended, calls ++ later.calls, later.world⟩ where
  ended := by rw [played]; exact rest.ended
  led := by rw [played]; exact led.trans rest.led
  manner := by rw [played]; exact rest.manner.trans manner

theorem pure (value : α) (session : Session σ) :
    Does (Pure.pure value) session (.pure value session.outside) :=
  .of_eq rfl ⟨rfl, (List.append_nil _).symm⟩ rfl

theorem fail (fault : Fault) (session : Session σ) :
    Does (throw fault : Play σ α) session ⟨.error fault, [], session.outside⟩ :=
  .of_eq rfl ⟨rfl, (List.append_nil _).symm⟩ rfl

theorem bind {play : Play σ α} {next : α → Play σ β} {work : α → σ → Deed σ β}
    (first : Does play session deed)
    (second : ∀ value after, after.manner = session.manner →
      Does (next value) after (work value after.outside)) :
    Does (play >>= next) session (deed.andThen work) := by
  obtain ⟨ends, led, manner⟩ := first
  rcases ended : play session with ⟨fault | value, middle⟩
  · rw [ended] at ends led manner
    rw [Deed.andThen_of_error ends.symm]
    exact .of_eq (bind_apply_of_error ended next) led manner
  · rw [ended] at ends led manner
    rw [Deed.andThen_of_ok ends.symm, ← led.outside]
    exact .goesOn (bind_apply_of_ok ended next) led manner (second value middle manner)

/-- What asks nothing of the page leaves the deed to what comes next. -/
theorem bind_of_pure {play : Play σ α} {next : α → Play σ β} {value : α}
    (first : Does play session (.pure value session.outside))
    (second : ∀ after, after.manner = session.manner → after.outside = session.outside →
      Does (next value) after later) :
    Does (play >>= next) session later := by
  obtain ⟨ends, led, manner⟩ := first
  have ended : play session = (.ok value, (play session).2) := Prod.ext ends rfl
  exact .goesOn (bind_apply_of_ok ended next) led manner (second _ manner led.outside)

/-- A play that does a deed and then returns something of its own. -/
theorem returning {play : Play σ α} (does : Does play session deed) (value : β) :
    Does (play >>= fun _ => Pure.pure value) session
      ⟨deed.ended.map fun _ => value, deed.calls, deed.world⟩ := by
  obtain ⟨ends, led, manner⟩ := does
  rw [← ends]
  rcases ended : play session with ⟨fault | early, middle⟩
  · rw [ended] at led manner
    exact .of_eq (bind_apply_of_error ended _) led manner
  · rw [ended] at led manner
    exact .of_eq (bind_apply_of_ok ended _) led manner

/-- A line of the log is nothing for the page. -/
theorem note {next : Play σ α} (level : LogLevel) (source : LogSource) (message : String)
    (rest : Does next { session with log := session.log ++ [⟨level, source, message⟩] } deed) :
    Does (Play.note level source message >>= fun _ => next) session deed :=
  ⟨rest.ended, ⟨rest.led.outside, rest.led.calls⟩, rest.manner⟩

theorem look {next : Session σ → Play σ α} (rest : Does (next session) session deed) :
    Does (get >>= next) session deed :=
  ⟨rest.ended, rest.led, rest.manner⟩

theorem recover {play : Play σ α} {handler : Fault → Play σ α}
    {fallback : Fault → σ → Deed σ α} (first : Does play session deed)
    (second : ∀ fault after, after.manner = session.manner →
      Does (handler fault) after (fallback fault after.outside)) :
    Does (Play.recover play handler) session (deed.orElse fallback) := by
  obtain ⟨ends, led, manner⟩ := first
  obtain ⟨final, calls, world⟩ := deed
  rcases ended : play session with ⟨fault | value, middle⟩
  · rw [ended] at ends led manner
    cases ends
    cases interrupt : fault.isInterrupt with
    | true =>
        rw [Deed.orElse_of_interrupt rfl interrupt]
        exact .of_eq (recover_apply_of_interrupt ended interrupt handler) led manner
    | false =>
        rw [Deed.orElse_of_failure rfl interrupt, ← led.outside]
        exact .goesOn (recover_apply_of_failure ended interrupt handler) led manner
          (second fault middle manner)
  · rw [ended] at ends led manner
    cases ends
    rw [Deed.orElse_of_ok rfl]
    exact .of_eq (recover_apply_of_ok ended handler) led manner

end Rules

theorem ask (call : Call) (session : Session σ) :
    Does (Play.ask call) session (Outside.ask call session.outside) := by
  refine ⟨?_, ⟨?_, ?_⟩, ?_⟩ <;> rw [ask_apply] <;> rfl

theorem locate (locator : Locator) (session : Session σ) :
    Does (Play.locate locator) session (Outside.locate locator session.outside) :=
  .bind (.ask _ session) fun _ after _ => .pure locator after

theorem act (locator : Locator) (done : ElementAct) (session : Session σ) :
    Does (Play.act locator done) session (Outside.act locator done session.outside) :=
  .ask _ session

theorem resolve (strategies : List Strategy) (reference description : String)
    (session : Session σ) :
    Does (Play.resolve strategies reference description) session
      (Outside.resolve strategies reference description session.outside) := by
  have resolves := resolve_resolves strategies reference description session
  have manner := (resolve_within anything_pages strategies reference description).manner session
  rw [Outside.resolve]
  rcases searched : search (trialsOf strategies reference description) session.outside with
    ⟨⟨missed, taken⟩ | _ | message, calls, world⟩
  · rw [searched] at resolves
    cases missed with
    | nil => exact ⟨resolves.1, resolves.2, manner⟩
    | cons first missed => exact ⟨resolves.value, resolves.led, manner⟩
  · rw [searched] at resolves
    exact ⟨resolves.1, resolves.2, manner⟩
  · rw [searched] at resolves
    exact ⟨resolves.1, resolves.2, manner⟩

/-- A reference is looked up in the manner of the session. -/
theorem lookUp (reference : String) (plain : Locator) (session : Session σ) :
    Does (Play.lookUp reference plain session.healer) session
      (Outside.lookUp session.manner.strategies reference plain session.outside) := by
  rw [Session.manner]
  cases session.healer with
  | none => exact .locate plain session
  | some healer => exact .resolve healer.strategies reference reference session

theorem element (reference : String) (session : Session σ) :
    Does (Play.element reference) session
      (Outside.lookUp session.manner.strategies reference (.ofReference reference)
        session.outside) := by
  rw [element_eq]
  exact .look (.lookUp reference _ session)

end Does

end Play

end World

end Walkthrough
