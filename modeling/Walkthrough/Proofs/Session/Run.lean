import Walkthrough.Session.Variables

/-!
# How plays run

What a play does to a session, as one equation for each way to build a play. A fault ends a
sequence at once, and what was done by then stays done (`Walkthrough.Play.bind_apply`); an interrupt
passes every fallback (`Walkthrough.Play.recover_apply_of_interrupt`). Quiet plays always end with a
value and leave the run as it is (`Walkthrough.Play.Quiet`).
-/

namespace Walkthrough

/-- What is done to a session by the way, apart from the run itself: the world outside, the
variables, the prompt and its reports are the same. -/
structure Session.SameRun {σ : Type} (session after : Session σ) : Prop where
  outside : after.outside = session.outside
  calls : after.calls = session.calls
  vars : after.vars = session.vars
  document : after.document = session.document
  reports : after.reports = session.reports

theorem Session.SameRun.refl {σ : Type} (session : Session σ) : session.SameRun session :=
  ⟨rfl, rfl, rfl, rfl, rfl⟩

theorem Session.SameRun.noted {σ : Type} (session : Session σ) (line : LogLine) :
    session.SameRun { session with log := session.log ++ [line] } :=
  ⟨rfl, rfl, rfl, rfl, rfl⟩

theorem Session.SameRun.trans {σ : Type} {first second third : Session σ}
    (before : first.SameRun second) (after : second.SameRun third) : first.SameRun third where
  outside := after.outside.trans before.outside
  calls := after.calls.trans before.calls
  vars := after.vars.trans before.vars
  document := after.document.trans before.document
  reports := after.reports.trans before.reports

theorem eq_ok_of_toOption {ε α : Type} {ended : Except ε α} {value : α}
    (found : ended.toOption = some value) : ended = .ok value := by
  cases ended with
  | ok other => exact congrArg Except.ok (Option.some.inj found)
  | error fault => cases found

namespace Play

variable {σ α β : Type}

@[simp] theorem pure_apply (value : α) (session : Session σ) :
    (pure value : Play σ α) session = (.ok value, session) := rfl

theorem bind_apply (play : Play σ α) (next : α → Play σ β) (session : Session σ) :
    (play >>= next) session =
      match play session with
      | (.ok value, after) => next value after
      | (.error fault, after) => (.error fault, after) := by
  simp only [bind, ExceptT.bind, ExceptT.mk, StateT.bind]
  obtain ⟨ended, after⟩ := play session
  cases ended with
  | ok value => rfl
  | error fault => rfl

/-- After a play that ends with a value, the next one runs in the session that it leaves. -/
theorem bind_apply_of_ok {play : Play σ α} {session after : Session σ} {value : α}
    (ended : play session = (.ok value, after)) (next : α → Play σ β) :
    (play >>= next) session = next value after := by
  rw [bind_apply, ended]

/-- After a play that ends with a fault, nothing else happens. -/
theorem bind_apply_of_error {play : Play σ α} {session after : Session σ} {fault : Fault}
    (ended : play session = (.error fault, after)) (next : α → Play σ β) :
    (play >>= next) session = (.error fault, after) := by
  rw [bind_apply, ended]

@[simp] theorem refuse_apply (cause : StepFault) (session : Session σ) :
    (refuse cause : Play σ α) session = (.error (.step cause none), session) := rfl

@[simp] theorem get_apply (session : Session σ) :
    (get : Play σ (Session σ)) session = (.ok session, session) := rfl

@[simp] theorem set_apply (next session : Session σ) :
    (set next : Play σ Unit) session = (.ok (), next) := rfl

@[simp] theorem modify_apply (change : Session σ → Session σ) (session : Session σ) :
    (modify change : Play σ Unit) session = (.ok (), change session) := rfl

@[simp] theorem note_apply (level : LogLevel) (source : LogSource) (message : String)
    (session : Session σ) :
    note level source message session =
      (.ok (), { session with log := session.log ++ [⟨level, source, message⟩] }) := rfl

theorem recover_apply_of_ok {play : Play σ α} {session after : Session σ} {value : α}
    (ended : play session = (.ok value, after)) (handler : Fault → Play σ α) :
    recover play handler session = (.ok value, after) := by
  simp only [recover, ended]

/-- A fallback goes on in the session that the failed play leaves. -/
theorem recover_apply_of_failure {play : Play σ α} {session after : Session σ} {fault : Fault}
    (ended : play session = (.error fault, after)) (caught : fault.isInterrupt = false)
    (handler : Fault → Play σ α) :
    recover play handler session = handler fault after := by
  simp only [recover, ended, caught, Bool.false_eq_true, if_false]

/-- No fallback answers an interrupt. -/
theorem recover_apply_of_interrupt {play : Play σ α} {session after : Session σ} {fault : Fault}
    (ended : play session = (.error fault, after)) (interrupt : fault.isInterrupt = true)
    (handler : Fault → Play σ α) :
    recover play handler session = (.error fault, after) := by
  simp only [recover, ended, interrupt, if_true]

theorem outcome_apply_of_ok {play : Play σ α} {session after : Session σ} {value : α}
    (ended : play session = (.ok value, after)) :
    outcome play session = (.ok (.ok value), after) := by
  refine recover_apply_of_ok ?_ _
  rw [bind_apply_of_ok ended, pure_apply]

theorem outcome_apply_of_failure {play : Play σ α} {session after : Session σ} {fault : Fault}
    (ended : play session = (.error fault, after)) (caught : fault.isInterrupt = false) :
    outcome play session = (.ok (.error fault), after) :=
  recover_apply_of_failure (bind_apply_of_error ended _) caught _

theorem outcome_apply_of_interrupt {play : Play σ α} {session after : Session σ} {fault : Fault}
    (ended : play session = (.error fault, after)) (interrupt : fault.isInterrupt = true) :
    outcome play session = (.error fault, after) :=
  recover_apply_of_interrupt (bind_apply_of_error ended _) interrupt _

section Asking

variable [Outside σ]

theorem ask_apply (call : Call) (session : Session σ) :
    ask call session =
      ((Outside.reply call session.outside).1.mapError .outside,
        { session with
          outside := (Outside.reply call session.outside).2
          calls := session.calls ++ [call].filter (·.isTraced) }) := by
  by_cases traced : call.isTraced = true
  · simp only [ask, traced, if_true, List.filter_cons_of_pos, List.filter_nil]
  · simp only [ask, traced, List.filter_cons_of_neg, List.filter_nil, List.append_nil,
      Bool.false_eq_true, if_false, not_false_eq_true]

@[simp] theorem clock_apply (session : Session σ) :
    (clock : Play σ Float) session = (.ok (Outside.clock session.outside), session) := rfl

@[simp] theorem now_apply (session : Session σ) :
    (now : Play σ Instant) session = (.ok (Outside.now session.outside), session) := rfl

@[simp] theorem mark_apply (session : Session σ) :
    (mark : Play σ String) session = (.ok (Outside.mark session.outside), session) := rfl

end Asking

theorem thenAlways_apply_of_ok {play : Play σ α} {last : Play σ Unit}
    {session after final : Session σ} {value : α} (ended : play session = (.ok value, after))
    (closed : last after = (.ok (), final)) :
    thenAlways play last session = (.ok value, final) := by
  rw [thenAlways, ended]
  exact bind_apply_of_ok closed _

/-- What is done at last is done after a fault, too, and the fault goes on. -/
theorem thenAlways_apply_of_error {play : Play σ α} {last : Play σ Unit}
    {session after final : Session σ} {fault : Fault} (ended : play session = (.error fault, after))
    (closed : last after = (.ok (), final)) :
    thenAlways play last session = (.error fault, final) := by
  rw [thenAlways, ended]
  exact bind_apply_of_ok closed _

/-- A play that always ends with a value and leaves the run as it is. -/
def Quiet (play : Play σ α) : Prop :=
  ∀ session, ∃ value after, play session = (.ok value, after) ∧ session.SameRun after

namespace Quiet

theorem pure (value : α) : Quiet (Pure.pure value : Play σ α) :=
  fun session => ⟨value, session, rfl, .refl session⟩

theorem bind {play : Play σ α} {next : α → Play σ β} (first : Quiet play)
    (second : ∀ value, Quiet (next value)) : Quiet (play >>= next) := by
  intro session
  obtain ⟨value, middle, ended, same⟩ := first session
  obtain ⟨result, after, closed, sameAfter⟩ := second value middle
  exact ⟨result, after, (bind_apply_of_ok ended next).trans closed, same.trans sameAfter⟩

theorem look : Quiet (get : Play σ (Session σ)) :=
  fun session => ⟨session, session, rfl, .refl session⟩

theorem note (level : LogLevel) (source : LogSource) (message : String) :
    Quiet (Play.note level source message : Play σ Unit) :=
  fun session => ⟨(), _, rfl, .noted session _⟩

theorem ite {condition : Prop} [Decidable condition] {first second : Play σ α}
    (yes : Quiet first) (no : Quiet second) : Quiet (if condition then first else second) := by
  split
  · exact yes
  · exact no

end Quiet

/-- A play that always ends with a value and only writes into the log. -/
def Silent (play : Play σ α) : Prop :=
  ∀ session, ∃ value log, play session = (.ok value, { session with log })

namespace Silent

theorem quiet {play : Play σ α} (silent : Silent play) : Quiet play := by
  intro session
  obtain ⟨value, log, ended⟩ := silent session
  exact ⟨value, _, ended, rfl, rfl, rfl, rfl, rfl⟩

theorem pure (value : α) : Silent (Pure.pure value : Play σ α) :=
  fun session => ⟨value, session.log, rfl⟩

theorem note (level : LogLevel) (source : LogSource) (message : String) :
    Silent (Play.note level source message : Play σ Unit) :=
  fun _ => ⟨(), _, rfl⟩

theorem bind {play : Play σ α} {next : α → Play σ β} (first : Silent play)
    (second : ∀ value, Silent (next value)) : Silent (play >>= next) := by
  intro session
  obtain ⟨value, log, ended⟩ := first session
  obtain ⟨result, final, closed⟩ := second value { session with log }
  exact ⟨result, final, (bind_apply_of_ok ended next).trans closed⟩

theorem look {next : Session σ → Play σ α} (second : ∀ session, Silent (next session)) :
    Silent (get >>= next) :=
  fun session => second session session

end Silent

theorem noteEntries_silent (entries : List (String × Json)) :
    Silent (noteEntries entries : Play σ Unit) := by
  induction entries with
  | nil => exact .pure ()
  | cons entry rest ih => exact .bind (.note _ _ _) fun _ => ih

theorem noteVariables_silent : Silent (noteVariables : Play σ Unit) :=
  .bind (.note _ _ _) fun _ => .look fun session => noteEntries_silent session.vars.entries

end Play

end Walkthrough
