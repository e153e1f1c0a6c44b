import Mathlib.Logic.Relation
import Walkthrough.Healing.Resolve
import Walkthrough.Proofs.Session.Run

/-!
# What a play may do

A scope lists what a play may do besides reading the session and writing the log and the healer's
record: the calls it may make, the values it may give to variables and the faults it may end with.
A play is within a scope if it is built from such parts alone (`Walkthrough.Play.Within`). However
it ends, it has then kept to the scope and left the rest of the session as it was
(`Walkthrough.Play.Within.allows`).
-/

namespace Walkthrough

variable {σ : Type}

/-- A healer that goes on from another: its strategies are the same, and it may know further
records. -/
structure Healer.GoesOn (before after : Healer) : Prop where
  strategies : after.strategies = before.strategies
  records : before.records <+: after.records

theorem Healer.GoesOn.refl (healer : Healer) : healer.GoesOn healer :=
  ⟨rfl, List.prefix_rfl⟩

theorem Healer.GoesOn.trans {first second third : Healer} (before : first.GoesOn second)
    (after : second.GoesOn third) : first.GoesOn third :=
  ⟨after.strategies.trans before.strategies, before.records.trans after.records⟩

/-- What may become of a session's healer: one that is there goes on, and none is attached. -/
inductive Healer.Kept : Option Healer → Option Healer → Prop
  | none : Kept none none
  | some {before after : Healer} : before.GoesOn after → Kept (some before) (some after)

theorem Healer.Kept.refl (healer : Option Healer) : Healer.Kept healer healer := by
  cases healer with
  | none => exact .none
  | some healer => exact .some (.refl healer)

theorem Healer.Kept.trans {first second third : Option Healer} (before : Healer.Kept first second)
    (after : Healer.Kept second third) : Healer.Kept first third := by
  cases before with
  | none => exact after
  | some before =>
      cases after with
      | some after => exact .some (before.trans after)

theorem Healer.Kept.strategies {before after : Option Healer} (kept : Healer.Kept before after) :
    after.map (·.strategies) = before.map (·.strategies) := by
  cases kept with
  | none => rfl
  | some goesOn => exact congrArg Option.some goesOn.strategies

/-- What the work of steps leaves as it was: all of a session but the outside world with its calls,
the log, the variables and the healer's record. -/
structure Session.Frame (session after : Session σ) : Prop where
  page : after.page = session.page
  client : after.client = session.client
  document : after.document = session.document
  reports : after.reports = session.reports
  selfHealing : after.selfHealing = session.selfHealing
  browser : after.browser = session.browser
  disk : after.disk = session.disk
  console : after.console = session.console
  output : after.output = session.output
  healer : Healer.Kept session.healer after.healer

theorem Session.Frame.refl (session : Session σ) : session.Frame session :=
  ⟨rfl, rfl, rfl, rfl, rfl, rfl, rfl, rfl, rfl, .refl _⟩

theorem Session.Frame.trans {first second third : Session σ} (before : first.Frame second)
    (after : second.Frame third) : first.Frame third where
  page := after.page.trans before.page
  client := after.client.trans before.client
  document := after.document.trans before.document
  reports := after.reports.trans before.reports
  selfHealing := after.selfHealing.trans before.selfHealing
  browser := after.browser.trans before.browser
  disk := after.disk.trans before.disk
  console := after.console.trans before.console
  output := after.output.trans before.output
  healer := before.healer.trans after.healer

/-- The variables after several writings, one after the other. -/
def Variables.setAll (vars : Variables) (written : List (String × Json)) : Variables :=
  written.foldl (fun vars entry => vars.set entry.1 entry.2) vars

theorem Variables.setAll_append (vars : Variables) (first second : List (String × Json)) :
    vars.setAll (first ++ second) = (vars.setAll first).setAll second :=
  List.foldl_append

/-- What a play may do. -/
structure Scope (σ : Type) where
  /-- What holds of the session all the time. -/
  ready : Session σ → Prop := fun _ => True
  /-- The calls that may be made. -/
  calls : Call → Prop
  /-- The values that variables may be given. -/
  writes : String → Json → Prop := fun _ _ => False
  /-- The faults that may end it. -/
  faults : Fault → Prop
  /-- What holds all the time is not about the parts that change. -/
  steady : ∀ {session after : Session σ}, session.Frame after → ready session → ready after := by
    exact fun _ _ => trivial
  /-- Whatever is asked of the world outside can fail. -/
  mishaps : ∀ mishap, faults (.outside mishap)

section Worlds

variable [Outside σ]

/-- A world that one call makes of another. -/
def Outside.Next (world later : σ) : Prop :=
  ∃ call : Call, later = (Outside.reply call world).2

/-- A world that calls, one after the other, make of another. -/
def Outside.Later : σ → σ → Prop :=
  Relation.ReflTransGen Outside.Next

end Worlds

/-- A session that a play within a scope can lead to from another. -/
structure Scope.Allows [Outside σ] (scope : Scope σ) (session after : Session σ) : Prop where
  frame : session.Frame after
  outside : Outside.Later session.outside after.outside
  calls : ∃ made, after.calls = session.calls ++ made ∧ ∀ call ∈ made, scope.calls call
  vars : ∃ written, after.vars = session.vars.setAll written ∧
    ∀ entry ∈ written, scope.writes entry.1 entry.2

namespace Scope.Allows

variable [Outside σ] {scope : Scope σ}

/-- A play that makes no call and writes no variable is allowed in every scope. -/
theorem of_frame {session after : Session σ} (frame : session.Frame after)
    (outside : after.outside = session.outside) (calls : after.calls = session.calls)
    (vars : after.vars = session.vars) : scope.Allows session after where
  frame := frame
  outside := by rw [outside]; exact .refl
  calls := ⟨[], by rw [calls, List.append_nil], by simp⟩
  vars := ⟨[], vars, by simp⟩

theorem refl (session : Session σ) : scope.Allows session session :=
  of_frame (.refl session) rfl rfl rfl

theorem trans {first second third : Session σ} (before : scope.Allows first second)
    (after : scope.Allows second third) : scope.Allows first third where
  frame := before.frame.trans after.frame
  outside := before.outside.trans after.outside
  calls := by
    obtain ⟨early, earlyCalls, earlyAllowed⟩ := before.calls
    obtain ⟨late, lateCalls, lateAllowed⟩ := after.calls
    refine ⟨early ++ late, ?_, ?_⟩
    · rw [lateCalls, earlyCalls, List.append_assoc]
    · exact List.forall_mem_append.mpr ⟨earlyAllowed, lateAllowed⟩
  vars := by
    obtain ⟨early, earlyVars, earlyAllowed⟩ := before.vars
    obtain ⟨late, lateVars, lateAllowed⟩ := after.vars
    refine ⟨early ++ late, ?_, ?_⟩
    · rw [lateVars, earlyVars, Variables.setAll_append]
    · exact List.forall_mem_append.mpr ⟨earlyAllowed, lateAllowed⟩

end Scope.Allows

namespace Play

variable [Outside σ] {scope : Scope σ}

/-- A play that is built from what a scope allows. -/
inductive Within (scope : Scope σ) : {α : Type} → Play σ α → Prop
  | pure {α : Type} (value : α) : Within scope (Pure.pure value)
  | bind {α β : Type} {play : Play σ α} {next : α → Play σ β} :
      Within scope play → (∀ value, Within scope (next value)) → Within scope (play >>= next)
  | look {α : Type} {next : Session σ → Play σ α} :
      (∀ session, scope.ready session → Within scope (next session)) →
      Within scope (get >>= next)
  | fail {α : Type} {fault : Fault} : scope.faults fault → Within scope (throw fault : Play σ α)
  | recover {α : Type} {play : Play σ α} {handler : Fault → Play σ α} :
      Within scope play → (∀ fault, scope.faults fault → Within scope (handler fault)) →
      Within scope (Play.recover play handler)
  | note (level : LogLevel) (source : LogSource) (message : String) :
      Within scope (Play.note level source message)
  | ask {call : Call} : scope.calls call → Within scope (Play.ask call)
  | remember {change : Healer → Healer} :
      (∀ healer : Healer, healer.GoesOn (change healer)) → Within scope (updateHealer change)
  | write {name : String} {value : Json} :
      scope.writes name value → Within scope (setVariable name value)

namespace Within

variable {α : Type}

/-- A play within a scope that starts where the scope's condition holds leads to a session that the
scope allows, and if it ends with a fault that is one of the scope's. -/
theorem allows {play : Play σ α} (within : Within scope play) (session : Session σ)
    (ready : scope.ready session) :
    scope.Allows session (play session).2 ∧
      ∀ fault, (play session).1 = .error fault → scope.faults fault := by
  -- By how the play is built; each part starts in the session that the part before leaves.
  induction within generalizing session with
  | pure value => exact ⟨.refl session, by simp⟩
  | @bind _ _ play next _ _ first second =>
      obtain ⟨allowed, faults⟩ := first session ready
      rcases ended : play session with ⟨_ | value, middle⟩
      · rw [ended] at allowed faults
        rw [bind_apply_of_error ended]
        refine ⟨allowed, ?_⟩
        rintro fault ⟨⟩
        exact faults _ rfl
      · rw [ended] at allowed
        rw [bind_apply_of_ok ended]
        obtain ⟨later, laterFaults⟩ := second value middle (scope.steady allowed.frame ready)
        exact ⟨allowed.trans later, laterFaults⟩
  | look _ next =>
      rw [bind_apply_of_ok (get_apply session)]
      exact next session ready session ready
  | fail allowed =>
      refine ⟨.refl session, ?_⟩
      rintro fault ⟨⟩
      exact allowed
  | @recover _ play handler _ _ first second =>
      obtain ⟨allowed, faults⟩ := first session ready
      rcases ended : play session with ⟨fault | value, middle⟩
      · rw [ended] at allowed faults
        cases interrupt : fault.isInterrupt with
        | true =>
            rw [recover_apply_of_interrupt ended interrupt]
            exact ⟨allowed, faults⟩
        | false =>
            rw [recover_apply_of_failure ended interrupt]
            obtain ⟨later, laterFaults⟩ :=
              second fault (faults fault rfl) middle (scope.steady allowed.frame ready)
            exact ⟨allowed.trans later, laterFaults⟩
      · rw [ended] at allowed faults
        rw [recover_apply_of_ok ended]
        exact ⟨allowed, faults⟩
  | note level source message =>
      exact ⟨.of_frame ⟨rfl, rfl, rfl, rfl, rfl, rfl, rfl, rfl, rfl, .refl _⟩ rfl rfl rfl,
        by simp⟩
  | @ask call allowed =>
      rw [ask_apply]
      refine ⟨⟨⟨rfl, rfl, rfl, rfl, rfl, rfl, rfl, rfl, rfl, .refl _⟩, .single ⟨call, rfl⟩,
        ⟨_, rfl, ?_⟩, ⟨[], rfl, by simp⟩⟩, ?_⟩
      · intro made member
        rw [List.mem_singleton.mp (List.mem_filter.mp member).1]
        exact allowed
      · intro fault failed
        cases answer : (Outside.reply call session.outside).1 with
        | ok _ =>
            rw [answer] at failed
            cases failed
        | error mishap =>
            rw [answer] at failed
            cases failed
            exact scope.mishaps mishap
  | @remember change goesOn =>
      refine ⟨.of_frame ⟨rfl, rfl, rfl, rfl, rfl, rfl, rfl, rfl, rfl, ?_⟩ rfl rfl rfl,
        ?_⟩
      · simp only [updateHealer, modify_apply]
        cases session.healer with
        | none => exact .none
        | some healer => exact .some (goesOn healer)
      · simp [updateHealer]
  | @write name value allowed =>
      refine ⟨⟨⟨rfl, rfl, rfl, rfl, rfl, rfl, rfl, rfl, rfl, .refl _⟩, .refl,
        ⟨[], (List.append_nil _).symm, by simp⟩, ⟨[(name, value)], rfl, by simpa⟩⟩, ?_⟩
      intro fault failed
      cases failed

end Within

end Play

end Walkthrough
