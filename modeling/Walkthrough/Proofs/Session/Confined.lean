import Walkthrough.Proofs.Session.Scope

/-!
# What plays lead to

A play is confined by an order of sessions and a kind of faults if it always leads onward in the
order, however it ends, and fails with such faults alone (`Walkthrough.Play.Confined`). There is one
rule for each way to build a play. One such order says which calls may be made on the way
(`Walkthrough.Session.Did`).
-/

namespace Walkthrough

variable {σ α β : Type}

/-- An order of sessions: every session leads to itself, and what is led onward can be led on. -/
structure Session.Onward (onward : Session σ → Session σ → Prop) : Prop where
  refl : ∀ session, onward session session
  trans : ∀ {first second third}, onward first second → onward second third → onward first third

namespace Session.Onward

/-- Sessions that look the same in some view. -/
theorem view {γ : Type} (view : Session σ → γ) :
    Session.Onward fun session after => view after = view session where
  refl _ := rfl
  trans before after := after.trans before

theorem and {first second : Session σ → Session σ → Prop} (order : Session.Onward first)
    (other : Session.Onward second) :
    Session.Onward fun session after => first session after ∧ second session after where
  refl session := ⟨order.refl session, other.refl session⟩
  trans before after := ⟨order.trans before.1 after.1, other.trans before.2 after.2⟩

end Session.Onward

/-- A session in which calls of a kind were made since another. -/
structure Session.Did [Outside σ] (kind : Call → Prop) (session after : Session σ) : Prop where
  outside : Outside.Later session.outside after.outside
  calls : ∃ made, after.calls = session.calls ++ made ∧ ∀ call ∈ made, kind call

namespace Session.Did

variable [Outside σ] {kind : Call → Prop}

/-- Nothing was asked. -/
theorem of_eq {session after : Session σ} (outside : after.outside = session.outside)
    (calls : after.calls = session.calls) : session.Did kind after where
  outside := by rw [outside]; exact .refl
  calls := ⟨[], by rw [calls, List.append_nil], by simp⟩

theorem order : Session.Onward (Session.Did kind : Session σ → Session σ → Prop) where
  refl session := of_eq rfl rfl
  trans := by
    rintro first second third ⟨outside, early, earlyCalls, earlyKind⟩
      ⟨laterOutside, late, lateCalls, lateKind⟩
    refine ⟨outside.trans laterOutside, early ++ late, ?_, ?_⟩
    · rw [lateCalls, earlyCalls, List.append_assoc]
    · exact List.forall_mem_append.mpr ⟨earlyKind, lateKind⟩

theorem ask (call : Call) (allowed : kind call) (session : Session σ) :
    session.Did kind (Play.ask call session).2 := by
  rw [Play.ask_apply]
  refine ⟨.single ⟨call, rfl⟩, _, rfl, fun made member => ?_⟩
  rw [List.mem_singleton.mp (List.mem_filter.mp member).1]
  exact allowed

end Session.Did

namespace Play

/-- A play that leads onward and fails with a kind of faults alone. -/
structure Confined (onward : Session σ → Session σ → Prop) (faults : Fault → Prop)
    (play : Play σ α) : Prop where
  leads : ∀ session, onward session (play session).2
  fails : ∀ session fault, (play session).1 = .error fault → faults fault

namespace Confined

variable {onward : Session σ → Session σ → Prop} {faults : Fault → Prop}

/-- A play that is confined is confined by a weaker order and by more faults, too. -/
theorem weaken {farther : Session σ → Session σ → Prop} {more : Fault → Prop} {play : Play σ α}
    (confined : Confined onward faults play)
    (leads : ∀ session after, onward session after → farther session after)
    (fails : ∀ fault, faults fault → more fault) : Confined farther more play where
  leads session := leads session _ (confined.leads session)
  fails session fault failed := fails fault (confined.fails session fault failed)

theorem pure (order : Session.Onward onward) (value : α) :
    Confined onward faults (Pure.pure value : Play σ α) where
  leads := order.refl
  fails := by rintro _ _ ⟨⟩

theorem fail (order : Session.Onward onward) {fault : Fault} (allowed : faults fault) :
    Confined onward faults (throw fault : Play σ α) where
  leads := order.refl
  fails := by
    rintro _ _ ⟨⟩
    exact allowed

theorem bind (order : Session.Onward onward) {play : Play σ α} {next : α → Play σ β}
    (first : Confined onward faults play) (second : ∀ value, Confined onward faults (next value)) :
    Confined onward faults (play >>= next) := by
  constructor
  · intro session
    have early := first.leads session
    rcases ended : play session with ⟨fault | value, middle⟩
    · rw [ended] at early
      rw [bind_apply_of_error ended]
      exact early
    · rw [ended] at early
      rw [bind_apply_of_ok ended]
      exact order.trans early ((second value).leads middle)
  · intro session fault failed
    have early := first.fails session
    rcases ended : play session with ⟨raised | value, middle⟩
    · rw [ended] at early
      rw [bind_apply_of_error ended] at failed
      cases failed
      exact early _ rfl
    · rw [bind_apply_of_ok ended] at failed
      exact (second value).fails middle fault failed

theorem look {next : Session σ → Play σ α}
    (second : ∀ session, Confined onward faults (next session)) :
    Confined onward faults (get >>= next) where
  leads session := (second session).leads session
  fails session := (second session).fails session

theorem change {change : Session σ → Session σ}
    (leads : ∀ session, onward session (change session)) :
    Confined onward faults (modify change : Play σ Unit) where
  leads := leads
  fails := by rintro _ _ ⟨⟩

/-- A play that changes the disk, or fails as the disk refuses. -/
theorem onDisk (order : Session.Onward onward) (attempt : Disk → Except DiskFault Disk)
    (leads : ∀ (session : Session σ) disk, onward session { session with disk })
    (refused : ∀ fault, faults (.disk fault)) :
    Confined onward faults (do
      let session ← get
      match attempt session.disk with
      | .ok disk => set { session with disk }
      | .error fault => throw (.disk fault) : Play σ Unit) := by
  constructor
  · intro session
    rw [bind_apply_of_ok (get_apply session)]
    rcases attempt session.disk with fault | disk
    · exact order.refl session
    · exact leads session disk
  · intro session fault failed
    rw [bind_apply_of_ok (get_apply session)] at failed
    rcases attempted : attempt session.disk with reason | disk
    · simp only [attempted] at failed
      cases failed
      exact refused reason
    · simp only [attempted] at failed
      cases failed

theorem note (leads : ∀ (session : Session σ) log, onward session { session with log })
    (level : LogLevel) (source : LogSource) (message : String) :
    Confined onward faults (Play.note level source message : Play σ Unit) :=
  .change fun session => leads session _

theorem recover (order : Session.Onward onward) {play : Play σ α} {handler : Fault → Play σ α}
    {raised : Fault → Prop} (first : Confined onward raised play)
    (interrupts : ∀ fault, raised fault → fault.isInterrupt = true → faults fault)
    (second : ∀ fault, raised fault → Confined onward faults (handler fault)) :
    Confined onward faults (Play.recover play handler) := by
  constructor
  · intro session
    have early := first.leads session
    have cause := first.fails session
    rcases ended : play session with ⟨fault | value, middle⟩
    · rw [ended] at early cause
      cases interrupt : fault.isInterrupt with
      | true =>
          rw [recover_apply_of_interrupt ended interrupt]
          exact early
      | false =>
          rw [recover_apply_of_failure ended interrupt]
          exact order.trans early ((second fault (cause fault rfl)).leads middle)
    · rw [ended] at early
      rw [recover_apply_of_ok ended]
      exact early
  · intro session fault failed
    have cause := first.fails session
    rcases ended : play session with ⟨other | value, middle⟩
    · rw [ended] at cause
      cases interrupt : other.isInterrupt with
      | true =>
          rw [recover_apply_of_interrupt ended interrupt] at failed
          cases failed
          exact interrupts _ (cause _ rfl) interrupt
      | false =>
          rw [recover_apply_of_failure ended interrupt] at failed
          exact (second other (cause other rfl)).fails middle fault failed
    · rw [recover_apply_of_ok ended] at failed
      cases failed

/-- What is done at last is done in either case, so both parts have to be confined. -/
theorem thenAlways (order : Session.Onward onward) {play : Play σ α} {last : Play σ Unit}
    (first : Confined onward faults play) (second : Confined onward faults last) :
    Confined onward faults (Play.thenAlways play last) := by
  have after (value : α) : Confined onward faults (do last; return value) :=
    second.bind order fun _ => .pure order _
  have failing (fault : Fault) (allowed : faults fault) :
      Confined onward faults (do last; throw fault : Play σ α) :=
    second.bind order fun _ => .fail order allowed
  constructor
  · intro session
    have early := first.leads session
    have cause := first.fails session
    rw [Play.thenAlways]
    rcases ended : play session with ⟨fault | value, middle⟩
    · rw [ended] at early cause
      exact order.trans early ((failing fault (cause fault rfl)).leads middle)
    · rw [ended] at early
      exact order.trans early ((after value).leads middle)
  · intro session fault failed
    have cause := first.fails session
    rw [Play.thenAlways] at failed
    rcases ended : play session with ⟨raised | value, middle⟩
    · rw [ended] at cause
      simp only [ended] at failed
      exact (failing raised (cause raised rfl)).fails middle fault failed
    · simp only [ended] at failed
      exact (after value).fails middle fault failed

theorem ite {condition : Prop} [Decidable condition] {first second : Play σ α}
    (yes : Confined onward faults first) (no : Confined onward faults second) :
    Confined onward faults (if condition then first else second) := by
  split
  · exact yes
  · exact no

theorem ask [Outside σ]
    (leads : ∀ (session : Session σ) outside calls, onward session { session with outside, calls })
    (mishaps : ∀ mishap, faults (.outside mishap)) (call : Call) :
    Confined onward faults (Play.ask call : Play σ call.Answer) := by
  constructor
  · intro session
    rw [ask_apply]
    exact leads session _ _
  · intro session fault failed
    rw [ask_apply] at failed
    rcases answer : (Outside.reply call session.outside).1 with mishap | value
    · rw [answer] at failed
      cases failed
      exact mishaps mishap
    · rw [answer] at failed
      cases failed

end Confined

/-- A play that only writes into the log leads where writing into the log does. -/
theorem Silent.confined {onward : Session σ → Session σ → Prop} {faults : Fault → Prop}
    {play : Play σ α} (silent : Silent play)
    (leads : ∀ (session : Session σ) log, onward session { session with log }) :
    Confined onward faults play := by
  constructor
  · intro session
    obtain ⟨value, log, ended⟩ := silent session
    rw [ended]
    exact leads session log
  · intro session fault failed
    obtain ⟨value, log, ended⟩ := silent session
    rw [ended] at failed
    cases failed

end Play

end Walkthrough
