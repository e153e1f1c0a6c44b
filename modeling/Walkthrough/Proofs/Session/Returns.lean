import Walkthrough.Proofs.Session.Run

/-!
# What plays end with

A play returns something if whatever value it ends with, in whatever session, is so
(`Walkthrough.Play.Returns`); a fault says nothing against it. A play keeps the disk and the page if
it leaves them as they are, however it ends (`Walkthrough.Play.Keeps`).
-/

namespace Walkthrough

variable {σ α β : Type}

namespace Play

/-- What holds of the value that a play ends with in a session, if it ends with one, and of the
session that it leaves then. -/
def Returns (play : Play σ α) (session : Session σ) (holds : α → Session σ → Prop) : Prop :=
  ∀ value after, play session = (.ok value, after) → holds value after

namespace Returns

variable {session : Session σ} {holds : α → Session σ → Prop}

theorem any (play : Play σ α) : Returns play session fun _ _ => True :=
  fun _ _ _ => trivial

theorem pure {value : α} (now : holds value session) :
    Returns (Pure.pure value : Play σ α) session holds := by
  rintro _ _ ⟨⟩
  exact now

theorem change (change : Session σ → Session σ) (session : Session σ) :
    Returns (modify change : Play σ Unit) session fun _ after => after = change session := by
  rintro _ _ ⟨⟩
  rfl

theorem fail (fault : Fault) : Returns (throw fault : Play σ α) session holds := by
  rintro _ _ ⟨⟩

theorem bind {play : Play σ β} {next : β → Play σ α} {middle : β → Session σ → Prop}
    (first : Returns play session middle)
    (second : ∀ value after, middle value after → Returns (next value) after holds) :
    Returns (play >>= next) session holds := by
  intro value after ended
  rcases played : play session with ⟨fault | early, between⟩
  · rw [bind_apply_of_error played] at ended
    cases ended
  · rw [bind_apply_of_ok played] at ended
    exact second early between (first early between played) value after ended

/-- After a play that is known to end with a value, the next one returns in the session that it
leaves. -/
theorem step {play : Play σ β} {next : β → Play σ α} {value : β} {after : Session σ}
    (ended : play session = (.ok value, after)) (rest : Returns (next value) after holds) :
    Returns (play >>= next) session holds := by
  intro last final closed
  rw [bind_apply_of_ok ended] at closed
  exact rest last final closed

/-- What is done at last does not change the value. -/
theorem thenAlways {play : Play σ α} {keeps : α → Prop}
    (first : Returns play session fun value _ => keeps value) (last : Play σ Unit) :
    Returns (thenAlways play last) session fun value _ => keeps value := by
  intro value after ended
  rw [Play.thenAlways] at ended
  rcases played : play session with ⟨fault | early, between⟩
  · simp only [played] at ended
    rcases closed : last between with ⟨other | _, final⟩
    · rw [bind_apply_of_error closed] at ended
      cases ended
    · rw [bind_apply_of_ok closed] at ended
      cases ended
  · simp only [played] at ended
    rcases closed : last between with ⟨other | _, final⟩
    · rw [bind_apply_of_error closed] at ended
      cases ended
    · rw [bind_apply_of_ok closed] at ended
      cases ended
      exact first value between played

end Returns

/-- A play that leaves the disk and the page as they are. -/
def Keeps (play : Play σ α) : Prop :=
  ∀ session, (play session).2.disk = session.disk ∧ (play session).2.page = session.page

namespace Keeps

theorem pure (value : α) : Keeps (Pure.pure value : Play σ α) :=
  fun _ => ⟨rfl, rfl⟩

theorem fail (fault : Fault) : Keeps (throw fault : Play σ α) :=
  fun _ => ⟨rfl, rfl⟩

theorem note (level : LogLevel) (source : LogSource) (message : String) :
    Keeps (Play.note level source message : Play σ Unit) :=
  fun _ => ⟨rfl, rfl⟩

theorem change {change : Session σ → Session σ}
    (keeps : ∀ session, (change session).disk = session.disk ∧
      (change session).page = session.page) :
    Keeps (modify change : Play σ Unit) :=
  keeps

theorem ask [Outside σ] (call : Call) : Keeps (Play.ask call : Play σ call.Answer) := by
  intro session
  rw [ask_apply]
  exact ⟨rfl, rfl⟩

theorem bind {play : Play σ β} {next : β → Play σ α} (first : Keeps play)
    (second : ∀ value, Keeps (next value)) : Keeps (play >>= next) := by
  intro session
  obtain ⟨disk, page⟩ := first session
  rcases ended : play session with ⟨fault | value, middle⟩
  · rw [ended] at disk page
    rw [bind_apply_of_error ended]
    exact ⟨disk, page⟩
  · rw [ended] at disk page
    rw [bind_apply_of_ok ended]
    obtain ⟨later, laterPage⟩ := second value middle
    exact ⟨later.trans disk, laterPage.trans page⟩

theorem look {next : Session σ → Play σ α} (second : ∀ session, Keeps (next session)) :
    Keeps (get >>= next) :=
  fun session => second session session

/-- A play that keeps the disk and the page returns in a session that has them. -/
theorem returns {play : Play σ α} (keeps : Keeps play) (session : Session σ) :
    Returns play session fun _ after => after.disk = session.disk ∧ after.page = session.page := by
  intro value after ended
  have kept := keeps session
  rw [ended] at kept
  exact kept

end Keeps

end Play

end Walkthrough
