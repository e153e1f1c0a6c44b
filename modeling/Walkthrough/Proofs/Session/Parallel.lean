import Walkthrough.Proofs.Session.Run

/-!
# Plays that go together

Two runs in two worlds are compared by a pairing of their sessions. Two plays go together if from
sessions that are alike they end in the same way, in sessions that are alike again
(`Walkthrough.Play.Parallel`). The world of the first run may come to excuse the second one, which
need not be like it any more from there on; an excuse lasts until the end.
-/

namespace Walkthrough

/-- Which sessions of two runs are alike, and what excuses the second run from being like the
first. -/
structure Pairing (σ τ : Type) where
  alike : Session σ → Session τ → Prop
  excused : σ → Prop

variable {σ τ α β γ δ : Type}

/-- What two plays end with: values that correspond, or the same fault. -/
inductive EndsAlike (same : α → β → Prop) : Except Fault α → Except Fault β → Prop
  | ok {value : α} {other : β} : same value other → EndsAlike same (.ok value) (.ok other)
  | error (fault : Fault) : EndsAlike same (.error fault) (.error fault)

theorem EndsAlike.imp {same weaker : α → β → Prop} {ended : Except Fault α}
    {otherEnded : Except Fault β} (alike : EndsAlike same ended otherEnded)
    (implies : ∀ value other, same value other → weaker value other) :
    EndsAlike weaker ended otherEnded := by
  cases alike with
  | ok corresponds => exact .ok (implies _ _ corresponds)
  | error fault => exact .error fault

theorem EndsAlike.of_eq {ended otherEnded : Except Fault α} (equal : ended = otherEnded) :
    EndsAlike Eq ended otherEnded := by
  cases equal
  cases ended with
  | ok value => exact .ok rfl
  | error fault => exact .error fault

theorem EndsAlike.eq {ended otherEnded : Except Fault α} (alike : EndsAlike Eq ended otherEnded) :
    ended = otherEnded := by
  cases alike with
  | ok same => exact congrArg Except.ok same
  | error fault => rfl

/-- A client as its requests know it: without variables of its own. -/
def Client.unowned (client : Client) : Client :=
  { client with own := none }

/-- A pairing that compares the variables, the client but for its own, and the page of two sessions,
and that the same line of the log and the same variables keep. -/
structure Pairing.Even (pairing : Pairing σ τ) : Prop where
  vars : ∀ {session other}, pairing.alike session other → session.vars = other.vars
  client : ∀ {session other}, pairing.alike session other →
    session.client.unowned = other.client.unowned
  page : ∀ {session other}, pairing.alike session other → session.page = other.page
  noted : ∀ {session other}, pairing.alike session other → ∀ line,
    pairing.alike { session with log := session.log ++ [line] }
      { other with log := other.log ++ [line] }
  written : ∀ {session other}, pairing.alike session other → ∀ vars,
    pairing.alike { session with vars } { other with vars }

/-- A pairing that compares the variables, the client but for its own, and the page of two sessions,
and nothing of their logs. -/
structure Pairing.Sound (pairing : Pairing σ τ) : Prop where
  vars : ∀ {session other}, pairing.alike session other → session.vars = other.vars
  client : ∀ {session other}, pairing.alike session other →
    session.client.unowned = other.client.unowned
  page : ∀ {session other}, pairing.alike session other → session.page = other.page
  logged : ∀ {session other}, pairing.alike session other → ∀ log otherLog,
    pairing.alike { session with log } { other with log := otherLog }
  written : ∀ {session other}, pairing.alike session other → ∀ vars,
    pairing.alike { session with vars } { other with vars }

theorem Pairing.Sound.even {pairing : Pairing σ τ} (sound : pairing.Sound) : pairing.Even where
  vars := sound.vars
  client := sound.client
  page := sound.page
  noted alike _ := sound.logged alike _ _
  written := sound.written

namespace Play

/-- Two plays that go together. -/
structure Parallel (pairing : Pairing σ τ) (same : α → β → Prop) (play : Play σ α)
    (other : Play τ β) : Prop where
  lasts : ∀ session, pairing.excused session.outside → pairing.excused (play session).2.outside
  goes : ∀ first second, pairing.alike first second →
    pairing.excused (play first).2.outside ∨
      EndsAlike same (play first).1 (other second).1 ∧
        pairing.alike (play first).2 (other second).2

namespace Parallel

variable {pairing : Pairing σ τ} {same : α → β → Prop} {play : Play σ α} {other : Play τ β}

theorem pure {value : α} {result : β} (corresponds : same value result) :
    Parallel pairing same (Pure.pure value) (Pure.pure result) where
  lasts _ excused := excused
  goes _ _ alike := .inr ⟨.ok corresponds, alike⟩

theorem fail (fault : Fault) : Parallel pairing same (throw fault) (throw fault) where
  lasts _ excused := excused
  goes _ _ alike := .inr ⟨.error fault, alike⟩

/-- The three ways in which plays go together. -/
theorem cases (parallel : Parallel pairing same play other) {session : Session σ}
    {session' : Session τ} (alike : pairing.alike session session') :
    pairing.excused (play session).2.outside ∨
      (∃ value result after after', same value result ∧ pairing.alike after after' ∧
        play session = (.ok value, after) ∧ other session' = (.ok result, after')) ∨
      ∃ fault after after', pairing.alike after after' ∧
        play session = (.error fault, after) ∧ other session' = (.error fault, after') := by
  rcases parallel.goes session session' alike with excused | ⟨ends, alike⟩
  · exact .inl excused
  · rcases ended : play session with ⟨_, after⟩
    rcases ended' : other session' with ⟨_, after'⟩
    rw [ended, ended'] at ends alike
    cases ends with
    | ok corresponds => exact .inr (.inl ⟨_, _, after, after', corresponds, alike, rfl, rfl⟩)
    | error fault => exact .inr (.inr ⟨fault, after, after', alike, rfl, rfl⟩)

/-- An excuse that the first play leaves lasts through the next. -/
theorem lasts_bind {excused : σ → Prop} {first : Play σ γ} {next : γ → Play σ α}
    (late : ∀ value session, excused session.outside → excused (next value session).2.outside)
    {session : Session σ} (early : excused (first session).2.outside) :
    excused ((first >>= next) session).2.outside := by
  rcases ended : first session with ⟨fault | value, middle⟩
  · rw [ended] at early
    rw [bind_apply_of_error ended]
    exact early
  · rw [ended] at early
    rw [bind_apply_of_ok ended]
    exact late value middle early

theorem lasts_recover {excused : σ → Prop} {handler : Fault → Play σ α}
    (late : ∀ fault session, excused session.outside → excused (handler fault session).2.outside)
    {session : Session σ} (early : excused (play session).2.outside) :
    excused (Play.recover play handler session).2.outside := by
  rcases ended : play session with ⟨fault | value, middle⟩
  · rw [ended] at early
    cases interrupt : fault.isInterrupt with
    | true =>
        rw [recover_apply_of_interrupt ended interrupt]
        exact early
    | false =>
        rw [recover_apply_of_failure ended interrupt]
        exact late fault middle early
  · rw [ended] at early
    rw [recover_apply_of_ok ended]
    exact early

/-- One play after the other. Every value of the first one has to correspond to some value, so that
what follows it is known to keep an excuse. -/
theorem bind {between : γ → δ → Prop} {first : Play σ γ} {second : Play τ δ} {next : γ → Play σ α}
    {otherNext : δ → Play τ β} (early : Parallel pairing between first second)
    (total : ∀ value, ∃ result, between value result)
    (late : ∀ value result, between value result →
      Parallel pairing same (next value) (otherNext result)) :
    Parallel pairing same (first >>= next) (second >>= otherNext) := by
  have lastsAfter (value : γ) (session : Session σ) (excused : pairing.excused session.outside) :
      pairing.excused (next value session).2.outside := by
    obtain ⟨result, corresponds⟩ := total value
    exact (late value result corresponds).lasts session excused
  refine ⟨fun session excused => lasts_bind lastsAfter (early.lasts session excused), ?_⟩
  intro session session' alike
  rcases early.cases alike with
    excused | ⟨value, result, after, after', corresponds, alike, ended, ended'⟩ |
    ⟨fault, after, after', alike, ended, ended'⟩
  · exact .inl (lasts_bind lastsAfter excused)
  · rw [bind_apply_of_ok ended, bind_apply_of_ok ended']
    exact (late value result corresponds).goes after after' alike
  · rw [bind_apply_of_error ended, bind_apply_of_error ended']
    exact .inr ⟨.error fault, alike⟩

/-- One play after the other, if the first ones end with the same value. -/
theorem andThen {first : Play σ γ} {second : Play τ γ} {next : γ → Play σ α}
    {otherNext : γ → Play τ β} (early : Parallel pairing Eq first second)
    (late : ∀ value, Parallel pairing same (next value) (otherNext value)) :
    Parallel pairing same (first >>= next) (second >>= otherNext) := by
  refine early.bind (fun value => ⟨value, rfl⟩) ?_
  rintro value _ rfl
  exact late value

/-- Plays that look at a part of the session that is the same in both. -/
theorem read (view : Session σ → γ) (otherView : Session τ → γ)
    (agree : ∀ {session other}, pairing.alike session other → view session = otherView other)
    {next : γ → Play σ α} {otherNext : γ → Play τ β}
    (late : ∀ seen, Parallel pairing same (next seen) (otherNext seen)) :
    Parallel pairing same (get >>= fun session => next (view session))
      (get >>= fun session => otherNext (otherView session)) where
  lasts session excused := (late (view session)).lasts session excused
  goes session other alike := by
    rw [bind_apply_of_ok (get_apply session), bind_apply_of_ok (get_apply other), ← agree alike]
    exact (late (view session)).goes session other alike

/-- A fault that is answered in both runs is the same in both. -/
theorem recover {handler : Fault → Play σ α} {otherHandler : Fault → Play τ β}
    (early : Parallel pairing same play other)
    (late : ∀ fault, Parallel pairing same (handler fault) (otherHandler fault)) :
    Parallel pairing same (Play.recover play handler) (Play.recover other otherHandler) := by
  refine ⟨fun session excused =>
    lasts_recover (fun fault => (late fault).lasts) (early.lasts session excused), ?_⟩
  intro session session' alike
  rcases early.cases alike with
    excused | ⟨value, result, after, after', corresponds, alike, ended, ended'⟩ |
    ⟨fault, after, after', alike, ended, ended'⟩
  · exact .inl (lasts_recover (fun fault => (late fault).lasts) excused)
  · rw [recover_apply_of_ok ended, recover_apply_of_ok ended']
    exact .inr ⟨.ok corresponds, alike⟩
  · cases interrupt : fault.isInterrupt with
    | true =>
        rw [recover_apply_of_interrupt ended interrupt, recover_apply_of_interrupt ended' interrupt]
        exact .inr ⟨.error fault, alike⟩
    | false =>
        rw [recover_apply_of_failure ended interrupt, recover_apply_of_failure ended' interrupt]
        exact (late fault).goes after after' alike

/-- What is done at last is done in both runs, however the plays before it end. -/
theorem thenAlways {last : Play σ Unit} {otherLast : Play τ Unit}
    (early : Parallel pairing same play other) (late : Parallel pairing Eq last otherLast) :
    Parallel pairing same (Play.thenAlways play last) (Play.thenAlways other otherLast) := by
  have value {result : α} {result' : β} (corresponds : same result result') :
      Parallel pairing same (do last; return result) (do otherLast; return result') :=
    .andThen late fun _ => .pure corresponds
  have lastsAfter {session : Session σ} (excused : pairing.excused (play session).2.outside) :
      pairing.excused (Play.thenAlways play last session).2.outside := by
    rcases ended : play session with ⟨fault | result, after⟩
    · rw [ended] at excused
      rw [Play.thenAlways, ended]
      exact lasts_bind (fun _ _ excused => excused) (late.lasts after excused)
    · rw [ended] at excused
      rw [Play.thenAlways, ended]
      exact lasts_bind (fun _ _ excused => excused) (late.lasts after excused)
  refine ⟨fun session excused => lastsAfter (early.lasts session excused), ?_⟩
  intro session session' alike
  rcases early.cases alike with
    excused | ⟨result, result', after, after', corresponds, alike, ended, ended'⟩ |
    ⟨fault, after, after', alike, ended, ended'⟩
  · exact .inl (lastsAfter excused)
  · rw [Play.thenAlways, ended, Play.thenAlways, ended']
    exact (value corresponds).goes after after' alike
  · have failing : Parallel pairing same (do last; throw fault) (do otherLast; throw fault) :=
      .andThen late fun _ => .fail fault
    rw [Play.thenAlways, ended, Play.thenAlways, ended']
    exact failing.goes after after' alike

theorem outcome {other : Play τ α} (early : Parallel pairing Eq play other) :
    Parallel pairing Eq (Play.outcome play) (Play.outcome other) :=
  .recover (.andThen early fun _ => .pure rfl) fun _ => .pure rfl

theorem value? {other : Play τ α} (early : Parallel pairing Eq play other) :
    Parallel pairing Eq (Play.value? play) (Play.value? other) :=
  .recover (.andThen early fun _ => .pure rfl) fun _ => .pure rfl

theorem ite {condition : Prop} [Decidable condition] {first second : Play σ α}
    {third fourth : Play τ β} (yes : Parallel pairing same first third)
    (no : Parallel pairing same second fourth) :
    Parallel pairing same (if condition then first else second)
      (if condition then third else fourth) := by
  split
  · exact yes
  · exact no

end Parallel

section Leaves

variable {pairing : Pairing σ τ}

theorem Parallel.note (sound : pairing.Sound) {level otherLevel : LogLevel}
    {source otherSource : LogSource} {message otherMessage : String} :
    Parallel pairing Eq (note level source message)
      (note otherLevel otherSource otherMessage) where
  lasts _ excused := excused
  goes _ _ alike := .inr ⟨.ok rfl, sound.logged alike _ _⟩

theorem Parallel.line (even : pairing.Even) {level : LogLevel} {source : LogSource}
    {message : String} :
    Parallel pairing Eq (Play.note level source message) (Play.note level source message) where
  lasts _ excused := excused
  goes _ _ alike := .inr ⟨.ok rfl, even.noted alike _⟩

theorem Parallel.write (even : pairing.Even) (name : String) (value : Json) :
    Parallel pairing Eq (setVariable name value) (setVariable name value) where
  lasts _ excused := excused
  goes session other alike := by
    have same : session.vars.set name value = other.vars.set name value := by
      rw [even.vars alike]
    refine .inr ⟨.ok rfl, ?_⟩
    have written := even.written alike (session.vars.set name value)
    rw [setVariable, bind_apply_of_ok (modify_apply _ _), note_apply, setVariable,
      bind_apply_of_ok (modify_apply _ _), note_apply, ← same]
    exact even.noted written _

/-- What is read of a name, by what it is given. -/
def readOr {ρ : Type} (name : String) (default : Json) : Option Json → Play ρ Json
  | none => do
    Play.note .debug .vars s!"Get {name} -> <absent>"
    return default
  | some value => do
    Play.note .debug .vars s!"Get {name} = {value.compact}"
    return value

theorem getVariable_parallel (even : pairing.Even) (name : String) (default : Json) :
    Parallel pairing Eq (getVariable name default) (getVariable name default) := by
  have late (vars : Variables) : Parallel pairing Eq (readOr name default (vars.get? name))
      (readOr name default (vars.get? name)) := by
    cases vars.get? name with
    | none => exact .andThen (.line even) fun _ => .pure rfl
    | some value => exact .andThen (.line even) fun _ => .pure rfl
  exact .read (·.vars) (·.vars) even.vars late

theorem expand_parallel (even : pairing.Even) (text : String) :
    Parallel pairing Eq (expand text) (expand text) := by
  have late (vars : Variables) :
      Parallel pairing Eq (expandWith vars text) (expandWith vars text) := by
    unfold expandWith
    split
    · exact .fail _
    · exact .ite (.andThen (.line even) fun _ => .pure rfl) (.pure rfl)
  exact .read (·.vars) (·.vars) even.vars late

theorem noteEntries_parallel (even : pairing.Even) (entries : List (String × Json)) :
    Parallel pairing Eq (noteEntries entries) (noteEntries entries) := by
  induction entries with
  | nil => exact .pure rfl
  | cons entry rest ih => exact .andThen (.line even) fun _ => ih

theorem noteVariables_parallel (even : pairing.Even) :
    Parallel pairing Eq noteVariables noteVariables :=
  .andThen (.line even) fun _ =>
    .read (·.vars) (·.vars) even.vars fun vars => noteEntries_parallel even vars.entries

end Leaves

end Play

end Walkthrough
