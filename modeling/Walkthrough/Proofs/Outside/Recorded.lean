import Walkthrough.Proofs.Steps.Parallel

/-!
# Runs that are written down

A world can write down what it is asked and what it answers (`Walkthrough.Recorded`). That changes
nothing about a run in it (`Walkthrough.Play.execute_recorded`).
-/

namespace Walkthrough

/-- A call with its answer. -/
structure Exchange where
  call : Call
  answer : Except Mishap call.Answer

/-- A world with the calls made to it so far. -/
structure Recorded (σ : Type) where
  world : σ
  heard : List Exchange := []

variable {σ : Type} [Outside σ]

instance : Outside (Recorded σ) where
  reply call recorded :=
    ((Outside.reply call recorded.world).1,
      { world := (Outside.reply call recorded.world).2
        heard := recorded.heard ++ [⟨call, (Outside.reply call recorded.world).1⟩] })
  clock recorded := Outside.clock recorded.world
  now recorded := Outside.now recorded.world
  mark recorded := Outside.mark recorded.world

namespace Recorded

theorem reply_heard (call : Call) (recorded : Recorded σ) :
    (Outside.reply call recorded).2.heard =
      recorded.heard ++ [⟨call, (Outside.reply call recorded.world).1⟩] := rfl

theorem simulates :
    Outside.Simulates fun (recorded : Recorded σ) (world : σ) => recorded.world = world where
  reply same call := by
    cases same
    exact ⟨rfl, rfl⟩
  clock same := congrArg Outside.clock same
  now same := congrArg Outside.now same

end Recorded

/-- A session whose world writes down what it is asked from now on. -/
def Session.recorded (session : Session σ) : Session (Recorded σ) :=
  { session with outside := { world := session.outside } }

/-- **Writing a run down does not change it.** -/
theorem Play.execute_recorded (session : Session σ) :
    (execute session.recorded).1 = (execute session).1 ∧
      Session.Matches (fun recorded world => recorded.world = world) []
        (execute session.recorded).2 (execute session).2 := by
  have alike : Session.Matches (fun recorded world => recorded.world = world) []
      session.recorded session :=
    ⟨rfl, rfl, rfl, rfl, rfl, rfl, rfl⟩
  rcases execute_parallel (Recorded.simulates.reporting []) alike rfl with
    excused | ⟨ends, alike⟩
  · exact excused.elim
  · refine ⟨?_, alike⟩
    generalize (execute session.recorded).1 = ended, (execute session).1 = otherEnded at ends
    cases ends with
    | ok same =>
        obtain ⟨rfl, rfl⟩ := same
        exact congrArg Except.ok alike.reports
    | error fault => rfl

end Walkthrough
