import Walkthrough.Proofs.Text.Preference

/-!
# Matches that stop at the end of a line

Where a text ends with a line feed and another one follows, a pattern need not be able to go on into
the other one (`Walkthrough.Text.Pattern.Stops`): letters do not match a line feed, and a run of
blanks gets across it only to find a character that the rest of the pattern refuses. Such a pattern
matches at the start of both texts together what it matches in the first one alone
(`Walkthrough.Text.Pattern.Stops.front?_append`).
-/

namespace Walkthrough.Text

/-- A text whose last character is a line feed. -/
def EndsLine (s : List Char) : Prop :=
  s.getLast? = some '\n'

theorem EndsLine.of_cons {c : Char} {rest : List Char} (ends : EndsLine (c :: rest)) :
    rest = [] ∧ c = '\n' ∨ EndsLine rest := by
  cases rest with
  | nil => exact .inl ⟨rfl, Option.some.inj ends⟩
  | cons d more => exact .inr ((List.getLast?_cons_cons ..).symm.trans ends)

theorem EndsLine.of_append {front back : List Char} (ends : EndsLine (front ++ back))
    (some : back ≠ []) : EndsLine back := by
  rwa [EndsLine, List.getLast?_append_of_ne_nil _ some] at ends

namespace Pattern

section Results

variable {β γ : Type}

theorem map_runMany (accepts : Char → Bool) (next : List Char → Option β) (f : β → γ)
    (s : List Char) :
    (runMany accepts next s).map f = runMany accepts (fun rest => (next rest).map f) s := by
  induction s with
  | nil => rfl
  | cons c rest ih =>
      rw [runMany, runMany, ← ih]
      split
      · cases runMany accepts next rest with
        | none => rfl
        | some found => rfl
      · rfl

theorem map_runFew (accepts : Char → Bool) (next : List Char → Option β) (f : β → γ)
    (s : List Char) :
    (runFew accepts next s).map f = runFew accepts (fun rest => (next rest).map f) s := by
  induction s with
  | nil => rfl
  | cons c rest ih =>
      rw [runFew, runFew, ← ih]
      cases next (c :: rest) with
      | none =>
          rw [Option.map_none]
          simp only
          split
          · rfl
          · rfl
      | some found => rfl

/-- What is made of the result of a run can be made of the results of what follows the match. -/
theorem map_run (pattern : Pattern) (next : List (List Char) → List Char → Option β) (f : β → γ)
    (kept : List (List Char)) (s : List Char) :
    (pattern.run next kept s).map f =
      pattern.run (fun kept rest => (next kept rest).map f) kept s := by
  induction pattern generalizing next kept s with
  | empty => rfl
  | one accepts =>
      cases s with
      | nil => rfl
      | cons c rest =>
          rw [run, run]
          split
          · rfl
          · rfl
  | many accepts => exact map_runMany accepts (next kept) f s
  | few accepts => exact map_runFew accepts (next kept) f s
  | seq first second ihFirst ihSecond =>
      rw [run, run, ihFirst]
      simp only [ihSecond]
  | either first second ihFirst ihSecond =>
      rw [run, run, ← ihFirst, ← ihSecond]
      cases first.run next kept s with
      | none => rfl
      | some found => rfl
  | keep inner ih =>
      rw [run, run, ih]

end Results

/-- Where `t` follows a text that ends with a line feed, a match of the pattern goes on in the same
way as where nothing follows. -/
structure Stops (t : List Char) (pattern : Pattern) : Prop where
  agree : ∀ {β : Type} {next other : List (List Char) → List Char → Option β},
    (∀ kept s, EndsLine s → next kept (s ++ t) = other kept s) →
      ∀ kept s, EndsLine s → pattern.run next kept (s ++ t) = pattern.run other kept s

namespace Stops

variable {t : List Char} {pattern first second : Pattern}

theorem empty : Stops t empty :=
  ⟨fun agree => agree⟩

theorem one {accepts : Char → Bool} (stops : accepts '\n' = false) : Stops t (one accepts) := by
  constructor
  intro β next other agree kept s ends
  cases s with
  | nil => cases ends
  | cons c rest =>
      rw [List.cons_append, run, run]
      rcases ends.of_cons with ⟨rfl, rfl⟩ | endsRest
      · simp only [stops, Bool.false_eq_true, if_false]
      · rw [agree kept rest endsRest]

theorem seq (early : Stops t first) (late : Stops t second) : Stops t (seq first second) :=
  ⟨fun agree => early.agree (late.agree agree)⟩

theorem either (left : Stops t first) (right : Stops t second) : Stops t (either first second) := by
  constructor
  intro β next other agree kept s ends
  rw [run, run, left.agree agree kept s ends, right.agree agree kept s ends]

theorem keep (inner : Stops t pattern) : Stops t (keep pattern) := by
  constructor
  intro β next other agree kept s ends
  refine inner.agree (fun more rest endsRest => ?_) kept s ends
  -- What is kept is counted from the front, which `t` does not change.
  have taken : (s ++ t).take ((s ++ t).length - (rest ++ t).length) =
      s.take (s.length - rest.length) := by
    rw [List.length_append, List.length_append, Nat.add_sub_add_right,
      List.take_append_of_le_length (Nat.sub_le _ _)]
  rw [taken, agree _ rest endsRest]

theorem letters {text : List Char} (plain : text.any (sameLetter · '\n') = false) :
    Stops t (letters text) := by
  induction text with
  | nil => exact empty
  | cons c rest ih =>
      obtain ⟨here, others⟩ := Bool.or_eq_false_iff.mp (List.any_cons.symm.trans plain)
      exact .seq (.one here) (ih others)

/-- A run of a class gets across the line feed only to find what the rest of the pattern refuses. -/
theorem many {accepts : Char → Bool} (stops : Stops t second)
    (inside : ∀ c rest, accepts c = true → Refuses second (c :: rest))
    (across : Refuses second (t.dropWhile accepts)) (atEnd : Refuses second []) :
    Stops t (Pattern.seq (many accepts) second) := by
  constructor
  intro β next other agree kept s ends
  rw [run, run, run, run,
    runMany_of_refused fun c rest accepted => inside c rest accepted next kept,
    runMany_of_refused fun c rest accepted => inside c rest accepted other kept,
    List.dropWhile_append]
  split
  -- The run takes all that is left of the first text, so that it goes on into the other one.
  · next gone =>
      rw [List.isEmpty_iff.mp gone, across, atEnd]
  · next stays =>
      obtain ⟨blanks, split⟩ := List.dropWhile_suffix (l := s) accepts
      rw [← split] at ends
      exact stops.agree agree kept _ (ends.of_append fun gone => stays (by rw [gone]; rfl))

theorem front?_append (stops : Stops t pattern) {s : List Char} (ends : EndsLine s) :
    pattern.front? (s ++ t) = (pattern.front? s).map fun (kept, rest) => (kept, rest ++ t) := by
  rw [front?, front?, map_run]
  exact stops.agree (fun kept rest _ => rfl) [] s ends

end Stops

end Pattern

end Walkthrough.Text
