import Mathlib.Data.List.Forall2
import Mathlib.Data.List.TakeWhile
import Walkthrough.Proofs.Text.Lines
import Walkthrough.Proofs.Text.Matching

/-!
# The preferred way to match

The way to match that a pattern prefers, judged with the characters that follow the match
(`Walkthrough.Text.Pattern.Preferred`): a greedy run ends where the class ends, an alternative is
passed over only if it matches nothing there. If the rest of the match agrees to it, it is the way
that is taken (`Walkthrough.Text.Pattern.run_of_preferred`).
-/

namespace Walkthrough.Text.Pattern

/-- A pattern has no match at the start of a text, whatever comes after it. -/
def Refuses (pattern : Pattern) (s : List Char) : Prop :=
  ∀ {β : Type} (next : List (List Char) → List Char → Option β) (kept : List (List Char)),
    pattern.run next kept s = none

/-- A pattern prefers to take the stretch `taken` where `rest` follows it, and keeps some parts. -/
inductive Preferred : Pattern → (taken rest : List Char) → List (List Char) → Prop
  | empty {rest : List Char} : Preferred empty [] rest []
  | one {accepts : Char → Bool} {c : Char} {rest : List Char} :
      accepts c = true → Preferred (one accepts) [c] rest []
  | many {accepts : Char → Bool} {s rest : List Char} :
      (∀ c ∈ s, accepts c = true) → (∀ c ∈ rest.head?, accepts c = false) →
        Preferred (many accepts) s rest []
  | seq {first second : Pattern} {s t rest : List Char} {kept more : List (List Char)} :
      Preferred first s (t ++ rest) kept → Preferred second t rest more →
        Preferred (seq first second) (s ++ t) rest (kept ++ more)
  | left {first second : Pattern} {s rest : List Char} {kept : List (List Char)} :
      Preferred first s rest kept → Preferred (either first second) s rest kept
  | right {first second : Pattern} {s rest : List Char} {kept : List (List Char)} :
      Refuses first (s ++ rest) → Preferred second s rest kept →
        Preferred (either first second) s rest kept
  | keep {inner : Pattern} {s rest : List Char} {kept : List (List Char)} :
      Preferred inner s rest kept → Preferred (keep inner) s rest (kept ++ [s])

section Sequence

variable {pattern : Pattern} {later : List Pattern} {s t rest : List Char} {more : List (List Char)}

theorem Preferred.done {rest : List Char} : Preferred (all []) [] rest [] :=
  .empty

/-- A pattern that keeps nothing, before others. -/
theorem Preferred.skip (first : Preferred pattern s (t ++ rest) [])
    (others : Preferred (all later) t rest more) :
    Preferred (all (pattern :: later)) (s ++ t) rest more :=
  .seq first others

/-- A pattern whose text is kept, before others. -/
theorem Preferred.take (first : Preferred pattern s (t ++ rest) [])
    (others : Preferred (all later) t rest more) :
    Preferred (all (Pattern.keep pattern :: later)) (s ++ t) rest (s :: more) :=
  .seq (.keep first) others

end Sequence

section Refusal

variable {accepts : Char → Bool} {s : List Char}

theorem refuses_one (first : ∀ c ∈ s.head?, accepts c = false) : Refuses (one accepts) s := by
  intro β next kept
  cases s with
  | nil => rfl
  | cons c rest => simp [run, first c rfl]

theorem refuses_seq {first : Pattern} (refuses : Refuses first s) (second : Pattern) :
    Refuses (seq first second) s :=
  fun next kept => refuses (second.run next) kept

theorem preferred_oneOrMore {rest : List Char} (some : s ≠ [])
    (accepted : ∀ c ∈ s, accepts c = true) (stops : ∀ c ∈ rest.head?, accepts c = false) :
    Preferred (oneOrMore accepts) s rest [] := by
  obtain ⟨c, more, rfl⟩ := List.exists_cons_of_ne_nil some
  obtain ⟨first, others⟩ := List.forall_mem_cons.mp accepted
  exact .seq (.one first) (.many others stops)

/-- Fixed letters match what spells them in either case. -/
theorem preferred_spelled {text : List Char}
    (spelled : List.Forall₂ (fun letter c => sameLetter letter c = true) text s)
    (rest : List Char) : Preferred (letters text) s rest [] := by
  induction spelled with
  | nil => exact .empty
  | cons same _ ih => exact .seq (.one same) ih

/-- Fixed letters match themselves. -/
theorem preferred_letters (text rest : List Char) : Preferred (letters text) text rest [] :=
  preferred_spelled (List.forall₂_same.mpr fun c _ => sameLetter_refl c) rest

end Refusal

section Running

variable {β : Type} {found : β} {next : List (List Char) → List Char → Option β}
  {kept : List (List Char)} {s : List Char}

theorem runMany_of_all {accepts : Char → Bool} {next : List Char → Option β}
    {taken rest : List Char} (accepted : ∀ c ∈ taken, accepts c = true)
    (stops : ∀ c ∈ rest.head?, accepts c = false)
    (ends : next rest = some found) : runMany accepts next (taken ++ rest) = some found := by
  induction taken with
  | nil =>
      cases rest with
      | nil => exact ends
      | cons c rest =>
          rw [List.nil_append, runMany, if_neg (by simp [stops c rfl])]
          exact ends
  | cons c more ih =>
      obtain ⟨first, others⟩ := List.forall_mem_cons.mp accepted
      rw [List.cons_append, runMany, if_pos first, ih others]

/-- A greedy run whose rest agrees to everything takes the whole class. -/
theorem runMany_of_total {accepts : Char → Bool} {next : List Char → Option β}
    (total : ∀ rest, (next rest).isSome = true) (s : List Char) :
    runMany accepts next s = next (s.dropWhile accepts) := by
  obtain ⟨found, ends⟩ := Option.isSome_iff_exists.mp (total (s.dropWhile accepts))
  have accepted : ∀ c ∈ s.takeWhile accepts, accepts c = true :=
    fun _ member => List.mem_takeWhile_imp member
  have whole := runMany_of_all accepted head?_dropWhile ends
  rw [List.takeWhile_append_dropWhile] at whole
  rw [whole, ends]

/-- A greedy run takes the whole class if nothing else begins with it. -/
theorem runMany_of_refused {accepts : Char → Bool} {next : List Char → Option β}
    (refuses : ∀ c rest, accepts c = true → next (c :: rest) = none) (s : List Char) :
    runMany accepts next s = next (s.dropWhile accepts) := by
  induction s with
  | nil => rfl
  | cons c rest ih =>
      rw [runMany]
      split
      · next accepted =>
          rw [ih, refuses c rest accepted, List.dropWhile_cons_of_pos accepted]
          cases next (rest.dropWhile accepts) with
          | none => rfl
          | some found => rfl
      · next refused => rw [List.dropWhile_cons_of_neg refused]

/-- The preferred way is taken if the rest of the match agrees to it. -/
theorem run_of_preferred {pattern : Pattern} {taken rest : List Char} {more : List (List Char)}
    (preferred : Preferred pattern taken rest more)
    (ends : next (kept ++ more) rest = some found) :
    pattern.run next kept (taken ++ rest) = some found := by
  induction preferred generalizing next kept with
  | empty =>
      rw [List.append_nil] at ends
      exact ends
  | one accepted =>
      rw [List.append_nil] at ends
      simp only [List.cons_append, List.nil_append, run, accepted, if_true, ends]
  | many accepted stops =>
      rw [List.append_nil] at ends
      exact runMany_of_all accepted stops ends
  | seq _ _ ihFirst ihSecond =>
      rw [← List.append_assoc] at ends
      rw [run, List.append_assoc]
      exact ihFirst (ihSecond ends)
  | left _ ih => rw [run, ih ends]
  | right refuses _ ih => rw [run, refuses, ih ends]
  | @keep inner s rest inside _ ih =>
      refine ih ?_
      have whole : (s ++ rest).take ((s ++ rest).length - rest.length) = s := by simp
      rwa [whole, List.append_assoc]

theorem front?_of_preferred {pattern : Pattern} {taken rest : List Char}
    {more : List (List Char)} (preferred : Preferred pattern taken rest more) :
    pattern.front? (taken ++ rest) = some (more, rest) :=
  run_of_preferred preferred rfl

theorem run_all_append (first second : List Pattern)
    (next : List (List Char) → List Char → Option β) (kept : List (List Char)) (s : List Char) :
    (all (first ++ second)).run next kept s = (all first).run ((all second).run next) kept s := by
  induction first generalizing kept s with
  | nil => rfl
  | cons pattern rest ih =>
      have same : (all (rest ++ second)).run next = (all rest).run ((all second).run next) := by
        funext kept s
        exact ih kept s
      simp only [all, List.cons_append, List.foldr_cons, run] at same ⊢
      rw [same]

end Running

end Walkthrough.Text.Pattern
