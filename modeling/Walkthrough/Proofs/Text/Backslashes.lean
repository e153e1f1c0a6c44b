import Mathlib.Data.List.DropRight
import Walkthrough.Text.Lines

/-!
# Backslashes before a place

How many backslashes stand right before a place in a text, counted along the text. They take the
meaning from what stands there if their number is odd, since two backslashes stand for one.
-/

namespace Walkthrough.Text

/-- How many backslashes stand right behind a character, if so many stand right before it. -/
def slashesBehind (slashes : Nat) (c : Char) : Nat :=
  if c = '\\' then slashes + 1 else 0

/-- How many backslashes a text ends with, if so many stand right before it. -/
def slashesAfter (slashes : Nat) (s : List Char) : Nat :=
  s.foldl slashesBehind slashes

/-- Backslashes take the meaning from what follows if their number is odd. -/
def byOdd (slashes : Nat) : Bool :=
  slashes % 2 == 1

variable {c : Char} {s t : List Char}

@[simp] theorem slashesBehind_backslash (slashes : Nat) :
    slashesBehind slashes '\\' = slashes + 1 := rfl

theorem slashesBehind_of_ne (other : c ≠ '\\') (slashes : Nat) : slashesBehind slashes c = 0 :=
  if_neg other

@[simp] theorem slashesAfter_nil (slashes : Nat) : slashesAfter slashes [] = slashes := rfl

@[simp] theorem slashesAfter_cons (slashes : Nat) (c : Char) (s : List Char) :
    slashesAfter slashes (c :: s) = slashesAfter (slashesBehind slashes c) s := rfl

@[simp] theorem slashesAfter_append (slashes : Nat) (s t : List Char) :
    slashesAfter slashes (s ++ t) = slashesAfter (slashesAfter slashes s) t :=
  List.foldl_append

theorem slashesAfter_replicate (slashes count : Nat) :
    slashesAfter slashes (List.replicate count '\\') = slashes + count := by
  induction count generalizing slashes with
  | zero => rfl
  | succ count ih =>
      rw [List.replicate_succ, slashesAfter_cons, ih, slashesBehind_backslash]
      omega

theorem slashesAfter_of_all (all : ∀ c ∈ s, c = '\\') (slashes : Nat) :
    slashesAfter slashes s = slashes + s.length := by
  conv_lhs => rw [List.eq_replicate_of_mem all, slashesAfter_replicate]

theorem slashesAfter_of_backslashless (backslashless : '\\' ∉ s) : slashesAfter 0 s = 0 := by
  induction s with
  | nil => rfl
  | cons c rest ih =>
      rw [slashesAfter_cons, slashesBehind_of_ne (List.ne_of_not_mem_cons backslashless).symm,
        ih (List.not_mem_of_not_mem_cons backslashless)]

theorem byOdd_succ (slashes : Nat) : byOdd (slashes + 1) = !byOdd slashes := by
  rw [byOdd, byOdd, Bool.eq_iff_iff, Bool.not_eq_true', beq_iff_eq, beq_eq_false_iff_ne]
  omega

/-- The count along a text is that of the backslashes at its end. -/
theorem slashesAfter_eq (s : List Char) :
    slashesAfter 0 s = (s.rtakeWhile (· == '\\')).length := by
  induction s using List.reverseRecOn with
  | nil => rfl
  | append_singleton s c ih =>
      rw [slashesAfter_append, ih, slashesAfter_cons, slashesAfter_nil]
      by_cases backslash : c = '\\'
      · rw [backslash, List.rtakeWhile_concat_pos _ _ _ (by decide), List.length_append]
        rfl
      · rw [slashesBehind_of_ne backslash,
          List.rtakeWhile_concat_neg _ _ _ (by simpa using backslash)]
        rfl

end Walkthrough.Text
