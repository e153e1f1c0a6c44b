import Walkthrough.Proofs.Text.Finding
import Walkthrough.Proofs.Text.Letters

/-!
# Patterns that leave no choice

Letters, blanks up to a character that is none, and a run of characters at the very end match in one
way alone, so that such a pattern is read off the text from left to right
(`Walkthrough.Text.Pattern.run_letters`, `Walkthrough.Text.Pattern.run_blanks`,
`Walkthrough.Text.Pattern.run_stretch`).
-/

namespace Walkthrough.Text

/-- What stands behind a word that a text begins with, in either case. -/
def spelled? : List Char → List Char → Option (List Char)
  | [], s => some s
  | _ :: _, [] => none
  | letter :: more, c :: rest => if sameLetter letter c then spelled? more rest else none

/-- The characters of a class that a text begins with, if there are any. -/
def stretch? (accepts : Char → Bool) : List Char → Option (List Char)
  | [] => none
  | c :: rest => if accepts c then some (c :: rest.takeWhile accepts) else none

/-- Letters that no blank is the same as. -/
def isBlankless (word : List Char) : Bool :=
  word.all fun letter => !isBlank (foldLetter letter)

section Ends

variable {accepts : Char → Bool} {s t : List Char}

/-- A text that does not end with a blank. -/
def EndsSolid (s : List Char) : Prop :=
  ∀ c ∈ s.getLast?, isBlank c = false

theorem EndsSolid.of_suffix (ends : EndsSolid s) (late : t <:+ s) : EndsSolid t := by
  obtain ⟨front, rfl⟩ := late
  exact fun c last => ends c (List.mem_getLast?_append_of_mem_getLast? last)

theorem EndsSolid.dropWhile_append (ends : EndsSolid s) (some : s ≠ []) (t : List Char) :
    (s ++ t).dropWhile isBlank = s.dropWhile isBlank ++ t := by
  rw [List.dropWhile_append, if_neg]
  intro gone
  have blank := List.dropWhile_eq_nil_iff.mp (List.isEmpty_iff.mp gone)
  have solid := ends _ (List.getLast?_eq_some_getLast some)
  rw [blank _ (List.getLast_mem some)] at solid
  cases solid

/-- What a text ends with begins among the characters of a class at its front, or behind them. -/
theorem head?_or_suffix_dropWhile (p : Char → Bool) (late : t <:+ s) :
    (∃ c ∈ t.head?, p c = true) ∨ t <:+ s.dropWhile p := by
  induction s with
  | nil => exact .inr late
  | cons c rest ih =>
      by_cases accepted : p c = true
      · rw [List.dropWhile_cons_of_pos accepted]
        rcases List.suffix_cons_iff.mp late with rfl | later
        · exact .inl ⟨c, rfl, accepted⟩
        · exact ih later
      · rw [List.dropWhile_cons_of_neg accepted]
        exact .inr late

theorem stretch?_append_cons {c : Char} (refused : accepts c = false) (s t : List Char) :
    stretch? accepts (s ++ c :: t) = stretch? accepts s := by
  have whole (s : List Char) :
      (s ++ c :: t).takeWhile accepts = s.takeWhile accepts := by
    induction s with
    | nil => exact List.takeWhile_cons_of_neg (by simp [refused])
    | cons d rest ih => rw [List.cons_append, List.takeWhile_cons, List.takeWhile_cons, ih]
  cases s with
  | nil => simp [stretch?, refused]
  | cons d rest => rw [List.cons_append, stretch?, stretch?, whole]

end Ends

theorem findSome?_congr {α β : Type} {f g : α → Option β} {all : List α}
    (same : ∀ x ∈ all, f x = g x) : all.findSome? f = all.findSome? g := by
  induction all with
  | nil => rfl
  | cons x rest ih =>
      obtain ⟨first, others⟩ := List.forall_mem_cons.mp same
      rw [List.findSome?_cons, List.findSome?_cons, first, ih others]

section Spelling

variable {word part s t rest : List Char}

theorem spelled?_cons_of_blank {letter c : Char} (blankless : isBlankless (letter :: word) = true)
    (blank : isBlank c = true) (rest : List Char) :
    spelled? (letter :: word) (c :: rest) = none := by
  have solid := (Bool.and_eq_true_iff.mp (List.all_cons.symm.trans blankless)).1
  rw [spelled?, sameLetter_of_isBlank (by simpa using solid) blank]
  exact if_neg Bool.false_ne_true

/-- A word without blanks is not spelled across a blank. -/
theorem spelled?_append_cons {c : Char} (blankless : isBlankless word = true)
    (blank : isBlank c = true) (s t : List Char) :
    spelled? word (s ++ c :: t) = (spelled? word s).map (· ++ c :: t) := by
  induction word generalizing s with
  | nil => rfl
  | cons letter more ih =>
      cases s with
      | nil => exact spelled?_cons_of_blank blankless blank t
      | cons d rest =>
          rw [List.cons_append, spelled?, spelled?]
          split
          · exact ih (Bool.and_eq_true_iff.mp (List.all_cons.symm.trans blankless)).2 rest
          · rfl

theorem spelled?_of_sameLetters (spelled : SameLetters word s) (rest : List Char) :
    spelled? word (s ++ rest) = some rest := by
  induction spelled with
  | nil => rfl
  | cons same _ ih => rw [List.cons_append, spelled?, if_pos same, ih]

/-- What is spelled like the word is cut off the front. -/
theorem exists_sameLetters_of_spelled? (found : spelled? word s = some rest) :
    ∃ taken, SameLetters word taken ∧ s = taken ++ rest := by
  fun_induction spelled? word s with
  | case1 s => exact ⟨[], .nil, Option.some.inj found⟩
  | case2 => cases found
  | case3 letter more c after same ih =>
      obtain ⟨taken, spelled, rfl⟩ := ih found
      exact ⟨c :: taken, .cons same spelled, rfl⟩
  | case4 => cases found

theorem isSuffix_of_spelled? (found : spelled? word s = some rest) : rest <:+ s := by
  obtain ⟨taken, -, rfl⟩ := exists_sameLetters_of_spelled? found
  exact List.suffix_append taken rest

/-- A word that a text begins with is there whatever follows. -/
theorem spelled?_append (found : spelled? word s = some rest) (t : List Char) :
    spelled? word (s ++ t) = some (rest ++ t) := by
  obtain ⟨taken, spelled, rfl⟩ := exists_sameLetters_of_spelled? found
  rw [List.append_assoc, spelled?_of_sameLetters spelled]

theorem exists_of_spelled? (found : spelled? word s = some rest) :
    ∃ taken, s = taken ++ rest ∧ spelled? word taken = some [] := by
  obtain ⟨taken, spelled, rfl⟩ := exists_sameLetters_of_spelled? found
  refine ⟨taken, rfl, ?_⟩
  simpa using spelled?_of_sameLetters spelled []

/-- What is spelled like a word holds no blank. -/
theorem isBlank_of_sameLetters (blankless : isBlankless word = true)
    (spelled : SameLetters word s) : ∀ c ∈ s, isBlank c = false := by
  induction spelled with
  | nil => simp
  | cons same _ ih =>
      obtain ⟨solid, others⟩ := Bool.and_eq_true_iff.mp (List.all_cons.symm.trans blankless)
      refine List.forall_mem_cons.mpr ⟨Bool.eq_false_iff.mpr fun blank => ?_, ih others⟩
      rw [sameLetter_of_isBlank (by simpa using solid) blank] at same
      cases same

theorem isBlank_of_spelled? (blankless : isBlankless word = true)
    (whole : spelled? word s = some []) : ∀ c ∈ s, isBlank c = false := by
  obtain ⟨taken, spelled, rfl⟩ := exists_sameLetters_of_spelled? whole
  rw [List.append_nil]
  exact isBlank_of_sameLetters blankless spelled

/-- What a text with a word at its front ends with begins behind the word, or inside of it. -/
theorem suffix_cases_of_spelled? (found : spelled? word s = some rest) (late : t <:+ s) :
    t <:+ rest ∨ ∃ part, part <:+ word ∧ spelled? part t = some rest := by
  obtain ⟨taken, spelled, rfl⟩ := exists_sameLetters_of_spelled? found
  rcases List.suffix_or_suffix_of_suffix late (List.suffix_append taken rest) with behind | inside
  · exact .inl behind
  · obtain ⟨back, rfl⟩ := inside
    obtain ⟨front, split⟩ := late
    rw [← List.append_assoc] at split
    rw [← List.append_cancel_right split] at spelled
    have behind : SameLetters (word.drop front.length) back :=
      List.forall₂_drop_append word front back spelled
    exact .inr ⟨word.drop front.length, List.drop_suffix .., spelled?_of_sameLetters behind rest⟩

/-- A word that does not begin another one does not begin a text that is spelled like it, either,
where that is followed by a blank or by nothing. -/
theorem spelled?_eq_none_of_spelled? (apart : spelled? word part = none)
    (blankless : isBlankless word = true) (found : spelled? part s = some rest)
    (blank : ∀ c ∈ rest.head?, isBlank c = true) : spelled? word s = none := by
  induction word generalizing part s with
  | nil => cases apart
  | cons letter more ih =>
      have blanklessMore := (Bool.and_eq_true_iff.mp (List.all_cons.symm.trans blankless)).2
      cases part with
      | nil =>
          obtain rfl := Option.some.inj found
          cases s with
          | nil => rfl
          | cons c rest => exact spelled?_cons_of_blank blankless (blank c rfl) rest
      | cons d others =>
          cases s with
          | nil => rfl
          | cons c after =>
              rw [spelled?] at apart found ⊢
              split at found
              · next same =>
                  have fold : foldLetter d = foldLetter c := beq_iff_eq.mp same
                  have like : sameLetter letter c = sameLetter letter d := by
                    rw [sameLetter, sameLetter, fold]
                  rw [like]
                  split
                  · next first =>
                      rw [if_pos first] at apart
                      exact ih apart blanklessMore found
                  · rfl
              · cases found

end Spelling

namespace Pattern

section Reading

variable {β : Type}

theorem run_letters (text : List Char) (next : List (List Char) → List Char → Option β)
    (kept : List (List Char)) (s : List Char) :
    (letters text).run next kept s = (spelled? text s).bind (next kept) := by
  induction text generalizing s with
  | nil => rfl
  | cons letter more ih =>
      cases s with
      | nil => rfl
      | cons c rest =>
          change (if sameLetter letter c then (letters more).run next kept rest else none) = _
          rw [ih, spelled?]
          split
          · rfl
          · rfl

/-- Letters can be cut in two. -/
theorem run_letters_append (first second : List Char) (pattern : Pattern)
    (next : List (List Char) → List Char → Option β) (kept : List (List Char)) (s : List Char) :
    (seq (letters (first ++ second)) pattern).run next kept s =
      (seq (letters first) (seq (letters second) pattern)).run next kept s := by
  induction first generalizing s with
  | nil => rfl
  | cons letter more ih =>
      cases s with
      | nil => rfl
      | cons c rest =>
          change (if sameLetter letter c then
            (seq (letters (more ++ second)) pattern).run next kept rest else none) = _
          rw [ih]
          rfl

/-- Blanks are passed over if the rest of the pattern does not begin with one. -/
theorem run_blanks {pattern : Pattern}
    (refuses : ∀ c rest, isBlank c = true → Refuses pattern (c :: rest))
    (next : List (List Char) → List Char → Option β) (kept : List (List Char)) (s : List Char) :
    (seq (many isBlank) pattern).run next kept s = pattern.run next kept (s.dropWhile isBlank) :=
  runMany_of_refused (fun c rest blank => refuses c rest blank next kept) s

/-- So are the blanks between two words, of which there must be some. -/
theorem run_gap {pattern : Pattern}
    (refuses : ∀ c rest, isBlank c = true → Refuses pattern (c :: rest))
    (next : List (List Char) → List Char → Option β) (kept : List (List Char)) (s : List Char) :
    (seq (oneOrMore isBlank) pattern).run next kept s =
      if s.head?.any isBlank then pattern.run next kept (s.dropWhile isBlank) else none := by
  cases s with
  | nil => rfl
  | cons c rest =>
      change (if isBlank c then (seq (many isBlank) pattern).run next kept rest else none) = _
      rw [List.head?_cons, Option.any_some]
      split
      · next blank => rw [run_blanks refuses, List.dropWhile_cons_of_pos blank]
      · rfl

/-- At its end a pattern keeps all that the class accepts. -/
theorem run_stretch (accepts : Char → Bool) (kept : List (List Char)) (s : List Char) :
    (all [keep (oneOrMore accepts)]).run (fun kept _ => some kept) kept s =
      (stretch? accepts s).map fun value => kept ++ [value] := by
  cases s with
  | nil => rfl
  | cons c rest =>
      change (if accepts c then runMany accepts (fun late =>
        some (kept ++ [(c :: rest).take ((c :: rest).length - late.length)])) rest else none) = _
      rw [runMany_of_total (fun _ => rfl), stretch?]
      have taken : (c :: rest).take ((c :: rest).length - (rest.dropWhile accepts).length) =
          c :: rest.takeWhile accepts := by
        have split := List.takeWhile_append_dropWhile (p := accepts) (l := rest)
        generalize rest.takeWhile accepts = front at split ⊢
        generalize rest.dropWhile accepts = back at split ⊢
        rw [← split, ← List.cons_append, List.length_append, Nat.add_sub_cancel, List.take_left']
        rfl
      rw [taken]
      split
      · rfl
      · rfl

end Reading

end Pattern

end Walkthrough.Text
