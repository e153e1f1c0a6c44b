import Walkthrough.Proofs.Text.Boundary

/-!
# What a search finds

A search finds the leftmost place of a text that a pattern matches at
(`Walkthrough.Text.Pattern.search_eq_leftmost`). What it keeps there comes from the parts of the
pattern that keep something (`Walkthrough.Text.Pattern.eq_nil_of_keepsNothing`).
-/

namespace Walkthrough.Text.Pattern

section Keeping

/-- Whether no part of a pattern keeps its text. -/
def keepsNothing : Pattern → Bool
  | empty | one _ | many _ | few _ => true
  | seq first second | either first second => first.keepsNothing && second.keepsNothing
  | keep _ => false

variable {pattern : Pattern} {s : List Char} {kept : List (List Char)}

theorem eq_nil_of_keepsNothing (silent : pattern.keepsNothing = true)
    (fits : pattern.Matches s kept) : kept = [] := by
  induction fits with
  | empty | one _ | many _ | few _ => rfl
  | seq _ _ ihFirst ihSecond =>
      obtain ⟨first, second⟩ := Bool.and_eq_true_iff.mp silent
      rw [ihFirst first, ihSecond second, List.append_nil]
  | left _ ih => exact ih (Bool.and_eq_true_iff.mp silent).1
  | right _ ih => exact ih (Bool.and_eq_true_iff.mp silent).2
  | keep _ _ => cases silent

end Keeping

section Characters

/-- Whether all classes of a pattern accept characters of one kind alone. -/
def Only (holds : Char → Prop) : Pattern → Prop
  | empty => True
  | one accepts | many accepts | few accepts => ∀ c, accepts c = true → holds c
  | seq first second | either first second => first.Only holds ∧ second.Only holds
  | keep inner => inner.Only holds

variable {pattern first second : Pattern} {holds : Char → Prop} {s : List Char}
  {kept : List (List Char)}

theorem holds_of_only (only : pattern.Only holds) (fits : pattern.Matches s kept) :
    ∀ c ∈ s, holds c := by
  induction fits with
  | empty => simp
  | one accepted => simpa using only _ accepted
  | many accepted => exact fun c member => only c (accepted c member)
  | few accepted => exact fun c member => only c (accepted c member)
  | seq _ _ ihFirst ihSecond =>
      exact List.forall_mem_append.mpr ⟨ihFirst only.1, ihSecond only.2⟩
  | left _ ih => exact ih only.1
  | right _ ih => exact ih only.2
  | keep _ ih => exact ih only

/-- Whatever fits a pattern ends with a character of one kind. -/
structure EndsWith (holds : Char → Prop) (pattern : Pattern) : Prop where
  last : ∀ {s kept}, pattern.Matches s kept → ∃ c ∈ s.getLast?, holds c

namespace EndsWith

theorem letters {text : List Char} {letter : Char}
    (last : ∀ c, sameLetter letter c = true → holds c) :
    EndsWith holds (Pattern.letters (text ++ [letter])) := by
  constructor
  intro s kept fits
  induction text generalizing s kept with
  | nil =>
      obtain ⟨_, _, _, _, rfl, rfl, first, rest⟩ := matches_seq.mp fits
      obtain ⟨⟨c, same, rfl⟩, -⟩ := matches_one.mp first
      obtain ⟨rfl, -⟩ := matches_empty.mp rest
      exact ⟨c, rfl, last c same⟩
  | cons d more ih =>
      obtain ⟨front, back, _, _, rfl, rfl, first, rest⟩ := matches_seq.mp fits
      obtain ⟨c, back?, held⟩ := ih rest
      exact ⟨c, List.mem_getLast?_append_of_mem_getLast? back?, held⟩

/-- A sequence ends with what its end ends with. -/
theorem all_append {last : List Pattern} (ends : EndsWith holds (all last))
    (front : List Pattern) : EndsWith holds (all (front ++ last)) := by
  constructor
  intro s kept fits
  induction front generalizing s kept with
  | nil => exact ends.last fits
  | cons pattern rest ih =>
      obtain ⟨early, back, _, _, rfl, rfl, -, later⟩ := matches_seq.mp fits
      obtain ⟨c, last, held⟩ := ih later
      exact ⟨c, List.mem_getLast?_append_of_mem_getLast? last, held⟩

theorem single (ends : EndsWith holds pattern) : EndsWith holds (all [pattern]) := by
  constructor
  intro s kept fits
  obtain ⟨front, back, _, _, rfl, rfl, early, later⟩ := matches_seq.mp fits
  obtain ⟨rfl, -⟩ := matches_empty.mp later
  rw [List.append_nil]
  exact ends.last early

/-- What may be left out ends a sequence with a character of the kind, too. -/
theorem optional (ends : EndsWith holds first) (option : EndsWith holds second) :
    EndsWith holds (all [first, optional second]) := by
  constructor
  intro s kept fits
  obtain ⟨front, back, _, _, rfl, rfl, early, later⟩ := matches_seq.mp fits
  obtain ⟨taken, none, _, _, rfl, rfl, optional, nothing⟩ := matches_seq.mp later
  obtain ⟨rfl, -⟩ := matches_empty.mp nothing
  rw [List.append_nil]
  cases optional with
  | left fits =>
      obtain ⟨c, last, held⟩ := option.last fits
      exact ⟨c, List.mem_getLast?_append_of_mem_getLast? last, held⟩
  | right fits =>
      obtain ⟨rfl, -⟩ := matches_empty.mp fits
      rw [List.append_nil]
      exact ends.last early

theorem either (left : EndsWith holds first) (right : EndsWith holds second) :
    EndsWith holds (Pattern.either first second) := by
  constructor
  intro s kept fits
  cases fits with
  | left fits => exact left.last fits
  | right fits => exact right.last fits

end EndsWith

end Characters

section Places

variable {β : Type} {read? : List Char → Option β} {pattern : Pattern} {s : List Char}
  {kept : List (List Char)}

/-- The result of a reader at the leftmost place of a text where it has one. -/
def leftmost (read? : List Char → Option β) : List Char → Option β
  | [] => read? []
  | c :: rest => (read? (c :: rest)).or (leftmost read? rest)

theorem exists_of_leftmost {found : β} (reads : leftmost read? s = some found) :
    ∃ before rest, s = before ++ rest ∧ read? rest = some found := by
  induction s with
  | nil => exact ⟨[], [], rfl, reads⟩
  | cons c rest ih =>
      rw [leftmost, Option.or_eq_some_iff] at reads
      rcases reads with here | ⟨-, later⟩
      · exact ⟨[], c :: rest, rfl, here⟩
      · obtain ⟨before, late, rfl, reads⟩ := ih later
        exact ⟨c :: before, late, rfl, reads⟩

theorem leftmost_eq_none (fails : ∀ rest, rest <:+ s → read? rest = none) :
    leftmost read? s = none := by
  induction s with
  | nil => exact fails [] (List.suffix_refl [])
  | cons c rest ih =>
      rw [leftmost, fails _ (List.suffix_refl _), Option.none_or,
        ih fun _ late => fails _ (late.trans (List.suffix_cons c rest))]

theorem map_leftmost {γ : Type} (read? : List Char → Option β) (f : β → γ) (s : List Char) :
    (leftmost read? s).map f = leftmost (fun s => (read? s).map f) s := by
  induction s with
  | nil => rfl
  | cons c rest ih => rw [leftmost, leftmost, Option.map_or, ih]

theorem search_eq_leftmost (pattern : Pattern) (s : List Char) :
    pattern.search s = leftmost (pattern.run (fun kept _ => some kept) []) s := by
  have front (s : List Char) :
      (pattern.front? s).map (·.1) = pattern.run (fun kept _ => some kept) [] s :=
    map_run pattern _ _ [] s
  induction s with
  | nil => exact front []
  | cons c rest ih =>
      rw [leftmost, ← ih, ← front, search]
      cases pattern.front? (c :: rest) with
      | none => rfl
      | some found => rfl

/-- A match at the very front is the leftmost one. -/
theorem search_of_front? {rest : List Char} (front : pattern.front? s = some (kept, rest)) :
    pattern.search s = some kept := by
  cases s with
  | nil => rw [search, front, Option.map_some]
  | cons c more => rw [search, front]

theorem keep?_eq_some_iff {text value : String} :
    pattern.keep? text = some value ↔
      ∃ kept, pattern.search text.toList = some kept ∧ kept.head? = some value.toList := by
  rw [keep?, Option.bind_eq_some_iff]
  simp only [Option.map_eq_some_iff]
  constructor
  · rintro ⟨kept, found, chars, first, rfl⟩
    exact ⟨kept, found, by rw [first, String.toList_ofList]⟩
  · rintro ⟨kept, found, first⟩
    exact ⟨kept, found, value.toList, first, String.ofList_toList⟩

end Places

end Walkthrough.Text.Pattern
