import Walkthrough.Proofs.Text.Search

/-!
# Where a pattern keeps its text

A run of a pattern can tell the places of the texts that it keeps, instead of the texts
(`Walkthrough.Text.Pattern.runPlaces`). The texts are what stands at these places
(`Walkthrough.Text.Pattern.run_eq_runPlaces`), so what a search keeps stands where it was found
(`Walkthrough.Text.Pattern.keep?_eq_keptPlace?`).
-/

namespace Walkthrough.Text

/-- A place in a text: the text from its first character on, and the text behind it. -/
structure Place where
  start : List Char
  rest : List Char
  deriving DecidableEq

/-- The text at a place. -/
def Place.text (place : Place) : List Char :=
  place.start.take (place.start.length - place.rest.length)

/-- What stands between a text and the rest of it is at the place. -/
theorem Place.text_append (taken rest : List Char) : Place.text ⟨taken ++ rest, rest⟩ = taken := by
  simp [Place.text]

namespace Pattern

variable {β : Type}

/-- Matches at the start of `s` as `Pattern.run` does, but keeps places instead of texts. -/
def runPlaces : Pattern → (List Place → List Char → Option β) → List Place → List Char → Option β
  | empty, next, kept, s => next kept s
  | one accepts, next, kept, s =>
    match s with
    | [] => none
    | c :: rest => if accepts c then next kept rest else none
  | many accepts, next, kept, s => runMany accepts (next kept) s
  | few accepts, next, kept, s => runFew accepts (next kept) s
  | seq first second, next, kept, s => first.runPlaces (second.runPlaces next) kept s
  | either first second, next, kept, s =>
    (first.runPlaces next kept s).or (second.runPlaces next kept s)
  | keep inner, next, kept, s =>
    inner.runPlaces (fun more rest => next (more ++ [⟨s, rest⟩]) rest) kept s

/-- The places of what is kept by the leftmost match in `s`. -/
def searchPlaces (pattern : Pattern) (s : List Char) : Option (List Place) :=
  leftmost (pattern.runPlaces (fun kept _ => some kept) []) s

/-- The place of the first text that is kept by the leftmost match in `s`. -/
def keptPlace? (pattern : Pattern) (s : List Char) : Option Place :=
  (pattern.searchPlaces s).bind List.head?

section Running

variable {s : List Char} {kept : List Place}

/-- The texts that a run keeps are those at the places that it keeps. -/
theorem run_eq_runPlaces (pattern : Pattern) (next : List (List Char) → List Char → Option β)
    (kept : List Place) (s : List Char) :
    pattern.run next (kept.map Place.text) s =
      pattern.runPlaces (fun places rest => next (places.map Place.text) rest) kept s := by
  induction pattern generalizing next kept s with
  | empty | one _ | many _ | few _ => rfl
  | seq first second ihFirst ihSecond =>
      rw [run, runPlaces, ihFirst]
      simp only [ihSecond]
  | either first second ihFirst ihSecond =>
      rw [run, runPlaces, ihFirst, ihSecond]
      cases first.runPlaces (fun places rest => next (places.map Place.text) rest) kept s with
      | none => rfl
      | some found => rfl
  | keep inner ih =>
      rw [run, runPlaces, ih]
      simp only [List.map_append, List.map_cons, List.map_nil, Place.text]

/-- A pattern that keeps nothing runs in the same way whatever was kept before. -/
theorem runPlaces_of_keepsNothing {pattern : Pattern} (silent : pattern.keepsNothing = true)
    (next : List Place → List Char → Option β) (kept : List Place) (other : List (List Char))
    (s : List Char) :
    pattern.runPlaces next kept s = pattern.run (fun _ rest => next kept rest) other s := by
  induction pattern generalizing next other s with
  | empty | one _ | many _ | few _ => rfl
  | seq first second ihFirst ihSecond =>
      obtain ⟨early, late⟩ := Bool.and_eq_true_iff.mp silent
      have same : second.run (fun _ rest => next kept rest) =
          fun _ rest => second.runPlaces next kept rest := by
        funext more rest
        exact (ihSecond late next more rest).symm
      rw [run, runPlaces, same]
      exact ihFirst early _ _ _
  | either first second ihFirst ihSecond =>
      obtain ⟨left, right⟩ := Bool.and_eq_true_iff.mp silent
      rw [run, runPlaces, ihFirst left next other, ihSecond right next other]
      cases first.run (fun _ rest => next kept rest) other s with
      | none => rfl
      | some found => rfl
  | keep inner ih => cases silent

/-- What is made of the result of a run can be made of the results of what follows the match. -/
theorem map_runPlaces {γ : Type} (pattern : Pattern) (next : List Place → List Char → Option β)
    (f : β → γ) (kept : List Place) (s : List Char) :
    (pattern.runPlaces next kept s).map f =
      pattern.runPlaces (fun kept rest => (next kept rest).map f) kept s := by
  induction pattern generalizing next kept s with
  | empty => rfl
  | one accepts =>
      cases s with
      | nil => rfl
      | cons c rest =>
          rw [runPlaces, runPlaces]
          split
          · rfl
          · rfl
  | many accepts => exact map_runMany accepts (next kept) f s
  | few accepts => exact map_runFew accepts (next kept) f s
  | seq first second ihFirst ihSecond =>
      rw [runPlaces, runPlaces, ihFirst]
      simp only [ihSecond]
  | either first second ihFirst ihSecond =>
      rw [runPlaces, runPlaces, Option.map_or, ihFirst, ihSecond]
  | keep inner ih => rw [runPlaces, runPlaces, ih]

theorem runPlaces_all_append (first second : List Pattern)
    (next : List Place → List Char → Option β) (kept : List Place) (s : List Char) :
    (all (first ++ second)).runPlaces next kept s =
      (all first).runPlaces ((all second).runPlaces next) kept s := by
  induction first generalizing kept s with
  | nil => rfl
  | cons pattern rest ih =>
      have same : (all (rest ++ second)).runPlaces next =
          (all rest).runPlaces ((all second).runPlaces next) := by
        funext kept s
        exact ih kept s
      simp only [all, List.cons_append, List.foldr_cons, runPlaces] at same ⊢
      rw [same]

end Running

section Searching

variable {pattern : Pattern} {s : List Char}

theorem search_eq_searchPlaces (pattern : Pattern) (s : List Char) :
    pattern.search s = (pattern.searchPlaces s).map (·.map Place.text) := by
  have front : pattern.run (fun kept _ => some kept) [] =
      fun s => (pattern.runPlaces (fun kept _ => some kept) [] s).map (·.map Place.text) := by
    funext s
    rw [map_runPlaces]
    exact run_eq_runPlaces pattern _ [] s
  rw [search_eq_leftmost, searchPlaces, map_leftmost, front]

/-- What a search keeps is the text at the place where it keeps it. -/
theorem keep?_eq_keptPlace? (pattern : Pattern) (text : String) :
    pattern.keep? text = (pattern.keptPlace? text.toList).map fun place =>
      String.ofList place.text := by
  rw [keep?, keptPlace?, search_eq_searchPlaces]
  cases pattern.searchPlaces text.toList with
  | none => rfl
  | some places => cases places <;> rfl

end Searching

end Pattern

end Walkthrough.Text
