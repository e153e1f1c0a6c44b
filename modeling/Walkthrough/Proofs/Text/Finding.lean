import Mathlib.Data.List.Forall2
import Walkthrough.Proofs.Text.Search

/-!
# A search finds what fits

A run tries every way to match in the end, so it has a result wherever a stretch at the front fits
the pattern and the rest of the match agrees to what follows
(`Walkthrough.Text.Pattern.run_isSome`). So a search ends at the leftmost place of a text where a
stretch fits (`Walkthrough.Text.Pattern.exists_of_search`), and finds nothing only if there is no
such place (`Walkthrough.Text.Pattern.search_eq_none_iff`).
-/

namespace Walkthrough.Text

/-- The leftmost place of a text where something holds: whatever other place there is comes after
it. -/
structure IsLeftmost (holds : List Char → Prop) (s place : List Char) : Prop where
  suffix : place <:+ s
  here : holds place
  first : ∀ other, other <:+ s → holds other → other <:+ place

theorem IsLeftmost.eq {holds : List Char → Prop} {s place other : List Char}
    (leftmost : IsLeftmost holds s place) (another : IsLeftmost holds s other) : place = other :=
  (another.first place leftmost.suffix leftmost.here).sublist.antisymm
    (leftmost.first other another.suffix another.here).sublist

theorem IsLeftmost.congr {holds others : List Char → Prop} {s place : List Char}
    (same : ∀ t, holds t ↔ others t) : IsLeftmost holds s place ↔ IsLeftmost others s place := by
  have equal : holds = others := funext fun t => propext (same t)
  rw [equal]

/-- A text that is spelled like another one, letters in either case. -/
def SameLetters (text s : List Char) : Prop :=
  List.Forall₂ (fun letter c => sameLetter letter c = true) text s

/-- What is spelled like a text has one of the forms of each of its letters. -/
theorem sameLetters_iff_of_forms {text s : List Char} {forms : List (List Char)}
    (each : List.Forall₂ (fun letter form => ∀ c, sameLetter letter c = true ↔ c ∈ form) text
      forms) : SameLetters text s ↔ List.Forall₂ (· ∈ ·) s forms := by
  rw [SameLetters]
  induction each generalizing s with
  | nil => rw [List.forall₂_nil_left_iff, List.forall₂_nil_right_iff]
  | cons same _ ih =>
      rw [List.forall₂_cons_left_iff, List.forall₂_cons_right_iff]
      simp only [same, ih]

namespace Pattern

section Completeness

variable {β : Type} {accepts : Char → Bool} {taken rest : List Char}

theorem runMany_isSome {next : List Char → Option β} (accepted : ∀ c ∈ taken, accepts c = true)
    (agrees : (next rest).isSome = true) :
    (runMany accepts next (taken ++ rest)).isSome = true := by
  have here (s : List Char) (stops : (next s).isSome = true) :
      (runMany accepts next s).isSome = true := by
    cases s with
    | nil => exact stops
    | cons c more =>
        rw [runMany]
        split
        · split
          · rfl
          · exact stops
        · exact stops
  induction taken with
  | nil => exact here rest agrees
  | cons c more ih =>
      obtain ⟨first, others⟩ := List.forall_mem_cons.mp accepted
      obtain ⟨found, longer⟩ := Option.isSome_iff_exists.mp (ih others)
      rw [List.cons_append, runMany, if_pos first, longer]
      rfl

theorem runFew_isSome {next : List Char → Option β} (accepted : ∀ c ∈ taken, accepts c = true)
    (agrees : (next rest).isSome = true) :
    (runFew accepts next (taken ++ rest)).isSome = true := by
  induction taken with
  | nil =>
      obtain ⟨found, stops⟩ := Option.isSome_iff_exists.mp agrees
      cases rest with
      | nil => exact agrees
      | cons c more =>
          rw [List.nil_append, runFew, stops]
          rfl
  | cons c more ih =>
      obtain ⟨first, others⟩ := List.forall_mem_cons.mp accepted
      rw [List.cons_append, runFew, if_pos first]
      split
      · rfl
      · exact ih others

/-- A run has a result if a stretch at the front fits and the rest of the match agrees to go on
behind it. -/
theorem run_isSome {pattern : Pattern} {next : List (List Char) → List Char → Option β}
    {kept more : List (List Char)} (fits : pattern.Matches taken more)
    (agrees : (next (kept ++ more) rest).isSome = true) :
    (pattern.run next kept (taken ++ rest)).isSome = true := by
  induction fits generalizing next kept rest with
  | empty =>
      rw [List.append_nil] at agrees
      exact agrees
  | one accepted =>
      rw [List.append_nil] at agrees
      rw [List.cons_append, List.nil_append, run, if_pos accepted]
      exact agrees
  | many accepted =>
      rw [List.append_nil] at agrees
      exact runMany_isSome accepted agrees
  | few accepted =>
      rw [List.append_nil] at agrees
      exact runFew_isSome accepted agrees
  | seq _ _ ihFirst ihSecond =>
      rw [← List.append_assoc] at agrees
      rw [run, List.append_assoc]
      exact ihFirst (ihSecond agrees)
  | left _ ih =>
      obtain ⟨found, preferred⟩ := Option.isSome_iff_exists.mp (ih agrees)
      rw [run, preferred]
      rfl
  | right _ ih =>
      rw [run]
      split
      · rfl
      · exact ih agrees
  | @keep inner s inside _ ih =>
      apply ih
      have whole : (s ++ rest).take ((s ++ rest).length - rest.length) = s := by simp
      rwa [whole, List.append_assoc]

end Completeness

section Letters

variable {text s : List Char} {kept : List (List Char)}

/-- Fixed letters fit what spells them in either case, and nothing of it is kept. -/
theorem matches_letters :
    Matches (letters text) s kept ↔ SameLetters text s ∧ kept = [] := by
  rw [SameLetters]
  induction text generalizing s kept with
  | nil =>
      rw [List.forall₂_nil_left_iff]
      exact matches_empty
  | cons letter more ih =>
      rw [letters, List.foldr_cons, ← letters, matches_seq, List.forall₂_cons_left_iff]
      constructor
      · intro fits
        obtain ⟨front, back, early, late, rfl, rfl, first, others⟩ := fits
        obtain ⟨⟨c, same, rfl⟩, rfl⟩ := matches_one.mp first
        obtain ⟨spelled, rfl⟩ := ih.mp others
        exact ⟨⟨c, back, same, spelled, rfl⟩, rfl⟩
      · intro spelled
        obtain ⟨⟨c, back, same, others, rfl⟩, rfl⟩ := spelled
        exact ⟨[c], back, [], [], rfl, rfl, .one same, ih.mpr ⟨others, rfl⟩⟩

end Letters

section Places

variable {β : Type} {read? : List Char → Option β} {pattern : Pattern} {s : List Char}
  {kept : List (List Char)}

theorem leftmost_eq_none_iff :
    leftmost read? s = none ↔ ∀ place, place <:+ s → read? place = none := by
  refine ⟨fun fails => ?_, leftmost_eq_none⟩
  induction s with
  | nil =>
      intro place late
      rw [List.suffix_nil.mp late]
      exact fails
  | cons c rest ih =>
      intro place late
      rw [leftmost, Option.or_eq_none_iff] at fails
      rcases List.suffix_cons_iff.mp late with rfl | later
      · exact fails.1
      · exact ih fails.2 place later

/-- A result comes from the leftmost place that has one. -/
theorem exists_of_leftmost_eq_some {found : β} (reads : leftmost read? s = some found) :
    ∃ place, IsLeftmost (fun t => (read? t).isSome = true) s place ∧ read? place = some found := by
  induction s with
  | nil =>
      exact ⟨[],
        ⟨List.suffix_rfl, Option.isSome_iff_exists.mpr ⟨found, reads⟩, fun _ late _ => late⟩, reads⟩
  | cons c rest ih =>
      rw [leftmost, Option.or_eq_some_iff] at reads
      rcases reads with here | ⟨fails, later⟩
      · exact ⟨c :: rest,
          ⟨List.suffix_rfl, Option.isSome_iff_exists.mpr ⟨found, here⟩, fun _ late _ => late⟩, here⟩
      · obtain ⟨place, ⟨suffix, here, first⟩, reads⟩ := ih later
        refine ⟨place, ⟨suffix.trans (List.suffix_cons c rest), here, ?_⟩, reads⟩
        intro other late holds
        rcases List.suffix_cons_iff.mp late with rfl | inside
        · rw [fails] at holds
          cases holds
        · exact first other inside holds

/-- Whether a stretch at the front of a text fits a pattern. -/
def FitsFront (pattern : Pattern) (s : List Char) : Prop :=
  ∃ taken rest kept, s = taken ++ rest ∧ pattern.Matches taken kept

theorem run_isSome_iff :
    (pattern.run (fun kept _ => some kept) [] s).isSome = true ↔ pattern.FitsFront s := by
  constructor
  · intro finds
    obtain ⟨kept, run⟩ := Option.isSome_iff_exists.mp finds
    obtain ⟨taken, rest, more, split, fits, -⟩ := matches_of_run run
    exact ⟨taken, rest, more, split, fits⟩
  · intro fits
    obtain ⟨taken, rest, kept, rfl, fits⟩ := fits
    exact run_isSome fits rfl

/-- What a search finds it finds at the leftmost place where a stretch fits, and the pattern keeps
it of such a stretch. -/
theorem exists_of_search (found : pattern.search s = some kept) :
    ∃ place taken rest, IsLeftmost pattern.FitsFront s place ∧ place = taken ++ rest ∧
      pattern.Matches taken kept := by
  rw [search_eq_leftmost] at found
  obtain ⟨place, leftmost, run⟩ := exists_of_leftmost_eq_some found
  obtain ⟨taken, rest, more, split, fits, ended⟩ := matches_of_run run
  obtain rfl : more = kept := Option.some.inj ended
  exact ⟨place, taken, rest, (IsLeftmost.congr fun _ => run_isSome_iff).mp leftmost, split, fits⟩

theorem search_eq_none_iff :
    pattern.search s = none ↔ ∀ place, place <:+ s → ¬pattern.FitsFront place := by
  rw [search_eq_leftmost, leftmost_eq_none_iff]
  refine forall_congr' fun place => imp_congr_right fun _ => ?_
  rw [← run_isSome_iff, Option.not_isSome_iff_eq_none]

/-- A search finds something where a stretch fits. -/
theorem exists_search {place : List Char} (suffix : place <:+ s) (fits : pattern.FitsFront place) :
    ∃ kept, pattern.search s = some kept := by
  rw [← Option.isSome_iff_exists, ← Option.ne_none_iff_isSome]
  intro fails
  exact search_eq_none_iff.mp fails place suffix fits

end Places

section Kept

variable {pattern : Pattern} {begins : List Char → List Char → Prop} {text value : String}
  (reads : ∀ {taken kept}, pattern.Matches taken kept →
    ∃ part, kept = [part] ∧ ∀ rest, begins part (taken ++ rest))
  (fits : ∀ {part s}, begins part s → pattern.FitsFront s)

include reads fits

theorem fitsFront_iff_of_begins {s : List Char} :
    pattern.FitsFront s ↔ ∃ part, begins part s := by
  constructor
  · intro front
    obtain ⟨taken, rest, kept, rfl, matched⟩ := front
    obtain ⟨part, -, holds⟩ := reads matched
    exact ⟨part, holds rest⟩
  · intro holds
    obtain ⟨part, holds⟩ := holds
    exact fits holds

/-- A pattern that keeps what a text begins with, in a way of its own, keeps it of the leftmost
place that begins so. -/
theorem keep?_eq_some_iff_of_begins
    (single : ∀ {part other s}, begins part s → begins other s → part = other) :
    pattern.keep? text = some value ↔
      ∃ place, IsLeftmost (fun s => ∃ part, begins part s) text.toList place ∧
        begins value.toList place := by
  have same (s : List Char) : pattern.FitsFront s ↔ ∃ part, begins part s :=
    fitsFront_iff_of_begins reads fits
  constructor
  · intro keeps
    obtain ⟨kept, found, head⟩ := keep?_eq_some_iff.mp keeps
    obtain ⟨place, taken, rest, leftmost, rfl, matched⟩ := exists_of_search found
    obtain ⟨part, rfl, holds⟩ := reads matched
    cases head
    exact ⟨_, (IsLeftmost.congr same).mp leftmost, holds rest⟩
  · intro stands
    obtain ⟨place, leftmost, holds⟩ := stands
    obtain ⟨kept, found⟩ := exists_search leftmost.suffix (fits holds)
    obtain ⟨other, taken, rest, another, rfl, matched⟩ := exists_of_search found
    obtain ⟨part, rfl, held⟩ := reads matched
    obtain rfl := leftmost.eq ((IsLeftmost.congr same).mp another)
    obtain rfl := single holds (held rest)
    exact keep?_eq_some_iff.mpr ⟨_, found, rfl⟩

theorem keep?_eq_none_iff_of_begins :
    pattern.keep? text = none ↔ ∀ place, place <:+ text.toList → ∀ part, ¬begins part place := by
  constructor
  · intro keeps place suffix part holds
    obtain ⟨kept, found⟩ := exists_search suffix (fits holds)
    obtain ⟨other, taken, rest, -, -, matched⟩ := exists_of_search found
    obtain ⟨part, rfl, -⟩ := reads matched
    rw [keep?, found] at keeps
    cases keeps
  · intro none
    rw [keep?, search_eq_none_iff.mpr]
    · rfl
    · intro place suffix front
      obtain ⟨part, holds⟩ := (fitsFront_iff_of_begins reads fits).mp front
      exact none place suffix part holds

end Kept

end Pattern

end Walkthrough.Text
