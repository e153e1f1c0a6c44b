import Walkthrough.Proofs.Text.Matching
import Walkthrough.Variables

/-!
# Placeholders and the variables behind them

Each match of a placeholder keeps one name, so a text is expanded by the names that are read off it
beforehand: what expanding blames is the first of them that has no value
(`Walkthrough.Variables.expand_eq_error_iff`), and it fails only for want of a value
(`Walkthrough.Variables.expand_fails_iff`).
-/

namespace Walkthrough.Variables

open Text Text.Pattern

variable {vars : Variables} {text name : String}

/-- A placeholder is a name of word characters between double braces, and the name is kept. -/
theorem matches_placeholder {s : List Char} {kept : List (List Char)} :
    placeholder.Matches s kept ↔
      ∃ name, name ≠ [] ∧ (∀ c ∈ name, isWord c = true) ∧
        s = ['\x7b', '\x7b'] ++ name ++ ['\x7d', '\x7d'] ∧ kept = [name] :=
  matches_enclosed

theorem kept_of_found {s : List Char} {kept : List (List Char)}
    (member : .found kept ∈ placeholder.pieces s) : ∃ name, kept = [name] := by
  obtain ⟨taken, fits⟩ := matches_of_found member
  obtain ⟨name, -, -, -, rfl⟩ := matches_placeholder.mp fits
  exact ⟨name, rfl⟩

/-- The name that a piece of a text stands for, if it is a placeholder. -/
def nameOf? : Piece → Option String
  | .char _ => none
  | .found kept => kept.head?.map String.ofList

theorem placeholderNames_eq (text : String) :
    placeholderNames text = (placeholder.pieces text.toList).filterMap nameOf? := by
  rw [placeholderNames, findAll, List.filterMap_filterMap]
  congr 1
  funext piece
  cases piece <;> rfl

/-- Filling pieces in blames the first name among them that has no value. -/
theorem fill_eq_error_iff {pieces : List Piece}
    (single : ∀ kept, .found kept ∈ pieces → ∃ name, kept = [name]) :
    vars.fill pieces = .error name ↔
      (pieces.filterMap nameOf?).find? (fun name => !vars.has name) = some name := by
  induction pieces with
  | nil => simp [fill]
  | cons piece rest ih =>
      have later := ih fun kept member => single kept (List.mem_cons_of_mem _ member)
      have passed (f : List Char → List Char) :
          (vars.fill rest).map f = .error name ↔ vars.fill rest = .error name := by
        cases vars.fill rest <;> simp [Except.map]
      cases piece with
      | char c =>
          rw [fill, passed, later]
          rfl
      | found kept =>
          obtain ⟨word, rfl⟩ := single kept List.mem_cons_self
          have named : nameOf? (.found [word]) = some (String.ofList word) := rfl
          rw [List.filterMap_cons_some named, List.find?_cons]
          simp only [fill, List.flatten_cons, List.flatten_nil, List.append_nil, has]
          cases vars.get? (String.ofList word) with
          | none => simp
          | some value => simp only [passed, later, has, Option.isSome_some, Bool.not_true]

/-- Expanding a text blames the first name in it that has no value. -/
theorem expand_eq_error_iff :
    vars.expand text = .error name ↔
      (placeholderNames text).find? (fun name => !vars.has name) = some name := by
  rw [placeholderNames_eq, ← fill_eq_error_iff fun _ => kept_of_found, expand]
  cases vars.fill (placeholder.pieces text.toList) <;> simp [Except.map]

theorem undefined_of_expand (failed : vars.expand text = .error name) :
    name ∈ placeholderNames text ∧ vars.has name = false := by
  have first := expand_eq_error_iff.mp failed
  exact ⟨List.mem_of_find?_eq_some first, by simpa using List.find?_some first⟩

/-- A text cannot be expanded exactly if it names a variable without a value. -/
theorem expand_fails_iff :
    (∃ name, vars.expand text = .error name) ↔
      ∃ name ∈ placeholderNames text, vars.has name = false := by
  simp only [expand_eq_error_iff, ← Option.isSome_iff_exists, List.find?_isSome, Bool.not_eq_true']

end Walkthrough.Variables
