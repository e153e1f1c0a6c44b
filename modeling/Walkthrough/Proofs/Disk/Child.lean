import Mathlib.Data.List.TakeWhile
import Walkthrough.Disk.Basic

/-!
# What lies directly in a directory

A text without a slash that is not empty and no single point is one part of a path
(`Walkthrough.Path.ofText_of_isPart`). On every disk on which a path leads to a place, so does the
path without its last part, and to a directory there (`Walkthrough.Disk.place_append`). So a part
that is not two points, seen from a directory, lies directly in it (`Walkthrough.Path.child_liesIn`).
-/

namespace Walkthrough

open Text

namespace Path

/-- A text that is one part of a path, and leads to no directory above. -/
structure IsPart (text : String) : Prop where
  noSlash : '/' ∉ text.toList
  notEmpty : text ≠ ""
  notHere : text ≠ "."
  notAbove : text ≠ ".."

theorem splitSlashes_of_notMem {s : List Char} (noSlash : '/' ∉ s) : splitSlashes s = [s] := by
  induction s with
  | nil => rfl
  | cons c rest ih =>
      rw [List.mem_cons, not_or] at noSlash
      have other : (c == '/') = false := beq_eq_false_iff_ne.mpr (Ne.symm noSlash.1)
      rw [splitSlashes, other, if_neg Bool.false_ne_true, ih noSlash.2]

theorem ofText_of_isPart {text : String} (part : IsPart text) : ofText text = ⟨"", [text]⟩ := by
  have slashes : text.toList.takeWhile (· == '/') = [] := by
    rw [List.takeWhile_eq_nil_iff]
    intro some slash
    exact part.noSlash (beq_iff_eq.mp slash ▸ List.get_mem _ _)
  have kept : (text != "" && text != ".") = true := by
    rw [Bool.and_eq_true, bne_iff_ne, bne_iff_ne]
    exact ⟨part.notEmpty, part.notHere⟩
  simp only [ofText, slashes, splitSlashes_of_notMem part.noSlash, List.length_nil, if_true,
    List.map_cons, List.map_nil, String.ofList_toList, List.filter_cons, kept, List.filter_nil]

/-- A part seen from a path stands behind the path's own. -/
theorem child_of_isPart (path : Path) {text : String} (part : IsPart text) :
    path.child text = ⟨path.root, path.parts ++ [text]⟩ := by
  rw [child, ofText_of_isPart part]
  rfl

end Path

/-- The codes of the front of a text are at the front of its codes. -/
theorem Text.codesFrom_append (marked : Bool) (s t : List Char) :
    ∃ after, codesFrom marked (s ++ t) = codesFrom marked s ++ codesFrom after t := by
  induction s generalizing marked with
  | nil => exact ⟨marked, rfl⟩
  | cons c rest ih =>
      have spelled (code : Nat) : ∃ after, code :: codesFrom false (rest ++ t) =
          code :: codesFrom false rest ++ codesFrom after t := by
        obtain ⟨after, cut⟩ := ih false
        exact ⟨after, congrArg (code :: ·) cut⟩
      simp only [List.cons_append, codesFrom]
      split
      · exact spelled _
      · split
        · -- Only a mark gives no code of its own.
          exact ih true
        · split <;> exact spelled _

theorem Utf8.unwritableFrom?_of_append {hasOctet : Nat → Bool} {position : Nat}
    {front back : List Nat} (writable : unwritableFrom? hasOctet position (front ++ back) = none) :
    unwritableFrom? hasOctet position front = none := by
  induction front generalizing position with
  | nil => rfl
  | cons code rest ih =>
      rw [List.cons_append, unwritableFrom?] at writable
      rw [unwritableFrom?]
      split at writable
      · cases writable
      · next plain =>
          rw [if_neg plain]
          exact ih writable

theorem isPrefix_intercalate {α : Type} (separator : List α) (lists : List (List α))
    (last : List α) :
    separator.intercalate lists <+: separator.intercalate (lists ++ [last]) := by
  induction lists with
  | nil => exact List.nil_prefix
  | cons first rest ih =>
      cases rest with
      | nil =>
          rw [List.intercalate_singleton, List.singleton_append, List.intercalate_cons_cons,
            List.append_assoc]
          exact List.prefix_append _ _
      | cons second more =>
          rw [List.cons_append, List.cons_append, List.intercalate_cons_cons,
            List.intercalate_cons_cons]
          exact (List.prefix_append_right_inj _).mpr ih

theorem le_foldl_add {α : Type} (measure : α → Nat) (start : Nat) (items : List α) :
    start ≤ items.foldl (fun sum item => sum + measure item) start := by
  induction items generalizing start with
  | nil => exact Nat.le_refl start
  | cons item rest ih => exact (Nat.le_add_right start _).trans (ih _)

namespace Path

/-- The text of a path is at the front of that of a path below it, unless it is a single point. -/
theorem text_append (path : Path) (part : String) :
    path.text = "." ∨
      path.text.toList <+: (⟨path.root, path.parts ++ [part]⟩ : Path).text.toList := by
  by_cases here : (path.root.isEmpty && path.parts.isEmpty) = true
  · exact Or.inl (if_pos here)
  · have below : (path.root.isEmpty && (path.parts ++ [part]).isEmpty) = false := by
      rw [List.isEmpty_eq_false_iff.mpr (List.concat_ne_nil _ _), Bool.and_false]
    refine Or.inr ?_
    rw [text, if_neg here, text, below, if_neg Bool.false_ne_true, String.toList_append,
      String.toList_append, String.toList_intercalate, String.toList_intercalate, List.map_append]
    exact (List.prefix_append_right_inj _).mpr (isPrefix_intercalate _ _ _)

/-- A path that is short enough with one more part is so without it. -/
theorem octetCount_text_le {path : Path} {part : String}
    (short : octetCount (⟨path.root, path.parts ++ [part]⟩ : Path).text ≤ maxPathSize) :
    octetCount path.text ≤ maxPathSize := by
  rcases path.text_append part with here | ⟨back, below⟩
  · rw [here]
    decide
  · obtain ⟨after, cut⟩ := codesFrom_append false path.text.toList back
    refine Nat.le_trans ?_ short
    rw [octetCount, octetCount, codes, codes, ← below, cut, List.foldl_append]
    exact le_foldl_add _ _ _

theorem flaw?_eq_none_iff {path : Path} :
    path.flaw? = none ↔
      Utf8.unwritableFrom? hasOctet 0 (codes path.text.toList) = none ∧
        '\x00' ∉ path.text.toList := by
  rw [flaw?]
  cases Utf8.unwritableFrom? hasOctet 0 (codes path.text.toList) with
  | some fault =>
      exact iff_of_false (Option.some_ne_none _) fun none => Option.some_ne_none _ none.1
  | none =>
      by_cases ends : '\x00' ∈ path.text.toList
      · have contains := List.contains_iff_mem.mpr ends
        rw [contains]
        exact iff_of_false (Option.some_ne_none _) fun none => none.2 ends
      · have contains := Bool.eq_false_iff.mpr (ends ∘ List.contains_iff_mem.mp)
        rw [contains]
        exact iff_of_true rfl ⟨rfl, ends⟩

/-- A path that can be asked for with one more part can be asked for without it. -/
theorem flaw?_of_append {path : Path} {part : String}
    (sound : (⟨path.root, path.parts ++ [part]⟩ : Path).flaw? = none) : path.flaw? = none := by
  obtain ⟨writable, whole⟩ := flaw?_eq_none_iff.mp sound
  rw [flaw?_eq_none_iff]
  rcases path.text_append part with here | ⟨back, below⟩
  · rw [here]
    decide
  · obtain ⟨after, cut⟩ := codesFrom_append false path.text.toList back
    rw [codes, ← below, cut] at writable
    exact ⟨Utf8.unwritableFrom?_of_append writable,
      fun ends => whole (below ▸ List.mem_append_left _ ends)⟩

end Path

namespace Disk

variable {disk : Disk}

/-- A place that parts lead to lies in a directory that all of them but the last lead to. -/
theorem walk_append {start place : List String} {parts : List String} {part : String}
    (walks : disk.walk start (parts ++ [part]) = .ok place) :
    ∃ home, disk.walk start parts = .ok home ∧ disk.at? home = some .directory ∧
      place = if part = ".." then home.dropLast else home ++ [part] := by
  induction parts generalizing start with
  | nil =>
      rw [List.nil_append, walk] at walks
      split at walks
      · next here =>
          split at walks
          · cases walks
          · cases walks
            refine ⟨start, rfl, here, ?_⟩
            simp only [beq_iff_eq]
      · cases walks
      · cases walks
  | cons first rest ih =>
      rw [List.cons_append, walk] at walks
      rw [walk]
      split at walks
      · by_cases long : maxPartSize < Path.octetCount first
        · rw [if_pos long] at walks
          cases walks
        · rw [if_neg long] at walks ⊢
          exact ih walks
      · cases walks
      · cases walks

/-- A path with one more part leads to a place only if the path leads to a directory. -/
theorem place_append {path : Path} {part : String} {place : List String}
    (leads : disk.place ⟨path.root, path.parts ++ [part]⟩ = .ok place) :
    ∃ home, disk.place path = .ok home ∧ disk.at? home = some .directory ∧
      place = if part = ".." then home.dropLast else home ++ [part] := by
  rw [Disk.place] at leads
  split at leads
  · cases leads
  · next sound =>
      split at leads
      · cases leads
      · next short =>
          have shorter := Path.octetCount_text_le (Nat.le_of_not_lt short)
          rw [Disk.place, Path.flaw?_of_append sound]
          simp only [Nat.not_lt.mpr shorter, if_false]
          exact walk_append leads

end Disk

/-- A path that leads to a file directly in a directory, on each disk on which it leads anywhere. -/
structure Path.LiesIn (path directory : Path) (file : String) : Prop where
  parent : path.parent = directory
  name : path.name = file
  lands : ∀ (disk : Disk) place, disk.place path = .ok place →
    ∃ home, disk.place directory = .ok home ∧ disk.at? home = some .directory ∧
      place = home ++ [file]

theorem Path.child_liesIn (directory : Path) {file : String} (part : IsPart file) :
    (directory.child file).LiesIn directory file := by
  rw [child_of_isPart directory part]
  refine ⟨?_, ?_, fun disk place leads => ?_⟩
  · rw [parent, List.dropLast_concat]
  · rw [name, List.getLast?_concat, Option.getD_some]
  · obtain ⟨home, found, directory, rfl⟩ := Disk.place_append leads
    exact ⟨home, found, directory, if_neg part.notAbove⟩

end Walkthrough
