import Walkthrough.Proofs.Prompt.Sections
import Walkthrough.Proofs.Text.Boundary
import Walkthrough.Proofs.Text.Letters
import Walkthrough.Proofs.Text.Lines

/-!
# The directive in two texts

A text that ends with a line feed and one that begins with a header have no directive across their
border, so together they say about self-healing what the first says, or else the second
(`Walkthrough.Directive.ofText?_append`).
-/

namespace Walkthrough

open Text Text.Pattern

/-- The first character of a text that is not blank is a mark or a digit, if there is one. -/
def OpensHeader (s : List Char) : Prop :=
  ∀ c ∈ (s.dropWhile isBlank).head?, c = '#' ∨ isDigit c = true

/-- A text whose first line is a header begins like one. -/
theorem opensHeader_of_linesOf {text line : String} {rest : List String} {header : Header}
    (cut : linesOf text = line :: rest) (opens : Header.ofLine? line = .ok (some header)) :
    OpensHeader text.toList := by
  have front : line.toList <+: text.toList := by
    rw [linesOf] at cut
    obtain ⟨chars, more, found, rfl, -⟩ := List.map_eq_cons_iff.mp cut
    rw [String.toList_ofList]
    exact isPrefix_of_lines found
  obtain ⟨tail, whole⟩ := front
  -- The line is not blank, so the text begins as the line does without its margins.
  have first : ∃ c ∈ (trim line.toList).head?, c = '#' ∨ isDigit c = true := by
    by_contra noFirst
    have absent : Header.parts? line.toList = none := by
      refine IsFiller.parts?_eq_none fun c first => ?_
      have other := not_exists.mp noFirst c
      simp only [not_and, not_or] at other
      obtain ⟨mark, digit⟩ := other first
      exact ⟨beq_eq_false_iff_ne.mpr mark, Bool.eq_false_iff.mpr digit⟩
    rw [Header.ofLine?, absent] at opens
    cases opens
  obtain ⟨c, among, opening⟩ := first
  have start := mem_head?_trimStart among
  intro d inText
  rw [← whole, List.dropWhile_append] at inText
  split at inText
  · next gone =>
      rw [trimStart, List.isEmpty_iff.mp gone] at start
      cases start
  · rw [List.head?_append_of_ne_nil _ (by rintro gone; rw [trimStart, gone] at start; cases start)]
      at inText
    cases Option.mem_unique start inText
    exact opening

namespace Directive

section Refusals

variable {s : List Char} {letter : Char}

theorem refuses_letter (refused : ∀ c ∈ s.head?, sameLetter letter c = false)
    (text : List Char) : Refuses (letters (letter :: text)) s :=
  refuses_seq (refuses_one refused) _

/-- The name of the directive does not begin where a letter does not match. -/
theorem refuses_name (refused : ∀ c ∈ s.head?, sameLetter 'S' c = false) :
    Refuses (all [word "Self-Healing:", many isBlank, keep (either (word "YES") (word "NO"))]) s :=
  refuses_seq (refuses_letter refused "elf-Healing:".toList) _

theorem refuses_answer (yes : ∀ c ∈ s.head?, sameLetter 'Y' c = false)
    (no : ∀ c ∈ s.head?, sameLetter 'N' c = false) :
    Refuses (all [keep (either (word "YES") (word "NO"))]) s := by
  refine refuses_seq (fun next kept => ?_) _
  rw [run, run, show word "YES" = letters ('Y' :: "ES".toList) from rfl,
    refuses_letter yes "ES".toList, show word "NO" = letters ('N' :: "O".toList) from rfl,
    refuses_letter no "O".toList]

end Refusals

variable {s t : List Char}

/-- A directive does not reach into a text that begins like a header. -/
theorem stops (opens : OpensHeader t) : Stops t pattern := by
  have across {letter : Char} (mark : sameLetter letter '#' = false)
      (digit : liesIn digitRanges (foldLetter letter) = false) :
      ∀ c ∈ (t.dropWhile isBlank).head?, sameLetter letter c = false := by
    intro c first
    rcases opens c first with rfl | isDigit
    · exact mark
    · exact sameLetter_of_isDigit digit isDigit
  have inside {letter : Char} (outside : isBlank (foldLetter letter) = false) (c : Char)
      (rest : List Char) (blank : isBlank c = true) :
      ∀ d ∈ (c :: rest).head?, sameLetter letter d = false := by
    rintro _ ⟨⟩
    exact sameLetter_of_isBlank outside blank
  have answer : Stops t (all [keep (either (word "YES") (word "NO"))]) :=
    .seq (.keep (.either (.letters (by decide)) (.letters (by decide)))) .empty
  have gap : Stops t (all [many isBlank, keep (either (word "YES") (word "NO"))]) := by
    refine .many answer ?_ ?_ ?_
    · exact fun c rest blank => refuses_answer (inside (by decide) c rest blank)
        (inside (by decide) c rest blank)
    · exact refuses_answer (across (by decide) (by decide))
        (across (by decide) (by decide))
    · exact refuses_answer (by simp) (by simp)
  have name : Stops t (all [many isBlank, word "Self-Healing:", many isBlank,
      keep (either (word "YES") (word "NO"))]) := by
    refine .many (.seq (.letters (by decide)) gap) ?_ ?_ ?_
    · exact fun c rest blank => refuses_name (inside (by decide) c rest blank)
    · exact refuses_name (across (by decide) (by decide))
    · exact refuses_name (by simp)
  exact .seq (.either (.one rfl) .empty) name

theorem front?_append (opens : OpensHeader t) (ends : EndsLine s) :
    front? (s ++ t) = front? s := by
  rw [front?, front?, (stops opens).front?_append ends]
  cases pattern.front? s with
  | none => rfl
  | some found =>
      obtain ⟨_ | ⟨answer, _ | ⟨other, more⟩⟩, rest⟩ := found <;> rfl

theorem below?_append (opens : OpensHeader t) (ends : EndsLine s) :
    below? (s ++ t) = (below? s).or ((front? t).or (below? t)) := by
  induction s with
  | nil => cases ends
  | cons c rest ih =>
      rcases ends.of_cons with ⟨rfl, rfl⟩ | endsRest
      · rw [List.cons_append, List.nil_append, below?, if_pos (beq_self_eq_true '\n'),
          show below? ['\n'] = none from rfl, Option.none_or]
        cases front? t with
        | none => rfl
        | some answer => rfl
      · rw [List.cons_append, below?, below?, front?_append opens endsRest, ih endsRest]
        split
        · cases front? rest with
          | none => rfl
          | some answer => rfl
        · rfl

/-- **Two texts say what the first says, or else the second.** -/
theorem ofText?_append {first second : String} (ends : first = "" ∨ EndsLine first.toList)
    (opens : OpensHeader second.toList) :
    ofText? (first ++ second) = (ofText? first).or (ofText? second) := by
  have eqOr (text : String) : ofText? text = (front? text.toList).or (below? text.toList) := by
    rw [ofText?]
    cases front? text.toList with
    | none => rfl
    | some answer => rfl
  rcases ends with rfl | ends
  · rw [show ofText? "" = none from rfl, Option.none_or]
    exact congrArg ofText? (String.empty_append)
  · rw [eqOr, eqOr, eqOr, String.toList_append, front?_append opens ends, below?_append opens ends,
      Option.or_assoc]

end Directive

end Walkthrough
