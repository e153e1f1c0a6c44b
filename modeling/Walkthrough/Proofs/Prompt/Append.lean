import Walkthrough.Proofs.Prompt.Directive
import Walkthrough.Proofs.Prompt.Scan

/-!
# Prompts one after the other

Where a prompt is cut in front of a header, its sections are those of both parts
(`Walkthrough.Sections.append`), and it says about self-healing what the first part says, or else
the second. So its document is put together from the documents of the parts
(`Walkthrough.Document.ofText_append`).
-/

namespace Walkthrough

open Text

/-- A text that the second of two texts can follow without a change to the lines of either: it is
empty or ends with a line feed, and the second one's first line is a header. -/
structure Joint (first second : String) : Prop where
  ends : first = "" ∨ EndsLine first.toList
  opens : ∃ line rest header, linesOf second = line :: rest ∧
    Header.ofLine? line = .ok (some header)

namespace Joint

variable {first second : String}

theorem linesOf_append (joint : Joint first second) :
    linesOf (first ++ second) = linesOf first ++ linesOf second := by
  rw [linesOf, linesOf, linesOf, String.toList_append, ← List.map_append]
  rcases joint.ends with rfl | ends
  · rfl
  · obtain ⟨front, split⟩ := List.getLast?_eq_some_iff.mp ends
    rw [split, List.append_assoc, List.singleton_append, lines_append_lineFeed]

theorem directive_append (joint : Joint first second) :
    Directive.ofText? (first ++ second) =
      (Directive.ofText? first).or (Directive.ofText? second) := by
  obtain ⟨line, rest, header, cut, opens⟩ := joint.opens
  exact Directive.ofText?_append joint.ends (opensHeader_of_linesOf cut opens)

end Joint

namespace Sections

variable {first second : List String}

/-- The cut of lines that others follow, if those begin with a section. -/
def append (early : Sections first) (late : Sections second) (whole : late.preamble = []) :
    Sections (first ++ second) where
  preamble := early.preamble
  parts := early.parts ++ late.parts
  closed := early.closed
  covers := by
    have lateCovers := late.covers
    rw [whole, List.nil_append] at lateCovers
    rw [List.flatMap_append, ← List.append_assoc, ← early.covers, ← lateCovers]

theorem preamble_eq_nil {line : String} {rest : List String} {header : Header}
    (cut : Sections (line :: rest)) (opens : Header.ofLine? line = .ok (some header)) :
    cut.preamble = [] := by
  obtain ⟨tail, ⟨plain, -⟩ | ⟨_, _, rfl⟩⟩ := cut.eq_skip_or_begin
  · rw [opens] at plain
    cases plain
  · rfl

end Sections

/-- **Two prompts are read as one.** The steps of both follow one another, the misses are those of
the first, and the first directive counts. -/
theorem Document.ofText_append {first second : String} {early late : Document}
    (joint : Joint first second) (readFirst : ofText first = .ok early)
    (readSecond : ofText second = .ok late) :
    ofText (first ++ second) = .ok ⟨early.steps ++ late.steps, early.misses,
      early.selfHealing.or late.selfHealing⟩ := by
  obtain ⟨cutFirst, rfl⟩ := sections_of_ofText readFirst
  obtain ⟨cutSecond, rfl⟩ := sections_of_ofText readSecond
  obtain ⟨line, rest, header, cut, opens⟩ := joint.opens
  have whole : cutSecond.preamble = [] := by
    generalize linesOf second = lines at cut cutSecond
    subst cut
    exact cutSecond.preamble_eq_nil opens
  have joined : ∃ cutJoint : Sections (linesOf (first ++ second)),
      cutJoint.preamble = cutFirst.preamble ∧
        cutJoint.steps = cutFirst.steps ++ cutSecond.steps := by
    rw [joint.linesOf_append]
    exact ⟨cutFirst.append cutSecond whole, rfl, List.map_append⟩
  obtain ⟨cutJoint, preamble, steps⟩ := joined
  rw [ofText_of_sections cutJoint, preamble, steps, joint.directive_append]

end Walkthrough
