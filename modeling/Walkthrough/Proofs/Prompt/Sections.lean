import Walkthrough.Proofs.Prompt.Form
import Walkthrough.Prompt.Document

/-!
# The sections of a prompt

The lines of a prompt fall into a preamble and a section for each header, which reaches up to the
next header. There is exactly one way to cut lines like that (`Walkthrough.Sections.exist`,
`Walkthrough.Sections.unique`), and lines that say nothing can be added anywhere without a change to
the steps that the sections state (`Walkthrough.Padded.sections`).
-/

namespace Walkthrough

/-- What lines say: the detail lines among them, without their margins. -/
def contentOf (lines : List String) : List String :=
  (lines.filter isDetailLine).map trimmed

theorem contentOf_cons (line : String) (rest : List String) :
    contentOf (line :: rest) = contentOf [line] ++ contentOf rest := by
  rw [contentOf, contentOf, contentOf, ← List.map_append, ← List.filter_append]
  rfl

/-- A header line with the lines after it that are no headers. -/
structure Section where
  header : Header
  line : String
  body : List String
  opens : Header.ofLine? line = .ok (some header)
  closed : ∀ other ∈ body, Header.ofLine? other = .ok none

namespace Section

/-- The lines of a section. -/
def lines (part : Section) : List String :=
  part.line :: part.body

/-- The step that a section states. -/
def step (part : Section) : Step where
  ordinal := part.header.ordinal
  description := part.header.title
  action := Action.ofTitle part.header.title
  details := Details.ofBlock ("\n".intercalate (contentOf part.body))

end Section

/-- Lines cut into those before the first header and the sections. -/
structure Sections (lines : List String) where
  preamble : List String
  parts : List Section
  closed : ∀ line ∈ preamble, Header.ofLine? line = .ok none
  covers : lines = preamble ++ parts.flatMap Section.lines

namespace Sections

variable {line : String} {rest lines : List String}

/-- The cut of no lines at all. -/
def empty : Sections [] :=
  ⟨[], [], by simp, rfl⟩

/-- The cut with one more line before it that is no header. -/
def skip (cut : Sections rest) (plain : Header.ofLine? line = .ok none) :
    Sections (line :: rest) where
  preamble := line :: cut.preamble
  parts := cut.parts
  closed := by
    intro other member
    rcases List.mem_cons.mp member with rfl | member
    · exact plain
    · exact cut.closed other member
  covers := by rw [List.cons_append, ← cut.covers]

/-- The cut with one more line before it that is a header. -/
def begin (cut : Sections rest) {header : Header}
    (opens : Header.ofLine? line = .ok (some header)) : Sections (line :: rest) where
  preamble := []
  parts := ⟨header, line, cut.preamble, opens, cut.closed⟩ :: cut.parts
  closed := by simp
  covers := by
    rw [List.nil_append, List.flatMap_cons, Section.lines, List.cons_append, ← cut.covers]

/-- A cut is that of all lines but the first, with the first line before it. -/
theorem eq_skip_or_begin (cut : Sections (line :: rest)) :
    ∃ tail : Sections rest, (∃ plain, cut = tail.skip plain) ∨
      ∃ header, ∃ opens : Header.ofLine? line = .ok (some header), cut = tail.begin opens := by
  obtain ⟨preamble, parts, closed, covers⟩ := cut
  cases preamble with
  | cons first preamble =>
      obtain ⟨rfl, after⟩ := List.cons.inj covers
      obtain ⟨plain, closed⟩ := List.forall_mem_cons.mp closed
      exact ⟨⟨preamble, parts, closed, after⟩, .inl ⟨plain, rfl⟩⟩
  | nil =>
      cases parts with
      | nil => cases covers
      | cons part parts =>
          obtain ⟨header, first, body, opens, plain⟩ := part
          obtain ⟨rfl, after⟩ := List.cons.inj covers
          exact ⟨⟨body, parts, plain, after⟩, .inr ⟨header, opens, rfl⟩⟩

/-- There is one way at most to cut lines into sections. -/
theorem unique (first second : Sections lines) : first = second := by
  induction lines with
  | nil =>
      obtain ⟨preamble, parts, _, covers⟩ := first
      obtain ⟨other, others, _, otherCovers⟩ := second
      have emptyOf {preamble : List String} {parts : List Section}
          (covers : [] = preamble ++ parts.flatMap Section.lines) :
          preamble = [] ∧ parts = [] := by
        obtain ⟨noPreamble, noLines⟩ := List.append_eq_nil_iff.mp covers.symm
        refine ⟨noPreamble, List.eq_nil_iff_forall_not_mem.mpr fun part member => ?_⟩
        cases List.flatMap_eq_nil_iff.mp noLines part member
      obtain ⟨rfl, rfl⟩ := emptyOf covers
      obtain ⟨rfl, rfl⟩ := emptyOf otherCovers
      rfl
  | cons line rest ih =>
      -- Whether the first line is a header decides how both cuts begin.
      obtain ⟨tail, ⟨plain, rfl⟩ | ⟨header, opens, rfl⟩⟩ := first.eq_skip_or_begin
      · obtain ⟨other, ⟨_, rfl⟩ | ⟨_, opens, rfl⟩⟩ := second.eq_skip_or_begin
        · rw [ih tail other]
        · rw [plain] at opens
          cases opens
      · obtain ⟨other, ⟨plain, rfl⟩ | ⟨_, otherOpens, rfl⟩⟩ := second.eq_skip_or_begin
        · rw [plain] at opens
          cases opens
        · have same := opens.symm.trans otherOpens
          cases same
          rw [ih tail other]

/-- Lines with ordinals of any readable length can be cut into sections. -/
theorem exist (readable : ∀ line ∈ lines, ∃ header?, Header.ofLine? line = .ok header?) :
    Nonempty (Sections lines) := by
  induction lines with
  | nil => exact ⟨empty⟩
  | cons line rest ih =>
      obtain ⟨⟨header?, read⟩, readable⟩ := List.forall_mem_cons.mp readable
      obtain ⟨cut⟩ := ih readable
      cases header? with
      | none => exact ⟨cut.skip read⟩
      | some header => exact ⟨cut.begin read⟩

/-- The steps that the sections of a prompt state. -/
def steps (cut : Sections lines) : List Step :=
  cut.parts.map Section.step

end Sections

/-- A line that no step takes notice of: a blank one, a heading that opens no step, or a rule. -/
inductive IsFiller (line : String) : Prop
  | blank : trimmed line = "" → IsFiller line
  | heading : beginsWith "#" (trimmed line) = true → Header.ofLine? line = .ok none → IsFiller line
  | rule : beginsWith "---" (trimmed line) = true → IsFiller line

namespace IsFiller

variable {line : String}

theorem not_isDetailLine (filler : IsFiller line) : isDetailLine line = false := by
  rcases filler with blank | ⟨heading, _⟩ | rule
  · simp [isDetailLine, blank]
  · simp [isDetailLine, heading]
  · simp [isDetailLine, rule]

/-- A header begins with a mark or a digit. -/
theorem parts?_eq_none {text : List Char}
    (first : ∀ c ∈ (Text.trim text).head?, (c == '#') = false ∧ Text.isDigit c = false) :
    Header.parts? text = none := by
  refine Header.parts?_eq_none_iff.mpr fun form opens => ?_
  cases form with
  | heading =>
      obtain ⟨noMark, -⟩ := first '#' (Header.Form.head?_of_heading opens)
      exact absurd noMark (by decide)
  | item =>
      obtain ⟨c, among, digit⟩ := Header.Form.head?_of_item opens
      rw [(first c among).2] at digit
      cases digit

theorem ofLine?_eq (filler : IsFiller line) : Header.ofLine? line = .ok none := by
  rcases filler with blank | ⟨_, plain⟩ | rule
  · have bare : Text.trim line.toList = [] := by
      simpa [trimmed] using congrArg String.toList blank
    rw [Header.ofLine?, parts?_eq_none (by simp [bare])]
  · exact plain
  · obtain ⟨rest, dashes⟩ : "---".toList <+: Text.trim line.toList := by
      simpa [beginsWith, trimmed] using rule
    rw [Header.ofLine?, parts?_eq_none]
    intro c first
    rw [← dashes] at first
    cases first
    decide

end IsFiller

/-- Lines with any number of fillers added anywhere. -/
inductive Padded : List String → List String → Prop
  | nil : Padded [] []
  | keep (line : String) {lines padded : List String} :
      Padded lines padded → Padded (line :: lines) (line :: padded)
  | add {line : String} {lines padded : List String} :
      IsFiller line → Padded lines padded → Padded lines (line :: padded)

/-- Fillers change neither what is said before the first header nor the steps. -/
theorem Padded.sections {lines padded : List String} (fillers : Padded lines padded)
    (cut : Sections lines) :
    ∃ other : Sections padded, contentOf other.preamble = contentOf cut.preamble ∧
      other.steps = cut.steps := by
  induction fillers with
  | nil => exact ⟨cut, rfl, rfl⟩
  | keep line _ ih =>
      obtain ⟨tail, ⟨plain, rfl⟩ | ⟨header, opens, rfl⟩⟩ := cut.eq_skip_or_begin
      · obtain ⟨other, content, steps⟩ := ih tail
        refine ⟨other.skip plain, ?_, steps⟩
        rw [Sections.skip, Sections.skip, contentOf_cons line other.preamble, content,
          ← contentOf_cons line tail.preamble]
      · obtain ⟨other, content, steps⟩ := ih tail
        refine ⟨other.begin opens, rfl, ?_⟩
        simp only [Sections.steps, Sections.begin, List.map_cons, Section.step, content]
        exact congrArg _ steps
  | add filler _ ih =>
      obtain ⟨other, content, steps⟩ := ih cut
      refine ⟨other.skip filler.ofLine?_eq, ?_, steps⟩
      rw [← content]
      simp [Sections.skip, contentOf, filler.not_isDetailLine]

end Walkthrough
