import Walkthrough.Proofs.Prompt.Header
import Walkthrough.Proofs.Prompt.Scan

/-!
# Prompts written out again

The steps of a document can be written as a prompt: each as a heading with the lines of its block.
Reading that prompt gives the same steps and nothing besides
(`Walkthrough.Document.ofText_rendered`), since all that reading leaves of a line is read again as
it is.
-/

namespace Walkthrough

open Text

/-- A step as lines of a prompt: a heading and the lines of its block. -/
def Step.lines (step : Step) : List String :=
  ("### Step " ++ toString step.ordinal ++ ": " ++ step.description) ::
    linesOf step.details.rawText

/-- The steps of a document as the text of a prompt. -/
def Document.rendered (document : Document) : String :=
  "\n".intercalate (document.steps.flatMap Step.lines)

section Lines

/-- A line that a text can consist of, and that is not empty. -/
def IsLine (line : String) : Prop :=
  line ≠ "" ∧ ∀ c ∈ line.toList, isLineBreak c = false

theorem isLineBreak_of_mem_linesOf {line text : String} (member : line ∈ linesOf text) :
    ∀ c ∈ line.toList, isLineBreak c = false := by
  obtain ⟨chars, among, rfl⟩ := List.mem_map.mp member
  rw [String.toList_ofList]
  exact isLineBreak_of_mem_lines among

theorem linesOf_intercalate {lines : List String} (areLines : ∀ line ∈ lines, IsLine line) :
    linesOf ("\n".intercalate lines) = lines := by
  have plain : ∀ chars ∈ lines.map String.toList,
      chars ≠ [] ∧ ∀ c ∈ chars, isLineBreak c = false := by
    intro chars member
    obtain ⟨line, among, rfl⟩ := List.mem_map.mp member
    obtain ⟨some, plain⟩ := areLines line among
    exact ⟨by simpa using some, plain⟩
  have joined : ("\n".intercalate lines).toList = ['\n'].intercalate (lines.map String.toList) :=
    String.toList_intercalate
  rw [linesOf, joined, lines_intercalate plain, List.map_map]
  simp

end Lines

section Content

variable {line : String} {lines : List String}

theorem trimmed_trimmed (line : String) : trimmed (trimmed line) = trimmed line := by
  rw [trimmed, trimmed, String.toList_ofList, trim_trim]

theorem isDetailLine_trimmed (line : String) : isDetailLine (trimmed line) = isDetailLine line := by
  rw [isDetailLine, isDetailLine, trimmed_trimmed]

theorem mem_contentOf :
    line ∈ contentOf lines ↔ ∃ other ∈ lines, isDetailLine other = true ∧ trimmed other = line := by
  simp [contentOf, and_assoc]

/-- What lines say is said by itself. -/
theorem contentOf_contentOf (lines : List String) :
    contentOf (contentOf lines) = contentOf lines := by
  have kept : (contentOf lines).filter isDetailLine = contentOf lines := by
    refine List.filter_eq_self.mpr fun line member => ?_
    obtain ⟨other, -, detail, rfl⟩ := mem_contentOf.mp member
    rwa [isDetailLine_trimmed]
  have bare : (contentOf lines).map trimmed = (contentOf lines).map id := by
    refine List.map_congr_left fun line member => ?_
    obtain ⟨other, -, -, rfl⟩ := mem_contentOf.mp member
    exact trimmed_trimmed other
  calc
    contentOf (contentOf lines) = (contentOf lines).map trimmed := by rw [contentOf, kept]
    _ = contentOf lines := by rw [bare, List.map_id]

theorem isLine_of_mem_contentOf (plain : ∀ line ∈ lines, ∀ c ∈ line.toList, isLineBreak c = false) :
    ∀ line ∈ contentOf lines, IsLine line := by
  intro line member
  obtain ⟨other, among, detail, rfl⟩ := mem_contentOf.mp member
  refine ⟨?_, ?_⟩
  · intro empty
    simp [isDetailLine, empty] at detail
  · intro c inside
    rw [trimmed, String.toList_ofList] at inside
    exact plain other among c (mem_of_mem_trim inside)

end Content

namespace Section

variable {part : Section}

/-- The section that a section is written as. -/
def rendered (part : Section) (bare : IsTrim part.header.title.toList)
    (plain : ∀ c ∈ part.header.title.toList, isLineBreak c = false)
    (short : part.header.ordinal < Decimal.writtenLimit) : Section where
  header := part.header
  line := part.header.heading
  body := contentOf part.body
  opens := Header.ofLine?_heading bare plain short
  closed := by
    intro line member
    obtain ⟨other, among, -, rfl⟩ := mem_contentOf.mp member
    rw [Header.ofLine?_trimmed]
    exact part.closed other among

/-- A section of a text is written as lines that state its step again. -/
theorem exists_rendered (plain : ∀ line ∈ part.lines, ∀ c ∈ line.toList, isLineBreak c = false) :
    ∃ other : Section, other.lines = part.step.lines ∧ other.step = part.step ∧
      ∀ line ∈ other.lines, IsLine line := by
  obtain ⟨bare, plainTitle⟩ := Header.title_of_ofLine? part.opens
    (plain part.line List.mem_cons_self)
  have plainBody : ∀ line ∈ part.body, ∀ c ∈ line.toList, isLineBreak c = false :=
    fun line member => plain line (List.mem_cons_of_mem _ member)
  have content := isLine_of_mem_contentOf plainBody
  refine ⟨part.rendered bare plainTitle (Header.ordinal_lt part.opens), ?_, ?_, ?_⟩
  · have block : linesOf ("\n".intercalate (contentOf part.body)) = contentOf part.body :=
      linesOf_intercalate content
    rw [lines, Step.lines]
    exact congrArg _ block.symm
  · simp only [step, rendered, contentOf_contentOf]
  · refine List.forall_mem_cons.mpr ⟨⟨?_, Header.isLineBreak_of_mem_heading plainTitle⟩, content⟩
    intro empty
    have chars : part.header.heading.toList = [] := congrArg String.toList empty
    rw [Header.heading_toList, Header.mark] at chars
    cases chars

/-- Sections are written as lines that state their steps again. -/
theorem exist_rendered {parts : List Section}
    (plain : ∀ line ∈ parts.flatMap lines, ∀ c ∈ line.toList, isLineBreak c = false) :
    ∃ others : List Section,
      others.flatMap lines = (parts.map step).flatMap Step.lines ∧
      others.map step = parts.map step ∧ ∀ line ∈ others.flatMap lines, IsLine line := by
  induction parts with
  | nil => exact ⟨[], rfl, rfl, by simp⟩
  | cons part rest ih =>
      rw [List.flatMap_cons, List.forall_mem_append] at plain
      obtain ⟨plainPart, plainRest⟩ := plain
      obtain ⟨other, written, step, areLines⟩ := exists_rendered plainPart
      obtain ⟨others, writtenRest, steps, areLinesRest⟩ := ih plainRest
      refine ⟨other :: others, ?_, ?_, ?_⟩
      · rw [List.flatMap_cons, written, writtenRest, List.map_cons, List.flatMap_cons]
      · rw [List.map_cons, List.map_cons, step, steps]
      · rw [List.flatMap_cons, List.forall_mem_append]
        exact ⟨areLines, areLinesRest⟩

end Section

/-- **A document is read from what it is written as.** Whatever text a document was read from, its
steps written out as a prompt are read as the same steps, each with all of its details, and every
line belongs to one of them. -/
theorem Document.ofText_rendered {text : String} {document : Document}
    (read : ofText text = .ok document) :
    ∃ other, ofText document.rendered = .ok other ∧ other.steps = document.steps ∧
      other.misses = [] := by
  obtain ⟨cut, rfl⟩ := sections_of_ofText read
  have plain : ∀ line ∈ cut.parts.flatMap Section.lines, ∀ c ∈ line.toList,
      isLineBreak c = false := by
    intro line member
    have inText : line ∈ linesOf text := by
      rw [cut.covers]
      exact List.mem_append_right _ member
    exact isLineBreak_of_mem_linesOf inText
  obtain ⟨others, written, steps, areLines⟩ := Section.exist_rendered plain
  have lines : linesOf ("\n".intercalate (cut.steps.flatMap Step.lines)) =
      [] ++ others.flatMap Section.lines := by
    rw [List.nil_append, Sections.steps, ← written, linesOf_intercalate areLines]
  let again : Sections (linesOf ("\n".intercalate (cut.steps.flatMap Step.lines))) :=
    ⟨[], others, by simp, lines⟩
  exact ⟨_, ofText_of_sections again, steps, rfl⟩

/-- A number in digits of another script, a title that begins with a separator, and no title. -/
theorem Document.ofText_rendered_scripts :
    let document : Document :=
      { steps :=
          [⟨70, ": 5 apples", .unknown, { endpoint := some "/a", rawText := "URL: /a" }⟩,
            ⟨3, "", .unknown, {}⟩]
        misses := [⟨1, "Intro"⟩] }
    ofText "Intro\n  ٠٧٠. : 5 apples \n\n  URL: /a\t\n--- \n#Step 3." = .ok document ∧
      document.rendered = "### Step 70: : 5 apples\nURL: /a\n### Step 3: " ∧
      ∃ other, ofText document.rendered = .ok other ∧ other.steps = document.steps ∧
        other.misses = [] := by
  intro document
  have read : ofText "Intro\n  ٠٧٠. : 5 apples \n\n  URL: /a\t\n--- \n#Step 3." = .ok document := by
    decide +kernel
  exact ⟨read, by decide +kernel, ofText_rendered read⟩

end Walkthrough
