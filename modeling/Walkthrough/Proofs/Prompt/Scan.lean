import Mathlib.Control.Monad.Basic
import Walkthrough.Proofs.Prompt.Sections

/-!
# Reading a prompt line by line

What is known after some lines were read, as an invariant of the scan: the steps of the sections
that are closed, the content of the section that is open, and the misses of the preamble. At the end
of the text this is the law of the whole document (`Walkthrough.Document.ofText_sections`).
-/

namespace Walkthrough

namespace Scan

variable {number : Nat} {line : String}

/-- The miss that the line of a number is if no step is open. -/
def miss? (number : Nat) (line : String) : Option Miss :=
  if isDetailLine line && !Directive.isDirective line then some ⟨number, trimmed line⟩ else none

/-- The misses among lines that come before any header, numbered from `number` on. -/
def missesFrom (number : Nat) (lines : List String) : List Miss :=
  (lines.zipIdx number).filterMap fun (line, place) => miss? place line

theorem missesFrom_cons (number : Nat) (line : String) (rest : List String) :
    missesFrom number (line :: rest) =
      (miss? number line).toList ++ missesFrom (number + 1) rest := by
  simp only [missesFrom, List.zipIdx_cons, List.filterMap_cons]
  cases miss? number line with
  | none => rfl
  | some miss => rfl

theorem read_of_header (scan : Scan) {header : Header}
    (opens : Header.ofLine? line = .ok (some header)) :
    scan.read number line =
      .ok { scan with opened := some header, block := [], steps := scan.close } := by
  rw [read, opens]

/-- A line that is no header goes to the step that is open. -/
theorem read_of_opened (scan : Scan) (plain : Header.ofLine? line = .ok none)
    (opened : scan.opened.isSome = true) :
    scan.read number line = .ok { scan with block := scan.block ++ contentOf [line] } := by
  rw [read, plain]
  cases detail : isDetailLine line with
  | true => simp [opened, contentOf, detail]
  | false => simp [contentOf, detail]

/-- A line before the first header can only be a miss. -/
theorem read_of_unopened (scan : Scan) (plain : Header.ofLine? line = .ok none)
    (unopened : scan.opened = none) :
    scan.read number line =
      .ok { scan with misses := scan.misses ++ (miss? number line).toList } := by
  obtain ⟨_, block, steps, misses⟩ := scan
  cases unopened
  rw [read, plain, miss?]
  cases detail : isDetailLine line with
  | true =>
      cases directive : Directive.isDirective line with
      | true => simp
      | false => simp
  | false => simp

@[simp]
theorem readFrom_nil (scan : Scan) (number : Nat) : scan.readFrom number [] = .ok scan := rfl

theorem readFrom_cons_of_ok {scan after : Scan} (read : scan.read number line = .ok after)
    (rest : List String) :
    scan.readFrom number (line :: rest) = after.readFrom (number + 1) rest := by
  rw [readFrom, read]

/-- Lines that are read to the end are read one by one. -/
theorem exists_of_readFrom_cons {scan after : Scan} {rest : List String}
    (read : scan.readFrom number (line :: rest) = .ok after) :
    ∃ middle, scan.read number line = .ok middle ∧
      middle.readFrom (number + 1) rest = .ok after := by
  cases next : scan.read number line with
  | error fault =>
      rw [readFrom, next] at read
      cases read
  | ok middle => exact ⟨middle, rfl, (readFrom_cons_of_ok next rest).symm.trans read⟩

theorem readFrom_append (scan : Scan) (number : Nat) (first second : List String) {after : Scan}
    (read : scan.readFrom number first = .ok after) :
    scan.readFrom number (first ++ second) = after.readFrom (number + first.length) second := by
  induction first generalizing scan number with
  | nil =>
      cases read
      rfl
  | cons line rest ih =>
      obtain ⟨middle, next, read⟩ := exists_of_readFrom_cons read
      have place : number + (line :: rest).length = number + 1 + rest.length := by
        rw [List.length_cons]
        omega
      rw [List.cons_append, readFrom_cons_of_ok next, ih middle (number + 1) read, place]

/-- Lines that are read to the end have headers of a readable length. -/
theorem readable_of_readFrom {scan after : Scan} {lines : List String}
    (read : scan.readFrom number lines = .ok after) :
    ∀ line ∈ lines, ∃ header?, Header.ofLine? line = .ok header? := by
  induction lines generalizing scan number with
  | nil => simp
  | cons line rest ih =>
      obtain ⟨middle, next, read⟩ := exists_of_readFrom_cons read
      refine List.forall_mem_cons.mpr ⟨?_, ih read⟩
      cases opens : Header.ofLine? line with
      | error fault =>
          rw [Scan.read, opens] at next
          cases next
      | ok header? => exact ⟨header?, rfl⟩

/-- The body of a section goes to its step. -/
theorem readFrom_of_opened (scan : Scan) (number : Nat) {lines : List String}
    (plain : ∀ line ∈ lines, Header.ofLine? line = .ok none)
    (opened : scan.opened.isSome = true) :
    scan.readFrom number lines = .ok { scan with block := scan.block ++ contentOf lines } := by
  induction lines generalizing scan number with
  | nil => simp [contentOf]
  | cons line rest ih =>
      obtain ⟨plainLine, plainRest⟩ := List.forall_mem_cons.mp plain
      rw [readFrom_cons_of_ok (read_of_opened scan plainLine opened),
        ih { scan with block := scan.block ++ contentOf [line] } (number + 1) plainRest opened,
        contentOf_cons line rest, List.append_assoc]

/-- The preamble makes misses and nothing else. -/
theorem readFrom_of_unopened (scan : Scan) (number : Nat) {lines : List String}
    (plain : ∀ line ∈ lines, Header.ofLine? line = .ok none) (unopened : scan.opened = none) :
    scan.readFrom number lines =
      .ok { scan with misses := scan.misses ++ missesFrom number lines } := by
  induction lines generalizing scan number with
  | nil => simp [missesFrom]
  | cons line rest ih =>
      obtain ⟨plainLine, plainRest⟩ := List.forall_mem_cons.mp plain
      rw [readFrom_cons_of_ok (read_of_unopened scan plainLine unopened),
        ih { scan with misses := scan.misses ++ (miss? number line).toList } (number + 1) plainRest
          unopened, missesFrom_cons, List.append_assoc]

/-- Each section adds its step when the next one begins, or at the end. -/
theorem readFrom_parts (parts : List Section) (scan : Scan) (number : Nat) :
    ∃ after, scan.readFrom number (parts.flatMap Section.lines) = .ok after ∧
      after.close = scan.close ++ parts.map Section.step ∧ after.misses = scan.misses := by
  induction parts generalizing scan number with
  | nil => exact ⟨scan, rfl, by simp, rfl⟩
  | cons part rest ih =>
      have header : scan.readFrom number part.lines =
          .ok { scan with
            opened := some part.header, block := contentOf part.body, steps := scan.close } := by
        rw [Section.lines, readFrom_cons_of_ok (read_of_header scan part.opens)]
        exact readFrom_of_opened _ (number + 1) part.closed rfl
      -- The section is still open here; `close` counts its step in, whatever comes next.
      obtain ⟨after, read, closed, misses⟩ := ih _ (number + part.lines.length)
      refine ⟨after, (readFrom_append scan number _ _ header).trans read, ?_, misses⟩
      rw [closed, List.map_cons, close, List.append_assoc]
      rfl

/-- The scan of lines by the sections that they are cut into. -/
theorem readFrom_sections {lines : List String} (cut : Sections lines) :
    ∃ after, Scan.readFrom {} 1 lines = .ok after ∧ after.close = cut.steps ∧
      after.misses = missesFrom 1 cut.preamble := by
  have preamble := readFrom_of_unopened {} 1 cut.closed rfl
  obtain ⟨after, read, closed, misses⟩ :=
    readFrom_parts cut.parts { misses := missesFrom 1 cut.preamble } (1 + cut.preamble.length)
  refine ⟨after, ?_, closed, misses⟩
  calc
    Scan.readFrom {} 1 lines =
        Scan.readFrom {} 1 (cut.preamble ++ cut.parts.flatMap Section.lines) :=
      congrArg _ cut.covers
    _ = .ok after := (readFrom_append _ 1 _ _ preamble).trans read

end Scan

/-- A line can be read unless it is a header whose number is too long. -/
theorem Header.ofLine?_eq_ok {line : String}
    (short : ∀ digits title, parts? line.toList = some (digits, title) →
      digits.length ≤ Decimal.maxDigits) :
    ∃ header?, ofLine? line = .ok header? := by
  unfold ofLine?
  cases parts : parts? line.toList with
  | none => exact ⟨none, rfl⟩
  | some found =>
      obtain ⟨digits, title⟩ := found
      have fits : ¬ Decimal.maxDigits < digits.length := by
        have := short digits title parts
        omega
      exact ⟨some ⟨valueOf digits, String.ofList title⟩, if_neg fits⟩

namespace Document

theorem ofText_of_sections {text : String} (cut : Sections (linesOf text)) :
    ofText text = .ok ⟨cut.steps, Scan.missesFrom 1 cut.preamble, Directive.ofText? text⟩ := by
  obtain ⟨after, read, closed, misses⟩ := Scan.readFrom_sections cut
  simp only [ofText, read, closed, misses]

/-- A text that is read as a document has been cut into sections. -/
theorem sections_of_ofText {text : String} {document : Document}
    (read : ofText text = .ok document) :
    ∃ cut : Sections (linesOf text),
      document = ⟨cut.steps, Scan.missesFrom 1 cut.preamble, Directive.ofText? text⟩ := by
  have scanned : ∃ after, Scan.readFrom {} 1 (linesOf text) = .ok after := by
    rw [ofText] at read
    split at read
    · cases read
    · next after ended => exact ⟨after, ended⟩
  obtain ⟨after, ended⟩ := scanned
  obtain ⟨cut⟩ := Sections.exist (Scan.readable_of_readFrom ended)
  refine ⟨cut, ?_⟩
  rw [ofText_of_sections cut] at read
  cases read
  rfl

/-- **A document is the sections of its text.** The lines of a text whose headers have readable
numbers can be cut into sections in exactly one way. The text is then read as a document that has
one step for each section, with the content of that section as its block, and a miss for each line
before the first header that says something other than the directive. No filler that is added to
the text changes a step. -/
theorem ofText_sections (text : String)
    (short : ∀ line ∈ linesOf text, ∀ digits title,
      Header.parts? line.toList = some (digits, title) → digits.length ≤ Decimal.maxDigits) :
    ∃ (cut : Sections (linesOf text)) (document : Document),
      (∀ other : Sections (linesOf text), other = cut) ∧
      ofText text = .ok document ∧
      document.steps = cut.parts.map Section.step ∧
      document.steps.map (·.details.rawText) =
        cut.parts.map (fun part => "\n".intercalate (contentOf part.body)) ∧
      document.misses = Scan.missesFrom 1 cut.preamble ∧
      ∀ padded, Padded (linesOf text) (linesOf padded) →
        ∃ other, ofText padded = .ok other ∧ other.steps = document.steps := by
  obtain ⟨cut⟩ := Sections.exist fun line member => Header.ofLine?_eq_ok (short line member)
  refine ⟨cut, _, fun other => other.unique cut, ofText_of_sections cut, rfl, ?_, rfl, ?_⟩
  · rw [Sections.steps, List.map_map]
    rfl
  · intro padded fillers
    obtain ⟨other, -, steps⟩ := fillers.sections cut
    exact ⟨_, ofText_of_sections other, steps⟩

/-- A text with a line before its only header, and a step of two lines around a blank one. -/
theorem ofText_sections_intro :
    let text := "Intro\n1. Open\nURL: /a\n\n  Password: b"
    (∀ line ∈ linesOf text, ∀ digits title,
      Header.parts? line.toList = some (digits, title) → digits.length ≤ Decimal.maxDigits) ∧
    ∃ document, ofText text = .ok document ∧ document.misses = [⟨1, "Intro"⟩] ∧
      document.steps.map (·.details.rawText) = ["URL: /a\nPassword: b"] := by
  intro text
  have short : ∀ line ∈ linesOf text, ∀ digits title,
      Header.parts? line.toList = some (digits, title) → digits.length ≤ Decimal.maxDigits := by
    have fits : (linesOf text).all (fun line => (Header.parts? line.toList).all fun parts =>
        parts.1.length ≤ Decimal.maxDigits) = true := by decide +kernel
    intro line member digits title parts
    simpa [parts] using List.all_eq_true.mp fits line member
  let cut : Sections (linesOf text) :=
    { preamble := ["Intro"]
      parts := [{ header := ⟨1, "Open"⟩, line := "1. Open", body := ["URL: /a", "", "  Password: b"]
                  opens := by decide +kernel, closed := by decide +kernel }]
      closed := by decide +kernel
      covers := by decide +kernel }
  obtain ⟨other, document, only, read, -, blocks, misses, -⟩ := ofText_sections text short
  rw [← only cut] at blocks misses
  exact ⟨short, document, read, misses.trans (by decide +kernel), blocks.trans (by decide +kernel)⟩

end Document

end Walkthrough
