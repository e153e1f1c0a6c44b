import Mathlib.Data.List.Basic
import Walkthrough.Proofs.Report.Table
import Walkthrough.Proofs.Text.Lines

/-!
# Lines of a report

A text in a table is put on one line whatever breaks it holds, so a report can be read line by line:
its verdict, its summary and the table of its steps, which has one line for each report of a step
(`Walkthrough.RunResult.linesOf_markdown`). What a row says of how its step ended can be read off it
again (`Walkthrough.StepReport.resultOf_markdownRow`).
-/

namespace Walkthrough

open Text

namespace Markdown

variable {text : String} {texts : List String}

section Lines

/-- A text without line breaks. -/
def Unbroken (text : String) : Prop :=
  ∀ c ∈ text.toList, isLineBreak c = false

theorem unbroken_append {first second : String} (one : Unbroken first) (other : Unbroken second) :
    Unbroken (first ++ second) := by
  intro c member
  rw [String.toList_append, List.mem_append] at member
  exact member.elim (one c) (other c)

theorem unbroken_of_areFigures (figures : areFigures text = true) : Unbroken text :=
  fun c member => isLineBreak_of_isFigure (List.all_eq_true.mp figures c member)

theorem unbroken_of_plain (plain : text.toList.any isLineBreak = false) : Unbroken text :=
  fun c member => Bool.eq_false_iff.mpr (List.any_eq_false.mp plain c member)

/-- Unbroken texts stay so when they are joined. -/
theorem unbroken_intercalate {separator : String} (joint : Unbroken separator)
    (unbroken : ∀ text ∈ texts, Unbroken text) : Unbroken (separator.intercalate texts) := by
  induction texts with
  | nil => exact fun c member => by simp at member
  | cons text rest ih =>
      obtain ⟨first, others⟩ := List.forall_mem_cons.mp unbroken
      cases rest with
      | nil => rwa [String.intercalate_singleton]
      | cons next more =>
          rw [String.intercalate_cons_cons]
          exact unbroken_append (unbroken_append first joint) (ih others)

/-- The words of a text are on one line, whatever breaks stand between them. -/
theorem unbroken_oneLine (text : String) : Unbroken (oneLine text) := by
  refine unbroken_intercalate (unbroken_of_plain (by decide)) fun word member c inside => ?_
  obtain ⟨chars, among, rfl⟩ := List.mem_map.mp member
  rw [String.toList_ofList] at inside
  refine Bool.eq_false_iff.mpr fun breaks => ?_
  have solid := isBlank_of_mem_words among c inside
  rw [isBlank_of_isLineBreak breaks] at solid
  cases solid

/-- So is the cell of a text. -/
theorem unbroken_cell (text : String) : Unbroken (cell text) := by
  intro c member
  rw [cell, String.toList_ofList] at member
  obtain ⟨d, inside, among⟩ := List.mem_flatMap.mp member
  split at among
  · rcases List.mem_pair.mp among with rfl | rfl
    · decide
    · decide
  · rw [List.mem_singleton.mp among]
    exact unbroken_oneLine text d inside

theorem unbroken_row (unbroken : ∀ text ∈ texts, Unbroken text) : Unbroken (row texts) :=
  unbroken_append (unbroken_append (unbroken_of_plain (by decide))
    (unbroken_intercalate (unbroken_of_plain (by decide)) unbroken)) (unbroken_of_plain (by decide))

/-- Lines that are joined are ended by a line feed each if another one follows. -/
theorem toList_intercalate_append (some : texts ≠ []) (s : List Char) :
    ("\n".intercalate texts).toList ++ '\n' :: s =
      (texts.map String.toList).flatMap (· ++ ['\n']) ++ s := by
  induction texts with
  | nil => exact absurd rfl some
  | cons text rest ih =>
      cases rest with
      | nil => simp
      | cons next more =>
          rw [String.intercalate_cons_cons, String.toList_append, String.toList_append,
            List.append_assoc, List.append_assoc, ih (by simp)]
          simp

/-- Unbroken lines in a text are lines of it. -/
theorem lines_intercalate_append (some : texts ≠ []) (unbroken : ∀ text ∈ texts, Unbroken text)
    (s : List Char) :
    lines (("\n".intercalate texts).toList ++ '\n' :: s) = texts.map String.toList ++ lines s := by
  rw [toList_intercalate_append some, lines_flatMap_append]
  intro line member
  obtain ⟨text, among, rfl⟩ := List.mem_map.mp member
  exact unbroken text among

end Lines

section Reading

/-- The reading of a table by which any backslash takes the meaning from a bar behind it. -/
def byAny (slashes : Nat) : Bool :=
  slashes != 0

/-- What the row of a step says of how the step ended. -/
def resultOf (line : String) : Option String :=
  (cells byAny line)[3]?.map fun cell => trimmed (String.ofList cell)

/-- By this reading the cell of a text has no open bars. -/
theorem barsBehind_cell_byAny (text : String) :
    barsBehind (fun n => !byAny n) 0 (cell text).toList = 0 := by
  have never (slashes : Nat) (s : List Char) :
      barsBehind (fun n => !byAny (n + 1)) slashes s = 0 := by
    induction s generalizing slashes with
    | nil => rfl
    | cons c rest ih =>
        rw [barsBehind, ih]
        simp [byAny]
  rw [barsBehind_cell, never]

end Reading

end Markdown

open Markdown

namespace StepReport

variable {report : StepReport}

theorem unbroken_markdownRow (named : areFigures report.action = true) :
    Unbroken report.markdownRow := by
  refine unbroken_row ?_
  simp only [List.forall_mem_cons]
  exact ⟨unbroken_of_areFigures (areFigures_int _), unbroken_of_areFigures named,
    unbroken_cell _, unbroken_of_areFigures (areFigures_verdict _),
    unbroken_of_areFigures (areFigures_shownSeconds _), unbroken_cell _, by simp⟩

/-- The row of a step says how the step ended. -/
theorem resultOf_markdownRow (named : areFigures report.action = true) :
    resultOf report.markdownRow = some report.verdict := by
  have read : cells byAny report.markdownRow = [toString report.ordinal, report.action,
      cell report.description, report.verdict, report.seconds.fixed 1 ++ "s",
      cell (noteText report.remark)].map inRow := by
    refine cells_row_of_closed rfl (by simp) ?_
    simp only [List.forall_mem_cons]
    exact ⟨barsBehind_of_areFigures (areFigures_int _), barsBehind_of_areFigures named,
      barsBehind_cell_byAny _, barsBehind_of_areFigures (areFigures_verdict _),
      barsBehind_of_areFigures (areFigures_shownSeconds _), barsBehind_cell_byAny _, by simp⟩
  have bare : trimmed (String.ofList (inRow report.verdict)) = report.verdict := by
    unfold verdict
    split <;> decide
  rw [resultOf, read]
  exact congrArg some bare

end StepReport

namespace RunResult

variable {result : RunResult}

/-- The last line of the header of the report. -/
def verdictLine (result : RunResult) : String :=
  "**Verdict:** " ++ if result.passed then "PASS" else "FAIL"

/-- The line about the steps that were not reached, if there are any. -/
def notRunLines (count : Int) : List String :=
  if count = 0 then [] else [s!"- Not run: {count}"]

/-- The lines of the summary of the report. -/
def accountLines (result : RunResult) : List String :=
  ["## Summary", s!"- Steps: {result.passedCount}/{result.stepCount} passed"] ++
    notRunLines result.notRun ++ [s!"- Healed selectors: {result.healingRecords.length}",
      "- Duration: " ++ result.seconds.fixed 1 ++ "s"]

/-- The lines of the table of the steps. -/
def tableLines (result : RunResult) : List String :=
  ["## Step Results", stepHeader, stepRule] ++ result.stepReports.map StepReport.markdownRow

theorem unbroken_verdictLine (result : RunResult) : Unbroken result.verdictLine := by
  unfold verdictLine
  split
  · exact unbroken_of_plain (by decide)
  · exact unbroken_of_plain (by decide)

theorem unbroken_accountLines (result : RunResult) :
    ∀ line ∈ result.accountLines, Unbroken line := by
  have plain {text : String} (plain : text.toList.any isLineBreak = false) : Unbroken text :=
    unbroken_of_plain plain
  have figures {text : String} (figures : areFigures text = true) : Unbroken text :=
    unbroken_of_areFigures figures
  have notRun : ∀ line ∈ notRunLines result.notRun, Unbroken line := by
    intro line member
    unfold notRunLines at member
    split at member
    · cases member
    · rw [List.mem_singleton.mp member]
      exact unbroken_append (plain (by decide)) (figures (areFigures_int _))
  have steps : Unbroken s!"- Steps: {result.passedCount}/{result.stepCount} passed" :=
    unbroken_append (unbroken_append (unbroken_append (unbroken_append (plain (by decide))
      (figures (areFigures_nat _))) (plain (by decide))) (figures (areFigures_int _)))
      (plain (by decide))
  have healed : Unbroken s!"- Healed selectors: {result.healingRecords.length}" :=
    unbroken_append (plain (by decide)) (figures (areFigures_nat _))
  have duration : Unbroken ("- Duration: " ++ result.seconds.fixed 1 ++ "s") :=
    unbroken_append (unbroken_append (plain (by decide)) (figures (areFigures_fixed _ _)))
      (plain (by decide))
  intro line member
  simp only [accountLines, List.mem_append, List.mem_cons, List.not_mem_nil, or_false] at member
  rcases member with ((rfl | rfl) | among) | rfl | rfl
  · exact plain (by decide)
  · exact steps
  · exact notRun line among
  · exact healed
  · exact duration

theorem unbroken_tableLines
    (named : ∀ report ∈ result.stepReports, areFigures report.action = true) :
    ∀ line ∈ result.tableLines, Unbroken line := by
  intro line member
  simp only [tableLines, List.mem_append, List.mem_cons, List.not_mem_nil, or_false,
    List.mem_map] at member
  rcases member with (rfl | rfl | rfl) | ⟨report, among, rfl⟩
  · exact unbroken_of_plain (by decide)
  · exact unbroken_of_plain (by decide)
  · exact unbroken_of_plain (by decide)
  · exact StepReport.unbroken_markdownRow (named report among)

/-- The header of the report ends with its verdict. -/
theorem exists_markdownHeader (result : RunResult) :
    ∃ front : List Char, result.markdownHeader.toList =
      front ++ '\n' :: result.verdictLine.toList := by
  -- Stated for any seven lines, since the lines before the last need not be looked into.
  have last (first second third fourth fifth sixth verdict : String) :
      ("\n".intercalate [first, second, third, fourth, fifth, sixth, verdict]).toList =
        ("\n".intercalate [first, second, third, fourth, fifth, sixth]).toList ++
          '\n' :: verdict.toList := by
    simp [String.intercalate_cons_cons]
  exact ⟨_, last _ _ _ _ _ _ _⟩

/-- The section behind the table of the steps begins with its title. -/
theorem exists_markdownHealing (result : RunResult) :
    ∃ rest, result.markdownHealing = "## Self-Healing\n" ++ rest := by
  by_cases none : result.healingRecords = []
  · exact ⟨"\nNo selector healing occurred.", by simp [markdownHealing, none]⟩
  · rw [markdownHealing_eq none, List.cons_append, List.cons_append, List.cons_append,
      String.intercalate_cons_cons]
    exact ⟨_, rfl⟩

/-- **The lines of a report.** Whatever line breaks stand in descriptions and errors, the table of
the steps has one line for each report below its header, and the verdict and the summary stand
before it. -/
theorem linesOf_markdown (named : ∀ report ∈ result.stepReports, areFigures report.action = true) :
    ∃ before after, linesOf result.markdown =
      before ++ result.verdictLine :: "" :: (result.accountLines ++
        "" :: (result.tableLines ++ "" :: "## Self-Healing" :: after)) := by
  obtain ⟨front, header⟩ := exists_markdownHeader result
  obtain ⟨rest, healing⟩ := exists_markdownHealing result
  have whole : result.markdown.toList =
      front ++ '\n' :: (result.verdictLine.toList ++ '\n' :: '\n' ::
        (("\n".intercalate result.accountLines).toList ++ '\n' :: '\n' ::
          (("\n".intercalate result.tableLines).toList ++ '\n' :: '\n' ::
            ("## Self-Healing".toList ++ '\n' ::
              (rest ++ "\n\n" ++ result.markdownVariables).toList)))) := by
    have summary : result.markdownSummary = "\n".intercalate result.accountLines := rfl
    have steps : result.markdownSteps = "\n".intercalate result.tableLines := rfl
    simp [markdown, String.intercalate_cons_cons, header, healing, summary, steps]
  have title : Unbroken "## Self-Healing" := unbroken_of_plain (by decide)
  refine ⟨linesOf (String.ofList (front ++ ['\n'])),
    linesOf (rest ++ "\n\n" ++ result.markdownVariables), ?_⟩
  rw [linesOf, whole, lines_append_lineFeed, lines_append_of_plain (unbroken_verdictLine result),
    lines_cons_lineFeed, lines_intercalate_append (by simp [accountLines])
      (unbroken_accountLines result), lines_cons_lineFeed,
    lines_intercalate_append (by simp [tableLines]) (unbroken_tableLines named),
    lines_cons_lineFeed, lines_append_of_plain title]
  simp [linesOf]

end RunResult

end Walkthrough
