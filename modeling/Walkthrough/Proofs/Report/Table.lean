import Mathlib.Algebra.Ring.Nat
import Mathlib.Data.List.Basic
import Walkthrough.Healing.Strategy
import Walkthrough.Prompt.Action
import Walkthrough.Proofs.Decimal.Figures
import Walkthrough.Proofs.Text.Backslashes
import Walkthrough.Report.Markdown

/-!
# Cells of tables

A line of a table is cut at its bars, but for those that backslashes take the meaning from
(`Walkthrough.Markdown.cells`). Every bar of a text is escaped by one backslash, which does not see
the backslashes that the text has itself: behind an odd number of them the bar is open again
(`Walkthrough.Markdown.barsBehind_escapeBars`). So a row has the cells of its header and one more
for each such bar (`Walkthrough.Markdown.cells_of_rows`).
-/

namespace Walkthrough

namespace Markdown

open Text

/-- The pieces of a text at its bars, but for those that are escaped by the number of backslashes
right before them. So many backslashes stand before the text. -/
def cut (escaped : Nat → Bool) (slashes : Nat) : List Char → List (List Char)
  | [] => [[]]
  | c :: rest =>
    if c = '|' && !escaped slashes then [] :: cut escaped 0 rest
    else (cut escaped (slashesBehind slashes c) rest).modifyHead (c :: ·)

/-- The cells of a line: its pieces between the first bar and the last. -/
def cells (escaped : Nat → Bool) (line : String) : List (List Char) :=
  ((cut escaped 0 line.toList).drop 1).dropLast

/-- How many bars of a text have a number of backslashes right before them that counts. -/
def barsBehind (counts : Nat → Bool) (slashes : Nat) : List Char → Nat
  | [] => 0
  | c :: rest =>
    (if c = '|' && counts slashes then 1 else 0) + barsBehind counts (slashesBehind slashes c) rest

/-- The bars of a text that are left open in its cell: those that have an odd number of backslashes
of the text itself before them. -/
def lapses (text : String) : Nat :=
  barsBehind byOdd 0 (oneLine text).toList

/-- A text as it stands in a row. -/
def inRow (text : String) : List Char :=
  ' ' :: text.toList ++ [' ']

variable {escaped counts : Nat → Bool} {s t : List Char} {text : String}

section Cutting

theorem cut_ne_nil (escaped : Nat → Bool) (slashes : Nat) (s : List Char) :
    cut escaped slashes s ≠ [] := by
  fun_induction cut escaped slashes s with
  | case1 => simp
  | case2 => simp
  | case3 slashes c rest _ ih => simpa [List.modifyHead_eq_nil_iff] using ih

/-- A text has one piece more than it has open bars. -/
theorem length_cut (escaped : Nat → Bool) (slashes : Nat) (s : List Char) :
    (cut escaped slashes s).length = 1 + barsBehind (fun n => !escaped n) slashes s := by
  fun_induction cut escaped slashes s with
  | case1 => rfl
  | case2 slashes c rest opens ih =>
      have bar : c = '|' := by simp_all
      rw [barsBehind, if_pos opens, List.length_cons, ih, bar, slashesBehind_of_ne (by decide)]
      omega
  | case3 slashes c rest closed ih =>
      rw [barsBehind, if_neg closed, List.length_modifyHead, ih, Nat.zero_add]

/-- A text without open bars is one piece. -/
theorem cut_of_closed {slashes : Nat} (closed : barsBehind (fun n => !escaped n) slashes s = 0) :
    cut escaped slashes s = [s] := by
  fun_induction cut escaped slashes s with
  | case1 => rfl
  | case2 slashes c rest opens ih =>
      rw [barsBehind, if_pos opens] at closed
      omega
  | case3 slashes c rest _ ih =>
      rw [barsBehind] at closed
      rw [ih (by omega)]
      rfl

/-- A bar behind a blank ends a cell. -/
theorem cut_append_bar (opens : escaped 0 = false) (slashes : Nat) (s t : List Char) :
    cut escaped slashes (s ++ ' ' :: '|' :: t) =
      cut escaped slashes (s ++ [' ']) ++ cut escaped 0 t := by
  induction s generalizing slashes with
  | nil => simp [cut, opens, slashesBehind]
  | cons c rest ih =>
      have joined {pieces : List (List Char)} (some : pieces ≠ []) :
          (pieces ++ cut escaped 0 t).modifyHead (c :: ·) =
            pieces.modifyHead (c :: ·) ++ cut escaped 0 t := by
        cases pieces with
        | nil => exact absurd rfl some
        | cons first more => rfl
      rw [List.cons_append, List.cons_append, cut, cut]
      split
      · rw [ih]
        rfl
      · rw [ih, joined (cut_ne_nil _ _ _)]

/-- The pieces of a row between its first bar and its last are those of its texts. -/
theorem cells_row (opens : escaped 0 = false) {texts : List String} (some : texts ≠ []) :
    cells escaped (row texts) = texts.flatMap fun text => cut escaped 0 (inRow text) := by
  have behind {texts : List String} (some : texts ≠ []) :
      cut escaped 0 (' ' :: (" | ".intercalate texts).toList ++ [' ', '|']) =
        (texts.flatMap fun text => cut escaped 0 (inRow text)) ++ [[]] := by
    induction texts with
    | nil => exact absurd rfl some
    | cons text rest ih =>
        cases rest with
        | nil =>
            rw [String.intercalate_singleton, cut_append_bar opens]
            simp [inRow, cut]
        | cons next more =>
            have joined : ' ' :: (" | ".intercalate (text :: next :: more)).toList ++ [' ', '|'] =
                (' ' :: text.toList) ++ ' ' :: '|' ::
                  (' ' :: (" | ".intercalate (next :: more)).toList ++ [' ', '|']) := by
              simp [String.intercalate_cons_cons]
            rw [joined, cut_append_bar opens, ih (by simp), ← List.append_assoc]
            rfl
  have whole : (row texts).toList =
      '|' :: (' ' :: (" | ".intercalate texts).toList ++ [' ', '|']) := by
    simp [row]
  rw [cells, whole, cut, if_pos (by simp [opens]), behind some, List.drop_one, List.tail_cons,
    List.dropLast_concat]

end Cutting

section Counting

/-- A text without bars has none that counts. -/
theorem barsBehind_of_barless (barless : '|' ∉ s) (slashes : Nat) :
    barsBehind counts slashes s = 0 := by
  induction s generalizing slashes with
  | nil => rfl
  | cons c rest ih =>
      have other : c ≠ '|' := List.ne_of_not_mem_cons barless |>.symm
      rw [barsBehind, ih (List.not_mem_of_not_mem_cons barless), if_neg (by simp [other])]

theorem barsBehind_append (counts : Nat → Bool) (slashes : Nat) (s t : List Char) :
    barsBehind counts slashes (s ++ t) =
      barsBehind counts slashes s + barsBehind counts (slashesAfter slashes s) t := by
  induction s generalizing slashes with
  | nil => simp [barsBehind]
  | cons c rest ih =>
      rw [List.cons_append, barsBehind, barsBehind, ih, slashesAfter_cons, Nat.add_assoc]

/-- A sign at each end that is neither a bar nor a backslash takes nothing from a text. -/
theorem barsBehind_enclosed {c : Char} (noBar : c ≠ '|') (noBackslash : c ≠ '\\')
    (counts : Nat → Bool) (s : List Char) :
    barsBehind counts 0 (c :: s ++ [c]) = barsBehind counts 0 s := by
  have last : barsBehind counts (slashesAfter 0 (c :: s)) [c] = 0 :=
    barsBehind_of_barless (by simpa using noBar.symm) _
  rw [barsBehind_append, last, barsBehind, slashesBehind_of_ne noBackslash,
    if_neg (by simp [noBar]), Nat.zero_add, Nat.add_zero]

/-- **What escaping does.** A bar that is escaped by one backslash more has one backslash more
before it than in the text itself. -/
theorem barsBehind_escapeBars (counts : Nat → Bool) (slashes : Nat) (s : List Char) :
    barsBehind counts slashes (escapeBars s) = barsBehind (fun n => counts (n + 1)) slashes s := by
  induction s generalizing slashes with
  | nil => rfl
  | cons c rest ih =>
      have step : escapeBars (c :: rest) =
          (if c == '|' then ['\\', '|'] else [c]) ++ escapeBars rest := rfl
      rw [step, barsBehind]
      by_cases bar : c = '|'
      · subst bar
        simp [barsBehind, ih, slashesBehind]
      · simp [bar, barsBehind, ih]

/-- The bars of a text that its cell leaves open. -/
theorem barsBehind_cell (counts : Nat → Bool) (text : String) :
    barsBehind counts 0 (cell text).toList =
      barsBehind (fun n => counts (n + 1)) 0 (oneLine text).toList := by
  rw [cell, String.toList_ofList, barsBehind_escapeBars]

/-- A text in a row is one cell, and one more for each bar in it that is open. -/
theorem length_cut_inRow (escaped : Nat → Bool) (text : String) :
    (cut escaped 0 (inRow text)).length =
      1 + barsBehind (fun n => !escaped n) 0 text.toList := by
  rw [length_cut, inRow, barsBehind_enclosed (by decide) (by decide)]

/-- The cell of a text is one more for each bar that the escaping leaves open. -/
theorem length_cut_cell (text : String) :
    (cut byOdd 0 (inRow (cell text))).length = 1 + lapses text := by
  have opens : (fun n => !byOdd (n + 1)) = byOdd := by
    funext n
    rw [byOdd_succ, Bool.not_not]
  rw [length_cut_inRow, barsBehind_cell, opens, lapses]

/-- Numbers, times and names are one cell. -/
theorem barsBehind_of_areFigures (figures : areFigures text = true) :
    barsBehind counts 0 text.toList = 0 := by
  refine barsBehind_of_barless (fun among => ?_) 0
  exact ne_of_isFigure (List.all_eq_true.mp figures _ among) (by decide) rfl

theorem barsBehind_eq_zero_iff (counts : Nat → Bool) (slashes : Nat) (s : List Char) :
    barsBehind counts slashes s = 0 ↔ ∀ front back, s = front ++ '|' :: back →
      counts (slashesAfter slashes front) = false := by
  induction s generalizing slashes with
  | nil => simp [barsBehind]
  | cons c rest ih =>
      rw [barsBehind, Nat.add_eq_zero_iff, ih, ite_eq_right_iff]
      constructor
      · rintro ⟨first, later⟩ front back whole
        cases front with
        | nil =>
            obtain ⟨bar, -⟩ := List.cons.inj whole
            simpa [bar] using first
        | cons d front =>
            obtain ⟨rfl, same⟩ := List.cons.inj whole
            exact later front back same
      · intro all
        refine ⟨fun opens => ?_,
          fun front back whole => all (c :: front) back (by rw [whole]; rfl)⟩
        obtain ⟨bar, counted⟩ := (Bool.and_eq_true ..).mp opens
        have uncounted := all [] rest (by rw [of_decide_eq_true bar]; rfl)
        rw [slashesAfter_nil, counted] at uncounted
        cases uncounted

/-- No bar of a text is left open just if none has an odd number of backslashes before it. -/
theorem lapses_eq_zero_iff (text : String) :
    lapses text = 0 ↔ ∀ front back, (oneLine text).toList = front ++ '|' :: back →
      byOdd (front.rtakeWhile (· == '\\')).length = false := by
  simp only [lapses, barsBehind_eq_zero_iff, slashesAfter_eq]

end Counting

section Rows

/-- The header of the table of steps. -/
def stepHeader : String :=
  "| Step | Action | Description | Result | Duration | Notes |"

theorem length_cells_stepHeader : (cells byOdd stepHeader).length = 6 := by decide +kernel

/-- The line between the header of the table of steps and its rows. -/
def stepRule : String :=
  "|------|--------|-------------|--------|----------|-------|"

/-- The header of the table of healings. -/
def healingHeader : String :=
  "| # | Original | Healed | Strategy | Time |"

theorem length_cells_healingHeader : (cells byOdd healingHeader).length = 5 := by decide +kernel

/-- The line between the header of the table of healings and its rows. -/
def healingRule : String :=
  "|---|----------|--------|----------|------|"

/-- The table of the steps is a row for each report below its header. -/
theorem markdownSteps_eq (result : RunResult) :
    result.markdownSteps =
      "\n".intercalate (["## Step Results", stepHeader, stepRule] ++
        result.stepReports.map StepReport.markdownRow) := rfl

/-- The table of the healings, if there are any, is a row for each record below its header. -/
theorem markdownHealing_eq {result : RunResult} (some : result.healingRecords ≠ []) :
    result.markdownHealing =
      "\n".intercalate (["## Self-Healing", healingHeader, healingRule] ++
        RunResult.healingRows 1 result.healingRecords) := by
  rw [RunResult.markdownHealing, if_neg (by simpa using some)]
  rfl

theorem areFigures_actionName (action : Action) : areFigures action.name = true := by
  cases action <;> decide

theorem areFigures_strategyName {strategy : Strategy} (standard : strategy ∈ Strategy.standard) :
    areFigures strategy.name = true := by
  have all : ∀ name ∈ Strategy.standard.map Strategy.name, areFigures name = true := by decide
  exact all _ (List.mem_map_of_mem standard)

theorem areFigures_verdict (report : StepReport) : areFigures report.verdict = true := by
  unfold StepReport.verdict
  split <;> decide

theorem areFigures_shownSeconds (report : StepReport) :
    areFigures (report.seconds.fixed 1 ++ "s") = true := by
  rw [areFigures_append, areFigures_fixed]
  decide

/-- Texts without open bars are the cells of their row. -/
theorem cells_row_of_closed (opens : escaped 0 = false) {texts : List String} (some : texts ≠ [])
    (closed : ∀ text ∈ texts, barsBehind (fun n => !escaped n) 0 text.toList = 0) :
    cells escaped (row texts) = texts.map inRow := by
  have alone (text : String) (among : text ∈ texts) :
      cut escaped 0 (inRow text) = [inRow text] := by
    refine cut_of_closed ?_
    rw [inRow, barsBehind_enclosed (by decide) (by decide), closed text among]
  rw [cells_row opens some, List.flatMap_congr alone]
  exact List.flatMap_pure_eq_map inRow texts

/-- Texts with open bars make one cell more for each of these. -/
theorem length_cells_row {texts : List String} (some : texts ≠ []) :
    (cells byOdd (row texts)).length =
      (texts.map fun text => 1 + barsBehind (fun n => !byOdd n) 0 text.toList).sum := by
  rw [cells_row rfl some, List.length_flatMap]
  exact congrArg List.sum (List.map_congr_left fun text _ => length_cut_inRow byOdd text)

/-- A text between backticks in a row. -/
theorem barsBehind_quoted (counts : Nat → Bool) (text : String) :
    barsBehind counts 0 s!"\x60{text}\x60".toList = barsBehind counts 0 text.toList := by
  have enclosed : s!"\x60{text}\x60".toList = '\x60' :: text.toList ++ ['\x60'] := by
    rw [String.toList_append, String.toList_append]
    rfl
  rw [enclosed, barsBehind_enclosed (by decide) (by decide)]

/-- **Rows and their headers.** Every row has the cells of its header, and one more for each bar of
a text that an odd number of the text's own backslashes stands before: escaping adds one backslash
without a look at these. The rows below these headers are the tables of a result. -/
theorem cells_of_rows {report : StepReport} {action : Action} {record : HealingRecord}
    {strategy : Strategy} (named : report.action = action.name)
    (standard : strategy ∈ Strategy.standard) (healed : record.strategy = strategy.name)
    (index : Nat) (result : RunResult) :
    ((cells byOdd report.markdownRow).length =
        (cells byOdd stepHeader).length + lapses report.description +
          lapses (noteText report.remark)) ∧
      ((cells byOdd (record.markdownRow index)).length =
        (cells byOdd healingHeader).length + lapses record.reference + lapses record.healed) ∧
      ((cells byOdd stepHeader).length = 6 ∧ (cells byOdd healingHeader).length = 5) ∧
      (∀ text, lapses text = 0 ↔ ∀ front back, (oneLine text).toList = front ++ '|' :: back →
        byOdd (front.rtakeWhile (· == '\\')).length = false) ∧
      result.markdownSteps = "\n".intercalate (["## Step Results", stepHeader, stepRule] ++
        result.stepReports.map StepReport.markdownRow) ∧
      (result.healingRecords ≠ [] → result.markdownHealing =
        "\n".intercalate (["## Self-Healing", healingHeader, healingRule] ++
          RunResult.healingRows 1 result.healingRecords)) := by
  have figures {text : String} (written : areFigures text = true) :
      barsBehind (fun n => !byOdd n) 0 text.toList = 0 := barsBehind_of_areFigures written
  -- Numbers, times and names have no bars, so that only the texts can open cells.
  have texts (text : String) :
      1 + barsBehind (fun n => !byOdd n) 0 (cell text).toList = 1 + lapses text := by
    rw [← length_cut_inRow, length_cut_cell]
  refine ⟨?_, ?_, ⟨length_cells_stepHeader, length_cells_healingHeader⟩, lapses_eq_zero_iff,
    markdownSteps_eq result, markdownHealing_eq⟩
  · have ordinal := figures (areFigures_int report.ordinal)
    have action := figures (areFigures_actionName action)
    have verdict := figures (areFigures_verdict report)
    have seconds := figures (areFigures_shownSeconds report)
    rw [StepReport.markdownRow, length_cells_row (by simp), length_cells_stepHeader, named]
    simp only [List.map_cons, List.map_nil, List.sum_cons, List.sum_nil, texts, ordinal, action,
      verdict, seconds]
    omega
  · have index := figures (areFigures_nat index)
    have strategy := figures (areFigures_strategyName standard)
    have time := figures (areFigures_isoSeconds record.time)
    rw [HealingRecord.markdownRow, length_cells_row (by simp), length_cells_healingHeader, healed]
    simp only [List.map_cons, List.map_nil, List.sum_cons, List.sum_nil, barsBehind_quoted, texts,
      index, strategy, time]
    omega

/-- A step of which the description has a bar. -/
def clickOf (description : String) : StepReport where
  ordinal := 1
  description := description
  action := "UI_CLICK"
  passed := true
  seconds := .int 0

/-- The record of a reference with an escaped bar, which was found by its text. -/
def healedTitle : HealingRecord where
  reference := "[title=\"a\\|b\"]"
  healed := "text=a|b"
  strategy := "text"
  time := ⟨0, none⟩

/-- A run of such a step, in which this reference was healed. -/
def runWithBars : RunResult where
  runId := "RUN-1"
  promptName := "bars"
  environment := "test"
  passed := true
  startTime := "2026-02-19T10:00:00+00:00"
  endTime := "2026-02-19T10:00:01+00:00"
  seconds := .int 1
  stepReports := [clickOf "Match a|b or c\\\\|d"]
  healingRecords := [healedTitle]

theorem cells_of_rows_bars :
    (cells byOdd (clickOf "Match a|b or c\\\\|d").markdownRow).length = 6 ∧
      (cells byOdd (healedTitle.markdownRow 1)).length = 6 ∧
      runWithBars.markdownHealing =
        "\n".intercalate ["## Self-Healing", healingHeader, healingRule,
          healedTitle.markdownRow 1] := by
  obtain ⟨steps, healings, ⟨six, five⟩, -, -, table⟩ :=
    @cells_of_rows (clickOf "Match a|b or c\\\\|d") .uiClick healedTitle Strategy.visibleText rfl
      (by simp [Strategy.standard]) rfl 1 runWithBars
  have description : lapses (clickOf "Match a|b or c\\\\|d").description = 0 := by decide
  have notes : lapses (noteText (clickOf "Match a|b or c\\\\|d").remark) = 0 := by decide
  have reference : lapses healedTitle.reference = 1 := by decide
  have healed : lapses healedTitle.healed = 0 := by decide
  rw [steps, healings, six, five, description, notes, reference, healed]
  exact ⟨rfl, rfl, table (by decide)⟩

/-- A row with a bar that is escaped already has a cell too many. -/
theorem cells_of_alternation :
    (cells byOdd (clickOf "Match a\\|b").markdownRow).length = 7 ∧
      (cells byOdd stepHeader).length = 6 := by
  decide +kernel

end Rows

end Markdown

end Walkthrough
