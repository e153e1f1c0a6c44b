import Walkthrough.Proofs.Json.Document
import Walkthrough.Report.Record

/-!
# Reading a result back

What a result says of how its run went can be read back from the document that it is written as
(`Walkthrough.RunRecord.ofJson?_toJson`). The text of a result is such a document just if all its
durations and all doubles in its variables are finite (`Walkthrough.RunResult.decode?_printed`).
-/

namespace Walkthrough

namespace Json

/-- The truth value that a value is. -/
def bool? : Json → Option Bool
  | bool value => some value
  | _ => none

/-- The number that a value is. -/
def number? : Json → Option Number
  | number value => some value
  | _ => none

/-- The whole number that a value is. -/
def int? : Json → Option Int
  | number (.int value) => some value
  | _ => none

/-- The text that a value is. -/
def text? : Json → Option String
  | text value => some value
  | _ => none

/-- The text that a value may be, or null. -/
def note? : Json → Option (Option String)
  | null => some none
  | text value => some (some value)
  | _ => none

/-- The items of a list. -/
def items? : Json → Option (List Json)
  | list items => some items
  | _ => none

/-- The members of an object. -/
def fields? : Json → Option (List (String × Json))
  | object fields => some fields
  | _ => none

theorem joinedItems_eq_map (items : List Json) : joinedItems items = items.map joined := by
  induction items with
  | nil => rw [joinedItems, List.map_nil]
  | cons item rest ih => rw [joinedItems, List.map_cons, ih]

theorem areFinite_eq_all (items : List Json) : areFinite items = items.all isFinite := by
  induction items with
  | nil => rw [areFinite, List.all_nil]
  | cons item rest ih => rw [areFinite, List.all_cons, ih]

end Json

namespace StepReport

/-- The report that a value stands for. -/
def ofJson? (value : Json) : Option StepReport := do
  return {
    ordinal := ← (← value.field? "ordinal").int?
    description := ← (← value.field? "description").text?
    action := ← (← value.field? "action").text?
    passed := ← (← value.field? "passed").bool?
    seconds := ← (← value.field? "duration_seconds").number?
    error := ← (← value.field? "error").note?
    notes := ← (← value.field? "notes").text? }

/-- A report with the halves of characters joined in its texts. -/
def joined (report : StepReport) : StepReport :=
  { report with
    description := Text.joined report.description
    action := Text.joined report.action
    error := report.error.map Text.joined
    notes := Text.joined report.notes }

/-- A report whose texts have no halves to join. -/
structure Tidy (report : StepReport) : Prop where
  description : Text.Tidy report.description
  action : Text.Tidy report.action
  error : ∀ error ∈ report.error, Text.Tidy error
  notes : Text.Tidy report.notes

theorem Tidy.joined_eq {report : StepReport} (tidy : report.Tidy) : report.joined = report := by
  have error : report.error.map Text.joined = report.error := by
    cases said : report.error with
    | none => rfl
    | some error => rw [Option.map_some, (tidy.error error said).joined_eq]
  rw [joined, tidy.description.joined_eq, tidy.action.joined_eq, tidy.notes.joined_eq, error]

theorem toJson_isFinite (report : StepReport) :
    report.toJson.isFinite = report.seconds.isFinite := by
  cases said : report.error <;>
    simp [toJson, said, Json.isFinite, Json.haveFinite, Json.int, Number.isFinite]

/-- The names of a report's members have no halves to join, and each is there once. -/
theorem toJson_joined (report : StepReport) :
    report.toJson.joined = .object [("ordinal", .int report.ordinal),
      ("description", .text (Text.joined report.description)),
      ("action", .text (Text.joined report.action)), ("passed", .bool report.passed),
      ("duration_seconds", .number report.seconds),
      ("error", (report.error.map fun error => Json.text (Text.joined error)).getD .null),
      ("notes", .text (Text.joined report.notes))] := by
  rw [toJson, Json.joined, Json.joinedFields_of_plain []
    (by simp only [List.forall_mem_cons]; decide) (by simp)]
  cases said : report.error <;> rfl

/-- A report is read back with the halves of characters joined. -/
theorem ofJson?_toJson (report : StepReport) : ofJson? report.toJson.joined = some report.joined := by
  rw [toJson_joined]
  cases said : report.error <;>
    simp [ofJson?, joined, said, Json.field?, Fields.get?, Json.int, Json.int?, Json.text?,
      Json.bool?, Json.number?, Json.note?]

end StepReport

/-- What a result says of how its run went. -/
structure RunRecord where
  passed : Bool
  stepReports : List StepReport
  vars : List (String × Json)

/-- What a result says of how its run went. -/
def RunResult.record (result : RunResult) : RunRecord where
  passed := result.passed
  stepReports := result.stepReports
  vars := result.vars

namespace RunRecord

/-- The record that a value stands for, whatever else it holds. -/
def ofJson? (value : Json) : Option RunRecord := do
  let reports ← (← value.field? "step_reports").items?
  return {
    passed := ← (← value.field? "passed").bool?
    stepReports := ← reports.mapM StepReport.ofJson?
    vars := ← (← value.field? "variables").fields? }

/-- Whether all durations and all doubles in a record are finite. -/
def isFinite (record : RunRecord) : Bool :=
  record.stepReports.all (·.seconds.isFinite) && Json.haveFinite record.vars

/-- A record with the halves of characters joined in all its texts. -/
def joined (record : RunRecord) : RunRecord :=
  { record with
    stepReports := record.stepReports.map StepReport.joined
    vars := Json.joinedFields [] record.vars }

/-- A record with no halves to join in its texts. -/
structure Tidy (record : RunRecord) : Prop where
  stepReports : ∀ report ∈ record.stepReports, report.Tidy
  vars : Json.HaveTidy record.vars

/-- What is read back of a tidy record with every name once is the record itself. -/
theorem Tidy.joined_eq {record : RunRecord} (tidy : record.Tidy)
    (once : (Json.object record.vars).Once) : record.joined = record := by
  have reports : record.stepReports.map StepReport.joined = record.stepReports :=
    (List.map_congr_left fun report among => (tidy.stepReports report among).joined_eq).trans
      (List.map_id _)
  have vars : Json.joinedFields [] record.vars = record.vars := by
    rw [Json.joinedFields_of_plain [] tidy.vars.names once.1, List.nil_append,
      Json.HaveTidy.joined_eq record.vars tidy.vars once.2]
  rw [joined, reports, vars]

end RunRecord

namespace RunResult

theorem toJson_isFinite (result : RunResult) (reportPath : Option Path) :
    (result.toJson reportPath).isFinite = (result.seconds.isFinite && result.record.isFinite) := by
  have healed (record : HealingRecord) : record.toJson.isFinite = true := rfl
  have total : ((result.totalSteps.map Json.int).getD .null).isFinite = true := by
    cases result.totalSteps <;> rfl
  have place : ((reportPath.map fun path => Json.text path.text).getD .null).isFinite = true := by
    cases reportPath <;> rfl
  rw [Bool.eq_iff_iff]
  simp [toJson, record, RunRecord.isFinite, Json.isFinite, Json.haveFinite, Json.areFinite_eq_all,
    StepReport.toJson_isFinite, healed, total, place]

theorem mapM_ofJson? (reports : List StepReport) :
    (Json.joinedItems (reports.map StepReport.toJson)).mapM StepReport.ofJson? =
      some (reports.map StepReport.joined) := by
  rw [Json.joinedItems_eq_map]
  induction reports with
  | nil => rfl
  | cons report rest ih =>
      rw [List.map_cons, List.map_cons, List.mapM_cons, StepReport.ofJson?_toJson, ih]
      rfl

/-- What a result says of its run is read back with the halves of characters joined. -/
theorem ofJson?_toJson (result : RunResult) (reportPath : Option Path) :
    RunRecord.ofJson? (result.toJson reportPath).joined = some result.record.joined := by
  rw [toJson, Json.joined, Json.joinedFields_of_plain []
    (by simp only [List.forall_mem_cons]; decide) (by simp)]
  simp [RunRecord.ofJson?, RunRecord.joined, record, Json.field?, Fields.get?, Json.joined,
    Json.bool?, Json.items?, Json.fields?, mapM_ofJson?]

/-- The text that a result is put out as. -/
def printed (result : RunResult) (reportPath : Option Path) : String :=
  (result.toJson reportPath).indented ++ "\n"

/-- **What the text of a result is good for.** It is a document of the standard just if all
durations of the result and all doubles in its variables are finite. What the result says of its
run is then read back from it, with the halves of characters joined. -/
theorem decode?_printed (result : RunResult) (reportPath : Option Path) :
    (Json.Standard.decode? (result.printed reportPath)).isSome =
        (result.seconds.isFinite && result.record.isFinite) ∧
      ∀ value, Json.Standard.decode? (result.printed reportPath) = some value →
        RunRecord.ofJson? value = some result.record.joined := by
  rw [printed, Json.decode?_indented, toJson_isFinite]
  cases result.seconds.isFinite && result.record.isFinite with
  | true =>
      rw [if_pos rfl]
      refine ⟨rfl, fun value read => ?_⟩
      rw [← Option.some.inj read, ofJson?_toJson]
  | false => exact ⟨rfl, fun value read => nomatch read⟩

end RunResult

end Walkthrough
