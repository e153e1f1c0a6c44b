import Walkthrough.Disk.Path
import Walkthrough.Json.Writing
import Walkthrough.Report.Basic

/-!
# The result of a run as JSON
-/

namespace Walkthrough

/-- A step's report as JSON. -/
def StepReport.toJson (report : StepReport) : Json :=
  .object [("ordinal", .int report.ordinal), ("description", .text report.description),
    ("action", .text report.action), ("passed", .bool report.passed),
    ("duration_seconds", .number report.seconds),
    ("error", (report.error.map Json.text).getD .null), ("notes", .text report.notes)]

/-- A healing as JSON. -/
def HealingRecord.toJson (record : HealingRecord) : Json :=
  .object [("original_reference", .text record.reference),
    ("healed_reference", .text record.healed), ("strategy", .text record.strategy),
    ("timestamp", .text record.time.spaced)]

/-- The result of a run as JSON, with the path of its report if there is one. -/
def RunResult.toJson (result : RunResult) (reportPath : Option Path) : Json :=
  .object [("run_id", .text result.runId), ("prompt_name", .text result.promptName),
    ("environment", .text result.environment), ("passed", .bool result.passed),
    ("start_time", .text result.startTime), ("end_time", .text result.endTime),
    ("duration_seconds", .number result.seconds),
    ("step_reports", .list (result.stepReports.map StepReport.toJson)),
    ("healing_records", .list (result.healingRecords.map HealingRecord.toJson)),
    ("variables", .object result.vars), ("self_healing", .bool result.selfHealing),
    ("total_steps", (result.totalSteps.map Json.int).getD .null),
    ("report_path", (reportPath.map fun path => Json.text path.text).getD .null)]

end Walkthrough
