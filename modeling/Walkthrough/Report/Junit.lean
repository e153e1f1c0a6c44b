import Walkthrough.Report.Basic
import Walkthrough.Xml.Basic

/-!
# The result of a run as a test suite

A suite in the form that build servers read: a test case for each step, and a failure in each that
failed.
-/

namespace Walkthrough

/-- The test case of a step. -/
def StepReport.testCase (promptName : String) (report : StepReport) : Xml :=
  let error := report.error.getD ""
  .branch "testcase"
    [("name", s!"Step {report.ordinal}: {report.description}"),
      ("classname", s!"promptqa.{promptName}"), ("time", report.seconds.fixed 2)]
    (if report.passed then []
      else [.leaf "failure" [("message", if error.isEmpty then "Step failed" else error)] error])

/-- The test suite of the steps of a prompt. -/
def testSuite (promptName : String) (seconds : Number) (reports : List StepReport) : Xml :=
  let failures := (reports.filter fun report => !report.passed).length
  .branch "testsuite"
    [("name", s!"promptqa-{promptName}"), ("tests", toString reports.length),
      ("time", seconds.fixed 2), ("failures", toString failures)]
    (reports.map (StepReport.testCase promptName))

/-- The document of a test suite, if its durations can be shown. -/
def checkedSuite (promptName : String) (seconds : Number) (reports : List StepReport) :
    Except ShowFault String := do
  checkDurations (seconds :: reports.map (·.seconds))
  return (testSuite promptName seconds reports).document

end Walkthrough
