import Walkthrough.Main
import Walkthrough.Proofs.Session.Run
import Walkthrough.Proofs.Session.Scope
import Walkthrough.Proofs.Page.Scope
import Walkthrough.Proofs.Steps.Scope
import Walkthrough.Proofs.Steps.Execution
import Walkthrough.Proofs.Steps.Lack
import Walkthrough.Proofs.Prompt.Scan
import Walkthrough.Proofs.Steps.Reports
import Walkthrough.Proofs.Healing.Search
import Walkthrough.Proofs.Healing.Resolve
import Walkthrough.Proofs.Text.Matching
import Walkthrough.Proofs.Variables.Placeholders
import Walkthrough.Proofs.Variables.Split
import Walkthrough.Proofs.Api.Request
import Walkthrough.Proofs.Api.Markup
import Walkthrough.Proofs.Steps.Request
import Walkthrough.Proofs.Steps.Writes
import Walkthrough.Proofs.Steps.Captured
import Walkthrough.Proofs.Steps.Expansion
import Walkthrough.Proofs.Steps.Stored
import Walkthrough.Proofs.Steps.Names
import Walkthrough.Proofs.Session.Confined
import Walkthrough.Proofs.Outside.Orderly
import Walkthrough.Proofs.Session.Browser
import Walkthrough.Proofs.Command.Start
import Walkthrough.Proofs.Command.Conclusion
import Walkthrough.Proofs.Command.Course
import Walkthrough.Proofs.Command.Work
import Walkthrough.Proofs.Command.Verdict
import Walkthrough.Proofs.Command.Closing
import Walkthrough.Proofs.Command.Outcome
import Walkthrough.Proofs.Command.Loading
import Walkthrough.Proofs.Session.Parallel
import Walkthrough.Proofs.Page.Parallel
import Walkthrough.Proofs.Steps.Parallel
import Walkthrough.Proofs.Outside.Recorded
import Walkthrough.Proofs.Outside.Steady
import Walkthrough.Proofs.Text.Lines
import Walkthrough.Proofs.Text.Preference
import Walkthrough.Proofs.Text.Letters
import Walkthrough.Proofs.Text.Boundary
import Walkthrough.Proofs.Prompt.Form
import Walkthrough.Proofs.Prompt.Header
import Walkthrough.Proofs.Prompt.Rendering
import Walkthrough.Proofs.Prompt.Directive
import Walkthrough.Proofs.Prompt.Append
import Walkthrough.Proofs.Text.Utf8
import Walkthrough.Proofs.Prompt.File
import Walkthrough.Proofs.Healing.Log
import Walkthrough.Proofs.Healing.Transparency
import Walkthrough.Proofs.Steps.Append
import Walkthrough.Proofs.Steps.Asked
import Walkthrough.Proofs.Prompt.Secret
import Walkthrough.Proofs.Steps.Secret
import Walkthrough.Proofs.Steps.Switch
import Walkthrough.Proofs.Steps.Owned
import Walkthrough.Proofs.Settings.Selection
import Walkthrough.Proofs.Settings.Fitness
import Walkthrough.Proofs.Report.Suite
import Walkthrough.Proofs.Decimal.Rounding
import Walkthrough.Proofs.Decimal.Parts
import Walkthrough.Proofs.Decimal.Nearest
import Walkthrough.Proofs.Decimal.Shortest
import Walkthrough.Proofs.Json.Names
import Walkthrough.Proofs.Json.Standard
import Walkthrough.Proofs.Json.Numeral
import Walkthrough.Proofs.Json.Strings
import Walkthrough.Proofs.Json.Document
import Walkthrough.Proofs.Report.Record
import Walkthrough.Proofs.Command.Printed
import Walkthrough.Proofs.Text.Search
import Walkthrough.Proofs.Text.Finding
import Walkthrough.Proofs.Text.Place
import Walkthrough.Proofs.Text.Reading
import Walkthrough.Proofs.Text.LineOf
import Walkthrough.Proofs.Prompt.Quoted
import Walkthrough.Proofs.Prompt.Variable
import Walkthrough.Proofs.Prompt.Key
import Walkthrough.Proofs.Prompt.Fields
import Walkthrough.Proofs.Prompt.Detection
import Walkthrough.Proofs.Steps.Click
import Walkthrough.Proofs.Page.Deed
import Walkthrough.Proofs.Page.Evidence
import Walkthrough.Proofs.Steps.Attempts
import Walkthrough.Proofs.Steps.Verify
import Walkthrough.Proofs.Outside.Failing
import Walkthrough.Proofs.Session.Acquired
import Walkthrough.Proofs.Session.Enclosed
import Walkthrough.Proofs.Healing.Attributes
import Walkthrough.Proofs.Healing.Partial
import Walkthrough.Proofs.Steps.Login
import Walkthrough.Proofs.Prompt.Action
import Walkthrough.Proofs.Text.Backslashes
import Walkthrough.Proofs.Decimal.Figures
import Walkthrough.Proofs.Report.Table
import Walkthrough.Proofs.Report.Sections
import Walkthrough.Proofs.Command.Accounts
import Walkthrough.Proofs.Console.Tags
import Walkthrough.Proofs.Console.Verbatim
import Walkthrough.Proofs.Prompt.Returns
import Walkthrough.Proofs.Settings.Unstated
import Walkthrough.Proofs.Variables.History
import Walkthrough.Proofs.Disk.Child
import Walkthrough.Proofs.Page.Screenshot
