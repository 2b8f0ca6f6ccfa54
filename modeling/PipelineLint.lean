import PipelineLint.Answer
import PipelineLint.CommandLine
import PipelineLint.Credentials
import PipelineLint.Crumb
import PipelineLint.Diagnostic
import PipelineLint.Error
import PipelineLint.FileSystem.Listing
import PipelineLint.Http.Exchange
import PipelineLint.Http.Script
import PipelineLint.Http.Wire
import PipelineLint.Lint
import PipelineLint.Log
import PipelineLint.Main
import PipelineLint.Notice
import PipelineLint.Profiles
import PipelineLint.Report
import PipelineLint.Run
import PipelineLint.Session
import PipelineLint.Settings
import PipelineLint.Proofs.Lint.Verdict
import PipelineLint.Proofs.Run.Trace
import PipelineLint.Proofs.Json.Grammar
import PipelineLint.Proofs.Json.Skipping
import PipelineLint.Proofs.Answer.Shape
import PipelineLint.Proofs.Json.Reading
import PipelineLint.Proofs.Answer.Reading
import PipelineLint.Proofs.Report.Output
import PipelineLint.Proofs.Diagnostic.Message
import PipelineLint.Proofs.Profiles.Lookup
import PipelineLint.Proofs.Text.Utf8
import PipelineLint.Proofs.Http.Form
import PipelineLint.Proofs.Session.Outcome
import PipelineLint.Proofs.Lint.Submission
import PipelineLint.Proofs.Lint.Statuses
import PipelineLint.Proofs.Lint.Visits
import PipelineLint.Proofs.Session.Calls
import PipelineLint.Proofs.Session.Lifetime
import PipelineLint.Proofs.Text.Runs
import PipelineLint.Proofs.Ini.Reading
import PipelineLint.Proofs.Session.Process
import PipelineLint.Proofs.Ini.Written
import PipelineLint.Proofs.Profiles.Documents
import PipelineLint.Proofs.Report.Limit
import PipelineLint.Proofs.Diagnostic.Echo
import PipelineLint.Proofs.Settings.Sources
import PipelineLint.Proofs.Http.Base64
import PipelineLint.Proofs.Http.UserInfo
import PipelineLint.Proofs.Http.Authorization
import PipelineLint.Proofs.Session.Crumb
import PipelineLint.Proofs.Run.Authorization
import PipelineLint.Proofs.Json.Extension
import PipelineLint.Proofs.Report.Truncation
import PipelineLint.Proofs.Lint.Phases
import PipelineLint.Proofs.Profiles.Faults
import PipelineLint.Proofs.CommandLine.Pieces
import PipelineLint.Proofs.CommandLine.Spelling
import PipelineLint.Proofs.Text.Lines
import PipelineLint.Proofs.Report.Lines
import PipelineLint.Proofs.Http.Address
import PipelineLint.Proofs.Http.Body
import PipelineLint.Proofs.Session.Posting
