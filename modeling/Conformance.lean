import Conformance.CommandLine.Help
import Conformance.CommandLine.Misuse
import Conformance.CommandLine.Opt
import Conformance.CommandLine.Parser
import Conformance.CommandLine.Value
import Conformance.Duration
import Conformance.FileSystem.Resolve
import Conformance.FileSystem.Tree
import Conformance.Fixture
import Conformance.Invocation
import Conformance.Json
import Conformance.Listing
import Conformance.Log
import Conformance.Main
import Conformance.Obstacle
import Conformance.OsError
import Conformance.Path
import Conformance.Program
import Conformance.Proofs.CommandLine.Choices
import Conformance.Proofs.CommandLine.Words
import Conformance.Proofs.Duration
import Conformance.Proofs.Fixture
import Conformance.Proofs.Json
import Conformance.Proofs.Json.Grammar
import Conformance.Proofs.Listing
import Conformance.Proofs.Listing.Directory
import Conformance.Proofs.Program.DryRun
import Conformance.Proofs.Program.ExitCode
import Conformance.Proofs.Report.Beneath
import Conformance.Proofs.Report.Captured
import Conformance.Proofs.Report.ClosingLine
import Conformance.Proofs.Report.Color
import Conformance.Proofs.Report.ConsoleLines
import Conformance.Proofs.Report.Deliveries
import Conformance.Proofs.Report.FixtureRecord
import Conformance.Proofs.Report.JsonLines
import Conformance.Proofs.Report.Layout
import Conformance.Proofs.Report.Sound
import Conformance.Proofs.Rounding
import Conformance.Proofs.Run.Abort
import Conformance.Proofs.Run.BrokenSink
import Conformance.Proofs.Run.Complete
import Conformance.Proofs.Run.Composition
import Conformance.Proofs.Run.Course
import Conformance.Proofs.Run.FailFast
import Conformance.Proofs.Run.Noninterference
import Conformance.Proofs.Run.Results
import Conformance.Proofs.Selection
import Conformance.Proofs.Settings
import Conformance.Proofs.Subject.Channel
import Conformance.Proofs.Subject.Drain
import Conformance.Proofs.Subject.Interleaving
import Conformance.Proofs.Subject.Output
import Conformance.Proofs.Subject.Timeout
import Conformance.Proofs.Subject.Turns
import Conformance.Proofs.Subject.WaitStatus
import Conformance.Proofs.Tally
import Conformance.Proofs.Text.Lossy
import Conformance.Proofs.Text.Printable
import Conformance.Proofs.Text.Rows
import Conformance.Proofs.Text.Utf8
import Conformance.Proofs.Verdict
import Conformance.Report.Console
import Conformance.Report.Delivery
import Conformance.Report.Event
import Conformance.Report.JsonLines
import Conformance.Report.Sink
import Conformance.Rounding
import Conformance.Run
import Conformance.Scratch
import Conformance.Scratch.Script
import Conformance.Settings
import Conformance.Subject.Behaviour
import Conformance.Subject.Channel
import Conformance.Subject.Drain
import Conformance.Subject.Invoke
import Conformance.Subject.TimedWait
import Conformance.Tally
import Conformance.Text.Alphanumeric
import Conformance.Text.CodeRanges
import Conformance.Text.Columns
import Conformance.Text.Invisible
import Conformance.Text.LineBreak
import Conformance.Text.LineBreak.Class
import Conformance.Text.Lines
import Conformance.Text.Page
import Conformance.Text.Quoted
import Conformance.Text.Terminal
import Conformance.Text.Utf8
import Conformance.Text.Visible
import Conformance.Verdict
import Conformance.Version
