import GoldenRun.Bytes.Basic
import GoldenRun.Bytes.Utf8
import GoldenRun.Command
import GoldenRun.CommandLine.Choices
import GoldenRun.CommandLine.Fault
import GoldenRun.CommandLine.Occurrence
import GoldenRun.CommandLine.Option
import GoldenRun.CommandLine.Refusal
import GoldenRun.CommandLine.Value
import GoldenRun.Config
import GoldenRun.Discovery
import GoldenRun.Duration
import GoldenRun.Errno
import GoldenRun.Event
import GoldenRun.Failure
import GoldenRun.Files.Node
import GoldenRun.Files.Planting
import GoldenRun.Files.Tree
import GoldenRun.Files.WellFormed
import GoldenRun.Json
import GoldenRun.LogFilter
import GoldenRun.Machine.ByteText
import GoldenRun.Machine.Calendar
import GoldenRun.Machine.Difference.Alignment
import GoldenRun.Machine.Difference.Columns
import GoldenRun.Machine.Difference.Groups
import GoldenRun.Machine.Difference.Hunk
import GoldenRun.Machine.Difference.Look
import GoldenRun.Machine.Difference.Order
import GoldenRun.Machine.Difference.Script
import GoldenRun.Machine.Difference.Selection
import GoldenRun.Machine.Difference.Way
import GoldenRun.Machine.Editor.Grammar
import GoldenRun.Machine.Editor.Session
import GoldenRun.Machine.Editor.Syntax
import GoldenRun.Machine.Escape
import GoldenRun.Machine.Finding.Expression
import GoldenRun.Machine.Finding.Report
import GoldenRun.Machine.Floating
import GoldenRun.Machine.Launch.Basic
import GoldenRun.Machine.Launch.Batches
import GoldenRun.Machine.Launch.Hunt
import GoldenRun.Machine.Launch.Limits
import GoldenRun.Machine.Layout
import GoldenRun.Machine.Numeral
import GoldenRun.Machine.Pattern
import GoldenRun.Machine.Runner
import GoldenRun.Machine.Shape
import GoldenRun.Machine.Shell.Arithmetic
import GoldenRun.Machine.Shell.Command.Basic
import GoldenRun.Machine.Shell.Command.Directory
import GoldenRun.Machine.Shell.Command.Lookup
import GoldenRun.Machine.Shell.Command.Signal
import GoldenRun.Machine.Shell.Command.Utility
import GoldenRun.Machine.Shell.Command.Variable
import GoldenRun.Machine.Shell.Environment
import GoldenRun.Machine.Shell.Expansion
import GoldenRun.Machine.Shell.Grammar
import GoldenRun.Machine.Shell.Interpreter
import GoldenRun.Machine.Shell.Pattern
import GoldenRun.Machine.Shell.Redirect
import GoldenRun.Machine.Shell.Scene
import GoldenRun.Machine.Shell.Syntax
import GoldenRun.Machine.System
import GoldenRun.Machine.Utility.Basic
import GoldenRun.Machine.Utility.Calculation
import GoldenRun.Machine.Utility.Characters
import GoldenRun.Machine.Utility.Collation
import GoldenRun.Machine.Utility.Compare
import GoldenRun.Machine.Utility.Condition.Inner
import GoldenRun.Machine.Utility.Condition.Program
import GoldenRun.Machine.Utility.Condition.Property
import GoldenRun.Machine.Utility.Content
import GoldenRun.Machine.Utility.Deed
import GoldenRun.Machine.Utility.Difference
import GoldenRun.Machine.Utility.Dump
import GoldenRun.Machine.Utility.Editing
import GoldenRun.Machine.Utility.Extent
import GoldenRun.Machine.Utility.Fields
import GoldenRun.Machine.Utility.Format
import GoldenRun.Machine.Utility.Joining
import GoldenRun.Machine.Utility.Listing
import GoldenRun.Machine.Utility.Mode
import GoldenRun.Machine.Utility.Numbering
import GoldenRun.Machine.Utility.Options
import GoldenRun.Machine.Utility.Places
import GoldenRun.Machine.Utility.Progression
import GoldenRun.Machine.Utility.Quoting
import GoldenRun.Machine.Utility.Reversal
import GoldenRun.Machine.Utility.Runs
import GoldenRun.Machine.Utility.Search
import GoldenRun.Machine.Utility.Size
import GoldenRun.Machine.Utility.Sorting
import GoldenRun.Machine.Utility.Table
import GoldenRun.Machine.Utility.TimeSpan
import GoldenRun.Machine.Utility.Transfer
import GoldenRun.Machine.Utility.Tree
import GoldenRun.Machine.Utility.Width
import GoldenRun.Main
import GoldenRun.Path
import GoldenRun.Program
import GoldenRun.Proofs.Bytes.Decoding
import GoldenRun.Proofs.Bytes.Display
import GoldenRun.Proofs.Bytes.Encoding
import GoldenRun.Proofs.Bytes.Lines
import GoldenRun.Proofs.CommandLine.CommandTexts
import GoldenRun.Proofs.CommandLine.Configuration
import GoldenRun.Proofs.CommandLine.Meaning
import GoldenRun.Proofs.CommandLine.Sentences
import GoldenRun.Proofs.CommandLine.Soundness
import GoldenRun.Proofs.CommandLine.Sources
import GoldenRun.Proofs.CommandLine.Validation
import GoldenRun.Proofs.CommandLine.Values
import GoldenRun.Proofs.Discovery.Exact
import GoldenRun.Proofs.Discovery.Ids
import GoldenRun.Proofs.Discovery.Losses
import GoldenRun.Proofs.Discovery.Spellings
import GoldenRun.Proofs.Discovery.Trails
import GoldenRun.Proofs.Discovery.Unchanged
import GoldenRun.Proofs.Duration
import GoldenRun.Proofs.Files.Below
import GoldenRun.Proofs.Files.Faces
import GoldenRun.Proofs.Files.Plain
import GoldenRun.Proofs.Files.Receiving
import GoldenRun.Proofs.Files.Rejoining
import GoldenRun.Proofs.Files.Resolution
import GoldenRun.Proofs.Files.Stripping
import GoldenRun.Proofs.Files.Suffixes
import GoldenRun.Proofs.Files.Times
import GoldenRun.Proofs.Files.Upkeep
import GoldenRun.Proofs.Files.WellFormed
import GoldenRun.Proofs.Json.Decoder
import GoldenRun.Proofs.Json.Decoding
import GoldenRun.Proofs.Json.Grammar
import GoldenRun.Proofs.Json.Layout
import GoldenRun.Proofs.Program.ExitCode
import GoldenRun.Proofs.Reporter.Colour
import GoldenRun.Proofs.Reporter.Document
import GoldenRun.Proofs.Reporter.FullSink
import GoldenRun.Proofs.Reporter.Reuse
import GoldenRun.Proofs.Reporter.Transcript
import GoldenRun.Proofs.Run.Comparison
import GoldenRun.Proofs.Run.Course
import GoldenRun.Proofs.Run.Interruption
import GoldenRun.Proofs.Run.Isolation
import GoldenRun.Proofs.Run.Outputs
import GoldenRun.Proofs.Run.Performance
import GoldenRun.Proofs.Run.Places
import GoldenRun.Proofs.Run.ProcessRunner
import GoldenRun.Proofs.Run.Refusal
import GoldenRun.Proofs.Run.Rerun
import GoldenRun.Proofs.Run.Respelling
import GoldenRun.Proofs.Run.StaleOutput
import GoldenRun.Proofs.Run.Warnings
import GoldenRun.Regex.Basic
import GoldenRun.Regex.Syntax
import GoldenRun.Report
import GoldenRun.Reporter.Callback
import GoldenRun.Reporter.Console
import GoldenRun.Reporter.Document
import GoldenRun.Reporter.Form
import GoldenRun.Reporter.Sink
import GoldenRun.Run.Harness
import GoldenRun.Run.Plan
import GoldenRun.Run.ProcessRunner
import GoldenRun.Run.Script
import GoldenRun.Run.World
import GoldenRun.Split
import GoldenRun.TestCase
import GoldenRun.Text.Blank
import GoldenRun.Text.Letter
import GoldenRun.Text.Quoted
import GoldenRun.Text.Ranges
import GoldenRun.Text.Unseen
import GoldenRun.Text.Visible
import GoldenRun.Version
