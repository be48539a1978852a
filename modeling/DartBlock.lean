import DartBlock.Bench
import DartBlock.CommandLine.Help
import DartBlock.CommandLine.Options
import DartBlock.CommandLine.Run
import DartBlock.Datum.Basic
import DartBlock.Datum.Display
import DartBlock.Datum.Moment
import DartBlock.Directives
import DartBlock.EntryPoint
import DartBlock.Fault
import DartBlock.Files
import DartBlock.Format
import DartBlock.Host
import DartBlock.Invocation
import DartBlock.Json.Reader
import DartBlock.Json.Value
import DartBlock.Json.Writer
import DartBlock.Main
import DartBlock.Mishap
import DartBlock.Mode
import DartBlock.Number.Binary64
import DartBlock.Number.Reading
import DartBlock.Number.Shortest
import DartBlock.Outcome
import DartBlock.Path
import DartBlock.Program
import DartBlock.Proofs.Bench.History
import DartBlock.Proofs.Bench.Scratch
import DartBlock.Proofs.Bench.Steps
import DartBlock.Proofs.CommandLine.Ending
import DartBlock.Proofs.CommandLine.Reading
import DartBlock.Proofs.CommandLine.Report
import DartBlock.Proofs.Datum
import DartBlock.Proofs.Directives
import DartBlock.Proofs.Directives.Order
import DartBlock.Proofs.Entries
import DartBlock.Proofs.EntryPoint
import DartBlock.Proofs.EntryPoint.Future
import DartBlock.Proofs.EntryPoint.LineBreak
import DartBlock.Proofs.Fault
import DartBlock.Proofs.Files
import DartBlock.Proofs.Invocation.Account
import DartBlock.Proofs.Invocation.Course
import DartBlock.Proofs.Invocation.Stage
import DartBlock.Proofs.Json.Grammar
import DartBlock.Proofs.Json.Printed
import DartBlock.Proofs.Json.Reading
import DartBlock.Proofs.Json.Scalar
import DartBlock.Proofs.Outcome
import DartBlock.Proofs.Program
import DartBlock.Proofs.Runner.Capture
import DartBlock.Proofs.Runner.Command
import DartBlock.Proofs.Runner.Expansion
import DartBlock.Proofs.Runner.Report
import DartBlock.Proofs.Runner.Results
import DartBlock.Proofs.Runner.Session
import DartBlock.Proofs.Runner.Turn
import DartBlock.Proofs.Scaffold
import DartBlock.Proofs.Settings
import DartBlock.Proofs.Settings.Entries
import DartBlock.Proofs.Settings.File
import DartBlock.Proofs.Shape
import DartBlock.Proofs.Table.Group
import DartBlock.Proofs.Table.Layout
import DartBlock.Proofs.Table.Padded
import DartBlock.Proofs.Table.PipeRow
import DartBlock.Proofs.Table.Printed
import DartBlock.Proofs.Table.Reading
import DartBlock.Proofs.Table.Segments
import DartBlock.Proofs.Table.Shown
import DartBlock.Proofs.Template
import DartBlock.Proofs.Template.Layout
import DartBlock.Proofs.Template.Runs
import DartBlock.Proofs.Text.Blank
import DartBlock.Proofs.Text.LineBreak
import DartBlock.Proofs.Text.Run
import DartBlock.Proofs.Text.Utf8
import DartBlock.Proofs.Yaml.Key
import DartBlock.Runner
import DartBlock.Scaffold
import DartBlock.Settings
import DartBlock.Settings.File
import DartBlock.Shape
import DartBlock.Shell.Quote
import DartBlock.Shell.Words
import DartBlock.Table.Basic
import DartBlock.Table.Layout
import DartBlock.Table.Reader
import DartBlock.Template
import DartBlock.Text.Base64
import DartBlock.Text.Blank
import DartBlock.Text.Digit
import DartBlock.Text.LineBreak
import DartBlock.Text.Lowercase
import DartBlock.Text.Lowercase.Table
import DartBlock.Text.Printable
import DartBlock.Text.Quoted
import DartBlock.Text.Search
import DartBlock.Text.Utf8
import DartBlock.Yaml.Char
import DartBlock.Yaml.Cursor
import DartBlock.Yaml.Graph
import DartBlock.Yaml.Graph.Grammar
import DartBlock.Yaml.Literal
import DartBlock.Yaml.Plain
import DartBlock.Yaml.Source
import DartBlock.Yaml.Token
import DartBlock.Yaml.Token.Label
import DartBlock.Yaml.Token.Lexer
import DartBlock.Yaml.Token.Scalar
import DartBlock.Yaml.Trouble
import DartBlock.Yaml.Value
import DartBlock.Yaml.Writer
