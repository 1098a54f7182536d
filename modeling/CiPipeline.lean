import CiPipeline.Calendar
import CiPipeline.CommandLine.Arguments
import CiPipeline.CommandLine.Backends
import CiPipeline.CommandLine.Basic
import CiPipeline.CommandLine.Request
import CiPipeline.Console
import CiPipeline.Declare
import CiPipeline.Document
import CiPipeline.Failure
import CiPipeline.Files.Path
import CiPipeline.Files.Tree
import CiPipeline.Graph.Instances
import CiPipeline.Graph.Jobs
import CiPipeline.Graph.Levels
import CiPipeline.Json.Basic
import CiPipeline.Json.Printer
import CiPipeline.Keyed
import CiPipeline.Loading
import CiPipeline.Main
import CiPipeline.Matrix.Expansion
import CiPipeline.Matrix.Instance
import CiPipeline.Matrix.Reference
import CiPipeline.Number.Binary64
import CiPipeline.Number.Layout
import CiPipeline.Number.Reading
import CiPipeline.Number.Shortest
import CiPipeline.Pipeline.Basic
import CiPipeline.Problem
import CiPipeline.Proofs.CommandLine
import CiPipeline.Proofs.Entries
import CiPipeline.Proofs.Environment
import CiPipeline.Proofs.Files.Path
import CiPipeline.Proofs.Graph.Chains
import CiPipeline.Proofs.Graph.Instances
import CiPipeline.Proofs.Graph.JobLevels
import CiPipeline.Proofs.Graph.Jobs
import CiPipeline.Proofs.Graph.Levels
import CiPipeline.Proofs.Graph.Numbering
import CiPipeline.Proofs.Graph.PlanLevels
import CiPipeline.Proofs.Graph.Refusal
import CiPipeline.Proofs.Graph.Stages
import CiPipeline.Proofs.Graph.Transpose
import CiPipeline.Proofs.Graph.Validity
import CiPipeline.Proofs.Json.Escaping
import CiPipeline.Proofs.Json.Grammar
import CiPipeline.Proofs.Json.Numeral
import CiPipeline.Proofs.Json.Printing
import CiPipeline.Proofs.Keyed
import CiPipeline.Proofs.Loading
import CiPipeline.Proofs.Matrix.Acceptance
import CiPipeline.Proofs.Matrix.Binding
import CiPipeline.Proofs.Matrix.Combinations
import CiPipeline.Proofs.Matrix.Expansion
import CiPipeline.Proofs.Matrix.Identity
import CiPipeline.Proofs.Matrix.Keys
import CiPipeline.Proofs.Matrix.Product
import CiPipeline.Proofs.Matrix.Referring
import CiPipeline.Proofs.Number.Rounding
import CiPipeline.Proofs.Number.Shortest
import CiPipeline.Proofs.Report.Decoding
import CiPipeline.Proofs.Report.Order
import CiPipeline.Proofs.Report.Views
import CiPipeline.Proofs.Run.Calls
import CiPipeline.Proofs.Run.Confinement
import CiPipeline.Proofs.Run.Idle
import CiPipeline.Proofs.Run.Independence
import CiPipeline.Proofs.Run.Isolation
import CiPipeline.Proofs.Run.Rendering
import CiPipeline.Proofs.Run.Trace
import CiPipeline.Proofs.Run.Verdict
import CiPipeline.Proofs.Schedule.Agreement
import CiPipeline.Proofs.Schedule.Cancellation
import CiPipeline.Proofs.Schedule.Cascade
import CiPipeline.Proofs.Schedule.Gating
import CiPipeline.Proofs.Schedule.Loop
import CiPipeline.Proofs.Schedule.Order
import CiPipeline.Proofs.Schedule.Outcome
import CiPipeline.Proofs.Schedule.Plan
import CiPipeline.Proofs.Schedule.Queue
import CiPipeline.Proofs.Schedule.Results
import CiPipeline.Proofs.Schedule.Settle
import CiPipeline.Proofs.Schedule.Traversal
import CiPipeline.Proofs.Schedule.Worlds
import CiPipeline.Proofs.Schema.Fields
import CiPipeline.Proofs.Schema.Shorthand
import CiPipeline.Proofs.Schema.Taking
import CiPipeline.Proofs.Schema.UnknownFields
import CiPipeline.Proofs.Schema.WellFormed
import CiPipeline.Proofs.Shell.Quoting
import CiPipeline.Proofs.Shell.Reading
import CiPipeline.Proofs.Shell.Words
import CiPipeline.Proofs.Success
import CiPipeline.Proofs.Text.Blank
import CiPipeline.Proofs.Workflow
import CiPipeline.Proofs.WorkflowFailure
import CiPipeline.Report.Basic
import CiPipeline.Report.Data
import CiPipeline.Report.Tree
import CiPipeline.Result
import CiPipeline.Run.Basic
import CiPipeline.Run.Context
import CiPipeline.Run.Execution
import CiPipeline.Run.Job
import CiPipeline.Run.Session
import CiPipeline.Scalar
import CiPipeline.Schedule.Basic
import CiPipeline.Schedule.Cascade
import CiPipeline.Schema.Checked
import CiPipeline.Schema.Fields
import CiPipeline.Schema.Pipeline
import CiPipeline.Settings
import CiPipeline.Shell.Arithmetic
import CiPipeline.Shell.Builtin.Basic
import CiPipeline.Shell.Builtin.Condition
import CiPipeline.Shell.Builtin.Control
import CiPipeline.Shell.Builtin.Format
import CiPipeline.Shell.Builtin.Jobs
import CiPipeline.Shell.Builtin.Variables
import CiPipeline.Shell.Evaluation
import CiPipeline.Shell.Expansion
import CiPipeline.Shell.Fields
import CiPipeline.Shell.Grammar
import CiPipeline.Shell.Launch
import CiPipeline.Shell.Lookup
import CiPipeline.Shell.Machine
import CiPipeline.Shell.Octets
import CiPipeline.Shell.Pattern
import CiPipeline.Shell.Process
import CiPipeline.Shell.Program.Files
import CiPipeline.Shell.Program.Options
import CiPipeline.Shell.Program.System
import CiPipeline.Shell.Program.Table
import CiPipeline.Shell.Program.Text
import CiPipeline.Shell.Quoting
import CiPipeline.Shell.Reader
import CiPipeline.Shell.Signal
import CiPipeline.Shell.State
import CiPipeline.Shell.Syntax
import CiPipeline.Shell.Words
import CiPipeline.Text.Alphanumeric
import CiPipeline.Text.Blank
import CiPipeline.Text.CaseRun
import CiPipeline.Text.Digit
import CiPipeline.Text.Likeness
import CiPipeline.Text.Lines
import CiPipeline.Text.Lowercase
import CiPipeline.Text.Printable
import CiPipeline.Text.Quoted
import CiPipeline.Text.Ranges
import CiPipeline.Text.Surrogate
import CiPipeline.Text.Uppercase
import CiPipeline.Text.Utf8
import CiPipeline.Workflow
import CiPipeline.Yaml.Lexer
import CiPipeline.Yaml.Node
import CiPipeline.Yaml.Object
import CiPipeline.Yaml.Scalar
import CiPipeline.Yaml.ScalarValue
import CiPipeline.Yaml.Spot
import CiPipeline.Yaml.Tag
import CiPipeline.Yaml.Token
import CiPipeline.Yaml.Value
