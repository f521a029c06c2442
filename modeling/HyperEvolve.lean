import HyperEvolve.Artifact.Basic
import HyperEvolve.Artifact.Preview
import HyperEvolve.Artifact.Wire
import HyperEvolve.CommandLine.Interface
import HyperEvolve.CommandLine.Invocation
import HyperEvolve.CommandLine.Run
import HyperEvolve.Compile.Program
import HyperEvolve.Compile.Source
import HyperEvolve.Compile.State
import HyperEvolve.Decimal.Fixed
import HyperEvolve.Decimal.Integer
import HyperEvolve.Decimal.Nearest
import HyperEvolve.Decimal.Number
import HyperEvolve.Decimal.Shortest
import HyperEvolve.Declaration.Basic
import HyperEvolve.Declaration.Decode
import HyperEvolve.Declaration.Tree
import HyperEvolve.Document.Basic
import HyperEvolve.Document.Reader
import HyperEvolve.Document.Writer
import HyperEvolve.Editor
import HyperEvolve.Main
import HyperEvolve.Parser.Basic
import HyperEvolve.Pipeline
import HyperEvolve.Program.Checks
import HyperEvolve.Program.Cycle
import HyperEvolve.Program.Resolution
import HyperEvolve.Program.Symbols
import HyperEvolve.Program.Unfolding
import HyperEvolve.Service.Delivery
import HyperEvolve.Service.Endpoint
import HyperEvolve.Service.HostName
import HyperEvolve.Service.HostTables
import HyperEvolve.Service.Log
import HyperEvolve.Service.Punycode
import HyperEvolve.Session
import HyperEvolve.Settings
import HyperEvolve.Shell.Arithmetic
import HyperEvolve.Shell.Builtin
import HyperEvolve.Shell.Builtin.Line
import HyperEvolve.Shell.Builtin.Meaning
import HyperEvolve.Shell.Condition
import HyperEvolve.Shell.Edit.Program
import HyperEvolve.Shell.Edit.Reader
import HyperEvolve.Shell.Edit.Run
import HyperEvolve.Shell.Escape
import HyperEvolve.Shell.Execute
import HyperEvolve.Shell.Format
import HyperEvolve.Shell.Invocation
import HyperEvolve.Shell.Letters
import HyperEvolve.Shell.Machine
import HyperEvolve.Shell.Pattern
import HyperEvolve.Shell.Quote
import HyperEvolve.Shell.Reader
import HyperEvolve.Shell.Regex
import HyperEvolve.Shell.Runner
import HyperEvolve.Shell.Signal
import HyperEvolve.Shell.Syntax
import HyperEvolve.Shell.System
import HyperEvolve.Shell.Tool
import HyperEvolve.Shell.Tools.Columns
import HyperEvolve.Shell.Tools.Edit
import HyperEvolve.Shell.Tools.Exchange
import HyperEvolve.Shell.Tools.Expression
import HyperEvolve.Shell.Tools.Files
import HyperEvolve.Shell.Tools.Order
import HyperEvolve.Shell.Tools.Portion
import HyperEvolve.Shell.Tools.Search
import HyperEvolve.Shell.Tools.Sequence
import HyperEvolve.Shell.Tools.Text
import HyperEvolve.ShellWords
import HyperEvolve.Storage.Artifacts
import HyperEvolve.Storage.FileTree
import HyperEvolve.Storage.Path
import HyperEvolve.Storage.SystemError
import HyperEvolve.Table
import HyperEvolve.Text.Canonical
import HyperEvolve.Text.Case
import HyperEvolve.Text.CodePoint
import HyperEvolve.Text.Encoding
import HyperEvolve.Text.Lines
import HyperEvolve.Text.Printable
import HyperEvolve.Text.Quoted
import HyperEvolve.Text.Runs
import HyperEvolve.Text.Utf8
import HyperEvolve.Yaml.Build
import HyperEvolve.Yaml.Cursor
import HyperEvolve.Yaml.Fault
import HyperEvolve.Yaml.Kind
import HyperEvolve.Yaml.Node
import HyperEvolve.Yaml.Scalar
import HyperEvolve.Yaml.Scan
import HyperEvolve.Yaml.Token
import HyperEvolve.Yaml.Value
import HyperEvolve.Proofs.Symbols
import HyperEvolve.Proofs.Cycle
import HyperEvolve.Proofs.Stages
import HyperEvolve.Proofs.Termination
import HyperEvolve.Proofs.Strict
import HyperEvolve.Proofs.Acceptance
import HyperEvolve.Proofs.LastDeclaration
import HyperEvolve.Proofs.Document.Atom
import HyperEvolve.Proofs.Document.RoundTrip
import HyperEvolve.Proofs.Artifact.Wire
import HyperEvolve.Proofs.Storage.Files
import HyperEvolve.Proofs.Storage.Artifacts
import HyperEvolve.Proofs.Nesting
import HyperEvolve.Proofs.Reordering
import HyperEvolve.Proofs.Roles
import HyperEvolve.Proofs.Session
import HyperEvolve.Proofs.Footprint
import HyperEvolve.Proofs.Unused
import HyperEvolve.Proofs.Renaming
import HyperEvolve.Proofs.WireShape
import HyperEvolve.Proofs.Inlining
import HyperEvolve.Proofs.Artifact.Compiled
import HyperEvolve.Proofs.Editor
import HyperEvolve.Proofs.Storage.Builds
import HyperEvolve.Proofs.Storage.Containment
import HyperEvolve.Proofs.Failures
import HyperEvolve.Proofs.Page
import HyperEvolve.Proofs.Storage.Frame
import HyperEvolve.Proofs.CommandLine
import HyperEvolve.Proofs.Declaration.Edits
import HyperEvolve.Proofs.UnusedWarnings
import HyperEvolve.Proofs.Duplicates
import HyperEvolve.Proofs.Artifact.Preview
import HyperEvolve.Proofs.Artifact.Grammar
import HyperEvolve.Proofs.Artifact.Normal
import HyperEvolve.Proofs.Artifact.Refusal
import HyperEvolve.Proofs.Decimal.Range
import HyperEvolve.Proofs.Settings
import HyperEvolve.Proofs.Outcomes
import HyperEvolve.Proofs.Declaration.Counts
