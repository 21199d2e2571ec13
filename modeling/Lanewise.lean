import Lanewise.Arena.Basic
import Lanewise.Arena.Linked
import Lanewise.Binary64
import Lanewise.Command.Check
import Lanewise.Command.Describe
import Lanewise.Command.Fault
import Lanewise.Command.Line
import Lanewise.Command.Listing
import Lanewise.Command.Run
import Lanewise.Config.Basic
import Lanewise.Config.Record
import Lanewise.Config.Text
import Lanewise.Context
import Lanewise.Cost
import Lanewise.Cpu
import Lanewise.DataLayout
import Lanewise.Declaration
import Lanewise.Document.Basic
import Lanewise.Document.Codec
import Lanewise.Document.Misfit
import Lanewise.Document.Platform
import Lanewise.Document.Record
import Lanewise.Document.Settings
import Lanewise.Document.Source
import Lanewise.Document.Target
import Lanewise.Files
import Lanewise.Host
import Lanewise.Isa
import Lanewise.Json.Reader
import Lanewise.Json.Writer
import Lanewise.Keyword
import Lanewise.Log
import Lanewise.Main
import Lanewise.Optimization
import Lanewise.Pitfalls
import Lanewise.Platform
import Lanewise.Policy
import Lanewise.Profile
import Lanewise.Proofs.Arena.Contents
import Lanewise.Proofs.Arena.Counts
import Lanewise.Proofs.Arena.History
import Lanewise.Proofs.Arena.Identity
import Lanewise.Proofs.Arena.Links
import Lanewise.Proofs.Arena.Release
import Lanewise.Proofs.Ascending
import Lanewise.Proofs.Command.Agreement
import Lanewise.Proofs.Config.Build
import Lanewise.Proofs.Config.Record
import Lanewise.Proofs.Config.Text
import Lanewise.Proofs.Context.Activation
import Lanewise.Proofs.Context.Change
import Lanewise.Proofs.Context.Lifecycle
import Lanewise.Proofs.Context.Operations
import Lanewise.Proofs.Context.Repetition
import Lanewise.Proofs.Context.Reports
import Lanewise.Proofs.Context.Selections
import Lanewise.Proofs.Context.Step
import Lanewise.Proofs.Cost
import Lanewise.Proofs.Cpu
import Lanewise.Proofs.DataLayout.AlignTable
import Lanewise.Proofs.DataLayout.Bytes
import Lanewise.Proofs.DataLayout.Elements
import Lanewise.Proofs.DataLayout.Grammar
import Lanewise.Proofs.DataLayout.Numbers
import Lanewise.Proofs.DataLayout.Placement
import Lanewise.Proofs.DataLayout.Precedence
import Lanewise.Proofs.DataLayout.Words
import Lanewise.Proofs.Document.Codec
import Lanewise.Proofs.Document.Record
import Lanewise.Proofs.Except
import Lanewise.Proofs.Host
import Lanewise.Proofs.Isa
import Lanewise.Proofs.Json.Lists
import Lanewise.Proofs.Json.RoundTrip
import Lanewise.Proofs.Json.Scalar
import Lanewise.Proofs.Latest
import Lanewise.Proofs.Names
import Lanewise.Proofs.Optimization
import Lanewise.Proofs.Optimization.Effect
import Lanewise.Proofs.Pitfalls
import Lanewise.Proofs.Pitfalls.Fresh
import Lanewise.Proofs.Policy
import Lanewise.Proofs.Report
import Lanewise.Proofs.Span
import Lanewise.Proofs.Tables
import Lanewise.Proofs.Target.Calls
import Lanewise.Proofs.Target.Construction
import Lanewise.Proofs.Target.Invalid
import Lanewise.Proofs.Target.Reports
import Lanewise.Proofs.Target.Summary
import Lanewise.Proofs.Text.Number
import Lanewise.Proofs.Text.Parser
import Lanewise.Proofs.Text.Stem
import Lanewise.Proofs.Text.Trim
import Lanewise.Proofs.Toml.Lines
import Lanewise.Proofs.Toml.Outline
import Lanewise.Proofs.Toml.Quoted
import Lanewise.Proofs.Toml.QuotedLine
import Lanewise.Proofs.Toml.QuotedLines
import Lanewise.Proofs.Toml.Record
import Lanewise.Proofs.Toml.RoundTrip
import Lanewise.Proofs.Toml.Scalar
import Lanewise.Proofs.Toml.Value
import Lanewise.Proofs.Toolkit.Features
import Lanewise.Proofs.Toolkit.Intrinsics
import Lanewise.Proofs.Toolkit.Ladder
import Lanewise.Proofs.Toolkit.Layout
import Lanewise.Proofs.VectorTarget
import Lanewise.Report.Target
import Lanewise.Settings
import Lanewise.Source
import Lanewise.Target.Attributes
import Lanewise.Target.Basic
import Lanewise.Target.Request
import Lanewise.TargetFault
import Lanewise.Text.Basic
import Lanewise.Text.Blank
import Lanewise.Text.Invisible
import Lanewise.Text.Parser
import Lanewise.Text.Quoted
import Lanewise.Toml.Quoted
import Lanewise.Toml.Reader
import Lanewise.Toml.Scalar
import Lanewise.Toml.Symbol
import Lanewise.Toml.Table
import Lanewise.Toml.Writer
import Lanewise.Toolkit
import Lanewise.Toolkit.Builtin
import Lanewise.Triple
import Lanewise.VectorTarget
