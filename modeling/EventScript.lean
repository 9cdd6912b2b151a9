import EventScript.Block.Basic
import EventScript.Block.Fold
import EventScript.Block.Reconstruct
import EventScript.Command.Access
import EventScript.Command.Asset
import EventScript.Command.Catalog
import EventScript.Command.Fault
import EventScript.Command.Layout
import EventScript.Command.Operand
import EventScript.Command.Role
import EventScript.Command.Row
import EventScript.Command.Variant
import EventScript.CommandLine.Invocation
import EventScript.CommandLine.Run
import EventScript.Convert.Diagnostic
import EventScript.Convert.Event
import EventScript.Convert.Log
import EventScript.Convert.Run
import EventScript.Decompile.Actor
import EventScript.Decompile.Condition
import EventScript.Decompile.Context
import EventScript.Decompile.Event
import EventScript.Decompile.Leaf
import EventScript.Decompile.Message
import EventScript.Decompile.Progress
import EventScript.Decompile.Stage
import EventScript.Decompile.Value
import EventScript.Json.Basic
import EventScript.Json.Display
import EventScript.Json.Equality
import EventScript.Json.Parser
import EventScript.Json.Printer
import EventScript.Main
import EventScript.Names.Category
import EventScript.Names.File
import EventScript.Names.Table
import EventScript.Number.Double
import EventScript.Number.Shortest
import EventScript.Project.Disk
import EventScript.Project.EventFile
import EventScript.Project.Given
import EventScript.Project.Path
import EventScript.Project.TextFile
import EventScript.Proofs.Block.Completeness
import EventScript.Proofs.Block.Fold
import EventScript.Proofs.Block.Grammar
import EventScript.Proofs.Block.Reindent
import EventScript.Proofs.Block.Soundness
import EventScript.Proofs.Block.Step
import EventScript.Proofs.Command.Access
import EventScript.Proofs.Command.Catalog
import EventScript.Proofs.Command.Decoding
import EventScript.Proofs.Command.Words
import EventScript.Proofs.Convert.Event
import EventScript.Proofs.Convert.Reindent
import EventScript.Proofs.Convert.Text
import EventScript.Proofs.Convert.Unknown
import EventScript.Proofs.Decompile.Assembly
import EventScript.Proofs.Decompile.Dependence
import EventScript.Proofs.Decompile.Event
import EventScript.Proofs.Decompile.Leaf
import EventScript.Proofs.Decompile.Message
import EventScript.Proofs.Decompile.Mirror
import EventScript.Proofs.Decompile.Progress
import EventScript.Proofs.Decompile.Stage
import EventScript.Proofs.Decompile.Unknown
import EventScript.Proofs.Decompile.Validity
import EventScript.Proofs.Decompile.Value
import EventScript.Proofs.Decompile.Vocabulary
import EventScript.Proofs.Decompile.Wording
import EventScript.Proofs.Names.Table
import EventScript.Proofs.Outcome
import EventScript.Proofs.Script.Lines
import EventScript.Proofs.Script.Phrase
import EventScript.Proofs.Script.Suite
import EventScript.Proofs.Script.Validity
import EventScript.Proofs.Script.Writer
import EventScript.Proofs.Text.Printable
import EventScript.Proofs.Text.Word
import EventScript.Script.Expr
import EventScript.Script.Literal
import EventScript.Script.Stmt
import EventScript.Script.Style
import EventScript.Script.Writer
import EventScript.Text.Basic
import EventScript.Text.Blank
import EventScript.Text.Identifier
import EventScript.Text.Numeral
import EventScript.Text.Printable
import EventScript.Text.Quoted
import EventScript.Text.RangeTable
import EventScript.Text.Utf8
import EventScript.Toml.Document
import EventScript.Toml.Parser
import EventScript.Toml.Value
import EventScript.Proofs.Block.Within
import EventScript.Proofs.Decompile.Checks
import EventScript.Proofs.Block.Location
import EventScript.Proofs.Convert.Location
import EventScript.Proofs.Decompile.Reading
import EventScript.Proofs.Convert.Shape
import EventScript.Proofs.Block.Transport
import EventScript.Proofs.Command.Generations
import EventScript.Proofs.Decompile.Transport
import EventScript.Proofs.Decompile.Generations
import EventScript.Proofs.Convert.Generations
import EventScript.Proofs.Convert.Joining
import EventScript.Proofs.Convert.Concatenation
import EventScript.Proofs.Block.Stuck
import EventScript.Proofs.Block.Truncation
import EventScript.Proofs.Script.Layout
import EventScript.Proofs.Decompile.Layout
import EventScript.Proofs.Convert.Layout
import EventScript.Proofs.Text.Escape
import EventScript.Proofs.Text.Quotation
import EventScript.Proofs.Json.Reading
import EventScript.Proofs.Convert.UnknownLine
import EventScript.Proofs.Command.Consumption
import EventScript.Proofs.Names.Entries
import EventScript.Proofs.Script.Template
import EventScript.Proofs.Names.Fallback
import EventScript.Proofs.Project.Selection
import EventScript.Proofs.Command.Sequence
import EventScript.Proofs.Decompile.Essence
import EventScript.Proofs.Decompile.Form
import EventScript.Proofs.Decompile.ConditionForm
import EventScript.Proofs.Script.Assignment
import EventScript.Proofs.Decompile.ValueForm
import EventScript.Proofs.Decompile.Determination
import EventScript.Proofs.Convert.Policies
import EventScript.Proofs.Json.Equality
import EventScript.Proofs.Json.Pairs
import EventScript.Proofs.Convert.Movement
import EventScript.Proofs.Project.Disk
import EventScript.Proofs.Json.RoundTrip
import EventScript.Proofs.CommandLine.Request
import EventScript.Proofs.CommandLine.Course
import EventScript.Proofs.CommandLine.Frame
import EventScript.Proofs.Command.Messages
import EventScript.Proofs.Convert.Encoding
import EventScript.Proofs.CommandLine.Encoding
import EventScript.Proofs.CommandLine.Ending
import EventScript.Proofs.Script.Exchanges
