import IssueBoard.Board.Basic
import IssueBoard.Board.Coercion
import IssueBoard.Board.Context
import IssueBoard.Board.Evaluate
import IssueBoard.Calendar.Expression
import IssueBoard.Calendar.Helper
import IssueBoard.Calendar.Instant
import IssueBoard.Calendar.Shift
import IssueBoard.CommandLine.Arguments
import IssueBoard.CommandLine.Directory
import IssueBoard.CommandLine.Run
import IssueBoard.Config.Basic
import IssueBoard.Config.Complaint
import IssueBoard.Config.Integer
import IssueBoard.Config.Load
import IssueBoard.Config.Options
import IssueBoard.Config.Schema
import IssueBoard.Data.Basic
import IssueBoard.Data.Display
import IssueBoard.Data.Slice
import IssueBoard.Document.Json
import IssueBoard.Document.JsonPrinter
import IssueBoard.Document.Yaml.Basic
import IssueBoard.Document.Yaml.BlockText
import IssueBoard.Document.Yaml.Node
import IssueBoard.Document.Yaml.Outline
import IssueBoard.Document.Yaml.Plain
import IssueBoard.Document.Yaml.Quoted
import IssueBoard.Document.Yaml.Scalar
import IssueBoard.Document.Yaml.Tag
import IssueBoard.Document.Yaml.Timestamp
import IssueBoard.Document.Yaml.Token
import IssueBoard.Document.Yaml.Value
import IssueBoard.Evaluation.Rehearsal
import IssueBoard.Evaluation.Resolve
import IssueBoard.Evaluation.World
import IssueBoard.Failure
import IssueBoard.Main
import IssueBoard.Number.Arithmetic
import IssueBoard.Number.Basic
import IssueBoard.Number.Binary64
import IssueBoard.Number.Complex
import IssueBoard.Number.Layout
import IssueBoard.Number.Numeral
import IssueBoard.Number.Places
import IssueBoard.Number.Shortest
import IssueBoard.Proofs.Evaluation.Recorded
import IssueBoard.Proofs.Query.Entries
import IssueBoard.Proofs.Query.Inquiry
import IssueBoard.Query.Address
import IssueBoard.Query.Cache
import IssueBoard.Query.Catalogue
import IssueBoard.Query.Link
import IssueBoard.Query.Server
import IssueBoard.Render.Basic
import IssueBoard.Render.Format
import IssueBoard.Render.Html
import IssueBoard.Render.Markdown
import IssueBoard.Render.Slack
import IssueBoard.Rest
import IssueBoard.Script.Action
import IssueBoard.Script.Attributes
import IssueBoard.Script.Block
import IssueBoard.Script.Formatting
import IssueBoard.Script.Functions
import IssueBoard.Script.Grammar
import IssueBoard.Script.Host
import IssueBoard.Script.Items
import IssueBoard.Script.Methods
import IssueBoard.Script.Operators
import IssueBoard.Script.Program
import IssueBoard.Script.Run
import IssueBoard.Script.Source
import IssueBoard.Script.Store
import IssueBoard.Script.Token
import IssueBoard.Script.Tree
import IssueBoard.Script.Trouble
import IssueBoard.Script.Value
import IssueBoard.Service.Client
import IssueBoard.Service.Settings
import IssueBoard.Template
import IssueBoard.Text.Base64
import IssueBoard.Text.Blank
import IssueBoard.Text.CaseContext
import IssueBoard.Text.Casing
import IssueBoard.Text.Digit
import IssueBoard.Text.Hex
import IssueBoard.Text.Identifier
import IssueBoard.Text.Lines
import IssueBoard.Text.Markup
import IssueBoard.Text.Normal
import IssueBoard.Text.Normal.Composition
import IssueBoard.Text.Normal.Decomposition
import IssueBoard.Text.Normal.Order
import IssueBoard.Text.Percent
import IssueBoard.Text.Printable
import IssueBoard.Text.Quoted
import IssueBoard.Text.Range
import IssueBoard.Text.Search
import IssueBoard.Proofs.Query.Pagination
import IssueBoard.Proofs.Query.Provenance
import IssueBoard.Proofs.Query.Faltering
import IssueBoard.Proofs.Calendar.Grammar
import IssueBoard.Proofs.Calendar.Acceptance
import IssueBoard.Proofs.Calendar.Denotation
import IssueBoard.Proofs.Template.RoundTrip
import IssueBoard.Proofs.Render.Skeleton
import IssueBoard.Proofs.Config.Reading
import IssueBoard.Proofs.Config.Conformity
import IssueBoard.Proofs.Config.Acceptance
import IssueBoard.Proofs.Config.Document
import IssueBoard.Proofs.Config.Loading
import IssueBoard.Proofs.Config.Typing
import IssueBoard.Proofs.Data.Display
import IssueBoard.Proofs.Board.Agenda
import IssueBoard.Proofs.Board.Order
import IssueBoard.Proofs.Board.Reduction
import IssueBoard.Proofs.Board.TypeSafety
import IssueBoard.Proofs.Number.Rounding
import IssueBoard.Proofs.Number.Magnitude
import IssueBoard.Proofs.Render.Ending
import IssueBoard.Proofs.Render.Bars
import IssueBoard.Proofs.Render.Scaling
import IssueBoard.Proofs.Render.Totality
import IssueBoard.Proofs.Render.Nesting
import IssueBoard.Proofs.Document.RoundTrip
import IssueBoard.Proofs.Render.Payload
import IssueBoard.Proofs.Document.JsonFailure
import IssueBoard.Proofs.Document.YamlFailure
import IssueBoard.Proofs.CommandLine.BadConfiguration
import IssueBoard.Proofs.Query.InOrder
import IssueBoard.Proofs.Board.Chronicle
import IssueBoard.Proofs.Script.Ending
import IssueBoard.Proofs.Board.Explanation
import IssueBoard.Proofs.Board.HostFailures
import IssueBoard.Proofs.Query.Budget
import IssueBoard.Proofs.Query.Resumption
import IssueBoard.Proofs.Template.Reading
import IssueBoard.Proofs.Template.Joining
import IssueBoard.Proofs.Text.Digits
import IssueBoard.Proofs.Evaluation.Composition
import IssueBoard.Proofs.Calendar.Trouble
import IssueBoard.Proofs.Calendar.DayCount
import IssueBoard.Proofs.Calendar.Shifting
import IssueBoard.Proofs.Calendar.Continuation
import IssueBoard.Proofs.Calendar.Laws
import IssueBoard.Proofs.Calendar.Printing
import IssueBoard.Proofs.CommandLine.AllOrNothing
import IssueBoard.Proofs.Text.Percent
import IssueBoard.Proofs.Query.SearchLink
import IssueBoard.Proofs.Board.FixedPoints
import IssueBoard.Proofs.Board.QueryTable
import IssueBoard.Proofs.Text.Breaks
import IssueBoard.Proofs.Board.Precedence
import IssueBoard.Proofs.Render.Grouping
import IssueBoard.Proofs.Render.Rectangle
import IssueBoard.Proofs.Reader
import IssueBoard.Proofs.Script.Expressions
import IssueBoard.Proofs.Script.Statements
import IssueBoard.Proofs.Script.Columns
import IssueBoard.Proofs.Script.Layout
import IssueBoard.Proofs.Script.Characters
import IssueBoard.Proofs.Script.Indenting
import IssueBoard.Proofs.Script.Entries
import IssueBoard.Proofs.Script.Margin
import IssueBoard.Proofs.Script.Indentation
import IssueBoard.Proofs.Script.Returned
import IssueBoard.Proofs.Script.Written
import IssueBoard.Proofs.Number.Order
import IssueBoard.Proofs.Render.Proportion
import IssueBoard.Proofs.Script.Operations
import IssueBoard.Proofs.Script.Calls
import IssueBoard.Proofs.Script.Bindings
import IssueBoard.Proofs.Text.Blanks
import IssueBoard.Proofs.Number.Numeral
import IssueBoard.Proofs.Failure.Caret
import IssueBoard.Proofs.Board.Coercion
import IssueBoard.Proofs.Service.Settings
