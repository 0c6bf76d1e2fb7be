import LedgerQuery.Cell
import LedgerQuery.Chain.Codec
import LedgerQuery.Chain.Quantity
import LedgerQuery.Chain.Record
import LedgerQuery.Command.Arguments
import LedgerQuery.Command.Run
import LedgerQuery.Json.Basic
import LedgerQuery.Json.Reader
import LedgerQuery.Json.Settled
import LedgerQuery.Json.Shape
import LedgerQuery.Json.Writer
import LedgerQuery.Keyed
import LedgerQuery.Main
import LedgerQuery.Node.Endpoint
import LedgerQuery.Node.JsonRpc
import LedgerQuery.Node.Ledger
import LedgerQuery.Node.Lookup
import LedgerQuery.Node.Remote
import LedgerQuery.Number.Binary64
import LedgerQuery.Number.Natural
import LedgerQuery.Number.Notation
import LedgerQuery.Number.Power
import LedgerQuery.Number.Reading
import LedgerQuery.Number.Shortest
import LedgerQuery.Query.Aggregate
import LedgerQuery.Query.Columnar
import LedgerQuery.Query.Error
import LedgerQuery.Query.Filter
import LedgerQuery.Query.Grouping
import LedgerQuery.Query.Having
import LedgerQuery.Query.Layout
import LedgerQuery.Query.Ordering
import LedgerQuery.Query.Plan
import LedgerQuery.Query.ResultSet
import LedgerQuery.Query.Rows
import LedgerQuery.Query.Run
import LedgerQuery.Query.Scope
import LedgerQuery.Report.Grid
import LedgerQuery.Settings.Basic
import LedgerQuery.Sql.Error
import LedgerQuery.Sql.Expr
import LedgerQuery.Sql.Lexer
import LedgerQuery.Sql.Literal
import LedgerQuery.Sql.Parser.Alias
import LedgerQuery.Sql.Parser.Basic
import LedgerQuery.Sql.Parser.Call
import LedgerQuery.Sql.Parser.Change
import LedgerQuery.Sql.Parser.DataType
import LedgerQuery.Sql.Parser.Definition
import LedgerQuery.Sql.Parser.Form
import LedgerQuery.Sql.Parser.Interval
import LedgerQuery.Sql.Parser.Name
import LedgerQuery.Sql.Parser.Operand
import LedgerQuery.Sql.Parser.Query
import LedgerQuery.Sql.Parser.Rules
import LedgerQuery.Sql.Parser.Select
import LedgerQuery.Sql.Parser.Session
import LedgerQuery.Sql.Parser.Statement
import LedgerQuery.Sql.Parser.Table
import LedgerQuery.Sql.Planner
import LedgerQuery.Sql.Statement
import LedgerQuery.Sql.Token
import LedgerQuery.Table
import LedgerQuery.Text.Lowercase
import LedgerQuery.Text.Shown
import LedgerQuery.Text.Strip
import LedgerQuery.Toml.Basic
import LedgerQuery.Toml.Lexeme
import LedgerQuery.Toml.Reader
import LedgerQuery.Unicode.Case
import LedgerQuery.Unicode.Letters
import LedgerQuery.Unicode.Printable
import LedgerQuery.Unicode.Ranges
import LedgerQuery.Unicode.Width
import LedgerQuery.Proofs.Evaluation
import LedgerQuery.Proofs.Ledger
import LedgerQuery.Proofs.Combine
import LedgerQuery.Proofs.Scan
import LedgerQuery.Proofs.Aggregate
import LedgerQuery.Proofs.Arrange
import LedgerQuery.Proofs.Grouped
import LedgerQuery.Proofs.Ungrouped
import LedgerQuery.Proofs.Walk
import LedgerQuery.Proofs.BlockNumber
import LedgerQuery.Proofs.CallNames
import LedgerQuery.Proofs.Meaning
import LedgerQuery.Proofs.UnknownOrder
import LedgerQuery.Proofs.Materialized
import LedgerQuery.Proofs.UnknownColumns
import LedgerQuery.Proofs.Regrouping
import LedgerQuery.Proofs.JsonText
import LedgerQuery.Proofs.Shape
import LedgerQuery.Proofs.Codec
import LedgerQuery.Proofs.Envelope
import LedgerQuery.Proofs.Simulation
import LedgerQuery.Proofs.Remote
import LedgerQuery.Proofs.Kinds
import LedgerQuery.Proofs.LetterCase
import LedgerQuery.Proofs.AliasColumns
import LedgerQuery.Proofs.Folding
import LedgerQuery.Proofs.Spelling
import LedgerQuery.Proofs.ExactSums
import LedgerQuery.Proofs.Reordering
import LedgerQuery.Proofs.RecordOrder
import LedgerQuery.Proofs.Rounding
import LedgerQuery.Proofs.MixedOrder
import LedgerQuery.Proofs.Decimals
import LedgerQuery.Proofs.GroupConditions
import LedgerQuery.Proofs.TextLiterals
import LedgerQuery.Proofs.Conditions
import LedgerQuery.Proofs.Numerals
import LedgerQuery.Proofs.Columnar
import LedgerQuery.Proofs.ExactAggregates
import LedgerQuery.Proofs.GroupChecks
import LedgerQuery.Proofs.History
import LedgerQuery.Proofs.Steps
import LedgerQuery.Proofs.Members
import LedgerQuery.Proofs.Alike
import LedgerQuery.Proofs.KeyOrder
import LedgerQuery.Proofs.Exchange
