import PathQuery.Adapter.Basic
import PathQuery.Adapter.Records
import PathQuery.Adapter.Registry
import PathQuery.Adapter.Sql
import PathQuery.Command.Arguments
import PathQuery.Command.Run
import PathQuery.Error
import PathQuery.Filter.Stream
import PathQuery.Filter.Tree
import PathQuery.Json.Basic
import PathQuery.Json.Printer
import PathQuery.Json.Reader
import PathQuery.Main
import PathQuery.Number.Binary64
import PathQuery.Number.Decimal
import PathQuery.Number.Reading
import PathQuery.Placeholder.Clause
import PathQuery.Placeholder.Marker
import PathQuery.Query.Basic
import PathQuery.Query.Lexer
import PathQuery.Query.Name
import PathQuery.Query.Parser
import PathQuery.Query.Printer
import PathQuery.Query.Scanner
import PathQuery.Query.SyntaxError
import PathQuery.Records.Comparison
import PathQuery.Records.Description
import PathQuery.Records.Order
import PathQuery.Records.Path
import PathQuery.Records.Pipeline
import PathQuery.Records.Predicate
import PathQuery.Regex.Bracket
import PathQuery.Regex.CharacterSet
import PathQuery.Regex.Escape
import PathQuery.Regex.Flags
import PathQuery.Regex.Normal
import PathQuery.Regex.Openings
import PathQuery.Regex.Parser
import PathQuery.Regex.Pattern
import PathQuery.Regex.Program
import PathQuery.Regex.Search
import PathQuery.Regex.Space.Basic
import PathQuery.Regex.Space.Layout
import PathQuery.Regex.Space.Sets
import PathQuery.Regex.Space.Slots
import PathQuery.Regex.Space.Words
import PathQuery.Session
import PathQuery.Settings
import PathQuery.Text.Alphanumeric
import PathQuery.Text.Basic
import PathQuery.Text.Blank
import PathQuery.Text.CodeSet
import PathQuery.Text.Outline
import PathQuery.Text.Quoted
import PathQuery.Text.Taken
import PathQuery.Text.Utf8
import PathQuery.Toml.Document
import PathQuery.Toml.Scalar
import PathQuery.Toml.Table
import PathQuery.Unicode.Age
import PathQuery.Unicode.Break
import PathQuery.Unicode.Category
import PathQuery.Unicode.Folding
import PathQuery.Unicode.NamedSet
import PathQuery.Unicode.Property
import PathQuery.Unicode.Recent
import PathQuery.Unicode.Script
import PathQuery.Workspace
import PathQuery.Proofs.Answers
import PathQuery.Proofs.ApartFields
import PathQuery.Proofs.Canonical
import PathQuery.Proofs.Clauses
import PathQuery.Proofs.ConstantParts
import PathQuery.Proofs.ConstantQueries
import PathQuery.Proofs.ConstantSql
import PathQuery.Proofs.CustomMarkers
import PathQuery.Proofs.DecimalText
import PathQuery.Proofs.Dependence
import PathQuery.Proofs.EmptyPlaceholders
import PathQuery.Proofs.Grammar
import PathQuery.Proofs.Grouping
import PathQuery.Proofs.IntegerOrder
import PathQuery.Proofs.LateBinding
import PathQuery.Proofs.Locations
import PathQuery.Proofs.LooseComparison
import PathQuery.Proofs.ParsedQueries
import PathQuery.Proofs.PathWrites
import PathQuery.Proofs.Placeholders
import PathQuery.Proofs.Plans
import PathQuery.Proofs.Positions
import PathQuery.Proofs.Projection
import PathQuery.Proofs.ReaderCalls
import PathQuery.Proofs.Reading
import PathQuery.Proofs.Registries
import PathQuery.Proofs.Remainders
import PathQuery.Proofs.Resolution
import PathQuery.Proofs.Rounding
import PathQuery.Proofs.RowOrder
import PathQuery.Proofs.ScalarValues
import PathQuery.Proofs.ScannedFilters
import PathQuery.Proofs.ScannedParts
import PathQuery.Proofs.ScannedQueries
import PathQuery.Proofs.Scanning
import PathQuery.Proofs.Sessions
import PathQuery.Proofs.SqlShape
import PathQuery.Proofs.SqlTokens
import PathQuery.Proofs.StableSort
import PathQuery.Proofs.StackMachines
import PathQuery.Proofs.Streams
import PathQuery.Proofs.Substitution
import PathQuery.Proofs.Values
import PathQuery.Proofs.Workspaces
