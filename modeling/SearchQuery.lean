import SearchQuery.Command.Arguments
import SearchQuery.Command.Run
import SearchQuery.Document.Basic
import SearchQuery.Document.Match
import SearchQuery.Error
import SearchQuery.Filter
import SearchQuery.Json.Basic
import SearchQuery.Json.Numeral
import SearchQuery.Json.Reader
import SearchQuery.Json.Writer
import SearchQuery.Main
import SearchQuery.Number.Binary
import SearchQuery.Number.Decimal
import SearchQuery.Number.Layout
import SearchQuery.Number.Shortest
import SearchQuery.Operator
import SearchQuery.Predicate.Basic
import SearchQuery.Predicate.Text
import SearchQuery.Proofs.Acceptance
import SearchQuery.Proofs.Assembly
import SearchQuery.Proofs.Balanced
import SearchQuery.Proofs.Basic
import SearchQuery.Proofs.Canonical
import SearchQuery.Proofs.Coercion
import SearchQuery.Proofs.Comparisons
import SearchQuery.Proofs.Escaping
import SearchQuery.Proofs.Faults
import SearchQuery.Proofs.FrameShape
import SearchQuery.Proofs.Grouping
import SearchQuery.Proofs.Growth
import SearchQuery.Proofs.JsonText
import SearchQuery.Proofs.Limits
import SearchQuery.Proofs.Lowercase
import SearchQuery.Proofs.Meaning
import SearchQuery.Proofs.Missing
import SearchQuery.Proofs.NumberText
import SearchQuery.Proofs.Numerals
import SearchQuery.Proofs.OpenGroups
import SearchQuery.Proofs.OutputLines
import SearchQuery.Proofs.Phrase
import SearchQuery.Proofs.Rearrangement
import SearchQuery.Proofs.Request
import SearchQuery.Proofs.RequestText
import SearchQuery.Proofs.RoundTrip
import SearchQuery.Proofs.Rounding
import SearchQuery.Proofs.Scanning
import SearchQuery.Proofs.SchemaText
import SearchQuery.Proofs.ShortestDigits
import SearchQuery.Proofs.Skeleton
import SearchQuery.Proofs.Spelling
import SearchQuery.Proofs.Sql.Agreement
import SearchQuery.Proofs.Sql.Meaning
import SearchQuery.Proofs.Sql.Noninterference
import SearchQuery.Proofs.Sql.Patterns
import SearchQuery.Proofs.Sql.Placeholders
import SearchQuery.Proofs.Sql.Syntax
import SearchQuery.Proofs.Sql.Written
import SearchQuery.Proofs.Translation
import SearchQuery.Proofs.Truncation
import SearchQuery.Proofs.WellFormed
import SearchQuery.Proofs.WholeNumbers
import SearchQuery.Query
import SearchQuery.Request
import SearchQuery.Schema.Basic
import SearchQuery.Schema.File
import SearchQuery.Schema.Json
import SearchQuery.Schema.Yaml
import SearchQuery.Text.Basic
import SearchQuery.Text.CaseTable
import SearchQuery.Text.Lowercase
import SearchQuery.Token
import SearchQuery.Value.Basic
import SearchQuery.Value.Kind
import SearchQuery.Where
import SearchQuery.Worklist
import SearchQuery.Yaml.Node
import SearchQuery.Yaml.Scalar
import SearchQuery.Yaml.Scan
import SearchQuery.Yaml.Token
