import BracketQuery.Text.CharSet
import BracketQuery.Text.Blank
import BracketQuery.Text.Split
import BracketQuery.Text.CaseFolding
import BracketQuery.Text.Digit
import BracketQuery.Text.Property
import BracketQuery.Text.Word
import BracketQuery.Text.Quoted
import BracketQuery.Text.Numeral
import BracketQuery.Percent
import BracketQuery.Number.Decimal
import BracketQuery.Number.Shortest
import BracketQuery.Timestamp
import BracketQuery.Json.Reader
import BracketQuery.Json.Writer
import BracketQuery.Pattern.Matching
import BracketQuery.Pattern.Weight
import BracketQuery.Pattern.Reader
import BracketQuery.Ordered
import BracketQuery.QueryError
import BracketQuery.Options.Environment
import BracketQuery.Grammar.Page
import BracketQuery.Filter.Parser
import BracketQuery.Collection
import BracketQuery.Stored.Reader
import BracketQuery.Proofs.Assembly.Tables
import BracketQuery.Proofs.Expression.Denotation
import BracketQuery.Proofs.Sort.Preorder
import BracketQuery.Proofs.Assembly.Build
import BracketQuery.Proofs.Assembly.Content
import BracketQuery.Proofs.Assembly.Exact
import BracketQuery.Proofs.Pattern.FirstWay
import BracketQuery.Proofs.Pattern.Successive
import BracketQuery.Proofs.Pattern.Failure
import BracketQuery.Proofs.Percent
import BracketQuery.Proofs.Grammar.Enclosed
import BracketQuery.Proofs.Grammar.Pair
import BracketQuery.Proofs.Grammar.Query
import BracketQuery.Proofs.Filter.Written
import BracketQuery.Proofs.Filter.Captured
import BracketQuery.Proofs.Filter.Groups
import BracketQuery.Proofs.Filter.RoundTrip
import BracketQuery.Proofs.Grammar.Reader
import BracketQuery.Proofs.Grammar.Scan
import BracketQuery.Proofs.Filter.WellFormed
import BracketQuery.Proofs.Filter.Escaped
import BracketQuery.Proofs.Expression.ValueOrder
import BracketQuery.Proofs.Filter.PairOrder
import BracketQuery.Proofs.Filter.Concatenation
import BracketQuery.Proofs.Expression.Alike
import BracketQuery.Proofs.Collection
import BracketQuery.Proofs.Grammar.Pieces
import BracketQuery.Proofs.Tokens
import BracketQuery.Proofs.Assembly.Conflict
import BracketQuery.Proofs.Sort.Stable
import BracketQuery.Proofs.Condition.Complement
import BracketQuery.Proofs.Sort.Filtered
import BracketQuery.Proofs.Condition.Union
import BracketQuery.Proofs.Sort.Threshold
import BracketQuery.Proofs.Expression.Unsupported
import BracketQuery.Proofs.Condition.Trichotomy
import BracketQuery.Proofs.Condition.Integer
import BracketQuery.Proofs.Assembly.Repetition
import BracketQuery.Proofs.Assembly.RootDeclarations
import BracketQuery.Proofs.Grammar.Escapes
import BracketQuery.Proofs.Filter.Paths
import BracketQuery.Proofs.Assembly.Renaming
import BracketQuery.Proofs.Sort.Segments
import BracketQuery.Proofs.Sort.NormalForm
import BracketQuery.Proofs.Page.Walk
import BracketQuery.Proofs.Json.PathCase
import BracketQuery.Proofs.Condition.Element
import BracketQuery.Proofs.Filter.Distinct
import BracketQuery.Proofs.Stored.ReadBack
import BracketQuery.Proofs.Options.Environment
import BracketQuery.Proofs.Assembly.Acyclic
import BracketQuery.Proofs.Json.Resolve
import BracketQuery.Proofs.Filter.Lookup
import BracketQuery.Proofs.Ordered.Partition
