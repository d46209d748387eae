import Concordance.Cache
import Concordance.Grammar.Printer
import Concordance.Grammar.Reader
import Concordance.Json.Printer
import Concordance.Layer.Load
import Concordance.Query.Options
import Concordance.Search.Options
import Concordance.Proofs.Entries
import Concordance.Proofs.Cache
import Concordance.Proofs.Expr.Equality
import Concordance.Proofs.Expr.Order
import Concordance.Proofs.Expr.Normal
import Concordance.Proofs.Expr.Simplify
import Concordance.Proofs.Expr.Support
import Concordance.Proofs.Expr.Expansion
import Concordance.Proofs.Layer.TokenIndex
import Concordance.Proofs.Matcher.Scanner
import Concordance.Proofs.Grammar.Validation
import Concordance.Proofs.Matcher.Results
import Concordance.Proofs.Matcher.Build
import Concordance.Proofs.Query.Evaluate
import Concordance.Proofs.Query.Bounds
import Concordance.Proofs.Query.Render
import Concordance.Proofs.Query.Compile
import Concordance.Proofs.Query.Recall
import Concordance.Proofs.Search.Batches
import Concordance.Proofs.Search.Corpus
import Concordance.Proofs.Search.Insertions
import Concordance.Proofs.Search.Scan
import Concordance.Proofs.Grammar.RoundTrip
import Concordance.Proofs.Grammar.Concatenation
import Concordance.Proofs.Match.Order
import Concordance.Proofs.Match.Members
import Concordance.Proofs.Matcher.Order
import Concordance.Proofs.Layer.Coverage
import Concordance.Proofs.Layer.Texts
import Concordance.Proofs.Layer.Loading
import Concordance.Proofs.Matcher.Errors
import Concordance.Proofs.Matcher.Provenance
import Concordance.Proofs.Query.Meaning
import Concordance.Proofs.Matcher.Indices
import Concordance.Proofs.Query.Session
import Concordance.Proofs.Search.Verdict
import Concordance.Proofs.Search.OneByOne
import Concordance.Proofs.Match.Clusters
import Concordance.Proofs.Match.Nearest
import Concordance.Proofs.Text.Words
import Concordance.Proofs.Text.Folding
import Concordance.Proofs.Matcher.WholeWord
import Concordance.Proofs.Layer.Runs
import Concordance.Proofs.Matcher.Touching
import Concordance.Proofs.Match.Products
import Concordance.Proofs.Matcher.Products
import Concordance.Proofs.Match.Grouping
import Concordance.Proofs.Matcher.Grouping
import Concordance.Proofs.Match.Alignment
import Concordance.Proofs.Matcher.Alignment
import Concordance.Proofs.Expr.Thresholds
import Concordance.Proofs.Query.Limits
import Concordance.Proofs.Expr.Polarity
import Concordance.Proofs.Query.Table
import Concordance.Proofs.Query.Sandwich
import Concordance.Proofs.Query.Direct
import Concordance.Proofs.Query.Shape
import Concordance.Proofs.Query.Branches
import Concordance.Proofs.Expr.Conjunctive
import Concordance.Proofs.Query.Literals
import Concordance.Proofs.Match.Tokenless
import Concordance.Proofs.Query.Choices
import Concordance.Proofs.Query.TerminalCount
import Concordance.Proofs.Grammar.FirstFault
import Concordance.Proofs.Matcher.Lone
import Concordance.Proofs.Matcher.LeftmostLongest
import Concordance.Proofs.Match.Filters
import Concordance.Proofs.Grammar.MatchFirst
import Concordance.Proofs.Grammar.Gate
import Concordance.Proofs.Query.Json
import Concordance.Proofs.Grammar.Fields
import Concordance.Proofs.Grammar.Nulls
import Concordance.Proofs.Grammar.Spelling
import Concordance.Proofs.Expr.Disjunctive
import Concordance.Proofs.Match.Odometer
