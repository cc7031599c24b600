import Wrangle.Outcome
import Wrangle.Text.CharRanges
import Wrangle.Text.Word
import Wrangle.Text.Name
import Wrangle.Text.Casing
import Wrangle.Text.Quoted
import Wrangle.Text.Layout
import Wrangle.Text.Similarity
import Wrangle.Number.Binary
import Wrangle.Number.FloatText
import Wrangle.Number.Numeral
import Wrangle.Number.Decimal
import Wrangle.Calendar
import Wrangle.Function.Name
import Wrangle.Value.Basic
import Wrangle.Fragment.Node
import Wrangle.Fragment.Token
import Wrangle.Fragment.Parser
import Wrangle.Value.Render
import Wrangle.Fragment.Printer
import Wrangle.Number.DecimalPower
import Wrangle.Value.Equality
import Wrangle.Value.Order
import Wrangle.Value.Sequence
import Wrangle.Number.FixedText
import Wrangle.Value.Template
import Wrangle.Value.Arithmetic
import Wrangle.Function.Signature
import Wrangle.Function.Numeric
import Wrangle.Function.Operator
import Wrangle.Number.Statistics
import Wrangle.Function.Aggregate
import Wrangle.Function.Window
import Wrangle.Function.Conversion
import Wrangle.Pattern.Basic
import Wrangle.Pattern.Match
import Wrangle.Pattern.Parser
import Wrangle.Number.Rounding
import Wrangle.Function.Ambient
import Wrangle.Function.Apply
import Wrangle.Function.NameTest
import Wrangle.Registry
import Wrangle.Options
import Wrangle.Interpolation.Evaluation
import Wrangle.Interpolation.Resolution
import Wrangle.Positions
import Wrangle.Expr.Basic
import Wrangle.Expr.Evaluate
import Wrangle.Compile.Scope
import Wrangle.Compile.Expression
import Wrangle.Compile.Selection
import Wrangle.Compile.Assignment
import Wrangle.Compile.Keys
import Wrangle.Dataset.Basic
import Wrangle.Dataset.Partition
import Wrangle.Dataset.Display
import Wrangle.Dataset.Computation
import Wrangle.Dataset.Arrangement
import Wrangle.Plan.Operation
import Wrangle.Plan.Call
import Wrangle.Plan.Basic
import Wrangle.Verb.Basic
import Wrangle.Verb.Planning
import Wrangle.Verb.Running
import Wrangle.Yaml.Writer
import Wrangle.Text.CodePage
import Wrangle.Text.Encoding
import Wrangle.Folder
import Wrangle.Delimited.Dialect
import Wrangle.Delimited.Reader
import Wrangle.Delimited.Writer
import Wrangle.Delimited.File
import Wrangle.Proofs.Fragment.Grammar
import Wrangle.Proofs.Outcome
import Wrangle.Proofs.Number.Numeral
import Wrangle.Proofs.Fragment.Soundness
import Wrangle.Proofs.Fragment.Completeness
import Wrangle.Proofs.Fragment.Recognition
import Wrangle.Proofs.Fragment.Legibility
import Wrangle.Proofs.Fragment.Printing
import Wrangle.Proofs.Fragment.RoundTrip
import Wrangle.Proofs.Fragment.Stretches
import Wrangle.Proofs.Fragment.Decimals
import Wrangle.Proofs.Fragment.Spelling
import Wrangle.Proofs.Fragment.Respelling
import Wrangle.Proofs.Fragment.Rereading
import Wrangle.Proofs.Value.Comparing
import Wrangle.Proofs.Value.Sorting
import Wrangle.Proofs.Compile.Building
import Wrangle.Proofs.Compile.Scoping
import Wrangle.Proofs.Verb.Scoping
import Wrangle.Proofs.Expr.Evaluation
import Wrangle.Proofs.Dataset.Columns
import Wrangle.Proofs.Dataset.Grouping
import Wrangle.Proofs.Dataset.Failures
import Wrangle.Proofs.Verb.Safety
import Wrangle.Proofs.Dataset.Parts
import Wrangle.Proofs.Dataset.Splitting
import Wrangle.Proofs.Dataset.Filtering
import Wrangle.Proofs.Verb.Splitting
import Wrangle.Proofs.Value.Ranking
import Wrangle.Proofs.Dataset.Reducing
import Wrangle.Proofs.Verb.Reducing
import Wrangle.Proofs.Compile.Naming
import Wrangle.Proofs.Dataset.Shape
import Wrangle.Proofs.Verb.Preservation
import Wrangle.Proofs.Compile.Agreement
import Wrangle.Proofs.Dataset.Lookup
import Wrangle.Proofs.Dataset.Padding
import Wrangle.Proofs.Dataset.Ragged
import Wrangle.Proofs.Verb.Stepwise
import Wrangle.Proofs.Verb.Chaining
import Wrangle.Proofs.Value.Bare
import Wrangle.Proofs.Function.BareColumns
import Wrangle.Proofs.Function.OnColumns
import Wrangle.Proofs.Function.BareIterators
import Wrangle.Proofs.Function.Bare
import Wrangle.Proofs.Expr.ElementWise
import Wrangle.Proofs.Fragment.Literals
import Wrangle.Proofs.Compile.ElementWise
import Wrangle.Proofs.Dataset.ElementWise
import Wrangle.Proofs.Value.Stability
import Wrangle.Proofs.Dataset.Arranging
import Wrangle.Proofs.Verb.Naming
import Wrangle.Proofs.Verb.ElementWise
import Wrangle.Proofs.Verb.Arranging
import Wrangle.Proofs.Function.Statistics
import Wrangle.Proofs.Function.Raising
import Wrangle.Proofs.Interpolation.Evaluation
import Wrangle.Proofs.Interpolation.Failures
import Wrangle.Proofs.Dataset.Keys
import Wrangle.Proofs.Dataset.Summaries
import Wrangle.Proofs.Verb.Summarizing
import Wrangle.Proofs.Verb.Multiplicity
import Wrangle.Proofs.Verb.Counting
import Wrangle.Proofs.Verb.Leveling
import Wrangle.Proofs.Delimited.Resuming
import Wrangle.Proofs.Delimited.RoundTrip
import Wrangle.Proofs.Delimited.TypedRoundTrip
import Wrangle.Proofs.Verb.Scalars
import Wrangle.Proofs.Compile.Raising
import Wrangle.Proofs.Dataset.Raising
import Wrangle.Proofs.Verb.Sourcing
import Wrangle.Proofs.Verb.Attribution
import Wrangle.Proofs.Compile.Visibility
import Wrangle.Proofs.Verb.Hiding
import Wrangle.Proofs.Value.Images
import Wrangle.Proofs.Dataset.Sorting
import Wrangle.Proofs.Verb.SortKeys
import Wrangle.Proofs.Verb.Sorting
import Wrangle.Proofs.Dataset.Projecting
import Wrangle.Proofs.Value.Numbering
import Wrangle.Proofs.Expr.Clauses
import Wrangle.Proofs.Fragment.Walking
import Wrangle.Proofs.Interpolation.Mentions
import Wrangle.Proofs.Interpolation.Spreading
import Wrangle.Proofs.Value.Permuting
import Wrangle.Proofs.Dataset.Distinct
import Wrangle.Proofs.Verb.Thinning
import Wrangle.Proofs.Dataset.Conditions
import Wrangle.Proofs.Verb.Conjoining
import Wrangle.Proofs.Dataset.Choosing
import Wrangle.Proofs.Verb.Assigning
import Wrangle.Proofs.Verb.Transmuting
import Wrangle.Proofs.Compile.Binding
import Wrangle.Proofs.Verb.Renaming
import Wrangle.Proofs.Dataset.Accumulating
import Wrangle.Proofs.Verb.Recalling
import Wrangle.Proofs.Verb.Unreduced
import Wrangle.Proofs.Verb.Varieties
import Wrangle.Proofs.Verb.Regrouping
import Wrangle.Proofs.Positions
import Wrangle.Proofs.Compile.Callables
import Wrangle.Proofs.Verb.Isolation
import Wrangle.Proofs.Fragment.Prefixes
import Wrangle.Proofs.Fragment.Names
import Wrangle.Proofs.Verb.Tallying
import Wrangle.Proofs.Fragment.Viability
import Wrangle.Proofs.Fragment.Truncation
import Wrangle.Proofs.Dataset.Transposing
import Wrangle.Proofs.Function.Buckets
import Wrangle.Proofs.Verb.Pulling
import Wrangle.Proofs.Options
import Wrangle.Proofs.Function.Windows
