import RowFilter.Cache
import RowFilter.Cbor.Trees
import RowFilter.Config.Reading
import RowFilter.Projection
import RowFilter.Session
import RowFilter.Value.Constant
import RowFilter.Version
import RowFilter.Proofs.Result
import RowFilter.Proofs.Digest.Framing
import RowFilter.Proofs.Digest.Values
import RowFilter.Proofs.Digest.Trees
import RowFilter.Proofs.Digest.Injectivity
import RowFilter.Proofs.Digest.Unresolved
import RowFilter.Proofs.Compilation.Outcome
import RowFilter.Proofs.Evaluation.Operations
import RowFilter.Proofs.Evaluation.Terms
import RowFilter.Proofs.Compilation.Operators
import RowFilter.Proofs.Compilation.Equations
import RowFilter.Proofs.Folding.Scalar
import RowFilter.Proofs.Folding.Evaluation
import RowFilter.Proofs.Folding.Plain
import RowFilter.Proofs.Meaning.Comparisons
import RowFilter.Proofs.Compilation.Conditions
import RowFilter.Proofs.Compilation.Depth
import RowFilter.Proofs.Meaning.Preservation
import RowFilter.Proofs.Compilation.Reversal
import RowFilter.Proofs.WellFormed.Terms
import RowFilter.Proofs.Evaluation.Faults
import RowFilter.Proofs.Evaluation.Soundness
import RowFilter.Proofs.WellFormed.Operands
import RowFilter.Proofs.WellFormed.Predicates
import RowFilter.Proofs.WellFormed.Compilation
import RowFilter.Proofs.Canonical.Construction
import RowFilter.Proofs.Canonical.Compilation
import RowFilter.Proofs.Cbor.Records
import RowFilter.Proofs.Canonical.Decoding
import RowFilter.Proofs.Floating.Conversion
import RowFilter.Proofs.Floating.Range
import RowFilter.Proofs.Cbor.Rendering
import RowFilter.Proofs.Cbor.Values
import RowFilter.Proofs.Cbor.Trees
import RowFilter.Proofs.Cbor.RoundTrip
import RowFilter.Proofs.Cbor.Nesting
import RowFilter.Proofs.Cbor.Compilation
import RowFilter.Proofs.Cache.SortedMap
import RowFilter.Proofs.Cache.Steps
import RowFilter.Proofs.Cache.Runs
import RowFilter.Proofs.Renaming.Trees
import RowFilter.Proofs.Renaming.Compilation
import RowFilter.Proofs.Registry.Growth
import RowFilter.Proofs.Registry.Subqueries
import RowFilter.Proofs.Compilation.Pruning
import RowFilter.Proofs.Registry.Independence
import RowFilter.Proofs.Registry.References
import RowFilter.Proofs.Registry.Sessions
import RowFilter.Proofs.Registry.Agreement
import RowFilter.Proofs.Text.Digits
import RowFilter.Proofs.Floating.Shortest
import RowFilter.Proofs.Floating.Text
import RowFilter.Proofs.Calendar.Text
import RowFilter.Proofs.Floating.Monotone
import RowFilter.Proofs.Folding.Order
import RowFilter.Proofs.Folding.LetterCase
import RowFilter.Proofs.Display.Forms
import RowFilter.Proofs.Display.Values
import RowFilter.Proofs.Display.Terms
import RowFilter.Proofs.Display.Predicates
import RowFilter.Proofs.Display.Compilation
import RowFilter.Proofs.Metrics.Counters
import RowFilter.Proofs.Metrics.Reports
import RowFilter.Proofs.Metrics.Runs
import RowFilter.Proofs.Text.Substring
import RowFilter.Proofs.Text.Matching
import RowFilter.Proofs.Compilation.Patterns
import RowFilter.Proofs.Compilation.Failures
import RowFilter.Proofs.WellFormed.Owners
import RowFilter.Proofs.Projection.Order
import RowFilter.Proofs.Projection.Faithful
import RowFilter.Proofs.Calendar.Order
import RowFilter.Proofs.Calendar.Parsing
import RowFilter.Proofs.Floating.Integers
import RowFilter.Proofs.Clause.Entries
