import CostGate.Main
import CostGate.Proofs.Number.Rounding
import CostGate.Proofs.Number.Units
import CostGate.Proofs.Number.Mantissa
import CostGate.Proofs.Number.Measure
import CostGate.Proofs.Number.Arithmetic
import CostGate.Proofs.Number.Whole
import CostGate.Proofs.Number.Lawful
import CostGate.Proofs.Number.Exact
import CostGate.Proofs.Number.Doubles
import CostGate.Proofs.Number.Zero
import CostGate.Proofs.Number.Sign
import CostGate.Proofs.Text.Occurrence
import CostGate.Proofs.Text.Lowercase
import CostGate.Proofs.Gate.Order
import CostGate.Proofs.Gate.Assessment
import CostGate.Proofs.Gate.Evaluation
import CostGate.Proofs.Gate.Classification
import CostGate.Proofs.Gate.Conservation
import CostGate.Proofs.Gate.Permutation
import CostGate.Proofs.Gate.Isolation
import CostGate.Proofs.Gate.Monotone
import CostGate.Proofs.Config.Validation
import CostGate.Proofs.Cost.Zero
import CostGate.Proofs.Project.Path
import CostGate.Proofs.Project.Discovery
import CostGate.Proofs.Project.Sources
import CostGate.Proofs.Project.Aggregation
import CostGate.Proofs.Project.Collection
import CostGate.Proofs.Project.Accounting
import CostGate.Proofs.Project.Overwriting
import CostGate.Proofs.Project.Replacement
import CostGate.Proofs.Project.Relocation
import CostGate.Proofs.Gate.Run
import CostGate.Proofs.Gate.Verdict
import CostGate.Proofs.Text.Lines
import CostGate.Proofs.Source.Comment
import CostGate.Proofs.Source.Layout
import CostGate.Proofs.Project.Location
import CostGate.Proofs.Command.Initialization
import CostGate.Proofs.Document.Scalar
import CostGate.Proofs.Document.Json
import CostGate.Proofs.Report.RoundTrip
import CostGate.Proofs.Text.Segments
import CostGate.Proofs.Config.Exclusion
import CostGate.Proofs.Config.Boundary
import CostGate.Proofs.Number.Value
import CostGate.Proofs.Gate.Percentage
import CostGate.Proofs.Text.Runs
import CostGate.Proofs.Source.Complexity
import CostGate.Proofs.Source.Decomposition
import CostGate.Proofs.Source.Concatenation
import CostGate.Proofs.Source.Include
import CostGate.Proofs.Gate.Resolution
import CostGate.Proofs.Pattern.Forms
import CostGate.Proofs.Gate.Branches
import CostGate.Proofs.Cost.Words
import CostGate.Proofs.Cost.Dominance
import CostGate.Proofs.Cost.Pricing
import CostGate.Proofs.Project.Nesting
import CostGate.Proofs.Report.Breakdown
import CostGate.Proofs.Report.Details
import CostGate.Proofs.Report.Compliance
