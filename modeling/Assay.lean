import Assay.Json.Writer
import Assay.Main
import Assay.Proofs.Assignment.Matching
import Assay.Proofs.Assignment.Selection
import Assay.Proofs.Command.Success
import Assay.Proofs.Config
import Assay.Proofs.Duration
import Assay.Proofs.Environment
import Assay.Proofs.Exposition.Comparing
import Assay.Proofs.Exposition.RoundTrip
import Assay.Proofs.Exposition.Routing
import Assay.Proofs.Exposition.Spacing
import Assay.Proofs.IllFormed
import Assay.Proofs.Information
import Assay.Proofs.Metric.Literal
import Assay.Proofs.Metric.Order
import Assay.Proofs.Metric.Pairing
import Assay.Proofs.Metric.Shape
import Assay.Proofs.Metric.Surplus
import Assay.Proofs.Predicate.Canonical
import Assay.Proofs.Predicate.Outcome
import Assay.Proofs.Retry
import Assay.Proofs.RoundTrip
import Assay.Proofs.Run.Cancellation
import Assay.Proofs.Run.Retries
import Assay.Proofs.Trace.Literal
import Assay.Proofs.Trace.Outcome
import Assay.Proofs.Trace.Pairing
import Assay.Proofs.Trace.Report
import Assay.Proofs.Trace.Surplus
import Assay.Proofs.Transparency
import Assay.Proofs.Trigger.Loop
