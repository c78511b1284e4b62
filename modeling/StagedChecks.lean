import StagedChecks.Data.Equality
import StagedChecks.Bindings.Resolve
import StagedChecks.Evaluation
import StagedChecks.Functions
import StagedChecks.Settings.Load
import StagedChecks.Proofs.Sequencing
import StagedChecks.Proofs.Traversal
import StagedChecks.Proofs.Indices
import StagedChecks.Proofs.Depth
import StagedChecks.Proofs.Walk
import StagedChecks.Proofs.Resolution
import StagedChecks.Proofs.Visibility
import StagedChecks.Proofs.BuiltIn
import StagedChecks.Proofs.Evaluation
import StagedChecks.Proofs.Reports
import StagedChecks.Proofs.Passes
import StagedChecks.Proofs.Faults
import StagedChecks.Proofs.Dependence
import StagedChecks.Proofs.Lookups
import StagedChecks.Proofs.Observation
import StagedChecks.Proofs.Verdicts
import StagedChecks.Proofs.RuleSets
import StagedChecks.Proofs.Observers
import StagedChecks.Proofs.Updates
import StagedChecks.Proofs.WellFormed
import StagedChecks.Proofs.Grammar
import StagedChecks.Proofs.Composition
import StagedChecks.Proofs.PlainData
import StagedChecks.Proofs.Independence
import StagedChecks.Proofs.Wrapping
import StagedChecks.Proofs.Analysis
import StagedChecks.Proofs.Calls
import StagedChecks.Proofs.Arguments
import StagedChecks.Proofs.Growth
import StagedChecks.Proofs.Severity
import StagedChecks.Proofs.Writing
import StagedChecks.Proofs.Scanning
import StagedChecks.Proofs.Reading
import StagedChecks.Proofs.Documents
import StagedChecks.Proofs.Loading
import StagedChecks.Proofs.Equality
import StagedChecks.Proofs.RangeText
import StagedChecks.Proofs.Keys
