import SchemaCatalog.Bundle
import SchemaCatalog.Bundle.Files
import SchemaCatalog.Collector
import SchemaCatalog.Command.Check
import SchemaCatalog.Command.Components
import SchemaCatalog.Command.Configuration
import SchemaCatalog.Command.Dereference
import SchemaCatalog.Command.Line
import SchemaCatalog.Command.Tool
import SchemaCatalog.Command.Transcript
import SchemaCatalog.Config.Reader
import SchemaCatalog.Consistency
import SchemaCatalog.Diagnostic.Format
import SchemaCatalog.Diagnostic.Inspection
import SchemaCatalog.Digest.Sha256
import SchemaCatalog.File.Tree
import SchemaCatalog.Main
import SchemaCatalog.Merge
import SchemaCatalog.Publication
import SchemaCatalog.ReferenceGraph
import SchemaCatalog.Resolve
import SchemaCatalog.Schema.Reader
import SchemaCatalog.Schema.Walk
import SchemaCatalog.Schema.Writer
import SchemaCatalog.Shape.Declared
import SchemaCatalog.Shape.Format
import SchemaCatalog.Text.LineDiff
import SchemaCatalog.Text.Lowercase
import SchemaCatalog.Toml.Basic
import SchemaCatalog.Toml.Reader
import SchemaCatalog.Toml.Writer
import SchemaCatalog.Validation.Sample
import SchemaCatalog.Proofs.Resolution.Hoisting
import SchemaCatalog.Proofs.Resolution.Passes
import SchemaCatalog.Proofs.Resolution.SelfContained
import SchemaCatalog.Proofs.Collector.Merging
import SchemaCatalog.Proofs.Collector.OrderIndependence
import SchemaCatalog.Proofs.Consistency.Acceptance
import SchemaCatalog.Proofs.Resolution.Shadowing
import SchemaCatalog.Proofs.Resolution.Origin
import SchemaCatalog.Proofs.Collector.Failure
import SchemaCatalog.Proofs.Consistency.Twin
import SchemaCatalog.Proofs.Consistency.Sensitivity
import SchemaCatalog.Proofs.Consistency.Unfolding
import SchemaCatalog.Proofs.Consistency.Resolved
import SchemaCatalog.Proofs.Consistency.Closedness
import SchemaCatalog.Proofs.Consistency.Reordering
import SchemaCatalog.Proofs.Consistency.Skeleton
import SchemaCatalog.Proofs.Consistency.Relaxation
import SchemaCatalog.Proofs.Resolution.Failure
import SchemaCatalog.Proofs.Resolution.Provenance
import SchemaCatalog.Proofs.Resolution.Repetition
import SchemaCatalog.Proofs.Resolution.Extension
import SchemaCatalog.Proofs.ReferenceGraph
import SchemaCatalog.Proofs.Resolution.Standalone
import SchemaCatalog.Proofs.Inspection.Gate
import SchemaCatalog.Proofs.Publication.Retargeting
import SchemaCatalog.Proofs.Collector.Presence
import SchemaCatalog.Proofs.Collector.Upkeep
import SchemaCatalog.Proofs.Collector.Idempotence
import SchemaCatalog.Proofs.Publication.References
import SchemaCatalog.Proofs.Publication.Prefixes
import SchemaCatalog.Proofs.Publication.Reversal
import SchemaCatalog.Proofs.Publication.Exactness
import SchemaCatalog.Proofs.Schema.RoundTrip
import SchemaCatalog.Proofs.Merge
import SchemaCatalog.Proofs.ReferenceGraph.Cycles
import SchemaCatalog.Proofs.Text.Lines
import SchemaCatalog.Proofs.Text.LineDiff
import SchemaCatalog.Proofs.Json.Pretty
import SchemaCatalog.Proofs.Collector.Conflict
import SchemaCatalog.Proofs.Json.Faults
import SchemaCatalog.Proofs.Schema.Agreement
import SchemaCatalog.Proofs.Shape.RoundTrip
import SchemaCatalog.Proofs.Bundle
import SchemaCatalog.Proofs.Schema.Tour
import SchemaCatalog.Proofs.Schema.Rewriting
import SchemaCatalog.Proofs.Schema.Checksum
