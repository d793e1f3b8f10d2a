import GridCircuit.Circuit
import GridCircuit.CircuitError
import GridCircuit.CommandLine.Failure
import GridCircuit.CommandLine.Invocation
import GridCircuit.CommandLine.Options
import GridCircuit.CommandLine.Run
import GridCircuit.Config.Basic
import GridCircuit.Config.Error
import GridCircuit.Config.Format
import GridCircuit.Config.Overrides
import GridCircuit.Decimal.Binary
import GridCircuit.Decimal.Numeral
import GridCircuit.Decimal.Shortest
import GridCircuit.Decimal.Style
import GridCircuit.Device.Basic
import GridCircuit.Device.Description
import GridCircuit.Device.Error
import GridCircuit.Device.Exclusion
import GridCircuit.Device.HostChecks
import GridCircuit.Device.Timing
import GridCircuit.Device.Validity
import GridCircuit.Files.Basic
import GridCircuit.Files.Path
import GridCircuit.Files.Tree
import GridCircuit.Gate
import GridCircuit.Json.Basic
import GridCircuit.Json.Printer
import GridCircuit.Json.Reader
import GridCircuit.Json.Token
import GridCircuit.Main
import GridCircuit.Moment
import GridCircuit.Operation
import GridCircuit.Pipeline.DevicePasses
import GridCircuit.Pipeline.Distance
import GridCircuit.Pipeline.Error
import GridCircuit.Pipeline.Mapping
import GridCircuit.Pipeline.Optimization
import GridCircuit.Pipeline.Pass
import GridCircuit.Pipeline.Strategy
import GridCircuit.Qubit
import GridCircuit.Qubit.Pair
import GridCircuit.Repeats
import GridCircuit.Site
import GridCircuit.Sorted
import GridCircuit.Text.Alphanumeric
import GridCircuit.Text.Basic
import GridCircuit.Text.Hidden
import GridCircuit.Text.Quoted
import GridCircuit.Topology.Basic
import GridCircuit.Topology.Diagram
import GridCircuit.Topology.Layout
import GridCircuit.Wire.Decoding
import GridCircuit.Wire.Encoding
import GridCircuit.Wire.Fields
import GridCircuit.Yaml.Cursor
import GridCircuit.Yaml.Node
import GridCircuit.Yaml.Reader
import GridCircuit.Yaml.Scalar
import GridCircuit.Proofs.Attempt
import GridCircuit.Proofs.Operands
import GridCircuit.Proofs.Placement
import GridCircuit.Proofs.Arrangement
import GridCircuit.Proofs.Legality
import GridCircuit.Proofs.Durations
import GridCircuit.Proofs.Renaming
import GridCircuit.Proofs.Packing
import GridCircuit.Proofs.Idempotence
import GridCircuit.Proofs.Preservation
import GridCircuit.Proofs.Success
import GridCircuit.Proofs.Landing
import GridCircuit.Proofs.Reordering
import GridCircuit.Proofs.WellFormed
import GridCircuit.Proofs.Acceptance
import GridCircuit.Proofs.RoundTrip
import GridCircuit.Proofs.Chains
import GridCircuit.Proofs.Collisions
import GridCircuit.Proofs.Translation
import GridCircuit.Proofs.Relocation
import GridCircuit.Proofs.Equivariance
import GridCircuit.Proofs.Magnitudes
import GridCircuit.Proofs.FiniteNumbers
import GridCircuit.Proofs.Reading
import GridCircuit.Proofs.Decoding
import GridCircuit.Proofs.FiniteExponents
import GridCircuit.Proofs.Delivery
import GridCircuit.Proofs.Admission
import GridCircuit.Proofs.Portability
import GridCircuit.Proofs.Strictness
import GridCircuit.Proofs.Summaries
import GridCircuit.Proofs.Control
import GridCircuit.Proofs.HostRules
import GridCircuit.Proofs.Precedence
import GridCircuit.Proofs.Justification
import GridCircuit.Proofs.Insertion
import GridCircuit.Proofs.Unobstructed
import GridCircuit.Proofs.Matching
import GridCircuit.Proofs.FirstFlaw
import GridCircuit.Proofs.Composition
import GridCircuit.Proofs.Couplings
import GridCircuit.Proofs.Failures
import GridCircuit.Proofs.Cells
import GridCircuit.Proofs.Diagrams
import GridCircuit.Proofs.DrawnLinks
import GridCircuit.Proofs.Timing
import GridCircuit.Proofs.Comparisons
import GridCircuit.Proofs.FullInteractions
import GridCircuit.Proofs.Capacity
import GridCircuit.Proofs.TextLines
import GridCircuit.Proofs.Drawings
import GridCircuit.Proofs.Rectangles
import GridCircuit.Proofs.Pairs
import GridCircuit.Proofs.Heredity
import GridCircuit.Proofs.OverlapChecks
import GridCircuit.Proofs.FaithfulRenaming
import GridCircuit.Proofs.SiteQueries
