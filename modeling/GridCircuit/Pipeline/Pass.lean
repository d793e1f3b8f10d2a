import GridCircuit.Pipeline.DevicePasses
import GridCircuit.Pipeline.Distance
import GridCircuit.Pipeline.Mapping
import GridCircuit.Pipeline.Strategy

/-!
# Passes

A pass works on a circuit and on the properties that passes share: the target device and the
summary of the last verification.  A pass that fails tells why and leaves both as they are.
-/

namespace GridCircuit

/-- What passes share besides the circuit. -/
structure Properties where
  device : Option Device
  summary : Option VerificationSummary

/-- What a pass works on. -/
structure Workspace where
  circuit : Circuit
  properties : Properties

/-- What a pass leaves behind. -/
structure Outcome where
  workspace : Workspace
  /-- The reason for which the pass failed, if it did. -/
  failure : Option CompileError

/-- A step of an optimization. -/
inductive Pass where
  /-- Maps the qubits onto a grid. -/
  | mapping (map : QubitMap)
  /-- Removes gates whose exponent is within a tolerance of none. -/
  | dropNegligible (tolerance : Float)
  /-- Refuses interactions that are not full within a tolerance. -/
  | requireFull (strategy : Strategy) (tolerance : Float)
  /-- Removes moments without operations. -/
  | dropEmptyMoments
  /-- Assembles the circuit anew under the rules of the device. -/
  | packing
  /-- Checks the circuit against the device and leaves a summary. -/
  | verification

/-- Whether a pass changes the circuit or only looks at it. -/
inductive PassKind where
  | analysis
  | transformation
  deriving DecidableEq

/-- Removes the plain gates whose exponent is within a tolerance of none; the moments stay, even
without operations. -/
def Circuit.dropNegligible (tolerance : Float) (circuit : Circuit) : Circuit :=
  { circuit with
    moments := circuit.moments.map fun moment =>
      ⟨moment.operations.filter (!·.isNegligible tolerance)⟩ }

/-- The tolerance that is used when none is given. -/
def defaultTolerance : Float := 1e-8

namespace Outcome

/-- A pass that has left this circuit. -/
def ofCircuit (workspace : Workspace) (circuit : Circuit) : Outcome :=
  ⟨{ workspace with circuit := circuit }, none⟩

/-- A pass that has left a circuit or failed. -/
def ofResult (workspace : Workspace) : Except CompileError Circuit → Outcome
  | .ok circuit => ofCircuit workspace circuit
  | .error failure => ⟨workspace, some failure⟩

end Outcome

namespace Pass

/-- The name of a pass. -/
def name : Pass → String
  | mapping _ => "qubit_mapping"
  | dropNegligible _ => "drop_negligible"
  | requireFull _ _ => "require_full_interactions"
  | dropEmptyMoments => "drop_empty_moments"
  | packing => "moment_packing"
  | verification => "device_verification"

/-- Whether a pass changes the circuit. -/
def kind : Pass → PassKind
  | mapping _ => .transformation
  | dropNegligible _ => .transformation
  | requireFull _ _ => .analysis
  | dropEmptyMoments => .transformation
  | packing => .transformation
  | verification => .analysis

/-- Whether a pass has anything to do: partial interactions are looked for where the strategy
forbids them, and packing and verification need a device. -/
def shouldRun (pass : Pass) (properties : Properties) : Bool :=
  match pass with
  | mapping _ => true
  | dropNegligible _ => true
  | requireFull strategy _ => !strategy.allowsPartial
  | dropEmptyMoments => true
  | packing => properties.device.isSome
  | verification => properties.device.isSome

/-- Runs a pass, whether or not it has anything to do.  Without a device, packing and verification
do nothing. -/
def run (pass : Pass) (workspace : Workspace) : Outcome :=
  match pass with
  | mapping map => .ofResult workspace (map.onCircuit workspace.circuit)
  | dropNegligible tolerance =>
    .ofCircuit workspace (workspace.circuit.dropNegligible tolerance)
  | requireFull strategy tolerance =>
    match workspace.circuit.operations.find? (·.isPartialInteraction tolerance) with
    | some operation => ⟨workspace, some (.partialInteraction operation strategy.name)⟩
    | none => ⟨workspace, none⟩
  | dropEmptyMoments => .ofCircuit workspace workspace.circuit.dropEmptyMoments
  | packing =>
    match workspace.properties.device with
    | some device => .ofResult workspace ((device.pack workspace.circuit).mapError .device)
    | none => ⟨workspace, none⟩
  | verification =>
    match workspace.properties.device with
    | some device =>
      match device.verify workspace.circuit with
      | .ok summary =>
        ⟨{ workspace with
            properties := { workspace.properties with summary := some summary } }, none⟩
      | .error failure => ⟨workspace, some failure⟩
    | none => ⟨workspace, none⟩

/-- Runs passes in order, leaving out those that have nothing to do, up to the first that
fails. -/
def runAll : List Pass → Workspace → Outcome
  | [], workspace => ⟨workspace, none⟩
  | pass :: rest, workspace =>
    if pass.shouldRun workspace.properties then
      let outcome := pass.run workspace
      match outcome.failure with
      | some _ => outcome
      | none => runAll rest outcome.workspace
    else runAll rest workspace

end Pass

end GridCircuit
