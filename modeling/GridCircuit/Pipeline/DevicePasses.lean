import GridCircuit.Device.Basic
import GridCircuit.Pipeline.Error

/-!
# Packing and verification

An optimization for a device ends with two steps.  Packing takes the operations of a circuit in
order and puts each one into the earliest moment at which the device has a place for it.
Verification checks the packed circuit against the device and sums up what was checked.
-/

namespace GridCircuit

/-- What a verification found. -/
structure VerificationSummary where
  passed : Bool
  moments : Nat
  operations : Nat
  keys : Nat
  /-- The sum of the durations of the moments. -/
  total : Duration
  deriving DecidableEq

namespace Device

/-- Checks an operation and places it into a circuit. -/
def place (device : Device) (circuit : Circuit) (operation : Operation) :
    Except DeviceError Circuit := do
  device.checkOperation operation
  return (circuit.insertEarliest operation device.canAdd).2

/-- Assembles a circuit anew under the rules of the device. -/
def pack (device : Device) (circuit : Circuit) : Except DeviceError Circuit :=
  circuit.operations.foldlM device.place (.empty circuit.name)

/-- Checks a circuit and sums it up.  The durations are added last, so that only a circuit that
passes the checks can break the program off. -/
def verify (device : Device) (circuit : Circuit) : Except CompileError VerificationSummary := do
  (device.checkCircuit circuit).mapError .device
  let durations ← (device.momentDurations circuit).mapError .device
  match totalDuration? durations with
  | none => .error .durationOverflow
  | some total =>
    return {
      passed := true
      moments := circuit.depth
      operations := circuit.size
      keys := circuit.keys.length
      total := total }

end Device

end GridCircuit
