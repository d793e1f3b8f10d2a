import GridCircuit.Operation

/-!
# Why a device refuses a circuit

The causes for which an operation, a moment or a circuit cannot run on a device, and the wording
of each.
-/

namespace GridCircuit

/-- A reason to refuse an operation, a moment or a circuit. -/
inductive DeviceError where
  /-- The device has no such gate. -/
  | unsupportedGate (name : String)
  /-- The operation is no plain gate, or has the wrong number of operands. -/
  | unsupportedOperation (operation : Operation)
  /-- The qubit is no grid site. -/
  | unsupportedQubit (qubit : Qubit)
  /-- The site does not exist on the device. -/
  | offDevice (site : Site)
  /-- The two operands are no neighbours. -/
  | nonLocal (operation : Operation)
  /-- Two interactions of a moment act on neighbouring sites. -/
  | adjacentInteractions (first second : Operation)
  /-- Two measurements record under one key. -/
  | repeatedKey (key : String)
  /-- Two operations of a moment act on one qubit. -/
  | overlap (qubit : Qubit)

/-- The wording of the reason. -/
def DeviceError.message : DeviceError → String
  | unsupportedGate name => s!"Unsupported gate type: {name}"
  | unsupportedOperation operation => s!"Unsupported operation: {operation.label}"
  | unsupportedQubit qubit => s!"Unsupported qubit type: {qubit.label}"
  | offDevice site => s!"Qubit not on device: {site.label}"
  | nonLocal operation => s!"Non-local interaction: {operation.label}"
  | adjacentInteractions first second =>
    s!"Adjacent interaction operations in moment: {first.label} and {second.label}"
  | repeatedKey key => s!"Measurement key {key} repeated"
  | overlap qubit => s!"Overlapping operations on {qubit.label} in moment"

end GridCircuit
