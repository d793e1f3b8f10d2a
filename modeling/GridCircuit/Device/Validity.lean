import GridCircuit.Device.Error
import GridCircuit.Topology.Basic

/-!
# Operations that fit a topology

A device runs plain gates of its native vocabulary with the right number of operands, all of them
sites of the device.  Two operands must be neighbours unless they are measured.
-/

namespace GridCircuit

/-- The class of a native gate; other gates are refused by name. -/
def Gate.nativeKind (gate : Gate) : Except DeviceError GateKind :=
  match gate.kind? with
  | some kind => .ok kind
  | none => .error (.unsupportedGate gate.name)

/-- Whether the device has a gate. -/
def Gate.isNative (gate : Gate) : Bool := gate.kind?.isSome

namespace Topology

/-- The site of a qubit, which must be a site of the topology. -/
def siteOf (topology : Topology) (qubit : Qubit) : Except DeviceError Site :=
  match qubit.site? with
  | none => .error (.unsupportedQubit qubit)
  | some site => if site ∈ topology then .ok site else .error (.offDevice site)

/-- Whether sites may be the operands of a gate: two operands of anything but a measurement must
be neighbours. -/
def areLocal (kind : GateKind) : List Site → Bool
  | [a, b] => kind = .measurement || a.Adjacent b
  | _ => true

/-- Checks an operation: its form, its gate, the number of its operands, each operand from left to
right and last that two operands are neighbours.  The first failure is reported. -/
def checkOperation (topology : Topology) (operation : Operation) : Except DeviceError Unit :=
  match operation.gate? with
  | none => .error (.unsupportedOperation operation)
  | some gate => do
    let kind ← gate.nativeKind
    if gate.accepts operation.qubits.length then
      let sites ← operation.qubits.mapM topology.siteOf
      if areLocal kind sites then .ok () else .error (.nonLocal operation)
    else .error (.unsupportedOperation operation)

end Topology

end GridCircuit
