import GridCircuit.Qubit

/-!
# Why a circuit cannot be put together

The causes for which an operation, a pair of qubits or a moment is refused, and the wording of
each.
-/

namespace GridCircuit

/-- A reason to refuse a part of a circuit. -/
inductive CircuitError where
  /-- A gate was given the wrong number of operands. -/
  | operandCount (gate : String) (expected got : Nat)
  /-- A gate was given the same operand twice. -/
  | repeatedOperand (qubit : Qubit) (gate : String)
  /-- Two operations of a moment act on one qubit. -/
  | overlap (qubit : Qubit)
  /-- Both ends of a pair are the same qubit. -/
  | identicalPair (qubit : Qubit)
  /-- A subcircuit names other operands than its parts use. -/
  | subcircuitOperands
  deriving DecidableEq

/-- The wording of the reason. -/
def CircuitError.message : CircuitError → String
  | operandCount gate expected got => s!"Gate '{gate}' requires {expected} qubits, got {got}"
  | repeatedOperand qubit gate => s!"Duplicate qubit {qubit.label} in operation (gate: {gate})"
  | overlap qubit => s!"Overlapping operations on {qubit.label} in moment"
  | identicalPair qubit => s!"A qubit pair cannot have identical qubits ({qubit.label})"
  | subcircuitOperands => "Subcircuit qubit list does not match its operations"

end GridCircuit
