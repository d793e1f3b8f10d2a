import GridCircuit.Device.Error

/-!
# Why a circuit cannot be optimized

The causes for which a pass or the choice of a strategy fails, and the wording of each.
-/

namespace GridCircuit

/-- A reason for which an optimization fails. -/
inductive CompileError where
  /-- No strategy has this name. -/
  | unknownStrategy (name : String)
  /-- The map sends the qubit nowhere. -/
  | unmappedQubit (qubit : Qubit)
  /-- The strategy forbids a partial interaction. -/
  | partialInteraction (operation : Operation) (strategy : String)
  /-- The device refuses the circuit. -/
  | device (cause : DeviceError)
  /-- The circuit cannot be put together. -/
  | circuit (cause : CircuitError)
  /-- The moments of the circuit take a time that is no duration.  Nobody is told of this: it breaks
  the program off. -/
  | durationOverflow

namespace CompileError

/-- The wording of the reason. -/
def message : CompileError → String
  | unknownStrategy name => s!"Unknown optimizer type: {name}"
  | unmappedQubit qubit => s!"Qubit {qubit.label} has no mapping onto the grid"
  | partialInteraction operation strategy =>
    s!"Partial interaction {operation.label} not allowed by strategy {strategy}"
  | device cause => s!"Device error: {cause.message}"
  | circuit cause => s!"IR error: {cause.message}"
  | durationOverflow => "overflow in iter::sum over durations"

/-- The wording of the reason and of what caused it. -/
def chain : CompileError → List String
  | device cause => [(device cause).message, cause.message]
  | circuit cause => [(circuit cause).message, cause.message]
  | error => [error.message]

end CompileError

end GridCircuit
