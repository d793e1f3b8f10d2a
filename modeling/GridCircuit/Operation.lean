import GridCircuit.CircuitError
import GridCircuit.Decimal.Style
import GridCircuit.Gate
import GridCircuit.Repeats

/-!
# Operations

An operation applies a gate to qubits, applies it under the control of a recorded outcome, or
stands for a list of operations as one.  The checked constructors refuse a wrong number of
operands and repeated operands; an operation put together by hand may break both rules.
-/

namespace GridCircuit

/-- A gate, a conditional gate or a subcircuit, with the qubits it acts on. -/
inductive Operation where
  /-- A gate. -/
  | plain (gate : Gate) (qubits : List Qubit)
  /-- A gate that is applied when the outcome under a key says so. -/
  | conditional (key : String) (gate : Gate) (qubits : List Qubit)
  /-- Operations that count as one. -/
  | subcircuit (parts : List Operation) (qubits : List Qubit)

/-- A gate's operands must have the right number, and then be distinct. -/
def Gate.checkOperands (gate : Gate) (qubits : List Qubit) : Except CircuitError Unit :=
  if gate.accepts qubits.length then
    match firstRepeat? qubits with
    | some qubit => .error (.repeatedOperand qubit gate.name)
    | none => .ok ()
  else .error (.operandCount gate.name (gate.arity?.getD 1) qubits.length)

namespace Operation

/-- The operands of an operation. -/
def qubits : Operation → List Qubit
  | plain _ qubits => qubits
  | conditional _ _ qubits => qubits
  | subcircuit _ qubits => qubits

/-- The distinct operands of several operations, in the order of their first use. -/
def union (operations : List Operation) : List Qubit :=
  (operations.flatMap qubits).foldl
    (fun seen qubit => if qubit ∈ seen then seen else seen ++ [qubit]) []

/-- A gate on checked operands. -/
def ofGate (gate : Gate) (qubits : List Qubit) : Except CircuitError Operation :=
  (gate.checkOperands qubits).map fun _ => plain gate qubits

/-- A conditional gate on checked operands. -/
def ofConditional (key : String) (gate : Gate) (qubits : List Qubit) :
    Except CircuitError Operation :=
  (gate.checkOperands qubits).map fun _ => conditional key gate qubits

/-- A subcircuit acts on the operands of its parts. -/
def ofParts (parts : List Operation) : Operation :=
  subcircuit parts (union parts)

/-- A subcircuit with a given operand list, which must be that of its parts. -/
def ofPartsOn (parts : List Operation) (qubits : List Qubit) : Except CircuitError Operation :=
  if union parts = qubits then .ok (subcircuit parts qubits) else .error .subcircuitOperands

/-- The gate of a plain operation. -/
def gate? : Operation → Option Gate
  | plain gate _ => some gate
  | _ => none

/-- The class of a plain operation's gate. -/
def kind? (operation : Operation) : Option GateKind :=
  operation.gate?.bind Gate.kind?

/-- Whether the operation is a plain two-qubit interaction. -/
def isInteraction (operation : Operation) : Bool :=
  operation.kind? = some .interaction

/-- The key of a plain measurement. -/
def key? (operation : Operation) : Option String :=
  operation.gate?.bind Gate.key?

/-- Whether the operation is a plain measurement. -/
def isMeasurement (operation : Operation) : Bool :=
  operation.key?.isSome

/-- Whether a qubit is an operand. -/
def actsOn (operation : Operation) (qubit : Qubit) : Bool :=
  qubit ∈ operation.qubits

/-- The name of an operation. -/
def name : Operation → String
  | plain gate _ => gate.name
  | conditional _ _ _ => "conditional"
  | subcircuit _ _ => "subcircuit"

/-- The step between one and the next floating-point number: exponents this close to one are not
shown. -/
def exponentStep : Float := 2.220446049250313e-16

/-- The exponent as labels show it, which is only when it is not one. -/
def exponentLabel (operation : Operation) : String :=
  match operation.gate?.bind Gate.exponent? with
  | some exponent =>
    if (exponent - 1.0).abs > exponentStep then
      s!"**{Decimal.Style.plain.render exponent}"
    else ""
  | none => ""

/-- The text of an operation, such as `cz**0.5(q(0, 0), q(0, 1))`. -/
def label (operation : Operation) : String :=
  let operands := ", ".intercalate (operation.qubits.map Qubit.label)
  s!"{operation.name}{operation.exponentLabel}({operands})"

mutual

/-- Renames the operands of an operation and of all its parts.  The parts are renamed before the
operand list, from left to right, and the first failure ends the renaming. -/
def mapQubits {ε : Type} (rename : Qubit → Except ε Qubit) : Operation → Except ε Operation
  | plain gate qubits => do
    return plain gate (← qubits.mapM rename)
  | conditional key gate qubits => do
    return conditional key gate (← qubits.mapM rename)
  | subcircuit parts qubits => do
    let parts ← mapParts rename parts
    return subcircuit parts (← qubits.mapM rename)

/-- Renames the operands of operations from left to right. -/
def mapParts {ε : Type} (rename : Qubit → Except ε Qubit) :
    List Operation → Except ε (List Operation)
  | [] => return []
  | operation :: rest => do
    let operation ← mapQubits rename operation
    return operation :: (← mapParts rename rest)

end

mutual

/-- Equality of operations whose exponents are compared as numbers. -/
def same : Operation → Operation → Bool
  | plain gate qubits, plain gate' qubits' => gate.same gate' && qubits = qubits'
  | conditional key gate qubits, conditional key' gate' qubits' =>
    key = key' && gate.same gate' && qubits = qubits'
  | subcircuit parts qubits, subcircuit parts' qubits' =>
    sameParts parts parts' && qubits = qubits'
  | _, _ => false

/-- Equality of operation lists whose exponents are compared as numbers. -/
def sameParts : List Operation → List Operation → Bool
  | [], [] => true
  | operation :: rest, operation' :: rest' => same operation operation' && sameParts rest rest'
  | _, _ => false

end

end Operation

end GridCircuit
