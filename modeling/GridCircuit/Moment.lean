import GridCircuit.Operation

/-!
# Moments

A moment holds the operations of one time step.  `Moment.push` keeps their operands disjoint; a
moment put together by hand may overlap, and `Moment.overlap?` then names the first qubit that is
used again.
-/

namespace GridCircuit

/-- The operations of one time step, in the order they were added. -/
structure Moment where
  operations : List Operation

namespace Moment

/-- The moment without operations. -/
def empty : Moment := ⟨[]⟩

/-- The operands of all operations in order, with repetitions. -/
def qubits (moment : Moment) : List Qubit :=
  moment.operations.flatMap Operation.qubits

/-- Whether an operation of the moment acts on a qubit. -/
def actsOn (moment : Moment) (qubit : Qubit) : Bool :=
  moment.operations.any (·.actsOn qubit)

/-- Whether an operation of the moment acts on one of some qubits. -/
def touches (moment : Moment) (qubits : List Qubit) : Bool :=
  qubits.any moment.actsOn

/-- Adds an operation without a check. -/
def add (moment : Moment) (operation : Operation) : Moment :=
  ⟨moment.operations ++ [operation]⟩

/-- Adds an operation unless one of its operands is in use; the first such operand is reported. -/
def push (moment : Moment) (operation : Operation) : Except CircuitError Moment :=
  match operation.qubits.find? moment.actsOn with
  | some qubit => .error (.overlap qubit)
  | none => .ok (moment.add operation)

/-- The moment that holds some operations, none of which may use an operand of another. -/
def ofOperations (operations : List Operation) : Except CircuitError Moment :=
  operations.foldlM push empty

/-- The first operand that has been used before it. -/
def overlap? (moment : Moment) : Option Qubit :=
  firstRepeat? moment.qubits

/-- Equality of moments whose exponents are compared as numbers. -/
def same (a b : Moment) : Bool :=
  Operation.sameParts a.operations b.operations

end Moment

end GridCircuit
