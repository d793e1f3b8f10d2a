import GridCircuit.Circuit
import GridCircuit.Pipeline.Error

/-!
# Mapping qubits onto a grid

A qubit map says which site stands for a qubit.  Mapping renames all operands of a circuit and
puts its moments together anew, so that two operations of a moment cannot end on one site.
-/

namespace GridCircuit

/-- The site that stands for a qubit, if any. -/
abbrev QubitMap := Qubit → Option Site

namespace QubitMap

/-- Grid qubits stay where they are; others have no site. -/
def identity : QubitMap := Qubit.site?

/-- Grid qubits stay where they are, and the positions of a line become the columns of a row. -/
def lineOntoRow (row : Int32) : QubitMap
  | .grid site => some site
  | .line index => (int32? index.toNat).map fun col => ⟨row, col⟩
  | .named _ => none

/-- The qubit that stands for a qubit. -/
def rename (map : QubitMap) (qubit : Qubit) : Except CompileError Qubit :=
  match map qubit with
  | some site => .ok (.grid site)
  | none => .error (.unmappedQubit qubit)

/-- Maps the operations of a moment, from left to right, and puts them together again. -/
def onMoment (map : QubitMap) (moment : Moment) : Except CompileError Moment := do
  let operations ← moment.operations.mapM fun operation => operation.mapQubits map.rename
  (Moment.ofOperations operations).mapError .circuit

/-- Maps the moments of a circuit, from first to last. -/
def onCircuit (map : QubitMap) (circuit : Circuit) : Except CompileError Circuit := do
  return { circuit with moments := (← circuit.moments.mapM map.onMoment) }

end QubitMap

end GridCircuit
