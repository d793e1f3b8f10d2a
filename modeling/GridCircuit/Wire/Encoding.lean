import GridCircuit.Circuit
import GridCircuit.Json.Printer
import GridCircuit.Qubit.Pair

/-!
# The document form of circuits

Sites, qubits, gates, operations, moments and circuits as document trees.  Alternatives are
objects with one field that names the choice; gates carry the choice in the field `type`.  An
exponent that is infinite or not a number has no document form and becomes `null`, which does not
decode.
-/

namespace GridCircuit

/-- A site as a document. -/
def Site.encode (site : Site) : Json :=
  .object [("row", .integer site.row.toInt), ("col", .integer site.col.toInt)]

/-- A qubit as a document. -/
def Qubit.encode : Qubit → Json
  | grid site => .object [("grid", site.encode)]
  | line index => .object [("line", .integer index.toNat)]
  | named name => .object [("named", .text name)]

/-- A pair of qubits as a document. -/
def QubitPair.encode (pair : QubitPair) : Json :=
  .object [("low", pair.low.encode), ("high", pair.high.encode)]

/-- An axis as a document. -/
def Axis.encode : Axis → Json
  | x => .text "x"
  | y => .text "y"
  | phased angle => .object [("phased", .object [("phase_exponent", .ofFloat angle)])]

/-- The class of a gate as a document. -/
def GateKind.encode : GateKind → Json
  | interaction => .text "two_qubit_interaction"
  | rotation => .text "single_qubit_rotation"
  | phase virtual => .object [("phase_rotation", .object [("virtual_z", .bool virtual)])]
  | measurement => .text "measurement"

/-- A gate as a document. -/
def Gate.encode : Gate → Json
  | interaction exponent =>
    .object [("type", .text "interaction"), ("exponent", .ofFloat exponent)]
  | rotation axis exponent =>
    .object [("type", .text "rotation"), ("axis", axis.encode), ("exponent", .ofFloat exponent)]
  | phase exponent virtual =>
    .object [("type", .text "phase"), ("exponent", .ofFloat exponent),
      ("virtual_z", .bool virtual)]
  | measure key => .object [("type", .text "measure"), ("key", .text key)]
  | custom name arity =>
    .object [("type", .text "custom"), ("name", .text name), ("num_qubits", .integer arity.toNat)]

namespace Operation

/-- A kind of operation with its operands as a document. -/
def encodeOn (kind : Json) (qubits : List Qubit) : Json :=
  .object [("kind", kind), ("qubits", .array (qubits.map Qubit.encode))]

mutual

/-- An operation as a document. -/
def encode : Operation → Json
  | plain gate qubits => encodeOn (.object [("gate", gate.encode)]) qubits
  | conditional key gate qubits =>
    encodeOn (.object [("conditional", .object [("key", .text key), ("gate", gate.encode)])])
      qubits
  | subcircuit parts qubits =>
    encodeOn (.object [("subcircuit", .array (encodeParts parts))]) qubits

/-- Operations as documents. -/
def encodeParts : List Operation → List Json
  | [] => []
  | operation :: rest => encode operation :: encodeParts rest

end

end Operation

/-- A moment as a document. -/
def Moment.encode (moment : Moment) : Json :=
  .object [("operations", .array (Operation.encodeParts moment.operations))]

namespace Circuit

/-- A circuit as a document. -/
def encode (circuit : Circuit) : Json :=
  .object [("name", .text circuit.name), ("moments", .array (circuit.moments.map Moment.encode))]

/-- The text in which a circuit is stored. -/
def write (circuit : Circuit) : String := circuit.encode.pretty

end Circuit

end GridCircuit
