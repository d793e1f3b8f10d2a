import GridCircuit.Circuit
import GridCircuit.Json.Reader
import GridCircuit.Qubit.Pair
import GridCircuit.Wire.Fields

/-!
# Circuits from documents

Decoding checks the operands of every operation, the parts of a subcircuit before the subcircuit
itself.  It follows the order of the document and ends at the first flaw, so that of two flaws the
earlier one is reported.  The document may leave out a circuit's name and whether a phase is
virtual, and may write any record as a list of its values.
-/

namespace GridCircuit

/-- Why a document is not a circuit or a part of one. -/
inductive DecodeError where
  /-- The document has not the form that is asked for. -/
  | malformed
  /-- The document has the right form, but an operation has wrong operands. -/
  | refused (cause : CircuitError)
  deriving DecidableEq

/-- The wording of the reason. -/
def DecodeError.message : DecodeError → String
  | malformed => "Serialization error: malformed document"
  | refused cause => s!"Serialization error: {cause.message}"

/-- A value that the document must have. -/
def required {α : Type} : Option α → Except DecodeError α
  | some value => .ok value
  | none => .error .malformed

/-- A check of operands as part of decoding. -/
def checked {α : Type} : Except CircuitError α → Except DecodeError α
  | .ok value => .ok value
  | .error cause => .error (.refused cause)

/-! ### Qubits and gates -/

/-- The 32-bit integer of a tree. -/
def Json.int32? : Json → Option Int32
  | integer value => GridCircuit.int32? value
  | _ => none

/-- The site that a document describes. -/
def Site.decode? (tree : Json) : Option Site :=
  match tree.record? ["row", "col"] with
  | some [some row, some col] => do return ⟨← row.int32?, ← col.int32?⟩
  | _ => none

/-- The qubit that a document describes. -/
def Qubit.decode? : Json → Option Qubit
  | .object [("grid", value)] => (Site.decode? value).map grid
  | .object [("line", value)] => (value.natural? UInt32.size).map fun index => line (.ofNat index)
  | .object [("named", value)] => value.text?.map named
  | _ => none

/-- The pair of qubits that a document describes. -/
def QubitPair.decode? (tree : Json) : Option QubitPair :=
  match tree.record? ["low", "high"] with
  | some [some low, some high] => do return ⟨← Qubit.decode? low, ← Qubit.decode? high⟩
  | _ => none

/-- The qubits that a document lists. -/
def Qubit.decodeList? : Json → Option (List Qubit)
  | .array items => items.mapM Qubit.decode?
  | _ => none

/-- What follows the name of an axis that has no angle: nothing, or an empty object. -/
def isUnit : Json → Bool
  | .null => true
  | .object [] => true
  | _ => false

/-- The axis that a document describes. -/
def Axis.decode? : Json → Option Axis
  | .text "x" => some x
  | .text "y" => some y
  | .object [("x", value)] => if isUnit value then some x else none
  | .object [("y", value)] => if isUnit value then some y else none
  | .object [("phased", value)] =>
    match value.record? ["phase_exponent"] with
    | some [some angle] => angle.number?.map phased
    | _ => none
  | _ => none

namespace Gate

/-- The gate of a given type with the parameters of a record. -/
def ofType? (type : String) (parameters : Json) : Option Gate :=
  match type with
  | "interaction" =>
    match parameters.record? ["exponent"] with
    | some [some exponent] => exponent.number?.map interaction
    | _ => none
  | "rotation" =>
    match parameters.record? ["axis", "exponent"] with
    | some [some axis, some exponent] => do
      return rotation (← Axis.decode? axis) (← exponent.number?)
    | _ => none
  | "phase" =>
    match parameters.record? ["exponent", "virtual_z"] with
    | some [some exponent, some virtual] => do return phase (← exponent.number?) (← virtual.bool?)
    | some [some exponent, none] => do return phase (← exponent.number?) false
    | _ => none
  | "measure" =>
    match parameters.record? ["key"] with
    | some [some key] => key.text?.map measure
    | _ => none
  | "custom" =>
    match parameters.record? ["name", "num_qubits"] with
    | some [some name, some arity] => do
      return custom (← name.text?) (.ofNat (← arity.natural? UInt64.size))
    | _ => none
  | _ => none

/-- The gate that a document describes: an object with the field `type` among its parameters, or a
list that starts with the type.  Every part of the document must have a value, also a part that is
passed over. -/
def decode? (tree : Json) : Option Gate :=
  if tree.isKept then
    match tree with
    | .object fields =>
      match fields.filter fun field => field.1 = "type" with
      | [(_, .text type)] => ofType? type (.object (fields.filter fun field => field.1 ≠ "type"))
      | _ => none
    | .array (.text type :: parameters) => ofType? type (.array parameters)
    | _ => none
  else none

end Gate

/-! ### Operations -/

namespace Operation

/-- What a kind of operation makes of its operands. -/
abbrev Builder := List Qubit → Except CircuitError Operation

/-- The kinds of operation that have no parts. -/
def plainBuilder? (variant : String) (value : Json) : Option Builder :=
  match variant with
  | "gate" => (Gate.decode? value).map ofGate
  | "conditional" =>
    match value.record? ["key", "gate"] with
    | some [some key, some gate] => do return ofConditional (← key.text?) (← Gate.decode? gate)
    | _ => none
  | _ => none

mutual

/-- The operation that a document describes. -/
def decode : Json → Except DecodeError Operation
  | .object fields => decodeFields none none fields
  | .array [kind] => do
    let _ ← decodeKind kind
    throw .malformed
  | .array (kind :: qubits :: surplus) => do
    let build ← decodeKind kind
    let qubits ← required (Qubit.decodeList? qubits)
    if surplus.isEmpty then checked (build qubits) else throw .malformed
  | _ => throw .malformed

/-- Decodes the fields of an operation one after the other, given those that came before. -/
def decodeFields (build : Option Builder) (qubits : Option (List Qubit)) :
    List (String × Json) → Except DecodeError Operation
  | [] =>
    match build, qubits with
    | some build, some qubits => checked (build qubits)
    | _, _ => throw .malformed
  | (name, value) :: rest =>
    if name = "kind" then
      if build.isSome then throw .malformed
      else do
        let build ← decodeKind value
        decodeFields (some build) qubits rest
    else if name = "qubits" then
      if qubits.isSome then throw .malformed
      else do
        let qubits ← required (Qubit.decodeList? value)
        decodeFields build (some qubits) rest
    else if value.isIgnorable then decodeFields build qubits rest
    else throw .malformed

/-- The kind of operation that a document describes, an object with one field. -/
def decodeKind : Json → Except DecodeError Builder
  | .object ((variant, value) :: surplus) => do
    let build ← decodeVariant variant value
    if surplus.isEmpty then return build else throw .malformed
  | _ => throw .malformed

/-- The kind of operation under a name. -/
def decodeVariant (variant : String) : Json → Except DecodeError Builder
  | .array items =>
    if variant = "subcircuit" then do
      let parts ← decodeParts items
      return ofPartsOn parts
    else required (plainBuilder? variant (.array items))
  | value => required (plainBuilder? variant value)

/-- The operations that documents describe. -/
def decodeParts : List Json → Except DecodeError (List Operation)
  | [] => return []
  | item :: rest => do
    let operation ← decode item
    return operation :: (← decodeParts rest)

end

end Operation

/-! ### Moments and circuits -/

namespace Moment

/-- The operations that a document lists. -/
def decodeOperations : Json → Except DecodeError (List Operation)
  | .array items => Operation.decodeParts items
  | _ => throw .malformed

/-- Decodes the fields of a moment one after the other, given those that came before. -/
def decodeFields (operations : Option (List Operation)) :
    List (String × Json) → Except DecodeError Moment
  | [] => do return ⟨← required operations⟩
  | (name, value) :: rest =>
    if name = "operations" then
      if operations.isSome then throw .malformed
      else do
        let operations ← decodeOperations value
        decodeFields (some operations) rest
    else if value.isIgnorable then decodeFields operations rest
    else throw .malformed

/-- The moment that a document describes. -/
def decode : Json → Except DecodeError Moment
  | .object fields => decodeFields none fields
  | .array (operations :: surplus) => do
    let operations ← decodeOperations operations
    if surplus.isEmpty then return ⟨operations⟩ else throw .malformed
  | _ => throw .malformed

end Moment

namespace Circuit

/-- The moments that a document lists. -/
def decodeMoments : Json → Except DecodeError (List Moment)
  | .array items => items.mapM Moment.decode
  | _ => throw .malformed

/-- Decodes the fields of a circuit one after the other, given those that came before. -/
def decodeFields (name : Option String) (moments : Option (List Moment)) :
    List (String × Json) → Except DecodeError Circuit
  | [] => do return ⟨name.getD "", ← required moments⟩
  | (field, value) :: rest =>
    if field = "name" then
      if name.isSome then throw .malformed
      else do
        let name ← required value.text?
        decodeFields (some name) moments rest
    else if field = "moments" then
      if moments.isSome then throw .malformed
      else do
        let moments ← decodeMoments value
        decodeFields name (some moments) rest
    else if value.isIgnorable then decodeFields name moments rest
    else throw .malformed

/-- The circuit that a document describes. -/
def decode : Json → Except DecodeError Circuit
  | .object fields => decodeFields none none fields
  | .array (name :: moments :: surplus) => do
    let name ← required name.text?
    let moments ← decodeMoments moments
    if surplus.isEmpty then return ⟨name, moments⟩ else throw .malformed
  | _ => throw .malformed

end Circuit

/-- Decodes a text.  After the document the text must end. -/
def Json.Source.decode {α : Type} (source : Json.Source)
    (decodeRoot : Json → Except DecodeError α) : Except DecodeError α := do
  let value ← decodeRoot source.root
  if source.complete then return value else throw .malformed

/-- Reads the circuit that a text describes. -/
def Circuit.read (source : String) : Except DecodeError Circuit :=
  (Json.read source).decode Circuit.decode

end GridCircuit
