import GridCircuit.Proofs.Attempt
import GridCircuit.Proofs.WellFormed
import GridCircuit.Wire.Decoding
import GridCircuit.Wire.Encoding

/-!
# Circuits and their documents

Anything can be encoded, but not everything can be read back: decoding checks the operands of every
operation once more, and an exponent without a document form does not decode.  Each lemma here says
of one kind of thing under which condition its document is read, and that what is read then is the
thing itself, so that the condition of a whole is that of its parts:

* sites and qubits are always read;
* a gate is read when its exponents are finite;
* an operation is read when it is well formed, at every depth, and its gates are read;
* moments and circuits are read when their operations are.
-/

namespace GridCircuit

open Attempt

/-! ## Finite numbers -/

/-- The angle of an axis that has one. -/
def Axis.numbers : Axis → List Float
  | x => []
  | y => []
  | phased angle => [angle]

/-- The exponents of a gate and of its axis. -/
def Gate.numbers : Gate → List Float
  | interaction exponent => [exponent]
  | rotation axis exponent => axis.numbers ++ [exponent]
  | phase exponent _ => [exponent]
  | measure _ => []
  | custom _ _ => []

/-- A gate all of whose exponents are finite. -/
def Gate.Finite (gate : Gate) : Prop := ∀ number ∈ gate.numbers, number.isFinite = true

/-- An operation all of whose exponents, and those of its parts, are finite. -/
inductive Operation.Finite : Operation → Prop
  | plain {gate : Gate} {qubits : List Qubit} (hgate : gate.Finite) : Finite (.plain gate qubits)
  | conditional {key : String} {gate : Gate} {qubits : List Qubit} (hgate : gate.Finite) :
      Finite (.conditional key gate qubits)
  | subcircuit {parts : List Operation} {qubits : List Qubit}
      (hparts : ∀ part ∈ parts, Finite part) : Finite (.subcircuit parts qubits)

namespace Operation

variable {gate : Gate} {qubits : List Qubit}

theorem finite_plain_iff : (plain gate qubits).Finite ↔ gate.Finite :=
  ⟨fun | .plain hgate => hgate, .plain⟩

theorem finite_conditional_iff {key : String} :
    (conditional key gate qubits).Finite ↔ gate.Finite :=
  ⟨fun | .conditional hgate => hgate, .conditional⟩

theorem finite_subcircuit_iff {parts : List Operation} :
    (subcircuit parts qubits).Finite ↔ ∀ part ∈ parts, part.Finite :=
  ⟨fun | .subcircuit hparts => hparts, .subcircuit⟩

end Operation

/-! ## Values that are there under a condition -/

variable {α β : Type} {found : Option α} {a : α} {P : Prop}

/-- A value is made of one that is there under a condition. -/
theorem map_eq_some_iff_of (hfound : ∀ x, found = some x ↔ P ∧ x = a) (f : α → β) {b : β} :
    found.map f = some b ↔ P ∧ b = f a := by
  simp only [Option.map_eq_some_iff, hfound]
  constructor
  · rintro ⟨_, ⟨hP, rfl⟩, rfl⟩
    exact ⟨hP, rfl⟩
  · rintro ⟨hP, rfl⟩
    exact ⟨a, ⟨hP, rfl⟩, rfl⟩

theorem bind_eq_some_iff_of (hfound : ∀ x, found = some x ↔ P ∧ x = a) {next : α → Option β}
    {b : β} : found.bind next = some b ↔ P ∧ next a = some b := by
  simp only [Option.bind_eq_some_iff, hfound]
  constructor
  · rintro ⟨_, ⟨hP, rfl⟩, hnext⟩
    exact ⟨hP, hnext⟩
  · rintro ⟨hP, hnext⟩
    exact ⟨a, ⟨hP, rfl⟩, hnext⟩

/-! ## Numbers -/

theorem Json.number?_ofFloat_eq_some_iff {value number : Float} :
    (Json.ofFloat value).number? = some number ↔ value.isFinite = true ∧ number = value := by
  unfold Json.ofFloat
  by_cases hfinite : value.isFinite = true
  · simp [hfinite, Json.number?, eq_comm]
  · simp [hfinite, Json.number?]

theorem Json.isKept_ofFloat (value : Float) : (Json.ofFloat value).isKept = true := by
  unfold Json.ofFloat
  split <;> rfl

theorem int32?_toInt (value : Int32) : int32? value.toInt = some value :=
  int32?_eq_some_iff.mpr rfl

theorem Json.natural?_toNat {bound count : Nat} (hcount : count < bound) :
    (Json.integer count).natural? bound = some count := by
  simp [Json.natural?, hcount]

/-! ## Qubits -/

theorem Site.decode?_encode (site : Site) : Site.decode? site.encode = some site := by
  simp [Site.decode?, Site.encode, Json.record?, Json.fieldValues?, Json.int32?, int32?_toInt]

theorem Qubit.decode?_encode (qubit : Qubit) : Qubit.decode? qubit.encode = some qubit := by
  cases qubit with
  | grid site => simp [Qubit.encode, Qubit.decode?, Site.decode?_encode]
  | line index =>
      simp only [Qubit.encode, Qubit.decode?, Json.natural?_toNat index.toNat_lt_size,
        Option.map_some, UInt32.ofNat_toNat]
  | named name => rfl

theorem Qubit.decodeList?_encode (qubits : List Qubit) :
    Qubit.decodeList? (.array (qubits.map Qubit.encode)) = some qubits := by
  rw [Qubit.decodeList?, List.mapM_map]
  induction qubits with
  | nil => rfl
  | cons qubit rest ih => simp [List.mapM_cons, Qubit.decode?_encode, ih]

/-! ## Gates -/

theorem Axis.isKept_encode (axis : Axis) : axis.encode.isKept = true := by
  cases axis <;> simp [Axis.encode, Json.isKept, Json.haveKeptValues, Json.isKept_ofFloat]

theorem Axis.decode?_encode_phased (angle : Float) :
    Axis.decode? (phased angle).encode = (Json.ofFloat angle).number?.map phased := by
  simp [Axis.decode?, Axis.encode, Json.record?, Json.fieldValues?]

theorem Axis.decode?_encode_eq_some_iff {axis result : Axis} :
    Axis.decode? axis.encode = some result ↔
      (∀ number ∈ axis.numbers, number.isFinite = true) ∧ result = axis := by
  cases axis with
  | x =>
      have hdecode : Axis.decode? x.encode = some x := rfl
      rw [hdecode, Option.some.injEq, eq_comm]
      simp [Axis.numbers]
  | y =>
      have hdecode : Axis.decode? y.encode = some y := rfl
      rw [hdecode, Option.some.injEq, eq_comm]
      simp [Axis.numbers]
  | phased angle =>
      rw [decode?_encode_phased, map_eq_some_iff_of fun _ => Json.number?_ofFloat_eq_some_iff]
      simp [Axis.numbers]

namespace Gate

/-- A gate is read from the parameters that stand beside its type. -/
theorem decode?_type (type : String) {parameters : List (String × Json)}
    (hkept : Json.haveKeptValues parameters = true)
    (hnames : ∀ field ∈ parameters, field.1 ≠ "type") :
    decode? (.object (("type", .text type) :: parameters)) =
      ofType? type (.object parameters) := by
  have htree : (Json.object (("type", .text type) :: parameters)).isKept = true := by
    simpa [Json.isKept, Json.haveKeptValues] using hkept
  have htype : parameters.filter (fun field => field.1 = "type") = [] := by
    simpa [List.filter_eq_nil_iff] using hnames
  have hothers : parameters.filter (fun field => field.1 ≠ "type") = parameters := by
    simpa [List.filter_eq_self] using hnames
  rw [decode?, if_pos htree]
  simp only [List.filter_cons, htype, hothers, decide_true, if_true, ne_eq, not_true_eq_false,
    decide_false, Bool.false_eq_true, if_false]

theorem decode?_encode_interaction (exponent : Float) :
    decode? (interaction exponent).encode = (Json.ofFloat exponent).number?.map interaction := by
  rw [encode, decode?_type _ (by simp [Json.haveKeptValues, Json.isKept_ofFloat]) (by simp)]
  simp [ofType?, Json.record?, Json.fieldValues?]

theorem decode?_encode_rotation (axis : Axis) (exponent : Float) :
    decode? (rotation axis exponent).encode =
      (Axis.decode? axis.encode).bind fun axis =>
        (Json.ofFloat exponent).number?.bind fun exponent => some (rotation axis exponent) := by
  rw [encode, decode?_type _
    (by simp [Json.haveKeptValues, Json.isKept_ofFloat, axis.isKept_encode]) (by simp)]
  simp [ofType?, Json.record?, Json.fieldValues?]

theorem decode?_encode_phase (exponent : Float) (virtual : Bool) :
    decode? (phase exponent virtual).encode =
      (Json.ofFloat exponent).number?.bind fun exponent => some (phase exponent virtual) := by
  rw [encode, decode?_type _
    (by simp [Json.haveKeptValues, Json.isKept_ofFloat, Json.isKept]) (by simp)]
  simp [ofType?, Json.record?, Json.fieldValues?, Json.bool?]

theorem decode?_encode_measure (key : String) :
    decode? (measure key).encode = some (measure key) := by
  rw [encode, decode?_type _ (by simp [Json.haveKeptValues, Json.isKept]) (by simp)]
  simp [ofType?, Json.record?, Json.fieldValues?, Json.text?]

theorem decode?_encode_custom (name : String) (arity : UInt64) :
    decode? (custom name arity).encode = some (custom name arity) := by
  rw [encode, decode?_type _ (by simp [Json.haveKeptValues, Json.isKept]) (by simp)]
  simp [ofType?, Json.record?, Json.fieldValues?, Json.text?,
    Json.natural?_toNat arity.toNat_lt_size]

/-- What is written of a gate is read as that gate, and only when its exponents are finite. -/
theorem decode?_encode_eq_some_iff {gate result : Gate} :
    decode? gate.encode = some result ↔ gate.Finite ∧ result = gate := by
  cases gate with
  | interaction exponent =>
      rw [decode?_encode_interaction,
        map_eq_some_iff_of fun _ => Json.number?_ofFloat_eq_some_iff]
      simp [Finite, numbers]
  | rotation axis exponent =>
      rw [decode?_encode_rotation,
        bind_eq_some_iff_of fun _ => Axis.decode?_encode_eq_some_iff,
        bind_eq_some_iff_of fun _ => Json.number?_ofFloat_eq_some_iff, Option.some.injEq,
        eq_comm (a := rotation axis exponent)]
      simp [Finite, numbers, or_imp, forall_and, and_assoc]
  | phase exponent virtual =>
      rw [decode?_encode_phase, bind_eq_some_iff_of fun _ => Json.number?_ofFloat_eq_some_iff,
        Option.some.injEq, eq_comm (a := phase exponent virtual)]
      simp [Finite, numbers]
  | measure key =>
      rw [decode?_encode_measure, Option.some.injEq, eq_comm]
      simp [Finite, numbers]
  | custom name arity =>
      rw [decode?_encode_custom, Option.some.injEq, eq_comm]
      simp [Finite, numbers]

end Gate

/-! ## Operations -/

theorem required_eq_ok_iff {found : Option α} {a : α} : required found = .ok a ↔ found = some a := by
  cases found <;> simp [required]

theorem checked_eq_ok_iff {attempt : Except CircuitError α} {a : α} :
    checked attempt = .ok a ↔ attempt = .ok a := by
  cases attempt <;> simp [checked]

namespace Operation

theorem encodeParts_eq_map (operations : List Operation) :
    encodeParts operations = operations.map encode := by
  induction operations with
  | nil => simp [encodeParts]
  | cons operation rest ih => simp [encodeParts, ih]

theorem decodeParts_eq_mapM (items : List Json) : decodeParts items = items.mapM decode := by
  induction items with
  | nil => simp [decodeParts]
  | cons item rest ih => simp [decodeParts, ih, List.mapM_cons]

theorem decode_encodeOn (variant : String) (value : Json) (qubits : List Qubit) :
    decode (encodeOn (.object [(variant, value)]) qubits) =
      (do let build ← decodeVariant variant value; checked (build qubits)) := by
  simp only [encodeOn, decode, decodeFields, decodeKind, Qubit.decodeList?_encode, required]
  cases decodeVariant variant value <;> rfl

/-- An operation is read when its kind is and the operands suit what was read. -/
theorem decode_encodeOn_eq_ok_iff {variant : String} {value : Json} {qubits : List Qubit}
    {build : Builder} {operation result : Operation} {Q : Prop}
    (hvariant : ∀ read, decodeVariant variant value = .ok read ↔ P ∧ read = build)
    (hbuild : build qubits = .ok result ↔ Q ∧ result = operation) :
    decode (encodeOn (.object [(variant, value)]) qubits) = .ok result ↔
      (P ∧ Q) ∧ result = operation := by
  rw [decode_encodeOn, bind_eq_ok_iff_of hvariant, checked_eq_ok_iff, hbuild, and_assoc]

/-- A kind without parts is read by `plainBuilder?`. -/
theorem decodeVariant_of_ne {variant : String} (hvariant : variant ≠ "subcircuit") (value : Json) :
    decodeVariant variant value = required (plainBuilder? variant value) := by
  cases value <;> simp [decodeVariant, hvariant]

theorem decodeVariant_gate_eq_ok_iff {gate : Gate} {read : Builder} :
    decodeVariant "gate" gate.encode = .ok read ↔ gate.Finite ∧ read = ofGate gate := by
  rw [decodeVariant_of_ne (by simp), required_eq_ok_iff]
  exact map_eq_some_iff_of (fun _ => Gate.decode?_encode_eq_some_iff) ofGate

theorem decodeVariant_conditional_eq_ok_iff {key : String} {gate : Gate} {read : Builder} :
    decodeVariant "conditional" (.object [("key", .text key), ("gate", gate.encode)]) = .ok read ↔
      gate.Finite ∧ read = ofConditional key gate := by
  have hread : plainBuilder? "conditional" (.object [("key", .text key), ("gate", gate.encode)]) =
      (Gate.decode? gate.encode).bind fun gate => some (ofConditional key gate) := by
    simp [plainBuilder?, Json.record?, Json.fieldValues?, Json.text?]
  rw [decodeVariant_of_ne (by simp), required_eq_ok_iff, hread,
    bind_eq_some_iff_of fun _ => Gate.decode?_encode_eq_some_iff, Option.some.injEq, eq_comm]

variable {good : Operation → Prop} {parts : List Operation}

/-- Operations are read one after the other. -/
theorem decodeParts_encodeParts_eq_ok_iff {read : List Operation}
    (hparts : ∀ part ∈ parts, ∀ read, decode part.encode = .ok read ↔ good part ∧ read = part) :
    decodeParts (encodeParts parts) = .ok read ↔ (∀ part ∈ parts, good part) ∧ read = parts := by
  rw [encodeParts_eq_map, decodeParts_eq_mapM]
  exact mapM_map_eq_ok_iff_of_forall hparts

theorem decodeVariant_subcircuit_eq_ok_iff {read : Builder}
    (hparts : ∀ part ∈ parts, ∀ read, decode part.encode = .ok read ↔ good part ∧ read = part) :
    decodeVariant "subcircuit" (.array (encodeParts parts)) = .ok read ↔
      (∀ part ∈ parts, good part) ∧ read = ofPartsOn parts := by
  simp only [decodeVariant, if_true]
  rw [bind_eq_ok_iff_of fun _ => decodeParts_encodeParts_eq_ok_iff hparts, pure_eq_ok_iff, eq_comm]

/-- What is written of an operation is read as that operation, and only when the operation is well
formed and its exponents are finite, at every depth. -/
theorem decode_encode_eq_ok_iff {operation result : Operation} :
    decode operation.encode = .ok result ↔
      (operation.WellFormed ∧ operation.Finite) ∧ result = operation := by
  induction operation generalizing result with
  | plain gate qubits =>
      rw [encode, decode_encodeOn_eq_ok_iff (fun _ => decodeVariant_gate_eq_ok_iff)
        ofGate_eq_ok_iff, wellFormed_plain_iff, finite_plain_iff, and_comm (a := gate.Finite)]
  | conditional key gate qubits =>
      rw [encode, decode_encodeOn_eq_ok_iff (fun _ => decodeVariant_conditional_eq_ok_iff)
        ofConditional_eq_ok_iff, wellFormed_conditional_iff, finite_conditional_iff,
        and_comm (a := gate.Finite)]
  | subcircuit parts qubits ih =>
      -- the parts are read before the operand list is compared with theirs
      have hkind (read : Builder) :
          decodeVariant "subcircuit" (.array (encodeParts parts)) = .ok read ↔
            (∀ part ∈ parts, part.WellFormed ∧ part.Finite) ∧ read = ofPartsOn parts :=
        decodeVariant_subcircuit_eq_ok_iff fun part hpart _ => ih part hpart
      rw [encode, decode_encodeOn_eq_ok_iff hkind ofPartsOn_eq_ok_iff, wellFormed_subcircuit_iff,
        finite_subcircuit_iff, forall₂_and]
      exact and_congr_left fun _ => and_right_comm

end Operation

/-! ## Circuits -/

/-- A moment is read when all its operations are; whether they overlap does not matter. -/
theorem Moment.decode_encode_eq_ok_iff {moment result : Moment} :
    decode moment.encode = .ok result ↔
      (∀ operation ∈ moment.operations, operation.WellFormed ∧ operation.Finite) ∧
        result = moment := by
  have hdecode : decode moment.encode =
      Operation.decodeParts (Operation.encodeParts moment.operations) >>= fun operations =>
        .ok ⟨operations⟩ := by
    simp only [encode, decode, decodeFields, decodeOperations, required]
    cases Operation.decodeParts (Operation.encodeParts moment.operations) <;> rfl
  have hoperations (read : List Operation) :
      Operation.decodeParts (Operation.encodeParts moment.operations) = .ok read ↔
        (∀ operation ∈ moment.operations, operation.WellFormed ∧ operation.Finite) ∧
          read = moment.operations :=
    Operation.decodeParts_encodeParts_eq_ok_iff fun _ _ _ => Operation.decode_encode_eq_ok_iff
  rw [hdecode, bind_eq_ok_iff_of hoperations, Except.ok.injEq, eq_comm]

namespace Circuit

/-- A circuit whose operations are well formed and have finite exponents, at every depth.  The
operations of a moment may overlap. -/
structure Storable (circuit : Circuit) : Prop where
  wellFormed : ∀ operation ∈ circuit.operations, operation.WellFormed
  finite : ∀ operation ∈ circuit.operations, operation.Finite

theorem storable_iff {circuit : Circuit} : circuit.Storable ↔
    ∀ moment ∈ circuit.moments, ∀ operation ∈ moment.operations,
      operation.WellFormed ∧ operation.Finite := by
  rw [← List.forall_mem_flatMap, forall₂_and]
  exact ⟨fun h => ⟨h.wellFormed, h.finite⟩, fun h => ⟨h.1, h.2⟩⟩

theorem decode_encode_eq_ok_iff {circuit result : Circuit} :
    decode circuit.encode = .ok result ↔ circuit.Storable ∧ result = circuit := by
  have hdecode : decode circuit.encode =
      (circuit.moments.map Moment.encode).mapM Moment.decode >>= fun moments =>
        .ok ⟨circuit.name, moments⟩ := by
    simp only [encode, decode, decodeFields, decodeMoments, required, Json.text?]
    cases (circuit.moments.map Moment.encode).mapM Moment.decode <;> rfl
  rw [hdecode, storable_iff, bind_eq_ok_iff_of fun _ => mapM_map_eq_ok_iff_of_forall fun _ _ _ =>
    Moment.decode_encode_eq_ok_iff, Except.ok.injEq, eq_comm]

/-- The storable circuits are those that come back from their document; the document of any other
circuit is refused. -/
theorem roundTrips_iff_storable (circuit : Circuit) :
    (decode circuit.encode = .ok circuit ↔ circuit.Storable) ∧
      ((∃ cause, decode circuit.encode = .error cause) ↔ ¬ circuit.Storable) := by
  constructor
  · exact decode_encode_eq_ok_iff.trans (and_iff_left rfl)
  · rw [exists_eq_error_iff]
    constructor
    · intro hrefused hstorable
      exact hrefused circuit (decode_encode_eq_ok_iff.mpr ⟨hstorable, rfl⟩)
    · intro hstorable result hread
      exact hstorable (decode_encode_eq_ok_iff.mp hread).1

end Circuit

end GridCircuit
