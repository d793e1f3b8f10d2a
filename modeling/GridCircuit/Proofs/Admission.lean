import GridCircuit.Proofs.FiniteExponents

/-!
# What decoders admit

A document may leave fields out, add unknown ones, put them in any order or write a record as a
list.  None of this lets a malformed operation in.  Whatever is decoded was built by the checked
constructors, the parts of a subcircuit before the subcircuit itself, and so every operation that
occurs in a decoded value is well formed, at any depth.

The form of the document is forgotten with that.  A value is decoded from what is encoded of it as
soon as its operations are well formed and its exponents finite, and a decoded value has both: the
one because of the constructors, the other because the numbers of documents are finite.

`Admission` says all this of one decoder.  What distinguishes the decoders of operations, moments
and circuits is dealt with in `GridCircuit.Proofs.Decoding` and `GridCircuit.Proofs.RoundTrip`, so
that `Admission.of_good` covers them alike.
-/

namespace GridCircuit

open Attempt

/-! ## Operations within operations -/

namespace Operation

/-- An operation occurs in another one when it is that one, or occurs in one of its parts. -/
inductive OccursIn (inner : Operation) : Operation → Prop
  | itself : OccursIn inner inner
  | inPart {parts : List Operation} {qubits : List Qubit} {part : Operation} (hpart : part ∈ parts)
      (hoccurs : OccursIn inner part) : OccursIn inner (.subcircuit parts qubits)

theorem WellFormed.of_occursIn {inner outer : Operation} (hoccurs : inner.OccursIn outer)
    (houter : outer.WellFormed) : inner.WellFormed := by
  induction hoccurs with
  | itself => exact houter
  | inPart hpart _ ih =>
      obtain ⟨hparts, -⟩ := wellFormed_subcircuit_iff.mp houter
      exact ih (hparts _ hpart)

/-- Whatever the tree looks like, it decodes to well-formed operations. -/
theorem ensures_wellFormed : Ensures (fun _ => True) WellFormed where
  items _ _ _ := trivial
  values _ _ _ := trivial
  plain := by
    intro variant value build _ hbuild qubits operation hoperation
    unfold plainBuilder? at hbuild
    split at hbuild
    · obtain ⟨gate, -, rfl⟩ := Option.map_eq_some_iff.mp hbuild
      obtain ⟨⟨hcount, hdistinct⟩, rfl⟩ := ofGate_eq_ok_iff.mp hoperation
      exact .plain hcount hdistinct
    · split at hbuild
      · obtain ⟨key, -, hnext⟩ := Option.bind_eq_some_iff.mp hbuild
        obtain ⟨gate, -, hsame⟩ := Option.bind_eq_some_iff.mp hnext
        cases hsame
        obtain ⟨⟨hcount, hdistinct⟩, rfl⟩ := ofConditional_eq_ok_iff.mp hoperation
        exact .conditional hcount hdistinct
      · cases hbuild
    · cases hbuild
  subcircuit := by
    intro parts hparts qubits operation hoperation
    obtain ⟨rfl, rfl⟩ := ofPartsOn_eq_ok_iff.mp hoperation
    exact .subcircuit hparts

end Operation

/-! ## Decoders -/

/-- What is expected of a decoder for values that are encoded in some way and hold some operations:
it admits well-formed operations only, and it takes back what is encoded of a value that it has
admitted. -/
structure Admission {α : Type} (decode : Json → Except DecodeError α) (encode : α → Json)
    (operations : α → List Operation) : Prop where
  /-- Each operation that occurs in an admitted value, at any depth, has the operands that its gate
  asks for or, as a subcircuit, those of its parts, and lists none of them twice. -/
  wellFormed : ∀ {tree : Json} {value : α}, decode tree = .ok value →
    ∀ operation ∈ operations value, ∀ inner : Operation, inner.OccursIn operation →
      inner.WellFormed ∧ inner.qubits.Nodup
  /-- A value that was admitted from a document, whose numbers are finite, is encoded to a document
  of itself. -/
  restored : ∀ {tree : Json} {value : α}, tree.Finite → decode tree = .ok value →
    decode (encode value) = .ok value
  /-- The same for texts, given that what is printed of the new document is read as that
  document. -/
  reread : ∀ {source printed : String} {value : α}, (Json.read source).decode decode = .ok value →
    Json.read printed = ⟨encode value, true⟩ → (Json.read printed).decode decode = .ok value

/-- A decoder admits well-formed operations only when it hands on whatever the constructors of
operations ensure, and decodes what is encoded of well-formed operations with finite exponents. -/
theorem Admission.of_good {α : Type} {decode : Json → Except DecodeError α} {encode : α → Json}
    {operations : α → List Operation}
    (hgood : ∀ {fine : Json → Prop} {good : Operation → Prop}, Operation.Ensures fine good →
      ∀ {tree : Json}, fine tree → ∀ {value : α}, decode tree = .ok value →
        ∀ operation ∈ operations value, good operation)
    (hback : ∀ {value : α},
      (∀ operation ∈ operations value, operation.WellFormed ∧ operation.Finite) →
        decode (encode value) = .ok value) :
    Admission decode encode operations := by
  have hrestored : ∀ {tree : Json} {value : α}, tree.Finite → decode tree = .ok value →
      decode (encode value) = .ok value := by
    intro tree value hfinite hdecode
    refine hback fun operation hmem => ⟨?_, ?_⟩
    · exact hgood Operation.ensures_wellFormed trivial hdecode operation hmem
    · exact hgood Operation.ensures_finite hfinite hdecode operation hmem
  refine ⟨?_, hrestored, ?_⟩
  · intro tree value hdecode operation hmem inner hoccurs
    have hinner : inner.WellFormed :=
      .of_occursIn hoccurs (hgood Operation.ensures_wellFormed trivial hdecode operation hmem)
    exact ⟨hinner, hinner.nodup_qubits⟩
  · intro source printed value hread hprinted
    obtain ⟨hdecode, -⟩ := Json.Source.decode_eq_ok_iff.mp hread
    rw [hprinted]
    exact Json.Source.decode_eq_ok_iff.mpr ⟨hrestored (Json.finite_read source) hdecode, rfl⟩

/-- Operations, moments and circuits are admitted only with well-formed operations, and are decoded
again from what is encoded of them. -/
theorem decoders_admit_wellFormed :
    Admission Operation.decode Operation.encode (fun operation => [operation]) ∧
      Admission Moment.decode Moment.encode Moment.operations ∧
      Admission Circuit.decode Circuit.encode Circuit.operations := by
  refine ⟨.of_good ?_ ?_, .of_good Moment.good_of_decode_eq_ok ?_,
    .of_good Circuit.good_of_decode_eq_ok ?_⟩
  · intro fine good hensures tree hfine value hdecode
    rw [List.forall_mem_singleton]
    exact (hensures.decodes hfine).operation value hdecode
  · intro operation hoperation
    rw [List.forall_mem_singleton] at hoperation
    exact Operation.decode_encode_eq_ok_iff.mpr ⟨hoperation, rfl⟩
  · intro moment hoperations
    exact Moment.decode_encode_eq_ok_iff.mpr ⟨hoperations, rfl⟩
  · intro circuit hoperations
    rw [forall₂_and] at hoperations
    exact Circuit.decode_encode_eq_ok_iff.mpr ⟨⟨hoperations.1, hoperations.2⟩, rfl⟩

/-- A text of a subcircuit, once as a list and once with an unknown field and the gate's type behind
its exponent. -/
def nestedText : String :=
  "[\x7b\"subcircuit\":[[\x7b\"gate\":[\"phase\",2]\x7d,[\x7b\"line\":1\x7d]]," ++
    "\x7b\"qubits\":[\x7b\"line\":1\x7d,\x7b\"line\":0\x7d],\"note\":null," ++
    "\"kind\":\x7b\"gate\":\x7b\"exponent\":1,\"type\":\"interaction\"\x7d\x7d\x7d]\x7d," ++
    "[\x7b\"line\":1\x7d,\x7b\"line\":0\x7d]]"

/-- The operation of `nestedText`. -/
def nestedProbe : Operation :=
  .subcircuit [.plain (.phase (Float.ofInt 2) false) [.line 1],
    .plain (.interaction (Float.ofInt 1)) [.line 1, .line 0]] [.line 1, .line 0]

set_option maxRecDepth 20000 in
theorem decode_nestedText : Operation.decode (Json.read nestedText).root = .ok nestedProbe := by
  have hroot : (Json.read nestedText).root = .array [
      .object [("subcircuit", .array [
        .array [.object [("gate", .array [.text "phase", .integer 2])],
          .array [.object [("line", .integer 1)]]],
        .object [
          ("qubits", .array [.object [("line", .integer 1)], .object [("line", .integer 0)]]),
          ("note", .null),
          ("kind", .object [("gate", .object [("exponent", .integer 1),
            ("type", .text "interaction")])])]])],
      .array [.object [("line", .integer 1)], .object [("line", .integer 0)]]] := by
    rfl
  rw [hroot]
  rfl

theorem nestedProbe_admitted :
    Operation.decode (Json.read nestedText).root = .ok nestedProbe ∧
      (∀ inner : Operation, inner.OccursIn nestedProbe →
        inner.WellFormed ∧ inner.qubits.Nodup) ∧
      Operation.decode nestedProbe.encode = .ok nestedProbe := by
  obtain ⟨hadmission, -, -⟩ := decoders_admit_wellFormed
  refine ⟨decode_nestedText, ?_, ?_⟩
  · exact hadmission.wellFormed decode_nestedText nestedProbe (List.mem_singleton_self _)
  · exact hadmission.restored (Json.finite_read nestedText) decode_nestedText

end GridCircuit
