import GridCircuit.Proofs.Decoding
import GridCircuit.Proofs.Renaming
import Mathlib.Data.Set.Function

/-!
# Renaming well-formed operations

Renaming does not check operands.  It replaces every operand list by itself, that of a subcircuit as
well as those of its parts, so the list of a renamed subcircuit is not the one that its renamed parts
would be given.  A renamed operation is well formed only if the two are equal at every depth: if the
first occurrences among the images are the images of the first occurrences.

This is so when no two occurring qubits have the same image (`eraseDups_map_of_injOn`), and not
otherwise, because the operands of a well-formed operation are all the qubits that occur in it, and
they are distinct.  So `WellFormed.relabel_iff` is exact, and with it what `mapQubits_keeps_wellFormed`
says of documents: that of a renamed operation is read under the same condition, given that the
exponents can be written, which renaming leaves as they are.
-/

namespace GridCircuit

open Attempt

namespace Operation

variable {label : Qubit → Qubit} {operation : Operation}

/-! ## Operands and their images -/

/-- The first occurrences among distinct images are the images of the first occurrences. -/
theorem eraseDups_map_of_injOn {qubits : List Qubit}
    (hinj : Set.InjOn label {qubit | qubit ∈ qubits}) :
    (qubits.map label).eraseDups = qubits.eraseDups.map label := by
  induction qubits using List.reverseRecOn with
  | nil => rfl
  | append_singleton rest qubit ih =>
      have hseen : label qubit ∈ rest.map label ↔ qubit ∈ rest := by
        constructor
        · intro himage
          obtain ⟨other, hother, hsame⟩ := List.mem_map.mp himage
          obtain rfl : other = qubit := hinj (by simp [hother]) (by simp) hsame
          exact hother
        · exact List.mem_map_of_mem
      have hrest := ih (hinj.mono fun other hother => List.mem_append_left _ hother)
      rw [List.map_append, List.map_singleton, eraseDups_concat, eraseDups_concat, hrest]
      simp only [hseen]
      split <;> simp

/-- Every qubit that occurs in a well-formed operation is an operand of it. -/
theorem WellFormed.mem_qubits_iff (hwellFormed : operation.WellFormed) {qubit : Qubit} :
    qubit ∈ operation.qubits ↔ qubit ∈ operation.occurrences := by
  refine ⟨mem_occurrences_of_mem_qubits, fun hoccurs => ?_⟩
  induction hwellFormed with
  | plain hcount hdistinct => exact hoccurs
  | conditional hcount hdistinct => exact hoccurs
  | subcircuit hparts ih =>
      rcases List.mem_append.mp hoccurs with hinner | houter
      · obtain ⟨part, hpart, hin⟩ := mem_occurrencesInParts.mp hinner
        exact List.mem_eraseDups.mpr (List.mem_flatMap.mpr ⟨part, hpart, ih part hpart hin⟩)
      · exact houter

/-! ## Well-formed images -/

/-- Distinct labels keep an operation well formed, with all its parts. -/
theorem WellFormed.relabel (hwellFormed : operation.WellFormed)
    (hinj : Set.InjOn label {qubit | qubit ∈ operation.occurrences}) :
    (operation.relabel label).WellFormed := by
  induction hwellFormed with
  | plain hcount hdistinct =>
      exact .plain (by rwa [List.length_map]) (hdistinct.map_on fun p hp q hq => hinj hp hq)
  | conditional hcount hdistinct =>
      exact .conditional (by rwa [List.length_map]) (hdistinct.map_on fun p hp q hq => hinj hp hq)
  | @subcircuit parts hparts ih =>
      have hinner {part : Operation} (hpart : part ∈ parts) {qubit : Qubit}
          (hoccurs : qubit ∈ part.occurrences) :
          qubit ∈ (Operation.subcircuit parts (parts.flatMap qubits).eraseDups).occurrences :=
        List.mem_append_left _ (mem_occurrencesInParts.mpr ⟨part, hpart, hoccurs⟩)
      have hoperands : Set.InjOn label {qubit | qubit ∈ parts.flatMap qubits} := by
        refine hinj.mono fun qubit hqubit => ?_
        obtain ⟨part, hpart, hin⟩ := List.mem_flatMap.mp hqubit
        exact hinner hpart (mem_occurrences_of_mem_qubits hin)
      rw [Operation.relabel, relabelParts_eq_map, wellFormed_subcircuit_iff]
      constructor
      · rw [List.forall_mem_map]
        exact fun part hpart => ih part hpart (hinj.mono fun qubit => hinner hpart)
      · rw [← eraseDups_map_of_injOn hoperands, List.map_flatMap, List.flatMap_map]
        simp only [qubits_relabel]

/-- A relabelled operation is well formed exactly when the occurring qubits keep different
labels. -/
theorem WellFormed.relabel_iff (hwellFormed : operation.WellFormed) :
    (operation.relabel label).WellFormed ↔
      Set.InjOn label {qubit | qubit ∈ operation.occurrences} := by
  refine ⟨fun hrelabelled p hp q hq hsame => ?_, hwellFormed.relabel⟩
  have hdistinct := hrelabelled.nodup_qubits
  rw [qubits_relabel] at hdistinct
  exact List.inj_on_of_nodup_map hdistinct (hwellFormed.mem_qubits_iff.mpr hp)
    (hwellFormed.mem_qubits_iff.mpr hq) hsame

/-- Relabelling leaves the exponents as they are. -/
theorem finite_relabel_iff (label : Qubit → Qubit) :
    (operation.relabel label).Finite ↔ operation.Finite := by
  induction operation with
  | plain gate qubits => exact finite_plain_iff.trans finite_plain_iff.symm
  | conditional key gate qubits => exact finite_conditional_iff.trans finite_conditional_iff.symm
  | subcircuit parts qubits ih =>
      rw [relabel, relabelParts_eq_map, finite_subcircuit_iff, finite_subcircuit_iff,
        List.forall_mem_map]
      exact forall₂_congr ih

/-! ## Renamings that can fail -/

/-- Renaming an operation fails when renaming some occurring qubit does, for the reason of the first
one in the order of the occurrences.  Where it succeeds on all qubits of a well-formed operation,
the result is well formed exactly when no two of them got the same image.  The document of such a
result is decoded, and to nothing but the result, exactly when the exponents of the operation are
finite, and then so is every text that is read as this document. -/
theorem mapQubits_keeps_wellFormed {ε : Type} (operation : Operation)
    (rename : Qubit → Except ε Qubit) :
    ((∃ reason, operation.mapQubits rename = .error reason) ↔
      ∃ qubit ∈ operation.occurrences, ∃ reason, rename qubit = .error reason) ∧
    (∀ reason, operation.mapQubits rename = .error reason ↔
      ∃ before qubit after, operation.occurrences = before ++ qubit :: after ∧
        (∀ earlier ∈ before, ∃ image, rename earlier = .ok image) ∧
          rename qubit = .error reason) ∧
    (operation.WellFormed →
      (∀ qubit ∈ operation.occurrences, ∃ image, rename qubit = .ok image) →
        ∃ renamed, operation.mapQubits rename = .ok renamed ∧
          (renamed.WellFormed ↔ Set.InjOn rename {qubit | qubit ∈ operation.occurrences}) ∧
          (renamed.WellFormed →
            (∀ result, decode renamed.encode = .ok result ↔
              operation.Finite ∧ result = renamed) ∧
            (operation.Finite → ∀ printed, Json.read printed = ⟨renamed.encode, true⟩ →
              (Json.read printed).decode decode = .ok renamed))) := by
  refine ⟨?_, ?_, ?_⟩
  · simp only [mapQubits_eq_error_iff, exists_eq_error_iff, ← not_exists, exists_mapM_eq_ok_iff]
    push Not
    rfl
  · intro reason
    rw [mapQubits_eq_error_iff, mapM_eq_error_iff]
  · intro hwellFormed hrename
    -- on the qubits that do not occur the labels do not matter
    have : Nonempty Qubit := ⟨.line 0⟩
    choose! label hlabel using hrename
    have hinj : Set.InjOn rename {qubit | qubit ∈ operation.occurrences} ↔
        Set.InjOn label {qubit | qubit ∈ operation.occurrences} := by
      refine forall₂_congr fun p hp => forall₂_congr fun q hq => ?_
      rw [hlabel p hp, hlabel q hq, Except.ok.injEq]
    refine ⟨operation.relabel label, mapQubits_eq_ok_relabel hlabel, ?_, fun hrenamed => ?_⟩
    · rw [hinj, hwellFormed.relabel_iff]
    · have hdecode (result : Operation) : decode (operation.relabel label).encode = .ok result ↔
          operation.Finite ∧ result = operation.relabel label := by
        rw [decode_encode_eq_ok_iff, finite_relabel_iff, and_iff_right hrenamed]
      refine ⟨hdecode, fun hfinite printed hprinted => ?_⟩
      rw [hprinted]
      exact Json.Source.decode_eq_ok_iff.mpr ⟨(hdecode _).mpr ⟨hfinite, rfl⟩, rfl⟩

/-- What is printed of a document can be read as that document. -/
example : Json.read (plain (.measure "a") [.line 0]).encode.compact =
    ⟨(plain (.measure "a") [.line 0]).encode, true⟩ := by
  cbv

/-- A phase whose exponent has no document form. -/
def unboundedPhase : Operation :=
  .plain (.phase (1.0 / 0.0) false) [.grid ⟨0, 0⟩]

/-- Renaming no qubit leaves `unboundedPhase` well formed, and its document is not decoded. -/
theorem unboundedPhase_not_decoded :
    unboundedPhase.WellFormed ∧
      Set.InjOn QubitMap.identity.rename {qubit | qubit ∈ unboundedPhase.occurrences} ∧
        unboundedPhase.mapQubits QubitMap.identity.rename = .ok unboundedPhase ∧
          decode unboundedPhase.encode = .error .malformed := by
  refine ⟨.plain rfl (List.nodup_singleton _), ?_, rfl, rfl⟩
  intro p hp q hq _
  exact (List.mem_singleton.mp hp).trans (List.mem_singleton.mp hq).symm

/-- A measurement and a phase that it controls, as one operation, beside an interaction. -/
def gatheredProbe : Operation :=
  .subcircuit [.subcircuit [.plain (.measure "a") [.grid ⟨7, 7⟩, .line 0],
      .conditional "a" (.phase 0.5 true) [.line 0]] [.grid ⟨7, 7⟩, .line 0],
    .plain (.interaction 1.0) [.line 1, .line 0]] [.grid ⟨7, 7⟩, .line 0, .line 1]

/-- On a row `gatheredProbe` stays well formed and is decoded again.  Where the positions of the
line have no site, renaming it fails at the first of them. -/
theorem gatheredProbe_renamed :
    gatheredProbe.WellFormed ∧
      gatheredProbe.mapQubits QubitMap.identity.rename = .error (.unmappedQubit (.line 0)) ∧
        ∃ renamed, gatheredProbe.mapQubits (QubitMap.lineOntoRow 0).rename = .ok renamed ∧
          renamed.WellFormed ∧ decode renamed.encode = .ok renamed := by
  obtain ⟨⟨hwellFormed, hfinite⟩, -⟩ :=
    decode_encode_eq_ok_iff.mp (rfl : decode gatheredProbe.encode = .ok gatheredProbe)
  have hrename : ∀ qubit ∈ gatheredProbe.occurrences, (QubitMap.lineOntoRow 0).rename qubit =
      .ok ((QubitMap.lineOntoRow 0).image qubit) := by
    have hcovers : (QubitMap.lineOntoRow 0).Covers gatheredProbe := by
      unfold QubitMap.Covers
      decide
    exact fun qubit hqubit => QubitMap.rename_eq_ok_iff.mpr ⟨hcovers qubit hqubit, rfl⟩
  have hinj : Set.InjOn (QubitMap.lineOntoRow 0).rename
      {qubit | qubit ∈ gatheredProbe.occurrences} := by
    have himage : ∀ p ∈ gatheredProbe.occurrences, ∀ q ∈ gatheredProbe.occurrences,
        (QubitMap.lineOntoRow 0).image p = (QubitMap.lineOntoRow 0).image q → p = q := by
      decide
    intro p hp q hq hsame
    rw [hrename p hp, hrename q hq] at hsame
    exact himage p hp q hq (Except.ok.inj hsame)
  refine ⟨hwellFormed, ?_, ?_⟩
  · rw [(mapQubits_keeps_wellFormed gatheredProbe QubitMap.identity.rename).2.1]
    refine ⟨[.grid ⟨7, 7⟩], .line 0, _, rfl, ?_, rfl⟩
    exact List.forall_mem_singleton.mpr ⟨_, rfl⟩
  · obtain ⟨renamed, hrenamed, hiff, hdecode⟩ :=
      (mapQubits_keeps_wellFormed gatheredProbe (QubitMap.lineOntoRow 0).rename).2.2 hwellFormed
        fun qubit hqubit => ⟨_, hrename qubit hqubit⟩
    obtain ⟨hrestored, -⟩ := hdecode (hiff.mpr hinj)
    exact ⟨renamed, hrenamed, hiff.mpr hinj, (hrestored renamed).mpr ⟨hfinite, rfl⟩⟩

end Operation

end GridCircuit
