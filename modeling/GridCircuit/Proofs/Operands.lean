import GridCircuit.Circuit
import GridCircuit.Proofs.Attempt
import Mathlib.Data.List.Nodup

/-!
# Operands of moments

Whether a moment uses a qubit is asked in three ways: by `Moment.actsOn` and `Moment.touches` while
operations are placed, and by membership in `Moment.qubits` when overlaps are looked for.  The
lemmas here bring all of them to membership, and say how they change when an operation joins.
`ofOperations_eq_ok_iff` says when operations can be put together to a moment.

The operations of a circuit are those of its moments (`Circuit.forall_mem_operations`).
-/

namespace GridCircuit

open Attempt

/-- Operations are built from operations with parts below them. -/
@[induction_eliminator]
theorem Operation.inductionOnParts {motive : Operation → Prop}
    (plain : ∀ gate qubits, motive (.plain gate qubits))
    (conditional : ∀ key gate qubits, motive (.conditional key gate qubits))
    (subcircuit : ∀ parts qubits, (∀ part ∈ parts, motive part) →
      motive (.subcircuit parts qubits))
    (operation : Operation) : motive operation :=
  @Operation.rec motive (fun parts => ∀ part ∈ parts, motive part)
    plain conditional subcircuit (by simp)
    (fun _ _ hpart hrest => List.forall_mem_cons.mpr ⟨hpart, hrest⟩) operation

theorem Operation.actsOn_iff {operation : Operation} {qubit : Qubit} :
    operation.actsOn qubit = true ↔ qubit ∈ operation.qubits := by
  simp [Operation.actsOn]

namespace Moment

variable {moment : Moment} {operation : Operation} {qubit : Qubit} {qubits : List Qubit}

@[simp] theorem operations_empty : Moment.empty.operations = [] := rfl

@[simp] theorem operations_add :
    (moment.add operation).operations = moment.operations ++ [operation] := rfl

@[simp] theorem qubits_empty : Moment.empty.qubits = [] := rfl

@[simp] theorem qubits_add : (moment.add operation).qubits = moment.qubits ++ operation.qubits := by
  simp [Moment.qubits]

theorem mem_qubits : qubit ∈ moment.qubits ↔ ∃ other ∈ moment.operations, qubit ∈ other.qubits := by
  simp [Moment.qubits]

theorem actsOn_iff : moment.actsOn qubit = true ↔ qubit ∈ moment.qubits := by
  simp [Moment.actsOn, Operation.actsOn_iff, mem_qubits]

theorem touches_iff : moment.touches qubits = true ↔ ∃ qubit ∈ qubits, qubit ∈ moment.qubits := by
  simp [Moment.touches, actsOn_iff]

theorem touches_eq_false_iff :
    moment.touches qubits = false ↔ ∀ qubit ∈ qubits, qubit ∉ moment.qubits := by
  rw [← Bool.not_eq_true, touches_iff]
  simp

@[simp] theorem touches_empty : Moment.empty.touches qubits = false := by
  simp [touches_eq_false_iff]

/-- A moment goes on using the qubits it uses when an operation joins it. -/
theorem touches_add_of_touches (htouches : moment.touches qubits = true) :
    (moment.add operation).touches qubits = true := by
  obtain ⟨qubit, hqubit, hused⟩ := touches_iff.mp htouches
  exact touches_iff.mpr ⟨qubit, hqubit, by simp [hused]⟩

/-- No operation of a moment that leaves a qubit free acts on it. -/
theorem filter_actsOn_eq_nil (hfree : qubit ∉ moment.qubits) :
    moment.operations.filter (·.actsOn qubit) = [] := by
  rw [List.filter_eq_nil_iff]
  intro other hother hacts
  exact hfree (mem_qubits.mpr ⟨other, hother, Operation.actsOn_iff.mp hacts⟩)

/-! ## Operations that share no qubit -/

/-- The operations of a moment share no qubit. -/
def Spread (operations : List Operation) : Prop :=
  operations.Pairwise fun a b => a.qubits.Disjoint b.qubits

/-- A moment uses no qubit twice when no operation does and no two operations share one. -/
theorem nodup_qubits_iff : moment.qubits.Nodup ↔
    (∀ operation ∈ moment.operations, operation.qubits.Nodup) ∧ Spread moment.operations :=
  List.nodup_flatMap

theorem push_eq_ok_iff {joined : Moment} : moment.push operation = .ok joined ↔
    joined = moment.add operation ∧ moment.touches operation.qubits = false := by
  unfold push
  cases hfind : operation.qubits.find? moment.actsOn with
  | some qubit =>
      have htouches : moment.touches operation.qubits = true := List.any_eq_true.mpr
        ⟨qubit, List.mem_of_find?_eq_some hfind, List.find?_some hfind⟩
      simp [htouches]
  | none =>
      have hfree : moment.touches operation.qubits = false := by
        simpa [touches] using hfind
      simp [hfree, eq_comm]

/-- Pushing operations one after the other adds them all, as long as they share no qubit among
themselves and none with the moment. -/
theorem foldlM_push_eq_ok_iff {operations : List Operation} {joined : Moment} :
    operations.foldlM push moment = .ok joined ↔
      joined = ⟨moment.operations ++ operations⟩ ∧ Spread operations ∧
        ∀ operation ∈ operations, moment.touches operation.qubits = false := by
  induction operations generalizing moment with
  | nil =>
      rw [List.foldlM_nil, pure_eq_ok_iff, eq_comm]
      simp [Spread]
  | cons operation rest ih =>
      simp only [List.foldlM_cons, bind_eq_ok_iff, push_eq_ok_iff, Spread, List.pairwise_cons,
        List.forall_mem_cons]
      constructor
      · rintro ⟨_, ⟨rfl, hfirst⟩, hrest⟩
        obtain ⟨rfl, hspread, hfree⟩ := ih.mp hrest
        simp only [touches_eq_false_iff, qubits_add, List.mem_append, not_or] at hfree
        refine ⟨by simp, ⟨fun other hmem qubit hqubit hother => ?_, hspread⟩, hfirst,
          fun other hmem => touches_eq_false_iff.mpr fun qubit hqubit => ?_⟩
        · exact (hfree other hmem qubit hother).2 hqubit
        · exact (hfree other hmem qubit hqubit).1
      · rintro ⟨rfl, ⟨hdisjoint, hspread⟩, hfirst, hfree⟩
        refine ⟨_, ⟨rfl, hfirst⟩, ih.mpr ⟨by simp, hspread, fun other hmem => ?_⟩⟩
        simp only [touches_eq_false_iff, qubits_add, List.mem_append, not_or]
        intro qubit hqubit
        exact ⟨touches_eq_false_iff.mp (hfree other hmem) qubit hqubit,
          fun hused => hdisjoint other hmem hused hqubit⟩

theorem ofOperations_eq_ok_iff {operations : List Operation} :
    ofOperations operations = .ok moment ↔ moment = ⟨operations⟩ ∧ Spread operations := by
  simp [ofOperations, foldlM_push_eq_ok_iff]

end Moment

/-! ## Operations of circuits -/

namespace Circuit

variable {circuit : Circuit} {moment : Moment} {operation : Operation}

theorem mem_operations (hmoment : moment ∈ circuit.moments) (hmem : operation ∈ moment.operations) :
    operation ∈ circuit.operations :=
  List.mem_flatMap.mpr ⟨moment, hmoment, hmem⟩

theorem forall_mem_operations {P : Operation → Prop} :
    (∀ operation ∈ circuit.operations, P operation) ↔
      ∀ moment ∈ circuit.moments, ∀ operation ∈ moment.operations, P operation :=
  List.forall_mem_flatMap

end Circuit

end GridCircuit
