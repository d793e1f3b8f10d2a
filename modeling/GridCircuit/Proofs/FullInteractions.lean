import GridCircuit.Pipeline.Pass
import GridCircuit.Proofs.Comparisons

/-!
# Interactions that are let through

The pass that requires full interactions refuses an exponent whose distance from the identity is
farther than the tolerance from one.  It should let through those whose distance is no farther, and
for numbers that is the same.  But the distance of an exponent that is infinite or no number is no
number itself, and then neither comparison holds.  Nor does one of them when the tolerance is no
number.

So for finite exponents, and a tolerance that is a number, the pass keeps its promise in both
directions, and it lets all others through (`Pass.requireFull_lets_through_iff`).
-/

namespace GridCircuit

open Decimal

variable {tolerance exponent : Float}

/-- How far an exponent is from a full interaction is a number when the exponent is finite. -/
theorem isNaN_distanceFromFull (exponent : Float) :
    (distanceFromIdentity exponent - 1).abs.isNaN = !exponent.isFinite := by
  have hfinite : (1 : Float).isFinite = true := by decide
  have hnumber : (1 : Float).isNaN = false := by decide
  rw [isNaN_abs, isNaN_sub (.inr hfinite), hnumber, Bool.or_false, isNaN_distanceFromIdentity]

/-- An interaction that is not refused is a full one within the tolerance, if that can be told at
all. -/
theorem Operation.isPartialInteraction_eq_false_iff {qubits : List Qubit} :
    (plain (.interaction exponent) qubits).isPartialInteraction tolerance = false ↔
      (exponent.isFinite = true → tolerance.isNaN = false →
        (distanceFromIdentity exponent - 1).abs ≤ tolerance) := by
  have hdistance := isNaN_distanceFromFull exponent
  rw [isPartialInteraction, decide_eq_false_iff_not]
  constructor
  · intro hnot hfinite htolerance
    rw [hfinite] at hdistance
    exact (not_lt_iff_le hdistance htolerance).mp hnot
  · intro hle
    cases htolerance : tolerance.isNaN with
    | true => exact not_lt_of_isNaN (.inl htolerance)
    | false =>
        cases hfinite : exponent.isFinite with
        | true =>
            rw [hfinite] at hdistance
            exact (not_lt_iff_le hdistance htolerance).mpr (hle hfinite htolerance)
        | false =>
            rw [hfinite] at hdistance
            exact not_lt_of_isNaN (.inr hdistance)

namespace Pass

/-- The pass fails on the first operation that counts as a partial interaction, and on nothing
else. -/
theorem failure_requireFull_eq_none_iff {strategy : Strategy} {workspace : Workspace} :
    ((requireFull strategy tolerance).run workspace).failure = none ↔
      ∀ operation ∈ workspace.circuit.operations,
        operation.isPartialInteraction tolerance = false := by
  have hfind : ((requireFull strategy tolerance).run workspace).failure = none ↔
      workspace.circuit.operations.find? (·.isPartialInteraction tolerance) = none := by
    rw [run]
    cases workspace.circuit.operations.find? (·.isPartialInteraction tolerance) <;> simp
  rw [hfind, List.find?_eq_none]
  exact forall₂_congr fun operation _ => by rw [Bool.not_eq_true]

/-- Requiring full interactions succeeds exactly when every plain interaction with a finite exponent
is a full one within the tolerance, or the tolerance is no number.  An exponent of which this asks
nothing is not within the tolerance. -/
theorem requireFull_lets_through_iff (strategy : Strategy) (tolerance : Float)
    (workspace : Workspace) :
    (((requireFull strategy tolerance).run workspace).failure = none ↔
      ∀ exponent qubits,
        .plain (.interaction exponent) qubits ∈ workspace.circuit.operations →
          exponent.isFinite = true → tolerance.isNaN = false →
            (distanceFromIdentity exponent - 1).abs ≤ tolerance) ∧
    ∀ exponent : Float, exponent.isFinite = false ∨ tolerance.isNaN = true →
      ¬ (distanceFromIdentity exponent - 1).abs ≤ tolerance := by
  constructor
  · rw [failure_requireFull_eq_none_iff]
    constructor
    · intro hnone exponent qubits hmem
      exact Operation.isPartialInteraction_eq_false_iff.mp (hnone _ hmem)
    · intro hfull operation hmem
      cases operation with
      | conditional key gate qubits => rfl
      | subcircuit parts qubits => rfl
      | plain gate qubits =>
          cases gate with
          | interaction exponent =>
              exact Operation.isPartialInteraction_eq_false_iff.mpr (hfull exponent qubits hmem)
          | _ => rfl
  · rintro exponent (hfinite | hnan)
    · have hdistance := isNaN_distanceFromFull exponent
      rw [hfinite] at hdistance
      exact not_le_of_isNaN (.inl hdistance)
    · exact not_le_of_isNaN (.inr hnan)

/-- Two interactions, one of three half turns and one whose exponent is no number. -/
def undefinedProbe : Circuit :=
  ⟨"c", [⟨[.plain (.interaction 3.0) [.grid ⟨0, 0⟩, .grid ⟨0, 1⟩],
    .plain (.interaction (0.0 / 0.0)) [.grid ⟨0, 3⟩, .grid ⟨0, 4⟩]]⟩]⟩

/-- Both interactions of `undefinedProbe` are let through, and one of them is not within the
tolerance. -/
theorem undefinedProbe_lets_through :
    ((requireFull .xmon defaultTolerance).run ⟨undefinedProbe, ⟨none, none⟩⟩).failure = none ∧
      ∃ exponent qubits, .plain (.interaction exponent) qubits ∈ undefinedProbe.operations ∧
        ¬ (distanceFromIdentity exponent - 1).abs ≤ defaultTolerance :=
  ⟨by decide +kernel, 0.0 / 0.0, [.grid ⟨0, 3⟩, .grid ⟨0, 4⟩],
    List.mem_cons_of_mem _ List.mem_cons_self, by decide +kernel⟩

/-- Of the interactions that are let through with `undefinedProbe`, the one with a finite exponent
is within the tolerance. -/
theorem undefinedProbe_lets_full_through :
    ((requireFull .xmon defaultTolerance).run ⟨undefinedProbe, ⟨none, none⟩⟩).failure = none ∧
      (distanceFromIdentity 3.0 - 1).abs ≤ defaultTolerance := by
  have hsuccess :
      ((requireFull .xmon defaultTolerance).run ⟨undefinedProbe, ⟨none, none⟩⟩).failure = none := by
    decide +kernel
  have hmem : .plain (.interaction 3.0) [.grid ⟨0, 0⟩, .grid ⟨0, 1⟩] ∈
      undefinedProbe.operations := List.mem_cons_self
  have hfull := (requireFull_lets_through_iff .xmon defaultTolerance _).1.mp hsuccess
  exact ⟨hsuccess, hfull 3.0 _ hmem (by decide) (by decide +kernel)⟩

end Pass

end GridCircuit
