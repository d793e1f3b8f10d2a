import GridCircuit.Proofs.Matching
import Mathlib.Algebra.GroupWithZero.Nat
import Mathlib.Data.List.Flatten

/-!
# Room in a moment

A moment that a device accepts uses each of its sites once at most: the host has looked for an
operand that is used again, within an operation or by two of them, and the check of single
operations has found every operand among the sites of the device.  So the operands of the moment,
written in a row, are some of the sites, and there are no more of them than sites
(`Legal.length_qubits_le`).

Every interaction takes two of them.  The search for interactions that exclude each other looks at
all pairs of interactions, and therefore at no more pairs than half as many interactions as sites
can form.
-/

namespace GridCircuit

namespace Moment

variable {topology : Topology} {moment : Moment}

/-- The operands of a legal moment are sites of the topology. -/
theorem Legal.qubits_subset (hlegal : moment.Legal topology) :
    moment.qubits ⊆ topology.sites.map .grid := by
  intro qubit hqubit
  obtain ⟨operation, hmem, hoperand⟩ := mem_qubits.mp hqubit
  obtain ⟨site, hsite, rfl⟩ :=
    (Operation.runsOn_iff_fits.mp (hlegal.runs operation hmem)).onSites qubit hoperand
  exact List.mem_map_of_mem hsite

/-- There are no more operands in a legal moment than sites in the topology. -/
theorem Legal.length_qubits_le (hlegal : moment.Legal topology) :
    moment.qubits.length ≤ topology.size := by
  have hsubperm : moment.qubits.Subperm (topology.sites.map .grid) :=
    List.subperm_of_subset hlegal.nodup hlegal.qubits_subset
  have hlength := hsubperm.length_le
  rwa [List.length_map] at hlength

/-- The interactions of a legal moment have two operands each. -/
theorem Legal.two_mul_countP_le (hlegal : moment.Legal topology) :
    2 * moment.operations.countP (·.isInteraction) ≤ moment.qubits.length := by
  have htwo : ∀ operation ∈ moment.operations.filter (·.isInteraction),
      operation.qubits.length = 2 := by
    intro operation hmem
    obtain ⟨hmem, hinteraction⟩ := List.mem_filter.mp hmem
    obtain ⟨a, b, hqubits, -, -⟩ := (hlegal.runs operation hmem).exists_sites hinteraction
    rw [hqubits]
    rfl
  calc 2 * moment.operations.countP (·.isInteraction)
      = ((moment.operations.filter (·.isInteraction)).flatMap Operation.qubits).length := by
        rw [List.length_flatMap, List.map_congr_left htwo, List.map_const', List.sum_replicate_nat,
          List.countP_eq_length_filter, Nat.mul_comm]
    _ ≤ moment.qubits.length := (List.filter_sublist.flatMap Operation.qubits).length_le

end Moment

namespace Device

/-- A moment that a device accepts fits on its sites: all operations together have no more operands
than there are sites, and there are at most half as many interactions. -/
theorem accepted_moment_fits_sites (durations : GateDurations) {topology : Topology}
    {moment : Moment} (hcheck : (ofParts durations topology).checkMoment moment = .ok ()) :
    (moment.operations.map fun operation => operation.qubits.length).sum ≤ topology.size ∧
      2 * moment.operations.countP (·.isInteraction) ≤ topology.size := by
  have hlegal : moment.Legal topology := (checkMoment_eq_ok_iff durations).mp hcheck
  have hoperands := hlegal.length_qubits_le
  constructor
  · rwa [Moment.qubits, List.length_flatMap] at hoperands
  · exact Nat.le_trans hlegal.two_mul_countP_le hoperands

/-- A moment that leaves no site of a row of five free. -/
def crampedProbe : Moment :=
  ⟨[.plain (.interaction 1.0) [.grid ⟨0, 0⟩, .grid ⟨0, 1⟩],
    .plain (.phase 0.5 false) [.grid ⟨0, 2⟩],
    .plain (.interaction 1.0) [.grid ⟨0, 3⟩, .grid ⟨0, 4⟩]]⟩

theorem crampedProbe_fits_sites :
    (ofParts .foxtail (.rectangle 1 5)).checkMoment crampedProbe = .ok () ∧
      (crampedProbe.operations.map fun operation => operation.qubits.length).sum ≤ 5 ∧
      2 * crampedProbe.operations.countP (·.isInteraction) ≤ 5 := by
  have hcheck : (ofParts .foxtail (.rectangle 1 5)).checkMoment crampedProbe = .ok () := rfl
  exact ⟨hcheck, accepted_moment_fits_sites .foxtail hcheck⟩

end Device

end GridCircuit
