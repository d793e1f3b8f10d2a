import GridCircuit.Proofs.Packing

/-!
# Hosts with rules of their own

A host may answer as it likes when it is asked whether a moment may run or an operation may join
it.  What packing leaves is fit for the plain rules all the same.  That no qubit is used twice is
the doing of the search for a place, which starts behind the last moment that uses a qubit of the
operation; that no two interactions conflict is a rule of the device itself, which comes after the
host has agreed (`canAdd_eq_true_iff`).  Where a host refuses, packing opens a new moment, and in an
empty one nothing is in the way.

The invariant is `Moment.Legal`, and every placement keeps it (`legal_of_mem_arrange`).
-/

namespace GridCircuit

namespace Device

/-- Whatever rules the host of a device has, the moments of a packed circuit are accepted by the
same device without them: the operations of a moment share no qubit, and no two of its interactions
exclude each other. -/
theorem pack_safe_for_every_host (device : Device) {circuit packed : Circuit}
    (hnodup : ∀ operation ∈ circuit.operations, operation.qubits.Nodup)
    (hpack : device.pack circuit = .ok packed) :
    ∀ moment ∈ packed.moments,
      { device with host := .noOverlap }.checkMoment moment = .ok () ∧
        Moment.Spread moment.operations ∧
          moment.operations.Pairwise fun a b => a.conflicts b = false := by
  intro moment hmoment
  have hlegal : moment.Legal device.topology := legal_of_pack hnodup hpack moment hmoment
  refine ⟨(checkMoment_eq_ok_iff device.durations).mpr hlegal,
    (Moment.nodup_qubits_iff.mp hlegal.nodup).2, ?_⟩
  exact hlegal.apart.imp Operation.conflicts_eq_false_iff.mpr

/-- The preset device under a host that agrees to everything. -/
def indulgentFoxtail : Device :=
  { foxtail with host := ⟨"accept_all", fun _ => .ok (), fun _ _ => true⟩ }

end Device

namespace Circuit

/-- A circuit with one moment in which a phase overlaps an interaction and another interaction
conflicts with it. -/
def crowdedProbe : Circuit :=
  ⟨"crowded", [
    ⟨[.plain (.interaction 1.0) [.grid ⟨0, 0⟩, .grid ⟨0, 1⟩],
      .plain (.phase 0.5 false) [.grid ⟨0, 1⟩],
      .plain (.interaction 1.0) [.grid ⟨1, 1⟩, .grid ⟨1, 2⟩]]⟩]⟩

set_option maxRecDepth 20000 in
theorem crowdedProbe_packed_safely :
    (∀ operation ∈ crowdedProbe.operations, operation.qubits.Nodup) ∧
      ∃ packed, Device.indulgentFoxtail.pack crowdedProbe = .ok packed ∧ packed.depth = 2 ∧
        ∀ moment ∈ packed.moments, Device.foxtail.checkMoment moment = .ok () := by
  have hnodup : ∀ operation ∈ crowdedProbe.operations, operation.qubits.Nodup := by decide
  refine ⟨hnodup, _, rfl, rfl, fun moment hmoment => ?_⟩
  exact (Device.pack_safe_for_every_host Device.indulgentFoxtail hnodup rfl moment hmoment).1

end Circuit

end GridCircuit
