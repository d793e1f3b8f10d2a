import GridCircuit.Proofs.Packing

/-!
# What an optimization keeps

An optimization may drop operations, but only negligible ones, and may move operations to other
moments, but never past one another on a qubit.  The strategy and the map are arbitrary, and so are
the rules that the host of the device has for moments: `arrange_perm` and `filter_actsOn_arrange`
hold of every placement rule, so nothing is asked of the one that the device applies.
-/

namespace GridCircuit.Circuit

open Attempt

variable {circuit : Circuit} {map : QubitMap}

/-- What is kept of the operations once they are mapped are the survivors. -/
theorem exists_mapM_mapQubits_eq_survivors (hmaps : map.Maps circuit) :
    ∃ mapped, (circuit.operations.mapM fun operation => operation.mapQubits map.rename) =
        .ok mapped ∧
      mapped.filter (!·.isNegligible defaultTolerance) = circuit.survivors map :=
  ⟨_, QubitMap.mapM_mapQubits_eq_ok_iff.mpr ⟨hmaps.covers, rfl⟩, rfl⟩

/-- The operations of a circuit can be mapped moment by moment when all of them can. -/
theorem mapM_mapM_mapQubits (hmaps : map.Maps circuit) :
    (circuit.moments.mapM fun moment => moment.operations.mapM fun operation =>
        operation.mapQubits map.rename) =
      .ok (circuit.moments.map fun moment =>
        moment.operations.map (Operation.relabel map.image)) := by
  refine mapM_eq_ok_map fun moment hmoment => ?_
  have hcovers := forall_mem_operations.mp hmaps.covers moment hmoment
  exact QubitMap.mapM_mapQubits_eq_ok_iff.mpr ⟨hcovers, rfl⟩

/-- The moments of the prepared circuit, as lists of operations. -/
theorem moments_prepared (circuit : Circuit) (map : QubitMap) :
    (circuit.prepared map).moments.map Moment.operations =
      ((circuit.moments.map fun moment => moment.operations.map (Operation.relabel map.image)).map
        (List.filter (!·.isNegligible defaultTolerance))).filter (!·.isEmpty) := by
  simp [prepared, relabel, Moment.relabel, dropNegligible, dropEmptyMoments, List.filter_map,
    Function.comp_def]

/-- An optimization keeps the program.  For a device, whatever the rules of its host, it ends with
the mapped operations that are not negligible, each as often as it was there, and the operations on
a qubit come in the order they came in.  Without a device, it ends with the mapped moments from
which the negligible operations and then the empty moments are gone.  The name stays. -/
theorem optimizeNamed_keeps_program (circuit : Circuit) (map : QubitMap) (strategy : Strategy) :
    (∀ device optimized, circuit.optimizeNamed (some device) map strategy.name = .ok optimized →
      ∃ mapped,
        (circuit.operations.mapM fun operation => operation.mapQubits map.rename) = .ok mapped ∧
        optimized.operations.Perm (mapped.filter (!·.isNegligible defaultTolerance)) ∧
        (∀ qubit, optimized.operations.filter (·.actsOn qubit) =
          (mapped.filter (!·.isNegligible defaultTolerance)).filter (·.actsOn qubit)) ∧
        optimized.name = circuit.name) ∧
    (∀ optimized, circuit.optimizeNamed none map strategy.name = .ok optimized →
      ∃ mapped,
        (circuit.moments.mapM fun moment => moment.operations.mapM fun operation =>
          operation.mapQubits map.rename) = .ok mapped ∧
        optimized.moments.map Moment.operations =
          (mapped.map (List.filter (!·.isNegligible defaultTolerance))).filter (!·.isEmpty) ∧
        optimized.name = circuit.name) := by
  constructor
  · intro device optimized hoptimized
    obtain ⟨hpreparable, hfinish⟩ := optimizeNamed_some_eq_ok_iff.mp hoptimized
    obtain rfl := Device.eq_arrange_of_finish hfinish
    obtain ⟨mapped, hmapped, hkept⟩ := exists_mapM_mapQubits_eq_survivors hpreparable.maps
    refine ⟨mapped, hmapped, ?_, fun qubit => ?_, rfl⟩
    · rw [hkept, ← operations_prepared]
      exact arrange_perm device.canAdd _
    · rw [hkept, ← operations_prepared]
      exact filter_actsOn_arrange device.canAdd _ qubit
  · intro optimized hoptimized
    obtain ⟨hpreparable, rfl⟩ := optimizeNamed_none_eq_ok_iff.mp hoptimized
    exact ⟨_, mapM_mapM_mapQubits hpreparable.maps, moments_prepared circuit map, rfl⟩

theorem lineProbe_keeps_program :
    (∃ mapped,
      (lineProbe.operations.mapM fun operation =>
        operation.mapQubits (QubitMap.lineOntoRow 0).rename) = .ok mapped ∧
      packedProbe.operations.Perm (mapped.filter (!·.isNegligible defaultTolerance))) ∧
    (∃ mapped,
      (lineProbe.moments.mapM fun moment => moment.operations.mapM fun operation =>
        operation.mapQubits (QubitMap.lineOntoRow 0).rename) = .ok mapped ∧
      (lineProbe.prepared (.lineOntoRow 0)).moments.map Moment.operations =
        (mapped.map (List.filter (!·.isNegligible defaultTolerance))).filter (!·.isEmpty)) := by
  obtain ⟨hdevice, hnone⟩ := optimizeNamed_keeps_program lineProbe (.lineOntoRow 0) .xmon
  obtain ⟨mapped, hmapped, hperm, -, -⟩ := hdevice .foxtail packedProbe optimizeNamed_lineProbe
  obtain ⟨moments, hmoments, hkept, -⟩ := hnone _ optimizeNamed_lineProbe_none
  exact ⟨⟨mapped, hmapped, hperm⟩, moments, hmoments, hkept⟩

end GridCircuit.Circuit
