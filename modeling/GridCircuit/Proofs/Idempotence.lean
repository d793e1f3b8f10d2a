import GridCircuit.Proofs.Packing

/-!
# Optimizing twice

A second optimization changes nothing.  For the first stage the reason is that a prepared circuit is
refined: it has nothing left to drop, nothing to refuse and only grid qubits, and a map that fixes
these leaves a refined circuit as it is (`Refined.prepared_eq`).

The second stage starts over from operations in another order: those of the first moment come
before all others now.  That each of them finds its old place again is `Device.arrange_arrange`.
What remains to be seen here is that an arrangement of a refined circuit is refined as well, which
holds because its moments are legal.
-/

namespace GridCircuit

/-- The map fixes the qubits on the grid. -/
def QubitMap.FixesGrid (map : QubitMap) : Prop :=
  ∀ site, map (.grid site) = some site

theorem QubitMap.fixesGrid_identity : FixesGrid .identity := fun _ => rfl

theorem QubitMap.fixesGrid_lineOntoRow (row : Int32) : FixesGrid (.lineOntoRow row) := fun _ => rfl

namespace Circuit

variable {circuit : Circuit} {map again : QubitMap} {strategy : Strategy}

/-- A circuit in which the first stage of an optimization finds nothing to do. -/
structure Refined (strategy : Strategy) (circuit : Circuit) : Prop where
  /-- All qubits are on the grid. -/
  grid : ∀ operation ∈ circuit.operations, ∀ qubit ∈ operation.occurrences,
    ∃ site, qubit = .grid site
  spread : ∀ moment ∈ circuit.moments, Moment.Spread moment.operations
  kept : ∀ operation ∈ circuit.operations, operation.isNegligible defaultTolerance = false
  full : strategy = .xmon →
    ∀ operation ∈ circuit.operations, operation.isPartialInteraction defaultTolerance = false
  nonempty : ∀ moment ∈ circuit.moments, moment.operations ≠ []

/-! ## Refined circuits are prepared already -/

namespace Refined

variable (hrefined : circuit.Refined strategy) (hagain : again.FixesGrid)
include hrefined hagain

theorem image_eq {operation : Operation} (hmem : operation ∈ circuit.operations) {qubit : Qubit}
    (hqubit : qubit ∈ operation.occurrences) : again.image qubit = qubit := by
  obtain ⟨site, rfl⟩ := hrefined.grid operation hmem qubit hqubit
  simp [QubitMap.image, hagain site]

theorem relabel_eq {operation : Operation} (hmem : operation ∈ circuit.operations) :
    operation.relabel again.image = operation :=
  Operation.relabel_eq_self fun _ hqubit => hrefined.image_eq hagain hmem hqubit

theorem moment_relabel_eq {moment : Moment} (hmoment : moment ∈ circuit.moments) :
    moment.relabel again.image = moment := by
  have hmap : moment.operations.map (Operation.relabel again.image) = moment.operations := by
    exact map_eq_self fun _ hmem => hrefined.relabel_eq hagain (mem_operations hmoment hmem)
  rw [Moment.relabel, hmap]

/-- What survives in a refined circuit is all of it. -/
theorem survivors_eq : circuit.survivors again = circuit.operations := by
  have hmap : circuit.operations.map (Operation.relabel again.image) = circuit.operations :=
    map_eq_self fun _ hmem => hrefined.relabel_eq hagain hmem
  rw [survivors, hmap, List.filter_eq_self]
  intro operation hmem
  rw [hrefined.kept operation hmem, Bool.not_false]

theorem prepared_eq : circuit.prepared again = circuit := by
  have hmoments : (circuit.relabel again.image).moments = circuit.moments :=
    map_eq_self fun _ hmem => hrefined.moment_relabel_eq hagain hmem
  have hkept : circuit.moments.map (fun moment =>
      (⟨moment.operations.filter (!·.isNegligible defaultTolerance)⟩ : Moment)) =
        circuit.moments := by
    refine map_eq_self fun moment hmoment => ?_
    have hall : moment.operations.filter (!·.isNegligible defaultTolerance) =
        moment.operations := by
      rw [List.filter_eq_self]
      intro operation hmem
      rw [hrefined.kept operation (mem_operations hmoment hmem), Bool.not_false]
    rw [hall]
  have hnonempty : circuit.moments.filter (!·.operations.isEmpty) = circuit.moments := by
    rw [List.filter_eq_self]
    intro moment hmoment
    simpa using hrefined.nonempty moment hmoment
  rw [prepared, dropEmptyMoments, dropNegligible, hmoments, hkept, hnonempty]
  rfl

theorem preparable : circuit.Preparable again strategy := by
  refine ⟨⟨fun operation hmem qubit hqubit => ?_, fun moment hmoment => ?_⟩, fun hxmon => ?_⟩
  · obtain ⟨site, rfl⟩ := hrefined.grid operation hmem qubit hqubit
    rw [hagain site, Option.isSome_some]
  · rw [← Moment.spread_relabel_iff, hrefined.moment_relabel_eq hagain hmoment]
    exact hrefined.spread moment hmoment
  · rw [hrefined.survivors_eq hagain]
    exact hrefined.full hxmon

end Refined

/-! ## What both stages leave is refined -/

theorem mem_moments_prepared {moment : Moment} (hmoment : moment ∈ (circuit.prepared map).moments) :
    ∃ original ∈ circuit.moments, moment =
        ⟨(original.relabel map.image).operations.filter (!·.isNegligible defaultTolerance)⟩ ∧
      moment.operations ≠ [] := by
  obtain ⟨hmem, hnonempty⟩ := List.mem_filter.mp hmoment
  obtain ⟨_, hrelabelled, rfl⟩ := List.mem_map.mp hmem
  obtain ⟨original, horiginal, rfl⟩ := List.mem_map.mp hrelabelled
  exact ⟨original, horiginal, rfl, by simpa using hnonempty⟩

/-- The first stage leaves a refined circuit. -/
theorem Preparable.refined (hpreparable : circuit.Preparable map strategy) :
    (circuit.prepared map).Refined strategy := by
  refine ⟨?_, fun moment hmoment => ?_, ?_, ?_, fun moment hmoment => ?_⟩
  · rw [operations_prepared]
    intro operation hmem qubit hqubit
    obtain ⟨⟨original, horiginal, rfl⟩, -⟩ := of_mem_survivors hmem
    rw [Operation.occurrences_relabel] at hqubit
    obtain ⟨source, hsource, rfl⟩ := List.mem_map.mp hqubit
    obtain ⟨site, hsite⟩ :=
      Option.isSome_iff_exists.mp (hpreparable.maps.covers original horiginal source hsource)
    exact ⟨site, by simp [QubitMap.image, hsite]⟩
  · obtain ⟨original, horiginal, rfl, -⟩ := mem_moments_prepared hmoment
    exact (Moment.spread_relabel_iff.mpr (hpreparable.maps.spread original horiginal)).filter _
  · rw [operations_prepared]
    exact fun operation hmem => (of_mem_survivors hmem).2
  · rw [operations_prepared]
    exact hpreparable.full
  · obtain ⟨_, -, -, hnonempty⟩ := mem_moments_prepared hmoment
    exact hnonempty

/-- Arranging the operations of a refined circuit into legal moments leaves a refined circuit. -/
theorem Refined.arranged {canPlace : Operation → Moment → Bool} {topology : Topology}
    (hrefined : circuit.Refined strategy)
    (hlegal : ∀ moment ∈ arrange canPlace circuit.operations, moment.Legal topology) :
    Refined strategy ⟨circuit.name, arrange canPlace circuit.operations⟩ where
  grid operation hmem := hrefined.grid operation (mem_arrange_operations.mp hmem)
  spread moment hmoment := (Moment.nodup_qubits_iff.mp (hlegal moment hmoment).nodup).2
  kept operation hmem := hrefined.kept operation (mem_arrange_operations.mp hmem)
  full hxmon operation hmem := hrefined.full hxmon operation (mem_arrange_operations.mp hmem)
  nonempty := operations_ne_nil_of_mem_arrange

/-- The second stage leaves a refined circuit refined. -/
theorem Refined.finish {durations : GateDurations} {topology : Topology} {packed : Circuit}
    (hrefined : circuit.Refined strategy)
    (hfinish : (Device.ofParts durations topology).finish circuit = .ok packed) :
    packed.Refined strategy := by
  obtain ⟨hvalid, -, -, rfl⟩ := Device.finish_eq_ok_iff.mp hfinish
  exact hrefined.arranged (Device.legal_of_mem_arrange (.ofParts durations topology) hvalid)

end Circuit

/-- The second stage has nothing to do on a circuit that it has left. -/
theorem Device.finish_finish {durations : GateDurations} {topology : Topology}
    {circuit packed : Circuit}
    (hfinish : (ofParts durations topology).finish circuit = .ok packed) :
    (ofParts durations topology).finish packed = .ok packed := by
  obtain ⟨hvalid, hkeys, hduration, rfl⟩ := finish_eq_ok_iff.mp hfinish
  refine finish_eq_ok_iff.mpr ⟨fun operation hmem => ?_, ?_, hduration, ?_⟩
  · exact hvalid operation (Circuit.mem_arrange_operations.mp hmem)
  · exact (keys_arrange_perm _ circuit).nodup_iff.mpr hkeys
  · have harranged := arrange_arrange (legal_of_mem_arrange (ofParts durations topology) hvalid)
    exact congrArg (Circuit.mk circuit.name) harranged.symm

namespace Circuit

/-- Optimizing again, with the same device and strategy and with a map that fixes the grid, gives
the same circuit. -/
theorem optimizeNamed_idempotent {circuit optimized : Circuit} {device : Option Device}
    {map again : QubitMap} {strategy : Strategy} (hhost : ∀ d ∈ device, d.host = .noOverlap)
    (hagain : again.FixesGrid)
    (hoptimized : circuit.optimizeNamed device map strategy.name = .ok optimized) :
    optimized.optimizeNamed device again strategy.name = .ok optimized := by
  cases device with
  | none =>
      obtain ⟨hpreparable, rfl⟩ := optimizeNamed_none_eq_ok_iff.mp hoptimized
      have hrefined := hpreparable.refined
      exact optimizeNamed_none_eq_ok_iff.mpr
        ⟨hrefined.preparable hagain, (hrefined.prepared_eq hagain).symm⟩
  | some device =>
      obtain ⟨durations, topology, host⟩ := device
      obtain rfl : host = .noOverlap := hhost _ rfl
      obtain ⟨hpreparable, hfinish⟩ := optimizeNamed_some_eq_ok_iff.mp hoptimized
      have hrefined := hpreparable.refined.finish hfinish
      refine optimizeNamed_some_eq_ok_iff.mpr ⟨hrefined.preparable hagain, ?_⟩
      rw [hrefined.prepared_eq hagain]
      exact Device.finish_finish hfinish

/-- A second run leaves `packedProbe` on the first row, even with a map onto the second. -/
theorem lineProbe_idempotent :
    packedProbe.optimizeNamed (some .foxtail) (.lineOntoRow 1) Strategy.xmon.name =
        .ok packedProbe ∧
      (lineProbe.prepared (.lineOntoRow 0)).optimizeNamed none .identity Strategy.xmon.name =
        .ok (lineProbe.prepared (.lineOntoRow 0)) := by
  refine ⟨optimizeNamed_idempotent (fun d hd => ?_) (QubitMap.fixesGrid_lineOntoRow 1)
    optimizeNamed_lineProbe, optimizeNamed_idempotent (by simp) QubitMap.fixesGrid_identity
      optimizeNamed_lineProbe_none⟩
  rw [← Option.some.inj hd]
  rfl

end Circuit

end GridCircuit
