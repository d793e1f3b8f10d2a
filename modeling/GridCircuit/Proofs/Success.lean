import GridCircuit.Proofs.Packing

/-!
# When an optimization succeeds

`Circuit.Optimizable` collects what a circuit, a map and a strategy have to bring along for a device
whose host has no rules of its own: the conditions of the first stage, operations that run and
repeat no operand, and measurement keys that are not repeated.  None of the conditions looks at
moments of the optimized circuit.  That none has to is what `legal_of_mem_arrange` provides: packing
builds no moment that verification would refuse.

What a circuit does not bring along is time.  Verification adds up how long the packed moments take,
and on a slow device the sum may be out of range although nothing is wrong with the circuit
(`readoutProbe` is such a circuit).  An optimizable circuit is optimized if the packed moments take a
duration, and otherwise the program breaks off.  As packing lets operations run at once, they do
take a duration if the operations would one after the other.
-/

namespace GridCircuit.Circuit

open Attempt

variable {durations : GateDurations} {topology : Topology} {circuit : Circuit} {map : QubitMap}
  {strategy : Strategy}

/-- A circuit that can be optimized: every qubit that occurs in it has a site, the operations of a
moment are mapped to disjoint sites, and the operations that are not negligible run on the topology
once they are mapped. -/
structure Optimizable (circuit : Circuit) (map : QubitMap) (strategy : Strategy)
    (topology : Topology) : Prop extends Preparable circuit map strategy where
  runs : ∀ operation ∈ circuit.survivors map, operation.RunsOn topology
  /-- Two operands of an operation are not mapped to one site. -/
  distinct : ∀ operation ∈ circuit.survivors map, operation.qubits.Nodup
  keys : ((circuit.survivors map).filterMap Operation.key?).Nodup

/-- An optimization succeeds on the circuits that are optimizable and take a duration once they are
packed. -/
theorem exists_optimizeNamed_eq_ok_iff :
    (∃ optimized, circuit.optimizeNamed (some (.ofParts durations topology)) map strategy.name =
        .ok optimized) ↔
      circuit.Optimizable map strategy topology ∧
        ∃ packed, (Device.ofParts durations topology).pack (circuit.prepared map) = .ok packed ∧
          (Device.ofParts durations topology).HasDuration packed := by
  simp only [optimizeNamed_some_eq_ok_iff, Device.finish_eq_ok_iff, Device.pack_eq_ok_iff,
    Circuit.keys, operations_prepared]
  constructor
  · rintro ⟨packed, hpreparable, hvalid, hkeys, hduration, rfl⟩
    have hruns := fun operation hmem => (hvalid operation hmem).1
    exact ⟨⟨hpreparable, hruns, fun operation hmem => (hvalid operation hmem).2, hkeys⟩,
      _, ⟨hruns, rfl⟩, hduration⟩
  · rintro ⟨⟨hpreparable, hruns, hdistinct, hkeys⟩, _, ⟨-, rfl⟩, hduration⟩
    exact ⟨_, hpreparable, fun operation hmem => ⟨hruns operation hmem, hdistinct operation hmem⟩,
      hkeys, hduration, rfl⟩

namespace Optimizable

variable (hoptimizable : circuit.Optimizable map strategy topology)
include hoptimizable

theorem valid : ∀ operation ∈ (circuit.prepared map).operations,
    operation.RunsOn topology ∧ operation.qubits.Nodup := by
  rw [operations_prepared]
  intro operation hmem
  exact ⟨hoptimizable.runs operation hmem, hoptimizable.distinct operation hmem⟩

/-- Where an optimizable circuit is not optimized, the program breaks off. -/
theorem optimizeNamed_eq_overflow
    (hfails : ∀ optimized, circuit.optimizeNamed (some (.ofParts durations topology)) map
      strategy.name ≠ .ok optimized) :
    circuit.optimizeNamed (some (.ofParts durations topology)) map strategy.name =
      .error .durationOverflow := by
  have hkeys : (circuit.prepared map).keys.Nodup := by
    rw [Circuit.keys, operations_prepared]
    exact hoptimizable.keys
  rw [hoptimizable.optimizeNamed_eq_finish] at hfails ⊢
  refine Device.finish_eq_overflow hoptimizable.valid hkeys fun hduration => ?_
  exact hfails _ (Device.finish_eq_ok_iff.mpr ⟨hoptimizable.valid, hkeys, hduration, rfl⟩)

/-- The survivors of an optimizable circuit can be packed, and they take a duration if they would
one after the other. -/
theorem exists_pack_hasDuration
    (htotal : Duration.total ((circuit.survivors map).map durations.time) < Duration.limit) :
    ∃ packed, (Device.ofParts durations topology).pack (circuit.prepared map) = .ok packed ∧
      (Device.ofParts durations topology).HasDuration packed := by
  have hruns := fun operation hmem => (hoptimizable.valid operation hmem).1
  rw [← operations_prepared] at htotal
  refine ⟨_, Device.pack_eq_ok_iff.mpr ⟨hruns, rfl⟩, ?_⟩
  -- the arranged operations are the same ones, in another order
  have hperm := arrange_perm (Device.ofParts durations topology).canAdd
    (circuit.prepared map).operations
  exact Device.hasDuration_of_total_lt
    (fun operation hmem => hruns operation (hperm.subset hmem))
    (((hperm.map durations.time).map Duration.nanoseconds).sum_eq.trans_lt htotal)

end Optimizable

/-- For a device whose host has no rules of its own, an optimization succeeds on exactly the
circuits that are optimizable and, once packed, take a duration; on other optimizable circuits the
program breaks off.  Circuits whose operations would take a duration one after the other need only
be optimizable.  In particular, operations that are accepted one by one and repeat no operand are
packed into moments that are all accepted. -/
theorem optimizeNamed_succeeds_iff (durations : GateDurations) (topology : Topology)
    (circuit : Circuit) (map : QubitMap) (strategy : Strategy) :
    ((∃ optimized, circuit.optimizeNamed (some (.ofParts durations topology)) map strategy.name =
        .ok optimized) ↔
      circuit.Optimizable map strategy topology ∧
        ∃ packed, (Device.ofParts durations topology).pack (circuit.prepared map) = .ok packed ∧
          (Device.ofParts durations topology).HasDuration packed) ∧
    (circuit.Optimizable map strategy topology →
      (∀ optimized, circuit.optimizeNamed (some (.ofParts durations topology)) map strategy.name ≠
          .ok optimized) →
        circuit.optimizeNamed (some (.ofParts durations topology)) map strategy.name =
          .error .durationOverflow) ∧
    (Duration.total ((circuit.survivors map).map durations.time) < Duration.limit →
      ((∃ optimized, circuit.optimizeNamed (some (.ofParts durations topology)) map strategy.name =
          .ok optimized) ↔
        circuit.Optimizable map strategy topology)) ∧
    ((∀ operation ∈ circuit.operations,
        (Device.ofParts durations topology).checkOperation operation = .ok () ∧
          operation.qubits.Nodup) →
      ∃ packed, (Device.ofParts durations topology).pack circuit = .ok packed ∧
        ∀ moment ∈ packed.moments,
          (Device.ofParts durations topology).checkMoment moment = .ok ()) := by
  refine ⟨exists_optimizeNamed_eq_ok_iff, Optimizable.optimizeNamed_eq_overflow, fun htotal => ?_,
    fun hvalid => ?_⟩
  · rw [exists_optimizeNamed_eq_ok_iff]
    exact ⟨And.left, fun hoptimizable =>
      ⟨hoptimizable, hoptimizable.exists_pack_hasDuration htotal⟩⟩
  · simp only [Device.checkOperation_eq_ok_iff] at hvalid
    refine ⟨_, Device.pack_eq_ok_iff.mpr ⟨fun operation hmem => (hvalid operation hmem).1, rfl⟩, ?_⟩
    intro moment hmoment
    exact (Device.checkMoment_eq_ok_iff durations).mpr
      (Device.legal_of_mem_arrange (.ofParts durations topology) hvalid moment hmoment)

/-! ## A circuit that takes too long -/

theorem optimizable_readoutProbe :
    readoutProbe.Optimizable .identity .xmon (.rectangle 1 1) :=
  (exists_optimizeNamed_eq_ok_iff.mp ⟨_, optimizeNamed_readoutProbe⟩).1

/-- An optimizable circuit need not be optimized: one of two measurements after the other takes
more time than any duration. -/
theorem readoutProbe_not_optimized :
    readoutProbe.Optimizable .identity .xmon (.rectangle 1 1) ∧
      ¬∃ optimized, readoutProbe.optimizeNamed (some (.ofParts slowReadout (.rectangle 1 1)))
        .identity Strategy.xmon.name = .ok optimized := by
  refine ⟨optimizable_readoutProbe, ?_⟩
  rintro ⟨optimized, hoptimized⟩
  cases optimizeNamed_readoutProbe_slow.symm.trans hoptimized

set_option maxRecDepth 20000 in
theorem lineProbe_succeeds :
    lineProbe.Optimizable (.lineOntoRow 0) .xmon (.rectangle 2 11) ∧
      (∃ packed, Device.foxtail.pack packedProbe = .ok packed ∧
        ∀ moment ∈ packed.moments, Device.foxtail.checkMoment moment = .ok ()) ∧
      readoutProbe.optimizeNamed (some (.ofParts slowReadout (.rectangle 1 1))) .identity
          Strategy.xmon.name =
        .error .durationOverflow := by
  obtain ⟨-, -, hline, -⟩ :=
    optimizeNamed_succeeds_iff .foxtail (.rectangle 2 11) lineProbe (.lineOntoRow 0) .xmon
  obtain ⟨-, -, -, hpacked⟩ :=
    optimizeNamed_succeeds_iff .foxtail (.rectangle 2 11) packedProbe .identity .xmon
  obtain ⟨-, hlong, -, -⟩ :=
    optimizeNamed_succeeds_iff slowReadout (.rectangle 1 1) readoutProbe .identity .xmon
  refine ⟨(hline ?_).mp ⟨packedProbe, optimizeNamed_lineProbe⟩, hpacked ?_,
    hlong optimizable_readoutProbe ?_⟩
  · decide
  · simp only [packedProbe, Circuit.operations, List.flatMap_cons, List.flatMap_nil,
      List.append_nil, List.cons_append, List.nil_append, List.forall_mem_cons]
    exact ⟨⟨rfl, by decide⟩, ⟨rfl, by decide⟩, ⟨rfl, by decide⟩, by simp⟩
  · intro optimized hoptimized
    cases optimizeNamed_readoutProbe_slow.symm.trans hoptimized

end GridCircuit.Circuit
